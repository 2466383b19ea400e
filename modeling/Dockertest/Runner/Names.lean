import Mathlib.Data.String.Basic
import Dockertest.Runner.Resolve

/-!
# Final container names

`src/composition.rs`, `Composition::configure_container_name`, as
`resolve_final_container_name` calls it on every composition.  The final name is
`namespace-name-suffix`, where `name` is the handle with each `/` replaced by `_`
(`resolveFinalContainerName_containerName`), so it holds no `/` when the namespace and the
suffixes hold none (`resolveFinalContainerName_no_slash`).  The comment above the replacement
says that the daemon refuses both `/` and `\` in a container name, but only `/` is replaced:
every `\` of a handle reaches the final name (`configureContainerName_backslash`).  The
suffixes `generate_random_string(20)` draws all have twenty letters, so the compositions get
pairwise different names when their suffixes differ (`resolveFinalContainerName_nodup`).

`String.replace` runs over byte positions.  `replace_singleton` says what it computes for a
pattern of one character, proved over valid positions the way Batteries proves `split`.
-/

namespace Dockertest

/-! ### `String.replace` with a pattern of one character -/

/-- The characters `cs` with each `p` replaced by the characters of `rep`. -/
def replaceChar (p : Char) (rep : String) (cs : List Char) : List Char :=
  cs.flatMap fun c => if c = p then rep.data else [c]

section ReplaceChar

variable (p : Char) (rep : String)

@[simp] theorem replaceChar_nil : replaceChar p rep [] = [] := rfl

@[simp] theorem replaceChar_cons (c : Char) (cs : List Char) :
    replaceChar p rep (c :: cs) = (if c = p then rep.data else [c]) ++ replaceChar p rep cs := rfl

theorem replaceChar_of_not_mem : ∀ {cs : List Char}, p ∉ cs → replaceChar p rep cs = cs
  | [], _ => rfl
  | c :: cs, h => by
    simp only [List.mem_cons, not_or] at h
    simp [Ne.symm h.1, replaceChar_of_not_mem h.2]

/-- A character of the result is one of `rep`, or one of `cs` other than `p`. -/
theorem mem_replaceChar {x : Char} {cs : List Char} :
    x ∈ replaceChar p rep cs ↔ (p ∈ cs ∧ x ∈ rep.data) ∨ (x ∈ cs ∧ x ≠ p) := by
  simp only [replaceChar, List.mem_flatMap]
  constructor
  · rintro ⟨c, hc, hx⟩
    split_ifs at hx with hcp
    · exact .inl ⟨hcp ▸ hc, hx⟩
    · obtain rfl := List.mem_singleton.1 hx
      exact .inr ⟨hc, hcp⟩
  · rintro (⟨hp, hx⟩ | ⟨hx, hxp⟩)
    · exact ⟨p, hp, by rwa [if_pos rfl]⟩
    · exact ⟨x, hx, by rw [if_neg hxp]; exact List.mem_singleton_self x⟩

end ReplaceChar

open String

theorem utf8Size_le_of_mem {p : Char} : ∀ {cs : List Char}, p ∈ cs → p.utf8Size ≤ utf8Len cs
  | c :: cs, h => by
    rcases List.mem_cons.1 h with rfl | h
    · simp
    · have := utf8Size_le_of_mem h; simp; omega

/-- At a valid position, comparing with a one-character pattern compares the character there. -/
theorem substrEq_singleton (cs : List Char) (c p : Char) (cs' : List Char)
    (h : utf8Len cs + p.utf8Size ≤ utf8Len (cs ++ c :: cs')) :
    (String.mk (cs ++ c :: cs')).substrEq ⟨utf8Len cs⟩ ⟨[p]⟩ 0 p.utf8Size = (c == p) := by
  have hc : (String.mk (cs ++ c :: cs')).get ⟨utf8Len cs⟩ = c := get_of_valid cs (c :: cs')
  have hp : (String.mk [p]).get 0 = p := get_of_valid [] [p]
  unfold substrEq substrEq.loop
  simp only [h, decide_True, endPos_eq, utf8Len_cons, utf8Len_nil, Nat.zero_add, le_refl,
    Bool.and_self, Bool.true_and, Pos.byteIdx_zero]
  rw [dif_pos (by simp [Char.utf8Size_pos]), hc, hp]
  by_cases hcp : c = p
  · subst hcp
    unfold substrEq.loop
    simp
  · simp [hcp]

/-- The loop of `replace` from the valid positions `accStop = |l|` and `pos = |l ++ m|`, with no
`p` in `m`: what is accumulated, then `m`, then the rest with each `p` replaced. -/
theorem replace_loop_of_valid (p : Char) (rep : String)
    (hPatt : 0 < (String.mk [p]).endPos.byteIdx) :
    ∀ (l m r : List Char) (acc : String), p ∉ m →
      (String.replace.loop ⟨l ++ m ++ r⟩ ⟨[p]⟩ rep hPatt acc ⟨utf8Len l⟩
          ⟨utf8Len l + utf8Len m⟩).data = acc.data ++ m ++ replaceChar p rep r
  | l, m, r, acc, hm => by
    unfold String.replace.loop
    simp only [endPos_eq, utf8Len_append, utf8Len_cons, utf8Len_nil, Nat.zero_add, gt_iff_lt]
    split
    case isTrue h =>
      have hr : p ∉ r := fun hp => by have := utf8Size_le_of_mem hp; omega
      have hx := extract_of_valid l (m ++ r) []
      simp only [List.append_nil, List.append_assoc, utf8Len_append] at hx
      simp [List.append_assoc, Nat.add_assoc, hx, replaceChar_of_not_mem p rep hr]
    case isFalse h =>
      obtain ⟨c, r, rfl⟩ : ∃ c r', r = c :: r' := by
        cases r with
        | nil => simp [Char.utf8Size_pos] at h
        | cons c r' => exact ⟨c, r', rfl⟩
      have hs := substrEq_singleton (l ++ m) c p r (by simp at h ⊢; omega)
      simp only [utf8Len_append, List.append_assoc] at hs
      simp only [List.append_assoc, utf8Len_cons, utf8Len_nil, Nat.zero_add] at hs ⊢
      rw [hs]
      by_cases hcp : c = p
      · subst hcp
        have hx := extract_of_valid l m (c :: r)
        have hadd : (⟨utf8Len l + utf8Len m⟩ : Pos) + String.mk [c] =
            ⟨utf8Len l + (utf8Len m + c.utf8Size)⟩ := Pos.ext (by simp [Nat.add_assoc])
        have ih := replace_loop_of_valid c rep hPatt (l ++ m ++ [c]) [] r (acc ++ ⟨m⟩ ++ rep)
          (List.not_mem_nil _)
        simp only [List.append_assoc, List.singleton_append, List.nil_append, utf8Len_append,
          utf8Len_cons, utf8Len_nil, Nat.zero_add, Nat.add_zero, Nat.add_assoc] at ih hx
        simp only [beq_self_eq_true, if_true, hx, hadd, ih]
        simp
      · have hn := next_of_valid (l ++ m) c r
        have ih := replace_loop_of_valid p rep hPatt l (m ++ [c]) r acc (by simp [hm, Ne.symm hcp])
        simp only [List.append_assoc, List.singleton_append, utf8Len_append, utf8Len_cons,
          utf8Len_nil, Nat.zero_add, Nat.add_assoc] at ih hn
        simp only [beq_iff_eq, hcp, if_false, hn, ih]
        simp [hcp]

/-- **`replace` with a pattern of one character** replaces each occurrence of it. -/
theorem replace_singleton (s rep : String) (p : Char) :
    (s.replace ⟨[p]⟩ rep).data = replaceChar p rep s.data := by
  obtain ⟨cs⟩ := s
  unfold String.replace
  rw [dif_neg (by simp [Nat.ne_of_gt (Char.utf8Size_pos p)])]
  simpa using replace_loop_of_valid p rep _ [] [] cs "" (List.not_mem_nil _)

/-! ### Final names -/

namespace Composition

/-- `configure_container_name`: the namespace, the handle with each `/` replaced by `_`, and the
suffix, joined by `-`. -/
theorem configureContainerName_containerName (c : Composition) (ns suffix : String) :
    (c.configureContainerName ns suffix).containerName.data =
      ns.data ++ '-' :: replaceChar '/' "_" c.handle.data ++ '-' :: suffix.data := by
  have h := replace_singleton c.handle "_" '/'
  simp only [configureContainerName, String.data_append]
  cases hu : c.userProvidedContainerName <;>
    simp_all [handle, show ("/" : String) = ⟨['/']⟩ from rfl]

/-- Every `\` of the handle reaches the final name. -/
theorem configureContainerName_backslash (c : Composition) (ns suffix : String)
    (h : '\\' ∈ c.handle.data) : '\\' ∈ (c.configureContainerName ns suffix).containerName.data := by
  rw [configureContainerName_containerName]
  simp [mem_replaceChar, h]

end Composition

/-- After `resolve_final_container_name`, the `i`-th composition is named by the namespace,
its handle with each `/` replaced by `_`, and the `i`-th suffix. -/
theorem resolveFinalContainerName_containerName (ns : String) (suffixes : Nat → String)
    (k : Keeper Composition) :
    (resolveFinalContainerName ns suffixes k).kept.map (·.containerName.data) =
      k.kept.mapIdx fun i c =>
        ns.data ++ '-' :: replaceChar '/' "_" c.handle.data ++ '-' :: (suffixes i).data := by
  apply List.ext_getElem <;>
    simp [resolveFinalContainerName, Composition.configureContainerName_containerName]

/-- No final name holds `/` when the namespace and the suffixes hold none. -/
theorem resolveFinalContainerName_no_slash {ns : String} {suffixes : Nat → String}
    (hns : '/' ∉ ns.data) (hsuffixes : ∀ i, '/' ∉ (suffixes i).data) (k : Keeper Composition) :
    ∀ c ∈ (resolveFinalContainerName ns suffixes k).kept, '/' ∉ c.containerName.data := by
  intro c hc
  obtain ⟨i, hi, rfl⟩ := List.mem_mapIdx.1 hc
  simp [Composition.configureContainerName_containerName, mem_replaceChar, hns, hsuffixes]

/-- The source's test of a user-provided name with slashes, with backslashes in their place: the
final name keeps them. -/
theorem resolveFinalContainerName_backslash :
    (resolveFinalContainerName "namespace" (fun _ => "test123") (validateCompositionHandlers
        [(Composition.withRepository "hello-world").withContainerName "this\\is\\a_container"])).kept.map
      Composition.containerName = ["namespace-this\\is\\a_container-test123"] := by
  apply List.map_injective_iff.2 fun _ _ => String.ext
  rw [List.map_map]
  exact (resolveFinalContainerName_containerName _ _ _).trans (by decide)

/-! ### Distinct names

`resolve_final_container_name` draws a fresh suffix of twenty letters for every composition,
"to ensure that we do not have overlapping container names".  A final name ends in its
suffix, and suffixes all have one length, so different suffixes give different names,
whatever the handles. -/

/-- `generate_random_string(len)`: `draw i` is what the `i`-th call of
`rng.gen_range(b'a', b'z')` returns, as an offset from `b'a'` (the range leaves out
`b'z'`). -/
def generateRandomString (len : Int) (draw : Nat → Fin 25) : String :=
  ⟨(List.range len.toNat).map fun i => Char.ofNat (97 + draw i)⟩

@[simp] theorem length_generateRandomString (len : Int) (draw : Nat → Fin 25) :
    (generateRandomString len draw).length = len.toNat := by
  simp [generateRandomString, String.length]

/-- A final name ends in its suffix. -/
theorem Composition.configureContainerName_drop (c : Composition) (ns suffix : String) :
    (c.configureContainerName ns suffix).containerName.data.drop
        ((c.configureContainerName ns suffix).containerName.data.length - suffix.data.length) =
      suffix.data := by
  have h : (c.configureContainerName ns suffix).containerName.data =
      (ns.data ++ '-' :: replaceChar '/' "_" c.handle.data ++ ['-']) ++ suffix.data := by
    simp [Composition.configureContainerName_containerName]
  rw [h, List.length_append, Nat.add_sub_cancel, List.drop_left]

/-- **The compositions get pairwise different names** when the suffixes drawn for them are
pairwise different. -/
theorem resolveFinalContainerName_nodup {ns : String} {suffixes : Nat → String}
    (hdrawn : ∀ i, ∃ draw, suffixes i = generateRandomString 20 draw) (k : Keeper Composition)
    (hs : ((List.range k.kept.length).map suffixes).Nodup) :
    ((resolveFinalContainerName ns suffixes k).kept.map Composition.containerName).Nodup := by
  have hlen (i : Nat) : (suffixes i).data.length = 20 := by
    obtain ⟨draw, h⟩ := hdrawn i
    rw [h]
    exact length_generateRandomString 20 draw
  have hkeys : (resolveFinalContainerName ns suffixes k).kept.map
      (fun c => c.containerName.data.drop (c.containerName.data.length - 20)) =
      ((List.range k.kept.length).map suffixes).map String.data := by
    refine List.ext_getElem (by simp [resolveFinalContainerName]) fun i h _ => ?_
    have hi : i < k.kept.length := by simpa [resolveFinalContainerName] using h
    simp only [resolveFinalContainerName, List.getElem_map, List.getElem_mapIdx,
      List.getElem_range]
    simpa only [hlen i] using Composition.configureContainerName_drop k.kept[i] ns (suffixes i)
  refine List.Nodup.of_map (fun n : String => n.data.drop (n.data.length - 20)) ?_
  rw [List.map_map]
  exact hkeys ▸ hs.map fun _ _ => String.ext

end Dockertest

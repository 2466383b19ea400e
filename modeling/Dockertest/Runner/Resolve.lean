import Mathlib.Data.List.Nodup
import Dockertest.Runner.Keeper

/-!
# Resolution of names

`src/runner.rs`, the resolution steps of `run_impl` before anything is created:
`resolve_final_container_name` gives each composition its final container name,
`resolve_inject_container_name_env` puts the final names of the requested handles into the
environments, and `resolve_named_volumes` suffixes the named volumes with the run's id.

Injection runs in two loops: the first resolves every request and stops at the first that
fails, the second writes the environments.  So a failed injection changes nothing, and a
successful one writes, for each key, the name of the last request for that key
(`resolveInjectContainerNameEnv_spec`).  `collectResults` is the first loop's
`collect::<Result<Vec<_>, _>>()`, which the model uses twice, over the requests of one
composition and over the compositions.
-/

namespace Dockertest

/-! ### Final container names -/

/-- `resolve_final_container_name`; `suffixes i` is the random suffix drawn for the `i`-th
composition. -/
def resolveFinalContainerName (ns : String) (suffixes : Nat → String) (k : Keeper Composition) :
    Keeper Composition :=
  { k with kept := k.kept.mapIdx fun i c => c.configureContainerName ns (suffixes i) }

/-- The compositions after the first two steps of `run_impl`: validated and named. -/
def finalizedCompositions (ns : String) (suffixes : Nat → String)
    (compositions : List Composition) : Keeper Composition :=
  resolveFinalContainerName ns suffixes (validateCompositionHandlers compositions)

theorem finalizedCompositions_eq (ns : String) (suffixes : Nat → String)
    (compositions : List Composition) :
    finalizedCompositions ns suffixes compositions =
      validatedKeeper compositions
        (compositions.mapIdx fun i c => c.configureContainerName ns (suffixes i)) := rfl

@[simp] theorem finalizedCompositions_length (ns : String) (suffixes : Nat → String)
    (compositions : List Composition) :
    (finalizedCompositions ns suffixes compositions).kept.length = compositions.length := by
  simp [finalizedCompositions, resolveFinalContainerName, validateCompositionHandlers]

@[simp] theorem finalizedCompositions_handles (ns : String) (suffixes : Nat → String)
    (compositions : List Composition) :
    (finalizedCompositions ns suffixes compositions).kept.map Composition.handle =
      compositions.map Composition.handle := by
  apply List.ext_getElem <;> simp [finalizedCompositions, resolveFinalContainerName,
    validateCompositionHandlers]

/-- The named compositions carry the tables of their own handles. -/
theorem finalizedCompositions_tables (ns : String) (suffixes : Nat → String)
    (compositions : List Composition) :
    Tables ((finalizedCompositions ns suffixes compositions).kept.map Composition.handle)
      (finalizedCompositions ns suffixes compositions).lookupHandlers
      (finalizedCompositions ns suffixes compositions).lookupCollisions := by
  rw [finalizedCompositions_handles]
  exact tables_validateCompositionHandlers compositions

/-! ### Collecting results -/

/-- `iter().map(f).collect::<Result<Vec<_>, _>>()` for an `f` that may panic: the first
error ends the collection. -/
def collectResults {α β ε : Type} (f : α → Except String (Except ε β)) :
    List α → Except String (Except ε (List β))
  | [] => .ok (.ok [])
  | a :: as =>
    match f a with
    | .error p => .error p
    | .ok (.error e) => .ok (.error e)
    | .ok (.ok b) =>
      match collectResults f as with
      | .ok (.ok bs) => .ok (.ok (b :: bs))
      | r => r

section Collect

variable {α β ε : Type} {f : α → Except String (Except ε β)}

theorem collectResults_of_ok {g : α → β} :
    ∀ l : List α, (∀ a ∈ l, f a = .ok (.ok (g a))) → collectResults f l = .ok (.ok (l.map g))
  | [], _ => rfl
  | a :: l, h => by
    simp only [List.mem_cons, forall_eq_or_imp] at h
    simp [collectResults, h.1, collectResults_of_ok l h.2]

theorem collectResults_no_panic :
    ∀ l : List α, (∀ a ∈ l, ∃ r, f a = .ok r) → ∃ r, collectResults f l = .ok r
  | [], _ => ⟨_, rfl⟩
  | a :: l, h => by
    simp only [List.mem_cons, forall_eq_or_imp] at h
    obtain ⟨⟨r, hr⟩, hl⟩ := h
    obtain ⟨rs, hrs⟩ := collectResults_no_panic l hl
    rcases r with e | b
    · exact ⟨.error e, by simp [collectResults, hr]⟩
    · rcases rs with e | bs
      · exact ⟨.error e, by simp [collectResults, hr, hrs]⟩
      · exact ⟨.ok (b :: bs), by simp [collectResults, hr, hrs]⟩

theorem collectResults_of_error :
    ∀ l : List α, (∀ a ∈ l, ∃ r, f a = .ok r) → (∃ a ∈ l, ∃ e, f a = .ok (.error e)) →
      ∃ e, collectResults f l = .ok (.error e)
  | [], _, he => by simp at he
  | a :: l, h, he => by
    simp only [List.mem_cons, forall_eq_or_imp] at h
    obtain ⟨⟨r, hr⟩, hl⟩ := h
    rcases r with e | b
    · exact ⟨e, by simp [collectResults, hr]⟩
    · have hl' : ∃ a ∈ l, ∃ e, f a = .ok (.error e) := by
        obtain ⟨a', ha', e, he'⟩ := he
        rcases List.mem_cons.1 ha' with rfl | ha'
        · simp [hr] at he'
        · exact ⟨a', ha', e, he'⟩
      obtain ⟨e, he⟩ := collectResults_of_error l hl hl'
      exact ⟨e, by simp [collectResults, hr, he]⟩

end Collect

/-! ### Injection of container names -/

/-- The closure of the first loop of `resolve_inject_container_name_env`, for the request
`(handle, env)` of the composition `c`. -/
def injectTransform (k : Keeper Composition) (c : Composition) :
    String × String → Except String (Except DockerTestError (String × String × String))
  | (handle, env) =>
    match k.resolve handle
        (.startup ("composition `" ++ c.handle ++
          "` attempted to inject_container_name_env on duplicate handle `" ++ handle ++ "`"))
        (.startup ("composition `" ++ c.handle ++
          "` attempted to inject_container_name_env on non-existent handle `" ++ handle ++ "`")) with
    | .error e => .ok (.error e)
    | .ok index =>
      match k.kept[index]? with
      | some target => .ok (.ok (handle, target.containerName, env))
      | none => .error (indexOutOfBounds k.kept.length index)

/-- The second loop, for one composition: each `(handle, name, env)` inserts `name` at
`env`, in order. -/
def injectEnv (c : Composition) (transforms : List (String × String × String)) : Composition :=
  { c with env := transforms.foldl (fun env t => env.insert t.2.2 t.2.1) c.env }

/-- `resolve_inject_container_name_env`, with the keeper it leaves behind. -/
def resolveInjectContainerNameEnv (k : Keeper Composition) :
    Except String (Except DockerTestError Unit × Keeper Composition) :=
  match collectResults (fun c => collectResults (injectTransform k c) c.injectContainerNameEnv)
      k.kept with
  | .error p => .error p
  | .ok (.error e) => .ok (.error e, k)
  | .ok (.ok compositionTransforms) =>
    .ok (.ok (), { k with kept := k.kept.zipWith injectEnv compositionTransforms })

/-! ### What injection does -/

/-- The handle whose name the requests leave in `key`: that of the last request for `key`. -/
def lastRequestFor (requests : List (String × String)) (key : String) : Option String :=
  (requests.reverse.find? (fun r => r.2 == key)).map Prod.fst

/-- The final container name of the first composition of `k` with the handle `h`. -/
def injectedName (k : Keeper Composition) (h : String) : Option String :=
  (k.kept.find? (fun c => c.handle == h)).map Composition.containerName

/-- `k'` is `k` with the requested names injected: the tables and every field but `env` are
those of `k`, and each key of an environment holds the name of its last request, or what it
held before when no request names it. -/
def Injected (k k' : Keeper Composition) : Prop :=
  k'.lookupCollisions = k.lookupCollisions ∧ k'.lookupHandlers = k.lookupHandlers ∧
  k'.kept.length = k.kept.length ∧
  ∀ i (hi : i < k.kept.length) (hi' : i < k'.kept.length),
    { k'.kept[i] with env := k.kept[i].env } = k.kept[i] ∧
    ∀ key, match lastRequestFor k.kept[i].injectContainerNameEnv key with
      | some h => k'.kept[i].env.get key = injectedName k h
      | none => k'.kept[i].env.get key = k.kept[i].env.get key

/-- Injection changes environments only: what does not read the environment stays, in
order. -/
theorem Injected.map_eq {β : Type} {k k' : Keeper Composition} (h : Injected k k')
    (f : Composition → β) (hf : ∀ c env, f { c with env := env } = f c) :
    k'.kept.map f = k.kept.map f := by
  obtain ⟨-, -, hlen, hi⟩ := h
  refine List.ext_getElem (by simpa using hlen) fun i h₁ h₂ => ?_
  simpa [hf] using congrArg f (hi i (by simpa using h₂) (by simpa using h₁)).1

/-- The handles stay, in order. -/
theorem Injected.handles {k k' : Keeper Composition} (h : Injected k k') :
    k'.kept.map Composition.handle = k.kept.map Composition.handle :=
  h.map_eq _ fun _ _ => rfl

theorem get_foldl_insert : ∀ (ts : List (String × String × String)) (env : HashMap String)
    (key : String),
    (ts.foldl (fun env t => env.insert t.2.2 t.2.1) env).get key =
      ((ts.reverse.find? (fun t => t.2.2 == key)).map (·.2.1)).or (env.get key)
  | [], _, _ => rfl
  | t :: ts, env, key => by
    rw [List.foldl_cons, get_foldl_insert ts, List.reverse_cons, List.find?_append]
    cases ts.reverse.find? (fun t => t.2.2 == key) with
    | some _ => rfl
    | none =>
      simp only [Option.map_none', Option.none_or, HashMap.get_insert, List.find?_singleton]
      by_cases h : key = t.2.2
      · simp [h]
      · have : (t.2.2 == key) = false := by simpa using Ne.symm h
        simp [h, this]

theorem find?_eq_getElem?_indexOf {α : Type} (f : α → String) (h : String) :
    ∀ l : List α, l.find? (fun c => f c == h) = l[(l.map f).indexOf h]?
  | [] => rfl
  | a :: l => by
    by_cases ha : f a = h
    · simp [ha]
    · simp [ha, List.indexOf_cons_ne _ ha, find?_eq_getElem?_indexOf f h l]

section Finalized

variable (ns : String) (suffixes : Nat → String) (compositions : List Composition)
  (c : Composition) (h key : String)

theorem injectTransform_of_count_eq_one
    (h1 : (compositions.map Composition.handle).count h = 1) :
    ∃ n, injectedName (finalizedCompositions ns suffixes compositions) h = some n ∧
      injectTransform (finalizedCompositions ns suffixes compositions) c (h, key) =
        .ok (.ok (h, n, key)) := by
  have hm : h ∈ compositions.map Composition.handle := List.count_pos_iff.1 (by omega)
  have hlt : (compositions.map Composition.handle).indexOf h <
      (finalizedCompositions ns suffixes compositions).kept.length := by
    simpa using List.indexOf_lt_length.2 hm
  obtain ⟨t, ht⟩ : ∃ t, (finalizedCompositions ns suffixes compositions).kept[
      (compositions.map Composition.handle).indexOf h]? = some t :=
    ⟨_, List.getElem?_eq_getElem hlt⟩
  have hfind : (finalizedCompositions ns suffixes compositions).kept.find?
      (fun c => c.handle == h) = some t := by
    rw [find?_eq_getElem?_indexOf, finalizedCompositions_handles, ht]
  refine ⟨t.containerName, by simp [injectedName, hfind], ?_⟩
  rw [finalizedCompositions_eq] at ht ⊢
  rw [injectTransform, resolve_validated_of_count_eq_one _ _ _ _ _ h1]
  simp [ht]

theorem injectTransform_of_count_ne_one
    (h1 : (compositions.map Composition.handle).count h ≠ 1) :
    ∃ e, injectTransform (finalizedCompositions ns suffixes compositions) c (h, key) =
      .ok (.error e) := by
  rcases Nat.lt_or_gt_of_ne h1 with h0 | h2
  · rw [injectTransform, finalizedCompositions_eq,
      resolve_validated_of_count_eq_zero _ _ _ _ _ (by omega)]
    exact ⟨_, rfl⟩
  · rw [injectTransform, finalizedCompositions_eq, resolve_validated_of_two_le _ _ _ _ _ h2]
    exact ⟨_, rfl⟩

theorem finalizedCompositions_requests :
    (finalizedCompositions ns suffixes compositions).kept.map Composition.injectContainerNameEnv =
      compositions.map Composition.injectContainerNameEnv := by
  apply List.ext_getElem <;> simp [finalizedCompositions, resolveFinalContainerName,
    validateCompositionHandlers]

/-- The request `(h, key)` resolved: `h`, the name to inject, `key`. -/
def injectRequest (k : Keeper Composition) (r : String × String) : String × String × String :=
  (r.1, (injectedName k r.1).getD "", r.2)

theorem mem_finalized_requests {r : String × String} :
    (∃ c ∈ (finalizedCompositions ns suffixes compositions).kept, r ∈ c.injectContainerNameEnv) ↔
      ∃ c ∈ compositions, r ∈ c.injectContainerNameEnv := by
  have h := congrArg (fun l => ∃ rs ∈ l, r ∈ rs) (finalizedCompositions_requests ns suffixes compositions)
  simpa using h

/-- Every request names a handle of exactly one composition: both loops run through. -/
theorem resolveInjectContainerNameEnv_of_unique
    (hu : ∀ c ∈ compositions, ∀ r ∈ c.injectContainerNameEnv,
      (compositions.map Composition.handle).count r.1 = 1) :
    resolveInjectContainerNameEnv (finalizedCompositions ns suffixes compositions) =
      .ok (.ok (), { finalizedCompositions ns suffixes compositions with
        kept := (finalizedCompositions ns suffixes compositions).kept.map fun c =>
          injectEnv c (c.injectContainerNameEnv.map
            (injectRequest (finalizedCompositions ns suffixes compositions))) }) := by
  have hinner : ∀ c ∈ (finalizedCompositions ns suffixes compositions).kept,
      collectResults (injectTransform (finalizedCompositions ns suffixes compositions) c)
        c.injectContainerNameEnv = .ok (.ok (c.injectContainerNameEnv.map
          (injectRequest (finalizedCompositions ns suffixes compositions)))) := by
    intro c hc
    refine collectResults_of_ok _ fun r hr => ?_
    obtain ⟨n, hn, ht⟩ := injectTransform_of_count_eq_one ns suffixes compositions c r.1 r.2
      (hu _ ((mem_finalized_requests ns suffixes compositions).1 ⟨c, hc, hr⟩).choose_spec.1 r
        ((mem_finalized_requests ns suffixes compositions).1 ⟨c, hc, hr⟩).choose_spec.2)
    simpa [injectRequest, hn] using ht
  rw [resolveInjectContainerNameEnv, collectResults_of_ok _ hinner]
  simp [List.zipWith_map_right, List.zipWith_same]

/-- Some request names a handle of no composition or of several: the first loop fails. -/
theorem resolveInjectContainerNameEnv_of_not_unique
    (hn : ∃ c ∈ compositions, ∃ r ∈ c.injectContainerNameEnv,
      (compositions.map Composition.handle).count r.1 ≠ 1) :
    ∃ e, resolveInjectContainerNameEnv (finalizedCompositions ns suffixes compositions) =
      .ok (.error e, finalizedCompositions ns suffixes compositions) := by
  have hnp : ∀ c r, ∃ x, injectTransform (finalizedCompositions ns suffixes compositions) c r =
      .ok x := by
    intro c r
    by_cases h1 : (compositions.map Composition.handle).count r.1 = 1
    · obtain ⟨n, -, ht⟩ := injectTransform_of_count_eq_one ns suffixes compositions c r.1 r.2 h1
      exact ⟨_, ht⟩
    · obtain ⟨e, ht⟩ := injectTransform_of_count_ne_one ns suffixes compositions c r.1 r.2 h1
      exact ⟨_, ht⟩
  obtain ⟨c0, hc0, r, hr, h1⟩ := hn
  obtain ⟨c, hc, hrc⟩ := (mem_finalized_requests ns suffixes compositions).2 ⟨c0, hc0, hr⟩
  obtain ⟨e, he⟩ := collectResults_of_error _ (fun c _ => collectResults_no_panic _ fun r _ => hnp c r)
    ⟨c, hc, collectResults_of_error _ (fun r _ => hnp c r)
      ⟨r, hrc, injectTransform_of_count_ne_one ns suffixes compositions c r.1 r.2 h1⟩⟩
  exact ⟨e, by rw [resolveInjectContainerNameEnv, he]⟩

theorem injected_of_unique
    (hu : ∀ c ∈ compositions, ∀ r ∈ c.injectContainerNameEnv,
      (compositions.map Composition.handle).count r.1 = 1) :
    Injected (finalizedCompositions ns suffixes compositions)
      { finalizedCompositions ns suffixes compositions with
        kept := (finalizedCompositions ns suffixes compositions).kept.map fun c =>
          injectEnv c (c.injectContainerNameEnv.map
            (injectRequest (finalizedCompositions ns suffixes compositions))) } := by
  refine ⟨rfl, rfl, by simp, fun i hi _ => ⟨by simp [injectEnv], fun key => ?_⟩⟩
  have hmem : (finalizedCompositions ns suffixes compositions).kept[i] ∈
      (finalizedCompositions ns suffixes compositions).kept := List.getElem_mem hi
  simp only [List.getElem_map, injectEnv, get_foldl_insert, ← List.map_reverse, List.find?_map,
    lastRequestFor]
  cases hf : (finalizedCompositions ns suffixes compositions).kept[i].injectContainerNameEnv.reverse.find?
      (fun r => r.2 == key) with
  | none => simp [Function.comp_def, injectRequest, hf]
  | some r =>
    have hr : r ∈ (finalizedCompositions ns suffixes compositions).kept[i].injectContainerNameEnv :=
      List.mem_reverse.1 (List.mem_of_find?_eq_some hf)
    obtain ⟨c0, hc0, hr0⟩ := (mem_finalized_requests ns suffixes compositions).1 ⟨_, hmem, hr⟩
    obtain ⟨n, hn, -⟩ := injectTransform_of_count_eq_one ns suffixes compositions
      (finalizedCompositions ns suffixes compositions).kept[i] r.1 r.2 (hu c0 hc0 r hr0)
    simp [Function.comp_def, hf, injectRequest, hn]

/-- A successful injection injects the requested names into the named compositions. -/
theorem injected_of_resolveInjectContainerNameEnv {k' : Keeper Composition}
    (h : resolveInjectContainerNameEnv (finalizedCompositions ns suffixes compositions) =
      .ok (.ok (), k')) :
    Injected (finalizedCompositions ns suffixes compositions) k' := by
  by_cases hu : ∀ c ∈ compositions, ∀ r ∈ c.injectContainerNameEnv,
      (compositions.map Composition.handle).count r.1 = 1
  · rw [resolveInjectContainerNameEnv_of_unique ns suffixes compositions hu] at h
    cases h
    exact injected_of_unique ns suffixes compositions hu
  · push_neg at hu
    obtain ⟨e, he⟩ := resolveInjectContainerNameEnv_of_not_unique ns suffixes compositions hu
    rw [he] at h
    cases h

end Finalized

/-- **Injection after validation and naming.**  It never panics; it fails exactly when some
request names a handle that no composition or several compositions have, and then leaves the
compositions as they were; when it succeeds, every key of every environment holds the final
name of the composition its last request names, and nothing else changes. -/
theorem resolveInjectContainerNameEnv_spec (compositions : List Composition) (ns : String)
    (suffixes : Nat → String) :
    ∃ r k', resolveInjectContainerNameEnv (finalizedCompositions ns suffixes compositions) =
        .ok (r, k') ∧
      ((∃ e, r = .error e) ↔ ∃ c ∈ compositions, ∃ req ∈ c.injectContainerNameEnv,
        (compositions.map Composition.handle).count req.1 ≠ 1) ∧
      ((∃ e, r = .error e) → k' = finalizedCompositions ns suffixes compositions) ∧
      (r = .ok () → Injected (finalizedCompositions ns suffixes compositions) k') := by
  by_cases hu : ∀ c ∈ compositions, ∀ r ∈ c.injectContainerNameEnv,
      (compositions.map Composition.handle).count r.1 = 1
  · refine ⟨_, _, resolveInjectContainerNameEnv_of_unique ns suffixes compositions hu, ?_, ?_,
      fun _ => injected_of_unique ns suffixes compositions hu⟩
    · simp only [reduceCtorEq, exists_false, false_iff]
      push_neg
      exact hu
    · simp
  · push_neg at hu
    obtain ⟨e, he⟩ := resolveInjectContainerNameEnv_of_not_unique ns suffixes compositions hu
    exact ⟨_, _, he, by simpa using hu, fun _ => rfl, by simp⟩

/-! ### Named volumes -/

/-- The inner loop of `resolve_named_volumes`, over the `(name, path)` pairs of one
composition: a name seen before takes its suffixed name from the map. -/
def resolveVolumeNames (suffix : String) :
    HashMap String → List (String × String) → List String × HashMap String
  | volumeNameMap, [] => ([], volumeNameMap)
  | volumeNameMap, (id, path) :: rest =>
    match volumeNameMap.get id with
    | some suffixedName =>
      let r := resolveVolumeNames suffix volumeNameMap rest
      ((suffixedName ++ ":" ++ path) :: r.1, r.2)
    | none =>
      let r := resolveVolumeNames suffix (volumeNameMap.insert id (id ++ "-" ++ suffix)) rest
      ((id ++ "-" ++ suffix ++ ":" ++ path) :: r.1, r.2)

/-- The outer loop of `resolve_named_volumes`, over the compositions. -/
def resolveCompositionVolumes (suffix : String) :
    HashMap String → List Composition → List Composition × HashMap String
  | volumeNameMap, [] => ([], volumeNameMap)
  | volumeNameMap, c :: cs =>
    let r := resolveVolumeNames suffix volumeNameMap c.namedVolumes
    let rs := resolveCompositionVolumes suffix r.2 cs
    ({ c with finalNamedVolumeNames := r.1 } :: rs.1, rs.2)

/-- `resolve_named_volumes` for the run id `id`: the compositions with their final volume
names, and the runner's `named_volumes`.  The source drains a `HashMap` into the latter, in
an unspecified order; the model lists the entries. -/
def resolveNamedVolumes (id : String) (compositions : List Composition) :
    List Composition × List String :=
  let r := resolveCompositionVolumes id HashMap.empty compositions
  (r.1, r.2.entries.map Prod.snd)

/-- The final name of the volume `v.1` mounted at `v.2`. -/
def suffixedVolume (suffix : String) (v : String × String) : String :=
  v.1 ++ "-" ++ suffix ++ ":" ++ v.2

/-- Every entry of the map is its key with the suffix. -/
def SuffixedMap (suffix : String) (m : HashMap String) : Prop :=
  ∀ n v, m.get n = some v → v = n ++ "-" ++ suffix

theorem resolveVolumeNames_spec (suffix : String) : ∀ (l : List (String × String))
    (m : HashMap String), SuffixedMap suffix m →
    (resolveVolumeNames suffix m l).1 = l.map (suffixedVolume suffix) ∧
      ∀ n, (resolveVolumeNames suffix m l).2.get n =
        if n ∈ l.map Prod.fst then some (n ++ "-" ++ suffix) else m.get n
  | [], m, _ => ⟨rfl, fun n => by simp [resolveVolumeNames]⟩
  | (id, path) :: rest, m, hm => by
    cases hid : m.get id with
    | some v =>
      obtain ⟨h1, h2⟩ := resolveVolumeNames_spec suffix rest m hm
      refine ⟨by simp [resolveVolumeNames, hid, h1, hm id v hid, suffixedVolume], fun n => ?_⟩
      by_cases hn : n = id
      · subst hn; simp [resolveVolumeNames, hid, h2, hm n v hid]
      · simp only [resolveVolumeNames, hid, h2, List.map_cons, List.mem_cons, hn, false_or]
    | none =>
      have hm' : SuffixedMap suffix (m.insert id (id ++ "-" ++ suffix)) := by
        intro n v h
        by_cases hn : n = id
        · subst hn; simp at h; exact h.symm
        · simp [hn] at h; exact hm n v h
      obtain ⟨h1, h2⟩ := resolveVolumeNames_spec suffix rest _ hm'
      refine ⟨by simp [resolveVolumeNames, hid, h1, suffixedVolume], fun n => ?_⟩
      by_cases hn : n = id
      · subst hn; simp [resolveVolumeNames, hid, h2]
      · simp only [resolveVolumeNames, hid, h2, HashMap.get_insert, hn, ite_false, List.map_cons,
          List.mem_cons, false_or]

theorem resolveCompositionVolumes_spec (suffix : String) : ∀ (cs : List Composition)
    (m : HashMap String), SuffixedMap suffix m →
    (resolveCompositionVolumes suffix m cs).1 =
        cs.map (fun c => { c with finalNamedVolumeNames := c.namedVolumes.map (suffixedVolume suffix) }) ∧
      ∀ n, (resolveCompositionVolumes suffix m cs).2.get n =
        if ∃ c ∈ cs, n ∈ c.namedVolumes.map Prod.fst then some (n ++ "-" ++ suffix) else m.get n
  | [], m, _ => ⟨rfl, fun n => by simp [resolveCompositionVolumes]⟩
  | c :: cs, m, hm => by
    obtain ⟨h1, h2⟩ := resolveVolumeNames_spec suffix c.namedVolumes m hm
    have hm' : SuffixedMap suffix (resolveVolumeNames suffix m c.namedVolumes).2 := by
      intro n v h
      rw [h2] at h
      split_ifs at h
      · exact (Option.some.inj h).symm
      · exact hm n v h
    obtain ⟨h3, h4⟩ := resolveCompositionVolumes_spec suffix cs _ hm'
    refine ⟨by simp [resolveCompositionVolumes, h1, h3], fun n => ?_⟩
    simp only [resolveCompositionVolumes, h4, h2, List.mem_cons, exists_eq_or_imp]
    by_cases ha : n ∈ c.namedVolumes.map Prod.fst <;>
      by_cases hb : ∃ c ∈ cs, n ∈ c.namedVolumes.map Prod.fst <;>
      simp only [ha, hb, ite_true, ite_false, or_true, true_or, or_false]

theorem suffixedMap_empty (suffix : String) : SuffixedMap suffix HashMap.empty :=
  fun _ _ h => by simp at h

/-- After the outer loop, the map holds each declared name with its suffixed name, and nothing
else. -/
theorem mem_resolveCompositionVolumes_entries (suffix : String) (cs : List Composition)
    {k v : String} : (k, v) ∈ (resolveCompositionVolumes suffix HashMap.empty cs).2.entries ↔
      v = k ++ "-" ++ suffix ∧ ∃ c ∈ cs, k ∈ c.namedVolumes.map Prod.fst := by
  rw [HashMap.mem_entries_iff, (resolveCompositionVolumes_spec suffix cs _ (suffixedMap_empty suffix)).2]
  split_ifs with hc
  · simp only [Option.some.injEq, hc, and_true, eq_comm]
  · simp only [HashMap.get_empty, hc, and_false, iff_false, reduceCtorEq, not_false_eq_true]

theorem append_suffix_inj {a b : String} (suffix : String)
    (h : a ++ "-" ++ suffix = b ++ "-" ++ suffix) : a = b := by
  have h' := congrArg String.data h
  simp only [String.data_append] at h'
  exact String.ext (List.append_cancel_right (List.append_cancel_right h'))

/-- **Named volumes.**  Each composition's final volume names are its declared pairs, in
order, as `name-id:path`, whether the name was seen before or not; and `named_volumes`, in
whatever order the map is drained, holds `name-id` once for each declared name and nothing
else. -/
theorem resolveNamedVolumes_spec (id : String) (compositions : List Composition) :
    (resolveNamedVolumes id compositions).1 = compositions.map (fun c =>
      { c with finalNamedVolumeNames := c.namedVolumes.map fun v => v.1 ++ "-" ++ id ++ ":" ++ v.2 }) ∧
    ∀ named : List String, named.Perm (resolveNamedVolumes id compositions).2 →
      named.Nodup ∧
      ∀ v, v ∈ named ↔ ∃ c ∈ compositions, ∃ p ∈ c.namedVolumes, v = p.1 ++ "-" ++ id := by
  have hkey : ∀ e ∈ (resolveCompositionVolumes id HashMap.empty compositions).2.entries,
      e.2 = e.1 ++ "-" ++ id := fun _ he => ((mem_resolveCompositionVolumes_entries id _).1 he).1
  refine ⟨(resolveCompositionVolumes_spec id compositions _ (suffixedMap_empty id)).1,
    fun named hp => ⟨hp.nodup_iff.2 ((HashMap.nodup _).of_map _ |>.map_on fun x hx y hy hxy => ?_),
      fun v => ?_⟩⟩
  · exact Prod.ext (append_suffix_inj id (by rw [← hkey x hx, ← hkey y hy, hxy])) hxy
  · simp only [hp.mem_iff, resolveNamedVolumes, List.mem_map, Prod.exists,
      mem_resolveCompositionVolumes_entries]
    constructor
    · rintro ⟨k, _, ⟨rfl, c, hc, a, b, hab, rfl⟩, rfl⟩
      exact ⟨c, hc, a, b, hab, rfl⟩
    · rintro ⟨c, hc, a, b, hab, rfl⟩
      exact ⟨a, _, ⟨rfl, c, hc, a, b, hab, rfl⟩, rfl⟩

end Dockertest

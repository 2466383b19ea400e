import Mathlib.Data.List.Basic
import Dockertest.Container

/-!
# The keeper and handle resolution

`src/runner.rs`, `Keeper<T>`, `DockerOperations::try_handle` and
`Runner::validate_composition_handlers`.  A `Keeper` holds the containers of one lifecycle
stage in declaration order, with a map from handle to index and the set of handles declared
more than once.  It is built once, from the compositions; later stages keep its two tables
and replace `kept`.

Both places that resolve a handle make the same two checks, collision first and then the
map, and differ only in their errors: `Keeper.resolve` is that check, and
`DockerOperations.tryHandle` and the injection of container names (`Resolve.lean`) apply it
with their own messages.

`Tables hs` says what the one pass of `validate_composition_handlers` has put in the two
tables once it has seen the handles `hs`; `Tables.step` is one round of the loop and
`Tables.validateLoop` the whole loop.  From it, `validateCompositionHandlers_resolve`: what
resolving a handle yields is the index of its only composition, a collision, or nothing.
-/

namespace Dockertest

structure Keeper (T : Type) where
  lookupCollisions : HashSet
  lookupHandlers : HashMap Nat
  kept : List T

namespace Keeper

variable {T : Type}

/-- The collision check followed by the lookup. -/
def resolve (k : Keeper T) (handle : String) (onCollision onMissing : DockerTestError) :
    Except DockerTestError Nat :=
  if k.lookupCollisions.contains handle then .error onCollision
  else match k.lookupHandlers.get handle with
    | none => .error onMissing
    | some i => .ok i

end Keeper

/-- The panic of an out-of-range `Vec` index. -/
def indexOutOfBounds (len index : Nat) : String :=
  "index out of bounds: the len is " ++ toString len ++ " but the index is " ++ toString index

structure DockerOperations where
  containers : Keeper RunningContainer

/-- `try_handle`; the outer `error` is the panic of `kept[i]` out of range. -/
def DockerOperations.tryHandle (ops : DockerOperations) (handle : String) :
    Except String (Except DockerTestError RunningContainer) :=
  match ops.containers.resolve handle
      (.testBody ("handle '" ++ handle ++ "' defined multiple times"))
      (.testBody ("container with handle '" ++ handle ++ "' not found")) with
  | .error e => .ok (.error e)
  | .ok i =>
    match ops.containers.kept[i]? with
    | some c => .ok (.ok c)
    | none => .error (indexOutOfBounds ops.containers.kept.length i)

/-! ### Building the keeper -/

/-- The loop of `validate_composition_handlers`: the first occurrence of a handle claims its
index, a later one marks the handle as a collision. -/
def validateLoop : HashMap Nat → HashSet → Nat → List Composition → HashMap Nat × HashSet
  | handlers, collisions, _, [] => (handlers, collisions)
  | handlers, collisions, i, c :: cs =>
    if handlers.containsKey c.handle then validateLoop handlers (collisions.insert c.handle) (i + 1) cs
    else validateLoop (handlers.insert c.handle i) collisions (i + 1) cs

def validateCompositionHandlers (compositions : List Composition) : Keeper Composition where
  lookupCollisions := (validateLoop HashMap.empty HashSet.empty 0 compositions).2
  lookupHandlers := (validateLoop HashMap.empty HashSet.empty 0 compositions).1
  kept := compositions

/-- What the two tables hold once the loop has seen the handles `hs`: the index of the first
occurrence, and the handles seen twice or more. -/
def Tables (hs : List String) (handlers : HashMap Nat) (collisions : HashSet) : Prop :=
  ∀ h, handlers.get h = (if h ∈ hs then some (hs.indexOf h) else none) ∧
    (collisions.contains h = true ↔ 2 ≤ hs.count h)

theorem tables_nil : Tables [] HashMap.empty HashSet.empty := by
  intro h; simp

/-- One round of the loop. -/
theorem Tables.step {hs : List String} {handlers : HashMap Nat} {collisions : HashSet}
    (ht : Tables hs handlers collisions) (x : String) :
    Tables (hs ++ [x])
      (if handlers.containsKey x then handlers else handlers.insert x hs.length)
      (if handlers.containsKey x then collisions.insert x else collisions) := by
  intro h
  obtain ⟨hget, hcol⟩ := ht h
  by_cases hx : h = x
  · subst hx
    by_cases hm : h ∈ hs
    · have hc : 1 ≤ hs.count h := List.count_pos_iff.2 hm
      simp [hget, hm, List.indexOf_append_of_mem hm]
    · have hc : hs.count h = 0 := List.count_eq_zero.2 hm
      simp [hget, hm, hcol, hc, List.indexOf_append_of_not_mem hm]
  · split_ifs <;> simp_all [List.indexOf_append_of_mem, List.count_singleton]

/-- The whole loop, from a prefix `p` already seen. -/
theorem Tables.validateLoop : ∀ (l p : List Composition) {handlers : HashMap Nat}
    {collisions : HashSet}, Tables (p.map Composition.handle) handlers collisions →
    Tables ((p ++ l).map Composition.handle) (Dockertest.validateLoop handlers collisions p.length l).1
      (Dockertest.validateLoop handlers collisions p.length l).2 := by
  intro l
  induction l with
  | nil => intro p _ _ ht; simpa using ht
  | cons c cs ih =>
    intro p handlers collisions ht
    have := ih (p ++ [c]) (by simpa using ht.step c.handle)
    rw [List.length_append, List.length_singleton, List.append_assoc, List.singleton_append] at this
    unfold Dockertest.validateLoop
    split_ifs at this ⊢ <;> simpa using this

theorem tables_validateCompositionHandlers (compositions : List Composition) :
    Tables (compositions.map Composition.handle)
      (validateCompositionHandlers compositions).lookupHandlers
      (validateCompositionHandlers compositions).lookupCollisions := by
  simpa using tables_nil.validateLoop compositions []

/-- In a list where `h` occurs once, its position is its first occurrence. -/
theorem indexOf_eq_of_count_eq_one : ∀ {hs : List String} {h : String} {i : Nat}
    (hi : i < hs.length), hs.count h = 1 → hs[i] = h → hs.indexOf h = i := by
  intro hs
  induction hs with
  | nil => intro _ i hi; simp at hi
  | cons a t ih =>
    intro h i hi hc he
    by_cases ha : a = h
    · subst ha
      have ht : a ∉ t := List.count_eq_zero.1 (by simpa using hc)
      cases i with
      | zero => simp
      | succ j => exact absurd (he ▸ List.getElem_mem _) ht
    · cases i with
      | zero => exact absurd he ha
      | succ j =>
        rw [List.indexOf_cons_ne _ ha, ih (by simpa using hi) (by simpa [List.count_cons, ha] using hc) he]

/-- Resolution against the tables of the handles `hs`, of a handle that occurs once in `hs`:
its position. -/
theorem Tables.resolve_of_count_eq_one {T : Type} {k : Keeper T} {hs : List String} {h : String}
    (ht : Tables hs k.lookupHandlers k.lookupCollisions) (h1 : hs.count h = 1)
    (onCollision onMissing : DockerTestError) :
    k.resolve h onCollision onMissing = .ok (hs.indexOf h) := by
  obtain ⟨hget, hcol⟩ := ht h
  have hm : h ∈ hs := List.count_pos_iff.1 (by omega)
  have hc : k.lookupCollisions.contains h = false := Bool.eq_false_iff.2 (mt hcol.1 (by omega))
  simp [Keeper.resolve, hget, hm, hc]

/-! ### Resolving against the validated keeper

The three lemmas below read `resolve` only through the two tables, so they hold for every
keeper that carries the tables of `validate_composition_handlers`, whatever its `kept`. -/

section Validated

variable {T : Type} (compositions : List Composition) (kept : List T) (h : String)
  (onCollision onMissing : DockerTestError)

/-- The validated tables with the elements of a later stage. -/
def validatedKeeper : Keeper T :=
  { validateCompositionHandlers compositions with kept }

theorem resolve_validated_of_count_eq_zero
    (h0 : (compositions.map Composition.handle).count h = 0) :
    (validatedKeeper compositions kept).resolve h onCollision onMissing = .error onMissing := by
  obtain ⟨hget, hcol⟩ := tables_validateCompositionHandlers compositions h
  have hm : h ∉ compositions.map Composition.handle := List.count_eq_zero.1 h0
  have hc : (validateCompositionHandlers compositions).lookupCollisions.contains h = false :=
    Bool.eq_false_iff.2 (mt hcol.1 (by omega))
  simp [validatedKeeper, Keeper.resolve, hget, hm, hc]

theorem resolve_validated_of_two_le
    (h2 : 2 ≤ (compositions.map Composition.handle).count h) :
    (validatedKeeper compositions kept).resolve h onCollision onMissing = .error onCollision := by
  simp [validatedKeeper, Keeper.resolve, ((tables_validateCompositionHandlers compositions h).2).2 h2]

theorem resolve_validated_of_count_eq_one
    (h1 : (compositions.map Composition.handle).count h = 1) :
    (validatedKeeper compositions kept).resolve h onCollision onMissing =
      .ok ((compositions.map Composition.handle).indexOf h) :=
  (tables_validateCompositionHandlers compositions).resolve_of_count_eq_one h1 _ _

end Validated

/-- **Resolution against the validated keeper.**  All compositions stay in `kept`, in order;
a handle no composition has is not found, a handle two or more have is a collision, and a
handle exactly one has resolves to that composition's index. -/
theorem validateCompositionHandlers_resolve (compositions : List Composition) (h : String)
    (onCollision onMissing : DockerTestError) :
    (validateCompositionHandlers compositions).kept = compositions ∧
    ((compositions.map Composition.handle).count h = 0 →
      (validateCompositionHandlers compositions).resolve h onCollision onMissing =
        .error onMissing) ∧
    (2 ≤ (compositions.map Composition.handle).count h →
      (validateCompositionHandlers compositions).resolve h onCollision onMissing =
        .error onCollision) ∧
    (∀ i (hi : i < compositions.length), (compositions.map Composition.handle).count h = 1 →
      compositions[i].handle = h →
      (validateCompositionHandlers compositions).resolve h onCollision onMissing = .ok i) :=
  ⟨rfl, resolve_validated_of_count_eq_zero compositions compositions h onCollision onMissing,
    resolve_validated_of_two_le compositions compositions h onCollision onMissing,
    fun i hi h1 hih => by
      have hidx : (compositions.map Composition.handle).indexOf h = i :=
        indexOf_eq_of_count_eq_one (by simpa using hi) h1 (by simpa using hih)
      rw [← hidx]
      exact resolve_validated_of_count_eq_one compositions compositions h onCollision onMissing h1⟩

end Dockertest

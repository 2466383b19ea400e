import Mathlib.Data.List.Sort
import Mathlib.Data.List.Nodup
import Dockertest.Runner.Keeper

/-!
# Restoring the declaration order

`src/runner.rs`, `sort_running_containers_into_insertion_order`.  The running containers come
back strict first, relaxed after; they are sorted by the position of their id in the ids
recorded before the partition.  The comparator looks each id up with `position(..).unwrap()`,
so it panics on an id that is not recorded; a comparison sort of two or more elements
compares each of them, so the sort panics exactly when there are two or more containers and
one of them has an unrecorded id.

`sort_unstable_by` leaves the order of equal keys open; the model sorts by insertion, one of
the orders it may produce.  When the ids are distinct and are those recorded, no key is
shared and the result is the one order whose ids are the recorded ones
(`sortRunningContainers_ids`).  More generally, when the ids are distinct and each is recorded,
among other ids and repeats, the sort never panics and its result is the only permutation in
which the first positions of the ids increase (`sortRunningContainers_insertion_order`).
-/

namespace Dockertest

/-- The comparator's key: the position of the container's id among the recorded ids. -/
def insertionIndex (insertionOrderIds : List String) (c : RunningContainer) : Nat :=
  insertionOrderIds.indexOf c.id

/-- `sort_running_containers_into_insertion_order`; the outer `error` is the panic of
`unwrap` on an id missing from `insertionOrderIds`. -/
def sortRunningContainersIntoInsertionOrder (running : List RunningContainer)
    (insertionOrderIds : List String) : Except String (List RunningContainer) :=
  if 2 ≤ running.length ∧ ∃ c ∈ running, c.id ∉ insertionOrderIds then
    .error "called `Option::unwrap()` on a `None` value"
  else
    .ok (running.insertionSort fun a b =>
      insertionIndex insertionOrderIds a ≤ insertionIndex insertionOrderIds b)

theorem sortRunningContainers_of_mem {running : List RunningContainer}
    {insertionOrderIds : List String} (h : ∀ c ∈ running, c.id ∈ insertionOrderIds) :
    sortRunningContainersIntoInsertionOrder running insertionOrderIds =
      .ok (running.insertionSort fun a b =>
        insertionIndex insertionOrderIds a ≤ insertionIndex insertionOrderIds b) := by
  rw [sortRunningContainersIntoInsertionOrder, if_neg]
  rintro ⟨-, c, hc, hn⟩
  exact hn (h c hc)

/-- The sort's result is sorted by key. -/
theorem insertionSort_sorted (insertionOrderIds : List String) (running : List RunningContainer) :
    (running.insertionSort fun a b =>
        insertionIndex insertionOrderIds a ≤ insertionIndex insertionOrderIds b).Sorted
      fun a b => insertionIndex insertionOrderIds a ≤ insertionIndex insertionOrderIds b :=
  @List.sorted_insertionSort _
    (fun a b => insertionIndex insertionOrderIds a ≤ insertionIndex insertionOrderIds b) _
    ⟨fun _ _ => Nat.le_total _ _⟩ ⟨fun _ _ _ => Nat.le_trans⟩ running

/-! ### Any recorded order -/

section Recorded

variable {running : List RunningContainer} {insertionOrderIds : List String}

/-- Containers whose ids are distinct and recorded have distinct keys. -/
theorem insertionIndex_injOn (hn : (running.map RunningContainer.id).Nodup)
    (hmem : ∀ c ∈ running, c.id ∈ insertionOrderIds) {a b : RunningContainer} (ha : a ∈ running)
    (hb : b ∈ running) (h : insertionIndex insertionOrderIds a = insertionIndex insertionOrderIds b) :
    a = b :=
  List.inj_on_of_nodup_map hn ha hb ((List.indexOf_inj (hmem a ha) (hmem b hb)).1 h)

/-- A permutation of such containers sorted by key is sorted strictly. -/
theorem sorted_lt_of_perm (hn : (running.map RunningContainer.id).Nodup)
    (hmem : ∀ c ∈ running, c.id ∈ insertionOrderIds) {l : List RunningContainer}
    (hp : l.Perm running)
    (hs : l.Sorted fun a b => insertionIndex insertionOrderIds a ≤ insertionIndex insertionOrderIds b) :
    l.Sorted fun a b => insertionIndex insertionOrderIds a < insertionIndex insertionOrderIds b :=
  (hs.and (hp.nodup_iff.2 (hn.of_map _))).imp_of_mem fun ha hb ⟨hle, hne⟩ =>
    lt_of_le_of_ne hle fun h => hne (insertionIndex_injOn hn hmem (hp.subset ha) (hp.subset hb) h)

/-- **The sort never panics and restores the recorded order.**  Running containers with
distinct ids, each recorded, come out as a permutation in which the first positions of their
ids increase.  It is the only permutation sorted by the comparator, so which of them
`sort_unstable_by` would pick does not matter. -/
theorem sortRunningContainers_insertion_order (hn : (running.map RunningContainer.id).Nodup)
    (hmem : ∀ c ∈ running, c.id ∈ insertionOrderIds) :
    ∃ sorted, sortRunningContainersIntoInsertionOrder running insertionOrderIds = .ok sorted ∧
      sorted.Perm running ∧
      sorted.Sorted (fun a b => insertionIndex insertionOrderIds a < insertionIndex insertionOrderIds b) ∧
      ∀ l : List RunningContainer, l.Perm running →
        l.Sorted (fun a b => insertionIndex insertionOrderIds a ≤ insertionIndex insertionOrderIds b) →
        l = sorted := by
  let lt := fun a b : RunningContainer =>
    insertionIndex insertionOrderIds a < insertionIndex insertionOrderIds b
  have hperm := List.perm_insertionSort
    (fun a b => insertionIndex insertionOrderIds a ≤ insertionIndex insertionOrderIds b) running
  have hsorted := sorted_lt_of_perm hn hmem hperm (insertionSort_sorted insertionOrderIds running)
  have : IsAntisymm RunningContainer lt := ⟨fun _ _ h h' => absurd (h.trans h') (lt_irrefl _)⟩
  refine ⟨_, sortRunningContainers_of_mem hmem, hperm, hsorted, fun l hp hs => ?_⟩
  exact List.eq_of_perm_of_sorted (hp.trans hperm.symm) (sorted_lt_of_perm hn hmem hp hs) hsorted

end Recorded

/-- The containers of the diagram in the source's comment: `X Y Z Q`, with the ids `D C B A`. -/
def diagramContainers : List RunningContainer :=
  [⟨"X", "D", "X", false, none⟩, ⟨"Y", "C", "Y", false, none⟩, ⟨"Z", "B", "Z", false, none⟩,
    ⟨"Q", "A", "Q", false, none⟩]

/-- The diagram's recorded ids `D B A C`, with a repeated id and an unknown one. -/
def diagramIds : List String := ["D", "B", "A", "B", "C", "E"]

theorem sortRunningContainers_insertion_order_diagram :
    (diagramContainers.map RunningContainer.id).Nodup ∧
      (∀ c ∈ diagramContainers, c.id ∈ diagramIds) ∧
      ∃ sorted, sortRunningContainersIntoInsertionOrder diagramContainers diagramIds = .ok sorted ∧
        sorted.Perm diagramContainers ∧
        sorted.Sorted (fun a b => insertionIndex diagramIds a < insertionIndex diagramIds b) ∧
        ∀ l : List RunningContainer, l.Perm diagramContainers →
          l.Sorted (fun a b => insertionIndex diagramIds a ≤ insertionIndex diagramIds b) →
          l = sorted := by
  have hn : (diagramContainers.map RunningContainer.id).Nodup := by decide
  have hmem : ∀ c ∈ diagramContainers, c.id ∈ diagramIds := by decide
  exact ⟨hn, hmem, sortRunningContainers_insertion_order hn hmem⟩

/-- The diagram's result: `X Z Q Y`. -/
example : sortRunningContainersIntoInsertionOrder diagramContainers diagramIds =
    .ok [⟨"X", "D", "X", false, none⟩, ⟨"Z", "B", "Z", false, none⟩, ⟨"Q", "A", "Q", false, none⟩,
      ⟨"Y", "C", "Y", false, none⟩] := rfl

/-! ### The recorded ids, each once -/

/-- The positions of a list without duplicates are `0, 1, ...`. -/
theorem map_indexOf_of_nodup {ids : List String} (hn : ids.Nodup) :
    ids.map (ids.indexOf ·) = List.range ids.length :=
  List.ext_getElem (by simp) fun i h _ => by
    simp [List.indexOf_getElem hn i (by simpa using h)]

/-- **Sorting restores the recorded order.**  Running containers whose ids are the recorded
ids, each once, come out of the sort with exactly the recorded ids, in order. -/
theorem sortRunningContainers_ids {running : List RunningContainer} {ids : List String}
    (hn : ids.Nodup) (hp : (running.map RunningContainer.id).Perm ids) :
    ∃ sorted, sortRunningContainersIntoInsertionOrder running ids = .ok sorted ∧
      sorted.Perm running ∧ sorted.map RunningContainer.id = ids := by
  let lt := fun a b : String => ids.indexOf a < ids.indexOf b
  have hmem : ∀ c ∈ running, c.id ∈ ids := fun c hc => hp.subset (List.mem_map_of_mem _ hc)
  have hperm :=
    List.perm_insertionSort (fun a b => insertionIndex ids a ≤ insertionIndex ids b) running
  have hsorted := sorted_lt_of_perm (hp.nodup_iff.2 hn) hmem hperm (insertionSort_sorted ids running)
  have hids : ids.Sorted lt := by
    have := List.pairwise_lt_range ids.length
    rwa [← map_indexOf_of_nodup hn, List.pairwise_map] at this
  have : IsAntisymm String lt := ⟨fun _ _ h h' => absurd (h.trans h') (lt_irrefl _)⟩
  exact ⟨_, sortRunningContainers_of_mem hmem, hperm, List.eq_of_perm_of_sorted
    ((hperm.map _).trans hp) ((List.pairwise_map (R := lt)).2 hsorted) hids⟩

end Dockertest

import Dockertest.Runner.Keeper

/-!
# Creating the containers

`src/runner.rs`, `Runner::create_containers`.  Each composition is handed to
`Composition::create`, in order.  The version of `create` that the runner calls (it returns
`Option<PendingContainer>`, `None` for an external static container) is not among the
sources, so the model takes its outcome for each composition as a parameter.  The first
error ends the loop; the containers created before it are returned for cleanup.

`createContainers_of_error`: when the `k`-th composition fails, `create` was called on
compositions `0..k` and no later one, and the cleanup list is the created containers of
`0..k-1`, in order.
-/

namespace Dockertest

/-- The `PendingContainer` a `create` outcome yields, if any. -/
def createdPending : Except DockerTestError (Option PendingContainer) → Option PendingContainer
  | .ok p => p
  | .error _ => none

/-- The loop of `create_containers` from the containers `pending` created so far; the second
component lists the compositions `create` was called on. -/
def createLoop (create : Composition → Except DockerTestError (Option PendingContainer)) :
    List PendingContainer → List Composition →
      Except (DockerTestError × List CleanupContainer) (List PendingContainer) × List Composition
  | pending, [] => (.ok pending, [])
  | pending, c :: cs =>
    match create c with
    | .ok (some p) =>
      let r := createLoop create (pending ++ [p]) cs
      (r.1, c :: r.2)
    | .ok none =>
      let r := createLoop create pending cs
      (r.1, c :: r.2)
    | .error e => (.error (e, pending.map CleanupContainer.fromPending), [c])

/-- `create_containers`: the keeper of pending containers takes over the two tables of the
compositions' keeper. -/
def createContainers (create : Composition → Except DockerTestError (Option PendingContainer))
    (compositions : Keeper Composition) :
    Except (DockerTestError × List CleanupContainer) (Keeper PendingContainer) ×
      List Composition :=
  let r := createLoop create [] compositions.kept
  (r.1.map (Keeper.mk compositions.lookupCollisions compositions.lookupHandlers), r.2)

section Loop

variable (create : Composition → Except DockerTestError (Option PendingContainer))

/-- Every composition created: all of them handed to `create`, the created containers in
order. -/
theorem createLoop_of_ok : ∀ (cs : List Composition) (pending : List PendingContainer),
    (∀ c ∈ cs, ∃ r, create c = .ok r) →
    createLoop create pending cs = (.ok (pending ++ cs.filterMap (createdPending ∘ create)), cs)
  | [], _, _ => by simp [createLoop]
  | c :: cs, pending, h => by
    simp only [List.mem_cons, forall_eq_or_imp] at h
    obtain ⟨⟨r, hr⟩, hcs⟩ := h
    cases r with
    | none => simp [createLoop, hr, createLoop_of_ok cs _ hcs, createdPending]
    | some p => simp [createLoop, hr, createLoop_of_ok cs _ hcs, createdPending]

/-- The `k`-th composition fails after `0..k-1` succeeded. -/
theorem createLoop_of_error : ∀ (cs : List Composition) (pending : List PendingContainer)
    (k : Nat) (hk : k < cs.length) (e : DockerTestError),
    (∀ c ∈ cs.take k, ∃ r, create c = .ok r) → create cs[k] = .error e →
    createLoop create pending cs = (.error (e, (pending ++ (cs.take k).filterMap
      (createdPending ∘ create)).map CleanupContainer.fromPending), cs.take (k + 1))
  | [], _, k, hk, _, _, _ => absurd hk (by simp)
  | c :: cs, pending, 0, _, e, _, he => by simp_all [createLoop]
  | c :: cs, pending, k + 1, hk, e, hok, he => by
    simp only [List.take_succ_cons, List.mem_cons, forall_eq_or_imp] at hok
    obtain ⟨⟨r, hr⟩, hok⟩ := hok
    cases r with
    | none =>
      simp [createLoop, hr, createLoop_of_error cs pending k (by simpa using hk) e hok
        (by simpa using he), createdPending]
    | some p =>
      simp [createLoop, hr, createLoop_of_error cs (pending ++ [p]) k (by simpa using hk) e hok
        (by simpa using he), createdPending]

/-- When the loop goes through, it returns the containers created from the compositions it
handed to `create`. -/
theorem createLoop_ok_eq : ∀ (cs : List Composition) (pending ps : List PendingContainer),
    (createLoop create pending cs).1 = .ok ps →
    ps = pending ++ (createLoop create pending cs).2.filterMap (createdPending ∘ create)
  | [], _, _, h => by cases h; simp [createLoop]
  | c :: cs, pending, ps, h => by
    cases hc : create c with
    | error e => simp [createLoop, hc] at h
    | ok o =>
      cases o with
      | none =>
        simp only [createLoop, hc] at h ⊢
        simpa [createdPending, hc] using createLoop_ok_eq cs pending ps h
      | some p =>
        simp only [createLoop, hc] at h ⊢
        simpa [createdPending, hc] using createLoop_ok_eq cs (pending ++ [p]) ps h

/-- When the loop goes through, it handed every composition to `create`. -/
theorem createLoop_ok_snd : ∀ (cs : List Composition) (pending ps : List PendingContainer),
    (createLoop create pending cs).1 = .ok ps → (createLoop create pending cs).2 = cs
  | [], _, _, _ => rfl
  | c :: cs, pending, ps, h => by
    cases hc : create c with
    | error e => simp [createLoop, hc] at h
    | ok o =>
      cases o <;> simp only [createLoop, hc] at h ⊢ <;> rw [createLoop_ok_snd cs _ ps h]

/-- When the loop fails, its cleanup list is the containers created from the compositions it
handed to `create`. -/
theorem createLoop_error_eq : ∀ (cs : List Composition) (pending : List PendingContainer)
    (e : DockerTestError) (cleanup : List CleanupContainer),
    (createLoop create pending cs).1 = .error (e, cleanup) →
    cleanup = (pending ++ (createLoop create pending cs).2.filterMap (createdPending ∘ create)).map
      CleanupContainer.fromPending
  | [], _, _, _, h => by simp [createLoop] at h
  | c :: cs, pending, e, cleanup, h => by
    cases hc : create c with
    | error e' =>
      simp only [createLoop, hc, Except.error.injEq, Prod.mk.injEq] at h ⊢
      simp [h.2, createdPending, hc]
    | ok o =>
      cases o with
      | none =>
        simp only [createLoop, hc] at h ⊢
        simpa [createdPending, hc] using createLoop_error_eq cs pending e cleanup h
      | some p =>
        simp only [createLoop, hc] at h ⊢
        simpa [createdPending, hc] using createLoop_error_eq cs (pending ++ [p]) e cleanup h

/-- When creation goes through, the pending containers are those created from the
compositions handed to `create`. -/
theorem createContainers_ok_kept {compositions : Keeper Composition}
    {pending : Keeper PendingContainer} (h : (createContainers create compositions).1 = .ok pending) :
    pending.kept = (createContainers create compositions).2.filterMap (createdPending ∘ create) := by
  unfold createContainers at h ⊢
  cases hl : (createLoop create [] compositions.kept).1 with
  | error ec => simp [hl, Except.map] at h
  | ok ps =>
    simp only [hl, Except.map, Except.ok.injEq] at h
    rw [← h]
    simpa using createLoop_ok_eq create _ [] ps hl

/-- When creation fails, its cleanup list is the containers created from the compositions
handed to `create`. -/
theorem createContainers_error_cleanup {compositions : Keeper Composition} {e : DockerTestError}
    {cleanup : List CleanupContainer}
    (h : (createContainers create compositions).1 = .error (e, cleanup)) :
    cleanup = ((createContainers create compositions).2.filterMap (createdPending ∘ create)).map
      CleanupContainer.fromPending := by
  unfold createContainers at h ⊢
  cases hl : (createLoop create [] compositions.kept).1 with
  | error ec =>
    simp only [hl, Except.map, Except.error.injEq] at h
    subst h
    simpa using createLoop_error_eq create _ [] e cleanup hl
  | ok ps => simp [hl, Except.map] at h

/-- When creation goes through, it handed every composition to `create`. -/
theorem createContainers_ok_snd {compositions : Keeper Composition}
    {pending : Keeper PendingContainer} (h : (createContainers create compositions).1 = .ok pending) :
    (createContainers create compositions).2 = compositions.kept := by
  unfold createContainers at h ⊢
  cases hl : (createLoop create [] compositions.kept).1 with
  | error ec => simp [hl, Except.map] at h
  | ok ps => exact createLoop_ok_snd create _ [] ps hl

/-- When creation goes through, the pending keeper is the compositions' tables over the
containers created from them. -/
theorem createContainers_eq_ok {compositions : Keeper Composition}
    {pending : Keeper PendingContainer} (h : (createContainers create compositions).1 = .ok pending) :
    pending = ⟨compositions.lookupCollisions, compositions.lookupHandlers,
      compositions.kept.filterMap (createdPending ∘ create)⟩ := by
  have hkept := createContainers_ok_kept create h
  rw [createContainers_ok_snd create h] at hkept
  unfold createContainers at h
  cases hl : (createLoop create [] compositions.kept).1 with
  | error ec => simp [hl, Except.map] at h
  | ok ps =>
    simp only [hl, Except.map, Except.ok.injEq] at h
    subst h
    simp only at hkept
    rw [hkept]

/-- When every composition yields a container, the `i`-th created container comes from the
`i`-th composition. -/
theorem getElem?_filterMap_createdPending {cs : List Composition}
    (h : ∀ c ∈ cs, ∃ p, create c = .ok (some p)) (i : Nat) :
    (cs.filterMap (createdPending ∘ create))[i]? = cs[i]?.bind (createdPending ∘ create) := by
  induction cs generalizing i with
  | nil => simp
  | cons c cs ih =>
    obtain ⟨p, hp⟩ := h c (.head _)
    rw [List.filterMap_cons_some (b := p) (by simp [createdPending, hp])]
    cases i with
    | zero => simp [createdPending, hp]
    | succ i => simpa using ih (fun c hc => h c (.tail _ hc)) i

theorem createContainers_of_ok {compositions : Keeper Composition}
    (h : ∀ c ∈ compositions.kept, ∃ r, create c = .ok r) :
    createContainers create compositions =
      (.ok ⟨compositions.lookupCollisions, compositions.lookupHandlers,
        compositions.kept.filterMap (createdPending ∘ create)⟩, compositions.kept) := by
  simp [createContainers, createLoop_of_ok create _ [] h, Except.map]

/-- **A failed creation**: the `k`-th composition fails after `0..k-1` succeeded. -/
theorem createContainers_of_error {compositions : Keeper Composition} {k : Nat}
    (hk : k < compositions.kept.length) {e : DockerTestError}
    (hok : ∀ c ∈ compositions.kept.take k, ∃ r, create c = .ok r)
    (he : create compositions.kept[k] = .error e) :
    createContainers create compositions =
      (.error (e, ((compositions.kept.take k).filterMap (createdPending ∘ create)).map
        CleanupContainer.fromPending), compositions.kept.take (k + 1)) := by
  simp [createContainers, createLoop_of_error create _ [] k hk e hok he, Except.map]

end Loop

end Dockertest

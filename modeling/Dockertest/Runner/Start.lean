import Dockertest.Runner.Sort

/-!
# Starting the containers

`src/runner.rs`, `Runner::start_containers` with `start_strict_containers`,
`start_relaxed_containers` and `wait_for_relaxed_containers`.  The pending containers are
partitioned by start policy.  The relaxed ones are spawned as tasks at once; the strict ones
are started one by one on the orchestrating task, stopping at the first failure.  Then the
relaxed tasks are joined (or dropped, when a strict start failed), the first error is
reported, strict before relaxed, and otherwise the running containers are sorted back into
declaration order.

This file is the sequential reading: `join_all` returns the tasks' results in spawn order,
whatever order they finished in, so `startContainers` takes them as the list
`relaxed.map s.task`.  `Schedule.lean` runs the same code as interleaved tasks and shows that
every interleaving returns `startContainers`.

`startStrictLoop_eq` and `gatherRelaxed_eq` give the two loops in closed form: the first
error, or all the running containers.  From them, `startContainers_of_error` and
`startContainers_of_ok`.
-/

namespace Dockertest

/-- A `JoinError`: the task panicked or was cancelled. -/
structure JoinError where
deriving Repr, DecidableEq

/-- What awaiting a spawned relaxed start yields. -/
abbrev JoinResult := Except JoinError (Except DockerTestError RunningContainer)

/-- What the daemon and the readiness strategies do with each start: `start p` is what
`p.start()` returns, and `joinFails p` says the task spawned for a relaxed `p` panics or is
cancelled, so that joining it fails. -/
structure Starter where
  start : PendingContainer → Except DockerTestError RunningContainer
  joinFails : PendingContainer → Bool

/-- What joining the task spawned for `p` yields. -/
def Starter.task (s : Starter) (p : PendingContainer) : JoinResult :=
  if s.joinFails p then .error ⟨⟩ else .ok (s.start p)

/-- Readiness strategies turn a pending container into the running one (`into()`), so the
running container has the pending container's id. -/
def Starter.KeepsIds (s : Starter) : Prop :=
  ∀ p r, s.start p = .ok r → r.id = p.id

/-- The loop of `start_strict_containers` from the containers started so far. -/
def startStrictLoop (start : PendingContainer → Except DockerTestError RunningContainer) :
    List RunningContainer → List PendingContainer → Except DockerTestError (List RunningContainer)
  | running, [] => .ok running
  | running, c :: cs =>
    match start c with
    | .ok r => startStrictLoop start (running ++ [r]) cs
    | .error e => .error e

def startStrictContainers (start : PendingContainer → Except DockerTestError RunningContainer)
    (pending : List PendingContainer) : Except DockerTestError (List RunningContainer) :=
  startStrictLoop start [] pending

/-- The loop of `wait_for_relaxed_containers` over the joined results, in spawn order: the
first error is kept, the running containers are collected. -/
def gatherRelaxed : List RunningContainer → Option DockerTestError → List JoinResult →
    Except DockerTestError (List RunningContainer)
  | running, firstError, [] =>
    match firstError with
    | none => .ok running
    | some e => .error e
  | running, firstError, .ok (.ok c) :: rest => gatherRelaxed (running ++ [c]) firstError rest
  | running, firstError, .ok (.error e) :: rest => gatherRelaxed running (firstError.or (some e)) rest
  | running, firstError, .error _ :: rest =>
    gatherRelaxed running (firstError.or (some (.processing "join error gathering"))) rest

def waitForRelaxedContainers (startingRelaxed : List JoinResult) (cancelFutures : Bool) :
    Except DockerTestError (List RunningContainer) :=
  if cancelFutures then .error (.processing "cancelling all relaxed container join operations")
  else gatherRelaxed [] none startingRelaxed

/-- What `start_containers` returns. -/
abbrev StartOutcome :=
  Except String (Except (DockerTestError × List CleanupContainer) (Keeper RunningContainer))

/-- The end of `start_containers`: the first error, strict before relaxed, with the cleanup
list, or the running containers sorted into the recorded order under the original tables. -/
def startResult (pendingContainers : Keeper PendingContainer) (cleanup : List CleanupContainer)
    (strictSuccess relaxedSuccess : Except DockerTestError (List RunningContainer)) :
    StartOutcome :=
  match strictSuccess, relaxedSuccess with
  | .error e, _ => .ok (.error (e, cleanup))
  | .ok _, .error e => .ok (.error (e, cleanup))
  | .ok strictRunning, .ok relaxedRunning =>
    (sortRunningContainersIntoInsertionOrder (strictRunning ++ relaxedRunning)
      (pendingContainers.kept.map PendingContainer.id)).map fun kept =>
        .ok ⟨pendingContainers.lookupCollisions, pendingContainers.lookupHandlers, kept⟩

def partitionPolicy (pending : List PendingContainer) :
    List PendingContainer × List PendingContainer :=
  pending.partition (·.startPolicy == .relaxed)

/-- The cleanup list of `start_containers`: the relaxed containers, then the strict ones. -/
def startCleanup (pending : List PendingContainer) : List CleanupContainer :=
  (partitionPolicy pending).1.map CleanupContainer.fromPending ++
    (partitionPolicy pending).2.map CleanupContainer.fromPending

/-- `start_containers`, with the relaxed tasks joined in spawn order. -/
def startContainers (s : Starter) (pendingContainers : Keeper PendingContainer) : StartOutcome :=
  let strictSuccess := startStrictContainers s.start (partitionPolicy pendingContainers.kept).2
  startResult pendingContainers (startCleanup pendingContainers.kept) strictSuccess
    (waitForRelaxedContainers ((partitionPolicy pendingContainers.kept).1.map s.task)
      (!strictSuccess.isOk))

/-! ### The loops in closed form -/

def firstStartError (start : PendingContainer → Except DockerTestError RunningContainer) :
    List PendingContainer → Option DockerTestError
  | [] => none
  | c :: cs =>
    match start c with
    | .ok _ => firstStartError start cs
    | .error e => some e

/-- The error `wait_for_relaxed_containers` records for a joined task. -/
def joinedError : JoinResult → Option DockerTestError
  | .ok (.ok _) => none
  | .ok (.error e) => some e
  | .error _ => some (.processing "join error gathering")

def joinedRunning : JoinResult → Option RunningContainer
  | .ok (.ok c) => some c
  | _ => none

theorem startStrictLoop_eq (start : PendingContainer → Except DockerTestError RunningContainer) :
    ∀ (l : List PendingContainer) (running : List RunningContainer),
    startStrictLoop start running l =
      match firstStartError start l with
      | some e => .error e
      | none => .ok (running ++ l.filterMap fun c => (start c).toOption)
  | [], _ => by simp [startStrictLoop, firstStartError]
  | c :: cs, running => by
    cases h : start c with
    | error e => simp [startStrictLoop, firstStartError, h]
    | ok r =>
      simp only [startStrictLoop, firstStartError, h, startStrictLoop_eq start cs]
      cases firstStartError start cs <;> simp [Except.toOption, h]

theorem gatherRelaxed_eq : ∀ (l : List JoinResult) (running : List RunningContainer)
    (firstError : Option DockerTestError),
    gatherRelaxed running firstError l =
      match firstError.or (l.findSome? joinedError) with
      | some e => .error e
      | none => .ok (running ++ l.filterMap joinedRunning)
  | [], _, firstError => by cases firstError <;> simp [gatherRelaxed]
  | .ok (.ok c) :: l, running, firstError => by
    simp [gatherRelaxed, gatherRelaxed_eq l, joinedError, joinedRunning]
  | .ok (.error e) :: l, running, firstError => by
    cases firstError <;> simp [gatherRelaxed, gatherRelaxed_eq l, joinedError]
  | .error _ :: l, running, firstError => by
    cases firstError <;> simp [gatherRelaxed, gatherRelaxed_eq l, joinedError]

/-- The error `start_containers` reports, if any: that of the first failing strict start, else
that of the first relaxed container, in declaration order, that failed to start or to join. -/
def firstStartPhaseError (s : Starter) (pending : List PendingContainer) :
    Option DockerTestError :=
  (firstStartError s.start (partitionPolicy pending).2).or
    (((partitionPolicy pending).1.map s.task).findSome? joinedError)

@[simp] theorem mem_partitionPolicy_fst {l : List PendingContainer} {p : PendingContainer} :
    p ∈ (partitionPolicy l).1 ↔ p ∈ l ∧ p.startPolicy = .relaxed := by
  simp [partitionPolicy]

@[simp] theorem mem_partitionPolicy_snd {l : List PendingContainer} {p : PendingContainer} :
    p ∈ (partitionPolicy l).2 ↔ p ∈ l ∧ p.startPolicy = .strict := by
  cases h : p.startPolicy <;> simp [partitionPolicy, h]

theorem firstStartError_eq_none_iff
    {start : PendingContainer → Except DockerTestError RunningContainer} :
    ∀ {l : List PendingContainer}, firstStartError start l = none ↔ ∀ c ∈ l, ∃ r, start c = .ok r
  | [] => by simp [firstStartError]
  | c :: cs => by
    cases h : start c <;> simp [firstStartError, h, firstStartError_eq_none_iff]

theorem joinedError_eq_none_iff {j : JoinResult} : joinedError j = none ↔ ∃ r, j = .ok (.ok r) := by
  rcases j with _ | _ | _ <;> simp [joinedError]

/-- **No error iff every start succeeds**, and every relaxed task is joined. -/
theorem firstStartPhaseError_eq_none_iff {s : Starter} {pending : List PendingContainer} :
    firstStartPhaseError s pending = none ↔
      ∀ p ∈ pending, (∃ r, s.start p = .ok r) ∧ (p.startPolicy = .relaxed → s.joinFails p = false) := by
  have htask : ∀ p, (∃ r, s.task p = .ok (.ok r)) ↔ s.joinFails p = false ∧ ∃ r, s.start p = .ok r := by
    intro p; unfold Starter.task; cases s.joinFails p <;> simp
  simp only [firstStartPhaseError, Option.or_eq_none, firstStartError_eq_none_iff,
    List.findSome?_eq_none_iff, List.forall_mem_map, joinedError_eq_none_iff, htask,
    mem_partitionPolicy_fst, mem_partitionPolicy_snd, and_imp]
  constructor
  · rintro ⟨hs, hr⟩ p hp
    cases hpol : p.startPolicy with
    | relaxed => exact ⟨(hr p hp hpol).2, fun _ => (hr p hp hpol).1⟩
    | strict => exact ⟨hs p hp hpol, fun h => nomatch h⟩
  · intro h
    exact ⟨fun c hc _ => (h c hc).1, fun p hp hpol => ⟨(h p hp).2 hpol, (h p hp).1⟩⟩

theorem startCleanup_perm (pending : List PendingContainer) :
    (startCleanup pending).Perm (pending.map CleanupContainer.fromPending) := by
  rw [startCleanup, ← List.map_append]
  simpa [partitionPolicy] using (List.filter_append_perm _ pending).map CleanupContainer.fromPending

theorem startContainers_of_error {s : Starter} {pendingContainers : Keeper PendingContainer}
    {e : DockerTestError} (h : firstStartPhaseError s pendingContainers.kept = some e) :
    startContainers s pendingContainers = .ok (.error (e, startCleanup pendingContainers.kept)) := by
  unfold firstStartPhaseError at h
  unfold startContainers startStrictContainers waitForRelaxedContainers
  rw [startStrictLoop_eq]
  cases hs : firstStartError s.start (partitionPolicy pendingContainers.kept).2 with
  | some e' => simp_all [startResult]
  | none =>
    simp only [hs, Option.none_or] at h
    simp [startResult, gatherRelaxed_eq, h, Except.isOk, Except.toBool]

theorem filterMap_start_ids {s : Starter} (hk : s.KeepsIds) :
    ∀ l : List PendingContainer, firstStartError s.start l = none →
      (l.filterMap fun c => (s.start c).toOption).map RunningContainer.id =
        l.map PendingContainer.id
  | [], _ => rfl
  | c :: cs, h => by
    cases hc : s.start c with
    | error e => simp [firstStartError, hc] at h
    | ok r =>
      simp only [firstStartError, hc] at h
      have ht : (s.start c).toOption = some r := by rw [hc]; rfl
      simp [ht, hk c r hc, filterMap_start_ids hk cs h]

theorem filterMap_joined_ids {s : Starter} (hk : s.KeepsIds) :
    ∀ l : List PendingContainer, (l.map s.task).findSome? joinedError = none →
      (l.filterMap (joinedRunning ∘ s.task)).map RunningContainer.id = l.map PendingContainer.id
  | [], _ => rfl
  | c :: cs, h => by
    cases ht : s.task c with
    | error _ => simp [ht, joinedError] at h
    | ok res =>
      cases res with
      | error e => simp [ht, joinedError] at h
      | ok r =>
        have hr : s.start c = .ok r := by
          unfold Starter.task at ht; split at ht <;> simp_all
        simp only [List.map_cons, List.findSome?_cons, ht, joinedError] at h
        simp [ht, joinedRunning, hk c r hr, filterMap_joined_ids hk cs h]

theorem partitionPolicy_ids_perm (pending : List PendingContainer) :
    ((partitionPolicy pending).2.map PendingContainer.id ++
      (partitionPolicy pending).1.map PendingContainer.id).Perm (pending.map PendingContainer.id) := by
  rw [← List.map_append]
  refine List.Perm.map _ (List.perm_append_comm.trans ?_)
  simpa [partitionPolicy] using List.filter_append_perm _ pending

theorem startContainers_of_none {s : Starter} {pendingContainers : Keeper PendingContainer}
    (h : firstStartPhaseError s pendingContainers.kept = none) :
    startContainers s pendingContainers =
      (sortRunningContainersIntoInsertionOrder
        ((partitionPolicy pendingContainers.kept).2.filterMap (fun c => (s.start c).toOption) ++
          (partitionPolicy pendingContainers.kept).1.filterMap (joinedRunning ∘ s.task))
        (pendingContainers.kept.map PendingContainer.id)).map fun kept =>
          .ok ⟨pendingContainers.lookupCollisions, pendingContainers.lookupHandlers, kept⟩ := by
  simp only [firstStartPhaseError, Option.or_eq_none] at h
  simp only [startContainers, startStrictContainers, waitForRelaxedContainers, startStrictLoop_eq,
    gatherRelaxed_eq, h.1, h.2, Except.isOk, Except.toBool, Bool.not_true, Bool.false_eq_true,
    ite_false, Option.none_or, List.nil_append, startResult, List.filterMap_map]

theorem startContainers_eq_error {s : Starter} {pendingContainers : Keeper PendingContainer}
    {e : DockerTestError} {cleanup : List CleanupContainer}
    (h : startContainers s pendingContainers = .ok (.error (e, cleanup))) :
    firstStartPhaseError s pendingContainers.kept = some e ∧
      cleanup = startCleanup pendingContainers.kept := by
  cases he : firstStartPhaseError s pendingContainers.kept with
  | some e' => rw [startContainers_of_error he] at h; cases h; exact ⟨rfl, rfl⟩
  | none =>
    rw [startContainers_of_none he] at h
    revert h
    cases sortRunningContainersIntoInsertionOrder _ _ <;> simp [Except.map]

theorem startContainers_of_ok {s : Starter} (hk : s.KeepsIds)
    {pendingContainers : Keeper PendingContainer}
    (h : firstStartPhaseError s pendingContainers.kept = none) :
    ∃ kept, startContainers s pendingContainers =
        .ok (.ok ⟨pendingContainers.lookupCollisions, pendingContainers.lookupHandlers, kept⟩) ∧
      (kept.map RunningContainer.id).Perm (pendingContainers.kept.map PendingContainer.id) ∧
      ((pendingContainers.kept.map PendingContainer.id).Nodup →
        kept.map RunningContainer.id = pendingContainers.kept.map PendingContainer.id) := by
  rw [startContainers_of_none h]
  simp only [firstStartPhaseError, Option.or_eq_none] at h
  have hperm := partitionPolicy_ids_perm pendingContainers.kept
  rw [← filterMap_start_ids hk _ h.1, ← filterMap_joined_ids hk _ h.2, ← List.map_append] at hperm
  have hsort := sortRunningContainers_of_mem
    (fun c hc => hperm.subset (List.mem_map_of_mem RunningContainer.id hc))
  rw [hsort]
  refine ⟨_, rfl, ((List.perm_insertionSort _ _).map _).trans hperm, fun hn => ?_⟩
  obtain ⟨sorted, hs, -, hids⟩ := sortRunningContainers_ids hn hperm
  rw [hsort] at hs
  cases hs
  exact hids

theorem startContainers_eq_ok {s : Starter} (hk : s.KeepsIds)
    {pendingContainers : Keeper PendingContainer}
    (hn : (pendingContainers.kept.map PendingContainer.id).Nodup) {running : Keeper RunningContainer}
    (h : startContainers s pendingContainers = .ok (.ok running)) :
    running.kept.map RunningContainer.id = pendingContainers.kept.map PendingContainer.id ∧
      running.lookupHandlers = pendingContainers.lookupHandlers ∧
      running.lookupCollisions = pendingContainers.lookupCollisions := by
  cases he : firstStartPhaseError s pendingContainers.kept with
  | some e => rw [startContainers_of_error he] at h; cases h
  | none =>
    obtain ⟨kept, hok, -, hids⟩ := startContainers_of_ok hk he
    rw [hok] at h
    cases h
    exact ⟨hids hn, rfl, rfl⟩

theorem firstStartPhaseError_of_ok {s : Starter} {pendingContainers : Keeper PendingContainer}
    {keeper : Keeper RunningContainer} (h : startContainers s pendingContainers = .ok (.ok keeper)) :
    firstStartPhaseError s pendingContainers.kept = none := by
  cases he : firstStartPhaseError s pendingContainers.kept with
  | none => rfl
  | some e => simp [startContainers_of_error he] at h

theorem startContainers_ok_iff {s : Starter} (hk : s.KeepsIds)
    {pendingContainers : Keeper PendingContainer} :
    (∃ keeper, startContainers s pendingContainers = .ok (.ok keeper)) ↔
      firstStartPhaseError s pendingContainers.kept = none := by
  constructor
  · rintro ⟨keeper, hok⟩
    exact firstStartPhaseError_of_ok hok
  · intro he
    obtain ⟨kept, hok, -⟩ := startContainers_of_ok hk he
    exact ⟨_, hok⟩

theorem startContainers_error_iff {s : Starter} {pendingContainers : Keeper PendingContainer}
    {e : DockerTestError} :
    (∃ cleanup, startContainers s pendingContainers = .ok (.error (e, cleanup))) ↔
      firstStartPhaseError s pendingContainers.kept = some e :=
  ⟨fun ⟨_, h⟩ => (startContainers_eq_error h).1, fun he => ⟨_, startContainers_of_error he⟩⟩

/-- **`start_containers` never panics** when the readiness strategies keep ids: it fails with
its whole cleanup list, or returns running containers with the pending containers' ids, up to
order, under the original tables. -/
theorem startContainers_cases {s : Starter} (hk : s.KeepsIds)
    (pendingContainers : Keeper PendingContainer) :
    (∃ e, startContainers s pendingContainers =
      .ok (.error (e, startCleanup pendingContainers.kept))) ∨
    (∃ kept, startContainers s pendingContainers =
        .ok (.ok ⟨pendingContainers.lookupCollisions, pendingContainers.lookupHandlers, kept⟩) ∧
      (kept.map RunningContainer.id).Perm (pendingContainers.kept.map PendingContainer.id)) := by
  cases he : firstStartPhaseError s pendingContainers.kept with
  | some e => exact .inl ⟨e, startContainers_of_error he⟩
  | none =>
    obtain ⟨kept, hok, hp, -⟩ := startContainers_of_ok hk he
    exact .inr ⟨kept, hok, hp⟩

end Dockertest

import Dockertest.Runner.Outcomes

/-!
# How a run ends

`src/runner.rs`, `Runner::run_impl`, over every runner and every `World`.  The setup (the
network, the creations, the starts, the inspections) either goes through, or stops with an
error or an unwinding, after which it may have invoked one teardown as its last event.  From
it, a run ends in one of six ways (`Ending`): it stops during the setup and tears nothing
down; the setup fails and tears down; the test closure panics when called, and the run unwinds
with no logs and no teardown; handling the logs fails, with no teardown; or the logs are
handled and teardown runs, for a passed test when the test body's future returned, after which
the run returns `Ok`, and for a failed one when it panicked or was cancelled, after which the
run unwinds.  The test body is judged on the operations the run handed it (`handedOps`).

* `runImpl_ending`: **every run ends in one of these six ways**; in particular a run invokes
  teardown at most once, as its last event (`Ending.notTeardown_dropLast`);
* `runImpl_teardown_ids`: **a teardown is of exactly the containers the run created**, with
  the external containers after them exactly when the start went through, when the readiness
  strategies keep the ids of the containers they start;
* `handleLogs_spec`: **`handle_logs` handles the logs of the containers whose policy asks for
  them, in order, up to the first failure**, which it reports naming the container.

Each stage of the setup says once what it can tear down (`Stage.SetupShape`); the setup's
shape is assembled from them by `Stage.SetupShape.andThen`.
-/

namespace Dockertest

/-- An event of the setup: creating or joining the network, a creation, an inspection. -/
def RunEvent.Setup : RunEvent → Prop
  | .createNetwork _ | .connectNetwork _ _ | .create _ | .inspect _ => True
  | .testBody | .handleLog _ | .teardown _ _ => False

theorem RunEvent.Setup.notTeardown {ev : RunEvent} (h : ev.Setup) : ev.NotTeardown := by
  cases ev <;> simp_all [RunEvent.Setup, RunEvent.NotTeardown]

/-- An event only a run whose start went through has: an inspection, or the test body. -/
def RunEvent.afterStart : RunEvent → Bool
  | .inspect _ | .testBody => true
  | _ => false

namespace Stage

variable {α β : Type} {s : Stage α} {f : α → Stage β} {P Q : List CleanupContainer → Prop}

/-- A stage of the setup: its events are setup events, after which, when it fails, there may
be one teardown, of a cleanup list that satisfies `P`. -/
def SetupShape (P : List CleanupContainer → Prop) (s : Stage α) : Prop :=
  (∀ ev ∈ s.events, ev.Setup) ∨
    ∃ pre cleanup e, s.events = pre ++ [.teardown cleanup true] ∧ (∀ ev ∈ pre, ev.Setup) ∧
      s.result = .ok (.error e) ∧ P cleanup

theorem SetupShape.mono (h : s.SetupShape P) (hPQ : ∀ c, P c → Q c) : s.SetupShape Q := by
  rcases h with h | ⟨pre, c, e, hev, hpre, hr, hc⟩
  exacts [.inl h, .inr ⟨pre, c, e, hev, hpre, hr, hPQ c hc⟩]

theorem SetupShape.of_ok {a : α} (h : s.SetupShape P) (ha : s.result = .ok (.ok a)) :
    ∀ ev ∈ s.events, ev.Setup := by
  rcases h with h | ⟨_, _, _, -, -, hr, -⟩
  · exact h
  · rw [ha] at hr; cases hr

/-- **Stages of the setup compose**: the next stage runs only on a stage that went through. -/
theorem SetupShape.andThen (hs : s.SetupShape P)
    (hf : ∀ a, s.result = .ok (.ok a) → (f a).SetupShape P) : (s.andThen f).SetupShape P := by
  cases hr : s.result with
  | error p =>
    rw [andThen_of_panic hr]
    rcases hs with hs | ⟨_, _, _, -, -, h, -⟩
    · exact .inl hs
    · rw [hr] at h; cases h
  | ok x =>
    cases x with
    | error e =>
      rw [andThen_of_error hr]
      rcases hs with hs | ⟨pre, c, e', hev, hpre, h, hc⟩
      · exact .inl hs
      · rw [hr] at h
        cases h
        exact .inr ⟨pre, c, e, hev, hpre, rfl, hc⟩
    | ok a =>
      rw [andThen_of_ok hr]
      have hsetup := hs.of_ok hr
      rcases hf a hr with h | ⟨pre, c, e, hev, hpre, h, hc⟩
      · refine .inl fun ev hev => ?_
        rcases List.mem_append.1 hev with hev | hev
        exacts [hsetup ev hev, h ev hev]
      · refine .inr ⟨s.events ++ pre, c, e, by simp [hev], fun ev hev => ?_, h, hc⟩
        rcases List.mem_append.1 hev with hev | hev
        exacts [hsetup ev hev, hpre ev hev]

theorem setupShape_pure (a : α) : (pure a).SetupShape P := .inl (by simp [pure])

theorem events_andThen (s : Stage α) (f : α → Stage β) :
    (s.andThen f).events = s.events ∨ ∃ a, (s.andThen f).events = s.events ++ (f a).events := by
  unfold Stage.andThen
  split
  exacts [.inl rfl, .inl rfl, .inr ⟨_, rfl⟩]

theorem events_andThen_of_nil (s : Stage α) (f : α → Stage β) (hf : ∀ a, (f a).events = []) :
    (s.andThen f).events = s.events := by
  rcases events_andThen s f with h | ⟨a, h⟩ <;> simp [h, hf]

end Stage

namespace Runner

variable {r : Runner} {w : World} {compositions : Keeper Composition}

/-! ### What each stage of the setup tears down -/

theorem networkStage_setupShape {P : List CleanupContainer → Prop} :
    (r.networkStage w).SetupShape P := by
  refine .inl ?_
  unfold networkStage createNetwork
  split
  · split
    · simp [RunEvent.Setup]
    · split <;> simp [RunEvent.Setup]
  · simp [Stage.pure]

theorem map_create_setup (cs : List Composition) : ∀ ev ∈ cs.map RunEvent.create, ev.Setup := by
  simp [RunEvent.Setup]

theorem createStage_setupShape : (createStage w compositions).SetupShape (· =
    ((createContainers w.create compositions).2.filterMap (createdPending ∘ w.create)).map
      CleanupContainer.fromPending) := by
  cases hc : (createContainers w.create compositions).1 with
  | error ec =>
    obtain ⟨e, cleanup⟩ := ec
    refine .inr ⟨(createContainers w.create compositions).2.map .create, cleanup, e, ?_,
      map_create_setup _, ?_, createContainers_error_cleanup _ hc⟩ <;> simp [createStage, hc]
  | ok pending => exact .inl (by simpa [createStage, hc] using map_create_setup _)

theorem startStage_setupShape {pending : Keeper PendingContainer} :
    (startStage w pending).SetupShape (· = startCleanup pending.kept) := by
  unfold startStage
  split
  · exact .inl (by simp)
  · rename_i e cleanup h
    exact .inr ⟨[], cleanup, e, rfl, by simp, rfl, (startContainers_eq_error h).2⟩
  · exact Stage.setupShape_pure _

theorem inspectContainers_setupShape (cleanup : List CleanupContainer) :
    ∀ l : List RunningContainer, (inspectContainers w cleanup l).SetupShape (· = cleanup)
  | [] => Stage.setupShape_pure _
  | c :: cs => by
    have ih := inspectContainers_setupShape cleanup cs
    unfold inspectContainers
    split
    · exact ih
    · split
      · exact .inr ⟨[.inspect c.id], cleanup, _, rfl, by simp [RunEvent.Setup], rfl, rfl⟩
      · exact .inl (by simp [RunEvent.Setup])
      · exact .inr ⟨[.inspect c.id], cleanup, _, rfl, by simp [RunEvent.Setup], rfl, rfl⟩
      · exact Stage.SetupShape.andThen (.inl (by simp [RunEvent.Setup])) fun _ _ => ih

theorem inspectStage_setupShape {running : Keeper RunningContainer} :
    (inspectStage w running).SetupShape
      (· = (running.kept ++ w.externalContainers).map CleanupContainer.fromRunning) :=
  (inspectContainers_setupShape _ _).andThen fun _ _ => Stage.setupShape_pure _

/-- **The setup tears down at most once, last, and only when it fails.** -/
theorem setup_setupShape : (r.setup w compositions).SetupShape fun _ => True :=
  networkStage_setupShape.andThen fun _ _ =>
    (createStage_setupShape.mono fun _ _ => trivial).andThen fun _ _ =>
      (startStage_setupShape.mono fun _ _ => trivial).andThen fun _ _ =>
        inspectStage_setupShape.mono fun _ _ => trivial

/-! ### Handling the logs -/

/-- The containers whose logs `handle_logs` handles, in order, with their log options: those
with log options whose policy is `Always`, or `OnError` when the test failed. -/
def logTargets (testFailed : Bool) (cleanup : List CleanupContainer) :
    List (CleanupContainer × LogOptions) :=
  cleanup.filterMap fun c => c.logOptions.bind fun o =>
    if o.policy = .always ∨ testFailed = true then some (c, o) else none

/-- `handle_log` on a container, with the streams its log source names. -/
def handleTarget (w : World) (t : CleanupContainer × LogOptions) : Except String Unit :=
  w.handleLog t.1 t.2.action (shouldLogStderr t.2.source) (shouldLogStdout t.2.source)

theorem logTargets_cons (testFailed : Bool) (c : CleanupContainer) (cs : List CleanupContainer) :
    logTargets testFailed (c :: cs) =
      ((c.logOptions.bind fun o => if o.policy = .always ∨ testFailed = true then some o else none).map
        (c, ·)).toList ++ logTargets testFailed cs := by
  cases ho : c.logOptions with
  | none => simp [logTargets, ho]
  | some o => by_cases h : o.policy = .always ∨ testFailed = true <;> simp [logTargets, ho, h]

theorem handleLogs_cons {testFailed : Bool} {c : CleanupContainer} {cs : List CleanupContainer} :
    handleLogs w testFailed (c :: cs) =
      match c.logOptions.bind fun o => if o.policy = .always ∨ testFailed = true then some o else none with
      | none => handleLogs w testFailed cs
      | some o =>
        match handleTarget w (c, o) with
        | .error e =>
          ⟨.ok (.error (.logWriteError ("unable to handle logs for: " ++ c.name ++ ": " ++ e))),
            [.handleLog c.name]⟩
        | .ok () => (⟨.ok (.ok ()), [.handleLog c.name]⟩ : Stage Unit).andThen fun () =>
          handleLogs w testFailed cs := by
  cases ho : c.logOptions with
  | none => simp [handleLogs, ho]
  | some o =>
    obtain ⟨action, policy, source⟩ := o
    cases policy <;> cases testFailed <;> simp only [handleLogs, ho] <;> rfl

/-- **What handling the logs does**: it calls `handle_log` on the targets in order, with the
streams their sources name.  Either every call goes through, and so does `handle_logs`, having
handled every target; or it stops at the first call that fails, and returns its error, naming
the container. -/
theorem handleLogs_spec (testFailed : Bool) : ∀ cleanup : List CleanupContainer,
    ((∀ t ∈ logTargets testFailed cleanup, handleTarget w t = .ok ()) ∧
      handleLogs w testFailed cleanup =
        ⟨.ok (.ok ()), (logTargets testFailed cleanup).map (RunEvent.handleLog ·.1.name)⟩) ∨
    ∃ pre t post e, logTargets testFailed cleanup = pre ++ t :: post ∧
      (∀ t' ∈ pre, handleTarget w t' = .ok ()) ∧ handleTarget w t = .error e ∧
      handleLogs w testFailed cleanup =
        ⟨.ok (.error (.logWriteError ("unable to handle logs for: " ++ t.1.name ++ ": " ++ e))),
          (pre ++ [t]).map (RunEvent.handleLog ·.1.name)⟩
  | [] => .inl ⟨by simp [logTargets], rfl⟩
  | c :: cs => by
    have ih := handleLogs_spec testFailed cs
    rw [handleLogs_cons, logTargets_cons]
    cases c.logOptions.bind fun o => if o.policy = .always ∨ testFailed = true then some o else none with
    | none => exact ih
    | some o =>
      dsimp only
      cases hc : handleTarget w (c, o) with
      | error e => exact .inr ⟨[], (c, o), _, e, rfl, by simp, hc, rfl⟩
      | ok u =>
        rw [Stage.andThen_of_ok rfl]
        rcases ih with ⟨hall, hh⟩ | ⟨pre, t, post, e, hts, hpre, he, hh⟩
        · exact .inl ⟨by simpa [hc] using hall, by rw [hh]; rfl⟩
        · exact .inr ⟨(c, o) :: pre, t, post, e, by rw [hts]; rfl, by simpa [hc] using hpre, he,
            by rw [hh]; rfl⟩

/-- A container whose policy is `OnError` is skipped when the test passed. -/
example : (handleLogs calmWorld false [⟨"a-id", false, "a", some ⟨.forward, .onError, .both⟩⟩]).events =
    [] := rfl

/-! ### The six endings -/

theorem handleLogs_logged (testFailed : Bool) : ∀ cleanup : List CleanupContainer,
    ∃ logged : List String, (handleLogs w testFailed cleanup).events = logged.map .handleLog ∧
      ((handleLogs w testFailed cleanup).result = .ok (.ok ()) ∨
        logged ≠ [] ∧ ∃ msg, (handleLogs w testFailed cleanup).result = .ok (.error (.logWriteError msg)))
  | [] => ⟨[], rfl, .inl rfl⟩
  | c :: cs => by
    obtain ⟨logged, hev, hr⟩ := handleLogs_logged testFailed cs
    rw [handleLogs_cons]
    cases c.logOptions.bind fun o => if o.policy = .always ∨ testFailed = true then some o else none with
    | none => exact ⟨logged, hev, hr⟩
    | some o =>
      dsimp only
      cases handleTarget w (c, o) with
      | error e => exact ⟨[c.name], rfl, .inr ⟨by simp, _, rfl⟩⟩
      | ok u =>
        rw [Stage.andThen_of_ok rfl]
        refine ⟨c.name :: logged, by rw [hev]; rfl, ?_⟩
        rcases hr with hr | ⟨-, msg, hr⟩
        exacts [.inl hr, .inr ⟨by simp, msg, hr⟩]

/-- The operations `run_impl` hands to the test body, once the setup went through. -/
def handedOps (r : Runner) (w : World) : Option DockerOperations :=
  match (r.prepare w).2.result with
  | .ok (.ok compositions) =>
    match ((r.prepare w).1.setup w compositions).result with
    | .ok (.ok x) => some ⟨x.1⟩
    | _ => none
  | _ => none

/-- How a run of `run_impl` ends, with its events and its result; `ops` are the operations it
handed to the test body, if any, and `w.test ops` what the test body did with them. -/
inductive Ending (w : World) : Option DockerOperations → Stage Unit → Prop
  /-- It stops during the setup, with an error or an unwinding, and tears nothing down. -/
  | stopped {pre : List RunEvent} {result : Except String (Except DockerTestError Unit)} :
      (∀ ev ∈ pre, ev.Setup) → result ≠ .ok (.ok ()) → Ending w none ⟨result, pre⟩
  /-- The setup fails and tears down. -/
  | setupFailed {pre : List RunEvent} {cleanup : List CleanupContainer} {e : DockerTestError} :
      (∀ ev ∈ pre, ev.Setup) → Ending w none ⟨.ok (.error e), pre ++ [.teardown cleanup true]⟩
  /-- The test closure panics when called, and the run unwinds at once: no logs, no
  teardown. -/
  | testPanicked {pre : List RunEvent} {ops : DockerOperations} {payload : String} :
      (∀ ev ∈ pre, ev.Setup) → w.test ops = .error payload →
      Ending w (some ops) ⟨.error payload, pre ++ [.testBody]⟩
  /-- The test body's future ends; handling the logs of a container fails, and the run returns
  that error without teardown. -/
  | logsFailed {pre : List RunEvent} {ops : DockerOperations} {result : Except (Option String) Unit}
      {logged : List String} {msg : String} :
      (∀ ev ∈ pre, ev.Setup) → w.test ops = .ok result → logged ≠ [] →
      Ending w (some ops) ⟨.ok (.error (.logWriteError msg)), pre ++ .testBody :: logged.map .handleLog⟩
  /-- The test body passes, the logs are handled, teardown runs for a passed test and the run
  returns `Ok`. -/
  | passed {pre : List RunEvent} {ops : DockerOperations} {logged : List String}
      {cleanup : List CleanupContainer} :
      (∀ ev ∈ pre, ev.Setup) → w.test ops = .ok (.ok ()) →
      Ending w (some ops)
        ⟨.ok (.ok ()), pre ++ .testBody :: (logged.map .handleLog ++ [.teardown cleanup false])⟩
  /-- The test body's future panics or is cancelled, the logs are handled, teardown runs for a
  failed test and the run unwinds. -/
  | failed {pre : List RunEvent} {ops : DockerOperations} {failure : Option String}
      {logged : List String} {cleanup : List CleanupContainer} :
      (∀ ev ∈ pre, ev.Setup) → w.test ops = .ok (.error failure) →
      Ending w (some ops) ⟨.error (failure.getD "test future cancelled"),
        pre ++ .testBody :: (logged.map .handleLog ++ [.teardown cleanup true])⟩

theorem notTeardown_testBody {pre : List RunEvent} (hpre : ∀ ev ∈ pre, ev.Setup)
    (logged : List String) : ∀ ev ∈ pre ++ .testBody :: logged.map .handleLog, ev.NotTeardown := by
  simp only [List.mem_append, List.mem_cons, List.mem_map]
  rintro ev (hev | rfl | ⟨_, -, rfl⟩)
  exacts [(hpre ev hev).notTeardown, trivial, trivial]

/-- **Teardown comes at most once, last**: in every ending, every event but the last is other
than teardown. -/
theorem Ending.notTeardown_dropLast {ops : Option DockerOperations} {s : Stage Unit}
    (h : Ending w ops s) : ∀ ev ∈ s.events.dropLast, ev.NotTeardown := by
  cases h with
  | stopped hpre => exact fun ev hev => (hpre ev (List.dropLast_subset _ hev)).notTeardown
  | setupFailed hpre | testPanicked hpre => simpa using fun ev hev => (hpre ev hev).notTeardown
  | logsFailed hpre => exact fun ev hev => notTeardown_testBody hpre _ ev (List.dropLast_subset _ hev)
  | passed hpre | failed hpre =>
    simpa only [← List.cons_append, ← List.append_assoc, List.dropLast_concat] using
      notTeardown_testBody hpre _

theorem ending_afterTest {pre : List RunEvent} (hpre : ∀ ev ∈ pre, ev.Setup) {ops : DockerOperations}
    {result : Except (Option String) Unit} (ht : w.test ops = .ok result)
    (cleanup : List CleanupContainer) :
    Ending w (some ops)
      ⟨(afterTest w cleanup result).result, pre ++ .testBody :: (afterTest w cleanup result).events⟩ := by
  obtain ⟨logged, hev, hr⟩ := handleLogs_logged (w := w) (!result.isOk) cleanup
  rcases hr with hr | ⟨hne, msg, hr⟩
  · simp only [afterTest, Stage.andThen_of_ok hr, hev]
    rcases result with (_ | payload) | ⟨⟩
    · exact .failed hpre ht
    · exact .failed hpre ht
    · exact .passed hpre ht
  · simp only [afterTest, Stage.andThen_of_error hr, hev]
    exact .logsFailed hpre ht hne

/-- **How a run ends.**  Every run of `run_impl` ends in one of the six ways of `Ending`, with
the operations it handed to the test body: it stops during the setup without teardown; the
setup fails and tears down; the test closure panics when called, without logs or teardown;
handling the logs fails, without teardown; or the test body passes, or fails, and the run
handles the logs, tears down for a passed or a failed test, and returns `Ok` or unwinds. -/
theorem runImpl_ending (r : Runner) (w : World) : Ending w (r.handedOps w) (r.runImpl w) := by
  unfold runImpl
  rcases hp : (r.prepare w).2.result with p | e | compositions
  · rw [Stage.andThen_of_panic hp, show r.handedOps w = none by simp [handedOps, hp]]
    exact .stopped (by simp) (by simp)
  · rw [Stage.andThen_of_error hp, show r.handedOps w = none by simp [handedOps, hp]]
    exact .stopped (by simp) (by simp)
  rw [Stage.andThen_of_ok hp, prepare_events, List.nil_append]
  have hshape : ((r.prepare w).1.setup w compositions).SetupShape fun _ => True := setup_setupShape
  rcases hs : ((r.prepare w).1.setup w compositions).result with p | e | x
  case error =>
    rw [Stage.andThen_of_panic hs, show r.handedOps w = none by simp [handedOps, hp, hs]]
    rcases hshape with h | ⟨_, _, _, -, -, h, -⟩
    · exact .stopped h (by simp)
    · rw [hs] at h; cases h
  case ok.error =>
    rw [Stage.andThen_of_error hs, show r.handedOps w = none by simp [handedOps, hp, hs]]
    rcases hshape with h | ⟨pre, c, e', hev, hpre, -, -⟩
    · exact .stopped h (by simp)
    · rw [hev]; exact .setupFailed hpre
  case ok.ok =>
    rw [Stage.andThen_of_ok hs, Stage.andThen_of_ok rfl,
      show r.handedOps w = some ⟨x.1⟩ by simp [handedOps, hp, hs]]
    rcases ht : w.test ⟨x.1⟩ with p | result
    · simpa [ht] using Ending.testPanicked (hshape.of_ok hs) ht
    · simpa [ht] using ending_afterTest (hshape.of_ok hs) ht x.2

/-! ### What a teardown is of -/

theorem createdIds_andThen {α β : Type} {s : Stage α} {f : α → Stage β}
    (hf : ∀ a, createdIds w (f a).events = []) :
    createdIds w (s.andThen f).events = createdIds w s.events := by
  rcases Stage.events_andThen s f with h | ⟨a, h⟩ <;> simp [h, hf]

@[simp] theorem createdIds_startStage {pending : Keeper PendingContainer} :
    createdIds w (startStage w pending).events = [] := by
  unfold startStage; split <;> rfl

theorem createdIds_inspectContainers (cleanup : List CleanupContainer) :
    ∀ l : List RunningContainer, createdIds w (inspectContainers w cleanup l).events = []
  | [] => rfl
  | c :: cs => by
    unfold inspectContainers
    split
    · exact createdIds_inspectContainers cleanup cs
    · split
      · rfl
      · rfl
      · rfl
      · exact (createdIds_andThen fun _ => createdIds_inspectContainers cleanup cs).trans rfl

@[simp] theorem createdIds_inspectStage {running : Keeper RunningContainer} :
    createdIds w (inspectStage w running).events = [] := by
  unfold inspectStage
  refine (createdIds_andThen fun _ => ?_).trans (createdIds_inspectContainers _ _)
  rfl

/-- The ids of the containers created from `compositions`. -/
def createdFrom (w : World) (compositions : Keeper Composition) : List String :=
  ((createContainers w.create compositions).2.filterMap (createdPending ∘ w.create)).map
    PendingContainer.id

theorem createdIds_setup (hn : (r.networkStage w).result = .ok (.ok ())) :
    createdIds w (r.setup w compositions).events = createdFrom w compositions := by
  have hcreate : createdIds w (createStage w compositions).events = createdFrom w compositions := by
    cases hc : (createContainers w.create compositions).1 <;>
      simp [createStage, hc, createdIds_map_create, createdFrom]
  unfold setup
  rw [Stage.andThen_of_ok hn, createdIds_append, createdIds_of_plain networkStage_plain,
    List.nil_append, createdIds_andThen fun _ =>
      (createdIds_andThen fun _ => createdIds_inspectStage).trans createdIds_startStage, hcreate]

theorem networkStage_ok_of_setup (h : (∃ cleanup testFailed,
      .teardown cleanup testFailed ∈ (r.setup w compositions).events) ∨
      ∃ x, (r.setup w compositions).result = .ok (.ok x)) :
    (r.networkStage w).result = .ok (.ok ()) := by
  obtain ⟨y, hy⟩ := @networkStage_result r w
  rcases y with e | ⟨⟩
  · have hs : r.setup w compositions = ⟨.ok (.error e), (r.networkStage w).events⟩ := by
      unfold setup; rw [Stage.andThen_of_error hy]
    rw [hs] at h
    rcases h with ⟨cleanup, testFailed, h⟩ | ⟨x, h⟩
    · simpa [RunEvent.Plain] using networkStage_plain _ h
    · cases h
  · exact hy

theorem startStage_ids (hk : w.starter.KeepsIds) {pending : Keeper PendingContainer}
    {running : Keeper RunningContainer}
    (hc : (createStage w compositions).result = .ok (.ok pending))
    (hs : (startStage w pending).result = .ok (.ok running)) :
    (running.kept.map RunningContainer.id).Perm (createdFrom w compositions) := by
  have hpending := createContainers_ok_kept _ (createStage_ok hc)
  rcases startContainers_cases hk pending with ⟨e, he⟩ | ⟨kept, hok, hperm⟩
  · rw [startStage_ok hs] at he; cases he
  · rw [startStage_ok hs] at hok
    cases hok
    rwa [hpending] at hperm

/-- The cleanup lists the setup hands to teardown: the created containers, and the external
containers after them once the start went through, up to order. -/
def SetupCleanup (w : World) (compositions : Keeper Composition) (started : Bool)
    (cleanup : List CleanupContainer) : Prop :=
  (cleanup.map CleanupContainer.id).Perm (createdFrom w compositions ++
    if started then w.externalContainers.map RunningContainer.id else [])

theorem afterStart_networkStage : (r.networkStage w).events.any RunEvent.afterStart = false := by
  unfold networkStage createNetwork
  split
  · split
    · rfl
    · split <;> rfl
  · rfl

theorem afterStart_map_create (cs : List Composition) :
    (cs.map RunEvent.create).any RunEvent.afterStart = false := by
  simp [RunEvent.afterStart]

theorem inspectContainers_events (cleanup : List CleanupContainer) :
    ∀ l : List RunningContainer, (inspectContainers w cleanup l).events = [] ∨
      ∃ id rest, (inspectContainers w cleanup l).events = .inspect id :: rest
  | [] => .inl rfl
  | c :: cs => by
    unfold inspectContainers
    split
    · exact inspectContainers_events cleanup cs
    · refine .inr ⟨c.id, ?_⟩
      split
      · exact ⟨_, rfl⟩
      · exact ⟨_, rfl⟩
      · exact ⟨_, rfl⟩
      · exact ⟨_, by rw [Stage.andThen_of_ok rfl]; rfl⟩

theorem afterStart_inspectStage {running : Keeper RunningContainer} {cleanup : List CleanupContainer}
    {testFailed : Bool} (h : .teardown cleanup testFailed ∈ (inspectStage w running).events) :
    (inspectStage w running).events.any RunEvent.afterStart = true := by
  unfold inspectStage at h ⊢
  rw [Stage.events_andThen_of_nil _ _ fun _ => rfl] at h ⊢
  rcases inspectContainers_events (w := w) ((running.kept ++ w.externalContainers).map
      CleanupContainer.fromRunning) (running.kept ++ w.externalContainers) with
    he | ⟨id, rest, he⟩ <;> rw [he] at h ⊢
  · cases h
  · rfl

theorem teardown_mem_setup {X : List RunEvent} {cleanup : List CleanupContainer} {testFailed : Bool}
    (h : .teardown cleanup testFailed ∈ (r.networkStage w).events ++
      ((createContainers w.create compositions).2.map RunEvent.create ++ X)) :
    .teardown cleanup testFailed ∈ X ∧
      ((r.networkStage w).events ++
        ((createContainers w.create compositions).2.map RunEvent.create ++ X)).any
          RunEvent.afterStart = X.any RunEvent.afterStart := by
  refine ⟨?_, by simp only [List.any_append, afterStart_networkStage, afterStart_map_create,
    Bool.false_or]⟩
  simp only [List.mem_append, List.mem_map] at h
  rcases h with h | ⟨_, -, h⟩ | h
  · exact (networkStage_plain _ h).elim
  · cases h
  · exact h

theorem setup_ok_cleanup (hk : w.starter.KeepsIds) {running : Keeper RunningContainer}
    {cleanup : List CleanupContainer} (hs : (r.setup w compositions).result = .ok (.ok (running, cleanup))) :
    (cleanup.map CleanupContainer.id).Perm
      (createdFrom w compositions ++ w.externalContainers.map RunningContainer.id) := by
  unfold setup at hs
  obtain ⟨⟨⟩, -, h⟩ := Stage.andThen_result_eq_ok.1 hs
  obtain ⟨pending, hc, h⟩ := Stage.andThen_result_eq_ok.1 h
  obtain ⟨started, hst, hin⟩ := Stage.andThen_result_eq_ok.1 h
  unfold inspectStage at hin
  obtain ⟨⟨⟩, -, hin⟩ := Stage.andThen_result_eq_ok.1 hin
  simp only [Stage.pure, Except.ok.injEq, Prod.mk.injEq] at hin
  rw [← hin.2, CleanupContainer.map_fromRunning_id, List.map_append]
  exact (startStage_ids hk hc hst).append_right _

theorem setup_teardown_cleanup (hk : w.starter.KeepsIds) {cleanup : List CleanupContainer}
    {testFailed : Bool} (h : .teardown cleanup testFailed ∈ (r.setup w compositions).events) :
    SetupCleanup w compositions ((r.setup w compositions).events.any RunEvent.afterStart) cleanup ∧
      createdIds w (r.setup w compositions).events = createdFrom w compositions := by
  have hn := networkStage_ok_of_setup (.inl ⟨_, _, h⟩)
  refine ⟨?_, createdIds_setup hn⟩
  cases hc : (createContainers w.create compositions).1 with
  | error ec =>
    obtain ⟨e, c⟩ := ec
    rw [setup_of_create_error hn hc] at h ⊢
    obtain ⟨h, hany⟩ := teardown_mem_setup h
    obtain ⟨⟩ := List.mem_singleton.1 h
    rw [hany, SetupCleanup, createContainers_error_cleanup _ hc, CleanupContainer.map_fromPending_id]
    simp [RunEvent.afterStart, createdFrom]
  | ok pending =>
    have hpending := createContainers_ok_kept _ hc
    rcases startContainers_cases hk pending with ⟨e, he⟩ | ⟨kept, hok, hperm⟩
    · rw [setup_of_start_error hn hc he] at h ⊢
      obtain ⟨h, hany⟩ := teardown_mem_setup h
      obtain ⟨⟩ := List.mem_singleton.1 h
      rw [hany, SetupCleanup]
      simpa [RunEvent.afterStart, CleanupContainer.map_fromPending_id, hpending, createdFrom] using
        (startCleanup_perm pending.kept).map CleanupContainer.id
    · rw [setup_of_start_ok hn hc hok] at h ⊢
      obtain ⟨h, hany⟩ := teardown_mem_setup h
      rw [hany, afterStart_inspectStage h, SetupCleanup, if_pos rfl]
      rcases (inspectStage_setupShape : (inspectStage w ⟨pending.lookupCollisions,
          pending.lookupHandlers, kept⟩).SetupShape _) with hsetup | ⟨pre, c, -, hev, hpre, -, hc⟩
      · exact (hsetup _ h).elim
      · rw [hev, List.mem_append, List.mem_singleton] at h
        rcases h with h | h
        · exact (hpre _ h).elim
        · cases h
          rw [hc, CleanupContainer.map_fromRunning_id, List.map_append]
          refine hperm.append_right _ |>.trans ?_
          rw [hpending]
          rfl

theorem afterTest_events (cleanup : List CleanupContainer) (result : Except (Option String) Unit) :
    ∃ logged : List String, (afterTest w cleanup result).events = logged.map .handleLog ∨
      (afterTest w cleanup result).events =
        logged.map .handleLog ++ [.teardown cleanup (!result.isOk)] := by
  obtain ⟨logged, hev, hr⟩ := handleLogs_logged (w := w) (!result.isOk) cleanup
  refine ⟨logged, ?_⟩
  rcases hr with hr | ⟨_, _, hr⟩
  · exact .inr (by simp only [afterTest, Stage.andThen_of_ok hr, hev])
  · exact .inl (by simp only [afterTest, Stage.andThen_of_error hr, hev])

@[simp] theorem createdIds_map_handleLog (logged : List String) :
    createdIds w (logged.map .handleLog) = [] := by
  induction logged with
  | nil => rfl
  | cons n ns ih => exact ih

@[simp] theorem createdIds_afterTest (cleanup : List CleanupContainer)
    (result : Except (Option String) Unit) : createdIds w (afterTest w cleanup result).events = [] := by
  obtain ⟨logged, hev | hev⟩ := afterTest_events (w := w) cleanup result <;> simp [hev]

theorem afterTest_teardown {cleanup cleanup' : List CleanupContainer}
    {result : Except (Option String) Unit} {testFailed : Bool}
    (h : .teardown cleanup' testFailed ∈ (afterTest w cleanup result).events) : cleanup' = cleanup := by
  obtain ⟨logged, hev | hev⟩ := afterTest_events (w := w) cleanup result <;>
    simp only [hev, List.mem_append, List.mem_map, List.mem_singleton] at h
  · obtain ⟨_, -, h⟩ := h; cases h
  · rcases h with ⟨_, -, h⟩ | h
    · cases h
    · cases h; rfl

theorem runImpl_teardown_cleanup (hk : w.starter.KeepsIds) {cleanup : List CleanupContainer}
    {testFailed : Bool} (h : .teardown cleanup testFailed ∈ (r.runImpl w).events) :
    ∃ compositions,
      SetupCleanup w compositions ((r.runImpl w).events.any RunEvent.afterStart) cleanup ∧
        createdIds w (r.runImpl w).events = createdFrom w compositions := by
  rcases hp : (r.prepare w).2.result with p | e | compositions
  · simp [runImpl, Stage.andThen_of_panic hp] at h
  · simp [runImpl, Stage.andThen_of_error hp] at h
  refine ⟨compositions, ?_⟩
  have hstop : (∀ x, ((r.prepare w).1.setup w compositions).result ≠ .ok (.ok x)) →
      (r.runImpl w).events = ((r.prepare w).1.setup w compositions).events := fun hs => by
    unfold runImpl
    rw [Stage.andThen_of_ok hp]
    rcases hr : ((r.prepare w).1.setup w compositions).result with p | e | x
    · simp [Stage.andThen_of_panic hr]
    · simp [Stage.andThen_of_error hr]
    · exact absurd hr (hs x)
  rcases hs : ((r.prepare w).1.setup w compositions).result with p | e | ⟨running, c⟩
  case error | ok.error =>
    rw [hstop fun x => by rw [hs]; nofun] at h ⊢
    exact setup_teardown_cleanup hk h
  case ok.ok =>
    rcases ht : w.test ⟨running⟩ with p | result
    · rw [runImpl_of_testPanic hp hs ht, List.mem_append, List.mem_singleton] at h
      rcases h with h | h
      · exact (setup_quiet hs _ h).elim
      · cases h
    rw [runImpl_of_setup hp hs ht] at h ⊢
    have hcleanup : cleanup = c := by
      simp only [List.mem_append, List.mem_cons] at h
      rcases h with h | h | h
      · exact (setup_quiet hs _ h).elim
      · cases h
      · exact afterTest_teardown h
    subst hcleanup
    have hany : (((r.prepare w).1.setup w compositions).events ++
        .testBody :: (afterTest w cleanup result).events).any RunEvent.afterStart = true := by
      simp [RunEvent.afterStart]
    rw [hany, SetupCleanup, if_pos rfl]
    exact ⟨setup_ok_cleanup hk hs, by simp only [createdIds_append, createdIds_testBody,
      createdIds_afterTest, List.append_nil, createdIds_setup (networkStage_ok_of_setup (.inr ⟨_, hs⟩))]⟩

/-- **A teardown is of exactly the containers the run created, and of the external containers
exactly when the start went through**, when the readiness strategies keep ids: every teardown
a run invokes is of the containers its calls to `create` returned, up to order, followed by the
external containers when the run went on to the inspection or to the test body. -/
theorem runImpl_teardown_ids (hk : w.starter.KeepsIds) {cleanup : List CleanupContainer}
    {testFailed : Bool} (h : .teardown cleanup testFailed ∈ (r.runImpl w).events) :
    (cleanup.map CleanupContainer.id).Perm (createdIds w (r.runImpl w).events ++
      if (r.runImpl w).events.any RunEvent.afterStart then
        w.externalContainers.map RunningContainer.id else []) := by
  obtain ⟨compositions, hcleanup, hids⟩ := runImpl_teardown_cleanup hk h
  rw [hids]
  exact hcleanup

/-- The run of `twoRunner` in `externalFirst` creates `b`, appends the external `a`, and tears
down both after the test body. -/
theorem runImpl_teardown_ids_externalFirst :
    externalFirst.starter.KeepsIds ∧
      RunEvent.teardown [⟨"b-id", false, "b", none⟩, ⟨"a-static-id", true, "a", none⟩] true ∈
        (twoRunner.runImpl externalFirst).events ∧
      ((([⟨"b-id", false, "b", none⟩, ⟨"a-static-id", true, "a", none⟩] : List CleanupContainer).map
          CleanupContainer.id).Perm (createdIds externalFirst (twoRunner.runImpl externalFirst).events ++
        if (twoRunner.runImpl externalFirst).events.any RunEvent.afterStart then
          externalFirst.externalContainers.map RunningContainer.id else [])) := by
  have hk : externalFirst.starter.KeepsIds := fun _ _ h => by cases h; rfl
  have hmem : RunEvent.teardown [⟨"b-id", false, "b", none⟩, ⟨"a-static-id", true, "a", none⟩] true ∈
      (twoRunner.runImpl externalFirst).events := by decide
  exact ⟨hk, hmem, runImpl_teardown_ids hk hmem⟩

end Runner

end Dockertest

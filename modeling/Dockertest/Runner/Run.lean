import Dockertest.Runner.Resolve
import Dockertest.Runner.Create
import Dockertest.Runner.Schedule
import Dockertest.Runner.Teardown

/-!
# A run

`src/runner.rs`, `Runner::run_impl`, with `check_if_inside_container`, `create_network`,
`add_self_to_network` and `handle_logs`.  A run resolves the names, creates the network and
the containers, starts them, inspects them, runs the test body, handles the logs and tears
down; it may stop early at every stage, returning an error or unwinding.

Everything outside the runner is a `World`: the environment, the daemon's answers, what
`Composition::create` and the starts return, and the test body.  The start phase is
`startContainers`, which every interleaving of its tasks returns (`Schedule.lean`).  A run
records what it does as `RunEvent`s; `teardown cleanup testFailed` is an invocation of
`Runner.teardown` (`Teardown.lean`).

`run_impl` is cut at its stages: `prepare` (the resolution of names), `setup` (network,
containers, inspection) and the test body with what follows it.

* `setup_of_create_error`, `setup_of_start_error`: a failed creation or start tears down what
  was created, as `cleanup_on_failure` says;
* `runImpl_of_connectNetwork_error`: when the network was created and connecting the container
  the test runs in fails, the run returns without teardown;
* `runImpl_of_testPanic`: when the test closure panics as it is called, the run unwinds at
  once, with no log handling and no teardown;
* `runImpl_of_handleLogs_error`: when handling the logs fails, the run returns that error
  without teardown, also when the test body's future panicked;
* `runImpl_of_handleLogs_ok`: otherwise teardown runs once, after the test body, and the run
  returns or unwinds with the payload of the test body's future.

What every run guarantees, outside these exits, is in `Outcomes.lean`.
-/

namespace Dockertest

/-- How the code reads an answer to `inspect_container`. -/
inductive Inspect where
  /-- The call failed, with this error text. -/
  | failed (e : String)
  /-- `network_settings`, `networks` or the IP address on the run's network is missing: an
  `unwrap` panics. -/
  | missingField
  /-- The ports do not convert to `HostPortMappings`, with this error text. -/
  | badPorts (e : String)
  /-- The IP address and the ports are read. -/
  | ok
deriving Repr, DecidableEq

/-- Everything outside the runner that a run reads.  Each answer is given for the call it
answers: a run asks once for each composition, container or id. -/
structure World where
  /-- `DOCKERTEST_CONTAINER_ID_INJECT_TO_NETWORK`. -/
  containerIdInject : Option String
  /-- The suffix `generate_random_string` draws for the `i`-th composition. -/
  suffixes : Nat → String
  /-- The daemon's answer to `create_network`. -/
  createNetwork : Except String Unit
  /-- The daemon's answer to `connect_network`. -/
  connectNetwork : Except String Unit
  /-- What `Composition::create` returns for each composition. -/
  create : Composition → Except DockerTestError (Option PendingContainer)
  starter : Starter
  /-- `STATIC_CONTAINERS.external_containers()`. -/
  externalContainers : List RunningContainer
  /-- `cfg!(windows)`. -/
  windows : Bool
  inspect : String → Inspect
  /-- The test body on the operations it is handed.  Calling the closure (`test(ops)`, on the
  orchestrating task) panics with a payload (the outer `error`), or returns the future that is
  spawned; that future returns, panics with a payload (`some`), or is cancelled (`none`). -/
  test : DockerOperations → Except String (Except (Option String) Unit)
  /-- What `CleanupContainer::handle_log` returns, as the text of its error. -/
  handleLog : CleanupContainer → LogAction → Bool → Bool → Except String Unit

/-- One thing a run does. -/
inductive RunEvent where
  | createNetwork (network : String)
  | connectNetwork (network container : String)
  | create (c : Composition)
  | inspect (id : String)
  | testBody
  | handleLog (name : String)
  | teardown (cleanup : List CleanupContainer) (testFailed : Bool)
deriving Repr, DecidableEq

def RunEvent.NotTeardown : RunEvent → Prop
  | .teardown _ _ => False
  | _ => True

def RunEvent.Plain : RunEvent → Prop
  | .create _ => False
  | .teardown _ _ => False
  | _ => True

theorem RunEvent.Plain.notTeardown {ev : RunEvent} (h : ev.Plain) : ev.NotTeardown := by
  cases ev <;> simp_all [RunEvent.Plain, RunEvent.NotTeardown]

/-- A stage of `run_impl`: what it did, and how it ended: with a value for the next stage, an
error that `run_impl` returns, or an unwinding with its payload (the outer `error`). -/
structure Stage (α : Type) where
  result : Except String (Except DockerTestError α)
  events : List RunEvent

namespace Stage

variable {α β : Type}

def pure (a : α) : Stage α := ⟨.ok (.ok a), []⟩

/-- The next stage runs on the value of this one; an error or an unwinding ends the run. -/
def andThen (s : Stage α) (f : α → Stage β) : Stage β :=
  match s.result with
  | .error p => ⟨.error p, s.events⟩
  | .ok (.error e) => ⟨.ok (.error e), s.events⟩
  | .ok (.ok a) => ⟨(f a).result, s.events ++ (f a).events⟩

variable {s : Stage α} {f : α → Stage β}

@[simp] theorem pure_andThen (a : α) (f : α → Stage β) : (pure a).andThen f = f a := by
  simp [pure, andThen]

theorem andThen_of_ok {a : α} (h : s.result = .ok (.ok a)) :
    s.andThen f = ⟨(f a).result, s.events ++ (f a).events⟩ := by
  simp [andThen, h]

theorem andThen_of_error {e : DockerTestError} (h : s.result = .ok (.error e)) :
    s.andThen f = ⟨.ok (.error e), s.events⟩ := by
  simp [andThen, h]

theorem andThen_of_panic {p : String} (h : s.result = .error p) :
    s.andThen f = ⟨.error p, s.events⟩ := by
  simp [andThen, h]

/-- **The bind lemma**: a sequence succeeds iff its first stage does and the rest does on its
value. -/
theorem andThen_result_eq_ok {b : β} :
    (s.andThen f).result = .ok (.ok b) ↔ ∃ a, s.result = .ok (.ok a) ∧ (f a).result = .ok (.ok b) := by
  unfold andThen
  split <;> simp_all

def All (P : RunEvent → Prop) (s : Stage α) : Prop := ∀ ev ∈ s.events, P ev

def Quiet (s : Stage α) : Prop := s.All RunEvent.NotTeardown

def Plain (s : Stage α) : Prop := s.All RunEvent.Plain

@[simp] theorem all_pure (P : RunEvent → Prop) (a : α) : (pure a).All P := by simp [All, pure]

@[simp] theorem plain_pure (a : α) : (pure a).Plain := all_pure _ a

theorem All.andThen_of_ok {P : RunEvent → Prop} {a : α} (hs : s.All P)
    (h : s.result = .ok (.ok a)) (hf : (f a).All P) : (s.andThen f).All P := by
  rw [Stage.andThen_of_ok h]
  simp only [All, List.mem_append] at hs hf ⊢
  rintro ev (hev | hev)
  exacts [hs ev hev, hf ev hev]

theorem Plain.quiet (h : s.Plain) : s.Quiet := fun ev hev => (h ev hev).notTeardown

end Stage

namespace Runner

def checkIfInsideContainer (r : Runner) (containerIdInject : Option String) : Runner :=
  match containerIdInject with
  | some id => { r with containerId := some id }
  | none => r

/-- `create_network`, with `add_self_to_network` when the test runs in a container. -/
def createNetwork (r : Runner) (w : World) : Stage Unit :=
  let res := w.createNetwork.mapError fun e =>
    DockerTestError.startup ("creating docker network failed: " ++ e)
  match r.containerId with
  | none => ⟨.ok res, [.createNetwork r.network]⟩
  | some id =>
    let ev := [.createNetwork r.network, .connectNetwork r.network id]
    match w.connectNetwork with
    | .error e =>
      ⟨.ok (.error (.startup ("failed to add internal container to dockertest network: " ++ e))), ev⟩
    | .ok () => ⟨.ok res, ev⟩

def shouldLogStderr : LogSource → Bool
  | .stdErr => true
  | .stdOut => false
  | .both => true

def shouldLogStdout : LogSource → Bool
  | .stdErr => false
  | .stdOut => true
  | .both => true

/-- `handle_logs`: the containers whose logs are handled, up to the first failure. -/
def handleLogs (w : World) (testFailed : Bool) : List CleanupContainer → Stage Unit
  | [] => .pure ()
  | c :: cs =>
    match c.logOptions with
    | none => handleLogs w testFailed cs
    | some o =>
      match o.policy, testFailed with
      | .onError, false => handleLogs w testFailed cs
      | _, _ =>
        match w.handleLog c o.action (shouldLogStderr o.source) (shouldLogStdout o.source) with
        | .error e =>
          ⟨.ok (.error (.logWriteError ("unable to handle logs for: " ++ c.name ++ ": " ++ e))),
            [.handleLog c.name]⟩
        | .ok () => (⟨.ok (.ok ()), [.handleLog c.name]⟩ : Stage Unit).andThen fun () =>
          handleLogs w testFailed cs

/-- The inspection loop of `run_impl`; a failed inspection tears down `cleanup`. -/
def inspectContainers (w : World) (cleanup : List CleanupContainer) :
    List RunningContainer → Stage Unit
  | [] => .pure ()
  | c :: cs =>
    if w.windows then inspectContainers w cleanup cs
    else
      match w.inspect c.id with
      | .failed e =>
        ⟨.ok (.error (.daemon ("failed to inspect container: " ++ e))),
          [.inspect c.id, .teardown cleanup true]⟩
      | .missingField => ⟨.error "called `Option::unwrap()` on a `None` value", [.inspect c.id]⟩
      | .badPorts e => ⟨.ok (.error (.hostPort e)), [.inspect c.id, .teardown cleanup true]⟩
      | .ok => (⟨.ok (.ok ()), [.inspect c.id]⟩ : Stage Unit).andThen fun () =>
        inspectContainers w cleanup cs

/-- `run_impl` up to the pulling of the images (which always succeeds): the runner with the
container it runs in and the named volumes, and the compositions validated, named and with
their injected names. -/
def prepare (r : Runner) (w : World) : Runner × Stage (Keeper Composition) :=
  let r := r.checkIfInsideContainer w.containerIdInject
  let v := resolveNamedVolumes r.id r.compositions
  let r := { r with compositions := v.1, namedVolumes := v.2 }
  (r, ⟨match resolveInjectContainerNameEnv (finalizedCompositions r.ns w.suffixes r.compositions) with
    | .error p => .error p
    | .ok (.error e, _) => .ok (.error e)
    | .ok (.ok (), k) => .ok (.ok k), []⟩)

/-- The creation of the containers in `run_impl`: a failure tears down what was created. -/
def createStage (w : World) (compositions : Keeper Composition) : Stage (Keeper PendingContainer) :=
  let created := createContainers w.create compositions
  match created.1 with
  | .error (e, cleanup) => ⟨.ok (.error e), created.2.map .create ++ [.teardown cleanup true]⟩
  | .ok pending => ⟨.ok (.ok pending), created.2.map .create⟩

/-- The start of the containers in `run_impl`: a failure tears down its cleanup list. -/
def startStage (w : World) (pending : Keeper PendingContainer) : Stage (Keeper RunningContainer) :=
  match startContainers w.starter pending with
  | .error p => ⟨.error p, []⟩
  | .ok (.error (e, cleanup)) => ⟨.ok (.error e), [.teardown cleanup true]⟩
  | .ok (.ok running) => .pure running

def networkStage (r : Runner) (w : World) : Stage Unit :=
  if r.externalNetwork.isNone then r.createNetwork w else .pure ()

/-- The inspection in `run_impl`: the started containers with the external ones appended, and
the cleanup list, once every one of them is inspected. -/
def inspectStage (w : World) (running : Keeper RunningContainer) :
    Stage (Keeper RunningContainer × List CleanupContainer) :=
  let running := { running with kept := running.kept ++ w.externalContainers }
  let cleanup := running.kept.map CleanupContainer.fromRunning
  (inspectContainers w cleanup running.kept).andThen fun () => .pure (running, cleanup)

/-- `run_impl` from the network to the inspection: the containers handed to the test body and
the cleanup list. -/
def setup (r : Runner) (w : World) (compositions : Keeper Composition) :
    Stage (Keeper RunningContainer × List CleanupContainer) :=
  (r.networkStage w).andThen fun () =>
  (createStage w compositions).andThen fun pending =>
  (startStage w pending).andThen (inspectStage w)

/-- The end of `run_impl`, after teardown: it returns `Ok`, resumes the unwinding of the
test body's future (`resume_unwind`), or panics when that future was cancelled. -/
def afterTeardown : Except (Option String) Unit → Except String (Except DockerTestError Unit)
  | .ok () => .ok (.ok ())
  | .error (some panic) => .error panic
  | .error none => .error "test future cancelled"

/-- What `run_impl` does once the test body's future has ended with `result`: handle the logs,
tear down, then return or unwind. -/
def afterTest (w : World) (cleanup : List CleanupContainer) (result : Except (Option String) Unit) :
    Stage Unit :=
  let testFailed := !result.isOk
  (handleLogs w testFailed cleanup).andThen fun () =>
  ⟨afterTeardown result, [.teardown cleanup testFailed]⟩

/-- `run_impl`.  A test closure that panics when called unwinds at once, before the logs are
handled and before teardown. -/
def runImpl (r : Runner) (w : World) : Stage Unit :=
  (r.prepare w).2.andThen fun compositions =>
  ((r.prepare w).1.setup w compositions).andThen fun x =>
  (⟨.ok (.ok ()), [.testBody]⟩ : Stage Unit).andThen fun () =>
  match w.test ⟨x.1⟩ with
  | .error panic => ⟨.error panic, []⟩
  | .ok result => afterTest w x.2 result

/-! ### The stages -/

variable {r : Runner} {w : World} {compositions : Keeper Composition}

@[simp] theorem prepare_network : (r.prepare w).1.network = r.network := by
  unfold prepare checkIfInsideContainer; split <;> rfl

@[simp] theorem prepare_externalNetwork : (r.prepare w).1.externalNetwork = r.externalNetwork := by
  unfold prepare checkIfInsideContainer; split <;> rfl

@[simp] theorem prepare_events : (r.prepare w).2.events = [] := rfl

theorem createNetwork_plain (r : Runner) (w : World) : (r.createNetwork w).Plain := by
  unfold createNetwork
  split
  · simp [Stage.Plain, Stage.All, RunEvent.Plain]
  · split <;> simp [Stage.Plain, Stage.All, RunEvent.Plain]

theorem networkStage_plain : (r.networkStage w).Plain := by
  unfold networkStage
  split
  · exact createNetwork_plain r w
  · simp [Stage.Plain]

theorem networkStage_result : ∃ x, (r.networkStage w).result = .ok x := by
  unfold networkStage createNetwork
  split
  · split
    · exact ⟨_, rfl⟩
    · split <;> exact ⟨_, rfl⟩
  · exact ⟨_, rfl⟩

theorem networkStage_error {e : DockerTestError} (h : (r.networkStage w).result = .ok (.error e))
    (hconn : w.createNetwork = .ok () → w.connectNetwork = .ok ()) : w.createNetwork ≠ .ok () := by
  intro hn
  unfold networkStage createNetwork at h
  split at h
  · split at h
    · simp [hn, Except.mapError] at h
    · split at h
      · rename_i hc
        rw [hconn hn] at hc
        cases hc
      · simp [hn, Except.mapError] at h
  · simp [Stage.pure] at h

theorem createStage_quiet {pending : Keeper PendingContainer}
    (h : (createStage w compositions).result = .ok (.ok pending)) :
    (createStage w compositions).Quiet := by
  cases hc : (createContainers w.create compositions).1 with
  | error p => simp [createStage, hc] at h
  | ok p => simp [createStage, hc, Stage.Quiet, Stage.All, RunEvent.NotTeardown]

theorem startStage_quiet {pending : Keeper PendingContainer} {running : Keeper RunningContainer}
    (h : (startStage w pending).result = .ok (.ok running)) : (startStage w pending).Quiet := by
  unfold startStage at h ⊢
  split at h <;> simp_all [Stage.Quiet]

theorem inspect_ok_plain (id : String) : (⟨.ok (.ok ()), [.inspect id]⟩ : Stage Unit).Plain := by
  simp [Stage.Plain, Stage.All, RunEvent.Plain]

theorem inspectContainers_plain (w : World) (cleanup : List CleanupContainer) :
    ∀ l : List RunningContainer, (inspectContainers w cleanup l).result = .ok (.ok ()) →
      (inspectContainers w cleanup l).Plain
  | [], _ => by simp [inspectContainers]
  | c :: cs, h => by
    have ih := inspectContainers_plain w cleanup cs
    by_cases hw : w.windows
    · simp only [inspectContainers, hw, ite_true] at h ⊢; exact ih h
    · cases hi : w.inspect c.id <;>
        simp only [inspectContainers, hw, hi, Bool.false_eq_true, if_false] at h ⊢ <;> try cases h
      rw [Stage.andThen_of_ok rfl] at h
      refine (inspect_ok_plain c.id).andThen_of_ok rfl ?_
      exact ih h

theorem handleLogs_plain (w : World) (testFailed : Bool) :
    ∀ l : List CleanupContainer, (handleLogs w testFailed l).Plain
  | [] => by simp [handleLogs]
  | c :: cs => by
    have ih := handleLogs_plain w testFailed cs
    unfold handleLogs
    split
    · exact ih
    · split
      · exact ih
      · split
        · simp [Stage.Plain, Stage.All, RunEvent.Plain]
        · refine Stage.All.andThen_of_ok (by simp [Stage.All, RunEvent.Plain]) rfl ?_
          exact ih

theorem inspectStage_plain {running : Keeper RunningContainer}
    {x : Keeper RunningContainer × List CleanupContainer}
    (h : (inspectStage w running).result = .ok (.ok x)) : (inspectStage w running).Plain := by
  unfold inspectStage at h ⊢
  obtain ⟨⟨⟩, h, -⟩ := Stage.andThen_result_eq_ok.1 h
  exact (inspectContainers_plain _ _ _ h).andThen_of_ok h (by simp)

theorem setup_quiet {x : Keeper RunningContainer × List CleanupContainer}
    (h : (r.setup w compositions).result = .ok (.ok x)) : (r.setup w compositions).Quiet := by
  unfold setup at h ⊢
  obtain ⟨⟨⟩, h₁, h⟩ := Stage.andThen_result_eq_ok.1 h
  obtain ⟨pending, h₂, h⟩ := Stage.andThen_result_eq_ok.1 h
  obtain ⟨running, h₃, h⟩ := Stage.andThen_result_eq_ok.1 h
  exact networkStage_plain.quiet.andThen_of_ok h₁ ((createStage_quiet h₂).andThen_of_ok h₂
    ((startStage_quiet h₃).andThen_of_ok h₃ (inspectStage_plain h).quiet))

theorem setup_of_create_error (hn : (r.networkStage w).result = .ok (.ok ()))
    {e : DockerTestError} {cleanup : List CleanupContainer}
    (hc : (createContainers w.create compositions).1 = .error (e, cleanup)) :
    r.setup w compositions = ⟨.ok (.error e), (r.networkStage w).events ++
        ((createContainers w.create compositions).2.map .create ++ [.teardown cleanup true])⟩ := by
  have hs : createStage w compositions = ⟨.ok (.error e),
      (createContainers w.create compositions).2.map .create ++ [.teardown cleanup true]⟩ := by
    simp [createStage, hc]
  unfold setup
  rw [Stage.andThen_of_ok hn, hs, Stage.andThen_of_error rfl]

theorem setup_of_start_error (hn : (r.networkStage w).result = .ok (.ok ()))
    {pending : Keeper PendingContainer} (hc : (createContainers w.create compositions).1 = .ok pending)
    {e : DockerTestError} {cleanup : List CleanupContainer}
    (hs : startContainers w.starter pending = .ok (.error (e, cleanup))) :
    r.setup w compositions = ⟨.ok (.error e), (r.networkStage w).events ++
        ((createContainers w.create compositions).2.map .create ++ [.teardown cleanup true])⟩ := by
  have hcs : createStage w compositions =
      ⟨.ok (.ok pending), (createContainers w.create compositions).2.map .create⟩ := by
    simp [createStage, hc]
  have hss : startStage w pending = ⟨.ok (.error e), [.teardown cleanup true]⟩ := by
    simp [startStage, hs]
  unfold setup
  rw [Stage.andThen_of_ok hn, hcs, Stage.andThen_of_ok rfl, hss, Stage.andThen_of_error rfl]

theorem setup_of_start_ok (hn : (r.networkStage w).result = .ok (.ok ()))
    {pending : Keeper PendingContainer} (hc : (createContainers w.create compositions).1 = .ok pending)
    {running : Keeper RunningContainer} (hs : startContainers w.starter pending = .ok (.ok running)) :
    r.setup w compositions = ⟨(inspectStage w running).result, (r.networkStage w).events ++
        ((createContainers w.create compositions).2.map .create ++ (inspectStage w running).events)⟩ := by
  have hcs : createStage w compositions =
      ⟨.ok (.ok pending), (createContainers w.create compositions).2.map .create⟩ := by
    simp [createStage, hc]
  have hss : startStage w pending = .pure running := by simp [startStage, hs]
  unfold setup
  rw [Stage.andThen_of_ok hn, hcs, Stage.andThen_of_ok rfl, hss, Stage.pure_andThen]

/-- **What a failed creation or start hands to teardown.**  When the `k`-th composition fails
to be created, no later one is handed to `create`, and the cleanup list is the containers
created from compositions `0..k-1`, in order.  When the start phase fails, whatever the
interleaving of its tasks, its cleanup list holds one entry for each pending container, each
once. -/
theorem cleanup_on_failure :
    (∀ (create : Composition → Except DockerTestError (Option PendingContainer))
        (compositions : Keeper Composition) (k : Nat) (hk : k < compositions.kept.length)
        (e : DockerTestError),
      (∀ c ∈ compositions.kept.take k, ∃ r, create c = .ok r) →
      create compositions.kept[k] = .error e →
      createContainers create compositions =
        (.error (e, ((compositions.kept.take k).filterMap (createdPending ∘ create)).map fun p =>
          { id := p.id, isStatic := p.isStatic, name := p.name, logOptions := p.logOptions }),
          compositions.kept.take (k + 1))) ∧
    (∀ (s : Starter) (input : Keeper PendingContainer) (st : Starting) (e : DockerTestError)
        (cleanup : List CleanupContainer),
      Starting.Reachable s input st → st.returned = some (.ok (.error (e, cleanup))) →
      cleanup.Perm (input.kept.map fun p =>
        { id := p.id, isStatic := p.isStatic, name := p.name, logOptions := p.logOptions })) :=
  ⟨fun _ _ _ hk _ hok he => createContainers_of_error _ hk hok he,
    fun _ _ _ _ _ h hr => Starting.returned_error_cleanup h hr⟩

/-- The strict `b` fails to start after the relaxed `a` was spawned: the cleanup list holds
both. -/
theorem cleanup_on_failure_strictFailedDone :
    Starting.Reachable Starting.strictFails Starting.relaxedThenStrict Starting.strictFailedDone ∧
      Starting.strictFailedDone.returned = some (.ok (.error (.startup "b",
        [⟨"1", false, "a", none⟩, ⟨"2", false, "b", none⟩]))) ∧
      List.Perm [⟨"1", false, "a", none⟩, ⟨"2", false, "b", none⟩]
        (Starting.relaxedThenStrict.kept.map fun p =>
          ({ id := p.id, isStatic := p.isStatic, name := p.name, logOptions := p.logOptions } :
            CleanupContainer)) := by
  have h : Starting.Reachable Starting.strictFails Starting.relaxedThenStrict
      Starting.strictFailedDone :=
    .step (.step (.step .init (t := .orchestrator) rfl) (t := .orchestrator) rfl) (t := .relaxed 0) rfl
  exact ⟨h, rfl, cleanup_on_failure.2 _ _ _ _ _ h rfl⟩

/-! ### Paths of a run -/

theorem runImpl_of_setup {running : Keeper RunningContainer} {cleanup : List CleanupContainer}
    {result : Except (Option String) Unit}
    (hp : (r.prepare w).2.result = .ok (.ok compositions))
    (hs : ((r.prepare w).1.setup w compositions).result = .ok (.ok (running, cleanup)))
    (ht : w.test ⟨running⟩ = .ok result) :
    r.runImpl w = ⟨(afterTest w cleanup result).result,
      ((r.prepare w).1.setup w compositions).events ++
        .testBody :: (afterTest w cleanup result).events⟩ := by
  unfold runImpl
  rw [Stage.andThen_of_ok hp, Stage.andThen_of_ok hs, Stage.andThen_of_ok rfl]
  simp [ht]

/-- **The test closure panics when called**: the run unwinds with its payload at once, without
handling the logs and without teardown. -/
theorem runImpl_of_testPanic {running : Keeper RunningContainer} {cleanup : List CleanupContainer}
    {panic : String} (hp : (r.prepare w).2.result = .ok (.ok compositions))
    (hs : ((r.prepare w).1.setup w compositions).result = .ok (.ok (running, cleanup)))
    (ht : w.test ⟨running⟩ = .error panic) :
    r.runImpl w = ⟨.error panic, ((r.prepare w).1.setup w compositions).events ++ [.testBody]⟩ := by
  unfold runImpl
  rw [Stage.andThen_of_ok hp, Stage.andThen_of_ok hs, Stage.andThen_of_ok rfl]
  simp [ht]

/-- **Handling the logs fails**: the run returns that error, and never tears down. -/
theorem runImpl_of_handleLogs_error {running : Keeper RunningContainer}
    {cleanup : List CleanupContainer} {result : Except (Option String) Unit} {e : DockerTestError}
    (hp : (r.prepare w).2.result = .ok (.ok compositions))
    (hs : ((r.prepare w).1.setup w compositions).result = .ok (.ok (running, cleanup)))
    (ht : w.test ⟨running⟩ = .ok result)
    (hl : (handleLogs w (!result.isOk) cleanup).result = .ok (.error e)) :
    (r.runImpl w).result = .ok (.error e) ∧ (r.runImpl w).Quiet := by
  have ha : afterTest w cleanup result =
      ⟨.ok (.error e), (handleLogs w (!result.isOk) cleanup).events⟩ :=
    Stage.andThen_of_error hl
  rw [runImpl_of_setup hp hs ht, ha]
  refine ⟨rfl, ?_⟩
  have hq := setup_quiet hs
  simp only [Stage.Quiet, Stage.All, List.mem_append, List.mem_cons] at hq ⊢
  rintro ev ((hev | rfl | hev))
  exacts [hq ev hev, trivial, (handleLogs_plain w _ cleanup).quiet ev hev]

theorem runImpl_of_handleLogs_ok {running : Keeper RunningContainer}
    {cleanup : List CleanupContainer} {result : Except (Option String) Unit}
    (hp : (r.prepare w).2.result = .ok (.ok compositions))
    (hs : ((r.prepare w).1.setup w compositions).result = .ok (.ok (running, cleanup)))
    (ht : w.test ⟨running⟩ = .ok result)
    (hl : (handleLogs w (!result.isOk) cleanup).result = .ok (.ok ())) :
    r.runImpl w = ⟨afterTeardown result, ((r.prepare w).1.setup w compositions).events ++ .testBody ::
        (handleLogs w (!result.isOk) cleanup).events ++ [.teardown cleanup (!result.isOk)]⟩ := by
  rw [runImpl_of_setup hp hs ht]
  simp only [afterTest]
  rw [Stage.andThen_of_ok hl]
  simp

/-- **Connecting the container the test runs in fails** after the network was created: the
run returns that error, and never tears down. -/
theorem runImpl_of_connectNetwork_error (hp : (r.prepare w).2.result = .ok (.ok compositions))
    (hx : r.externalNetwork = none) {id : String}
    (hid : (r.checkIfInsideContainer w.containerIdInject).containerId = some id) {e : String}
    (hc : w.connectNetwork = .error e) :
    r.runImpl w = ⟨.ok (.error (.startup
        ("failed to add internal container to dockertest network: " ++ e))),
      [.createNetwork r.network, .connectNetwork r.network id]⟩ := by
  have hn : (r.prepare w).1.createNetwork w = ⟨.ok (.error (.startup
      ("failed to add internal container to dockertest network: " ++ e))),
      [.createNetwork r.network, .connectNetwork r.network id]⟩ := by
    have hid' : (r.prepare w).1.containerId = some id := hid
    simp [createNetwork, hid', hc]
  unfold runImpl setup networkStage
  rw [Stage.andThen_of_ok hp, prepare_externalNetwork, hx]
  simp [hn, Stage.andThen]

/-! ### Three runs

Two compositions, of the images `a` and `b`.  In `calmWorld` every call succeeds, each
composition creates a container with the id `handle-id`, and the test body passes; the three
runs below change one thing or two. -/

def twoRunner : Runner where
  compositions := [.withRepository "a", .withRepository "b"]
  ns := "ns"
  externalNetwork := none
  containerId := none
  namedVolumes := []
  network := "dockertest-rs-run"
  id := "run"

def calmWorld : World where
  containerIdInject := none
  suffixes _ := "x"
  createNetwork := .ok ()
  connectNetwork := .ok ()
  create c := .ok (some ⟨c.handle, c.handle ++ "-id", c.handle, c.startPolicy, false, none⟩)
  starter := ⟨fun p => .ok (.fromPending p), fun _ => false⟩
  externalContainers := []
  windows := false
  inspect _ := .ok
  test _ := .ok (.ok ())
  handleLog _ _ _ _ := .ok ()

/-- The test runs in the container `self`, which cannot join the network. -/
def connectFails : World :=
  { calmWorld with containerIdInject := some "self", connectNetwork := .error "no such container" }

/-- The run creates its network, fails to connect `self` to it, and returns without teardown. -/
theorem runImpl_connectFails :
    twoRunner.runImpl connectFails = ⟨.ok (.error (.startup
        "failed to add internal container to dockertest network: no such container")),
      [.createNetwork "dockertest-rs-run", .connectNetwork "dockertest-rs-run" "self"]⟩ ∧
    connectFails.createNetwork = .ok () :=
  ⟨@runImpl_of_connectNetwork_error twoRunner connectFails _ rfl rfl _ rfl _ rfl, rfl⟩

/-- The containers log always; the test body panics and handling the logs fails. -/
def logsFail : World :=
  { calmWorld with
    create := fun c => .ok (some ⟨c.handle, c.handle ++ "-id", c.handle, c.startPolicy, false,
      some ⟨.forward, .always, .both⟩⟩)
    test := fun _ => .ok (.error (some "assertion failed"))
    handleLog := fun _ _ _ _ => .error "broken pipe" }

/-- The run returns the log error in place of the test body's panic, and never tears down. -/
theorem runImpl_logsFail :
    (twoRunner.runImpl logsFail).result =
      .ok (.error (.logWriteError "unable to handle logs for: a: broken pipe")) ∧
    (twoRunner.runImpl logsFail).Quiet :=
  @runImpl_of_handleLogs_error twoRunner logsFail _ _ _ _ _ rfl rfl rfl rfl

/-- `a` is an external static container: `create` returns `None` for it, and its running
container comes from `STATIC_CONTAINERS`.  The test body panics with the id of the container
that the handle `b` resolves to. -/
def externalFirst : World :=
  { calmWorld with
    create := fun c => if c.handle = "a" then .ok none
      else .ok (some ⟨c.handle, c.handle ++ "-id", c.handle, c.startPolicy, false, none⟩)
    externalContainers := [⟨"a", "a-static-id", "a", true, none⟩]
    test := fun ops => match ops.tryHandle "b" with
      | .ok (.ok c) => .ok (.error (some c.id))
      | _ => .ok (.error none) }

/-- The handle `b` resolves to the external container of `a`, not to the container created
from `b` (`b-id`). -/
theorem runImpl_externalFirst : (twoRunner.runImpl externalFirst).result = .error "a-static-id" :=
  rfl

end Runner

end Dockertest

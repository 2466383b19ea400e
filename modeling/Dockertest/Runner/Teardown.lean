import Dockertest.Container
import Mathlib.Data.String.Basic

/-!
# Teardown

`src/runner.rs`, `Runner::teardown` and `Runner::teardown_network`.  Teardown hands the ids
of the static containers to `STATIC_CONTAINERS.cleanup`, reads the prune strategy from
`DOCKERTEST_PRUNE`, and then leaves the other containers running, stops them, or removes
them together with the network and the named volumes.

What teardown does is a list of `Event`s: a batch of calls issued together and awaited
together (a `join_all`, or one `.await`), or an error line logged.  A batch is awaited
before the next one is issued.  The daemon answers every call (`Daemon`); teardown drops the
answers of its `join_all` batches and logs the failures of the two network calls.

`teardownPlan` is what the strategies are for, batch by batch, and `teardown_calls` says that
teardown issues exactly these batches, whatever the daemon answers, for each of the four
strategies, every one of which some value of `DOCKERTEST_PRUNE` selects
(`pruneStrategy_surjective`): the log lines depend on the failures, the calls do not.
`teardown_logLines` says which failures are logged: one `ERROR` line for each failed network
call (`errorLine`), and none for the others.  `STATIC_CONTAINERS.cleanup` is not among the
sources: `Call.staticCleanup` records the call, and its own logging is not modelled.
-/

namespace Dockertest

/-- `PruneStrategy`. -/
inductive PruneStrategy where
  | runningRegardless
  | runningOnFailure
  | stopOnFailure
  | removeRegardless
deriving Repr, DecidableEq

/-- The strategy for the value of `DOCKERTEST_PRUNE`, compared in lower case; unset or
unrecognized, `removeRegardless`.  (`to_lowercase` is Unicode-aware; no character outside
ASCII lowers to a letter of the four keywords, so ASCII lowering selects the same strategy.) -/
def pruneStrategy : Option String → PruneStrategy
  | none => .removeRegardless
  | some val =>
    match val.toLower with
    | "stop_on_failure" => .stopOnFailure
    | "never" => .runningRegardless
    | "running_on_failure" => .runningOnFailure
    | "always" => .removeRegardless
    | _ => .removeRegardless

/-- **Every strategy is read from some value of `DOCKERTEST_PRUNE`**: `never`,
`running_on_failure`, `stop_on_failure`, and `always` or none. -/
theorem pruneStrategy_surjective : Function.Surjective pruneStrategy := by
  have hlower (s : String) : s.toLower = ⟨s.data.map Char.toLower⟩ := String.map_eq _ _
  rintro (_ | _ | _ | _)
  · exact ⟨some "never", by simp only [pruneStrategy, hlower]; decide⟩
  · exact ⟨some "running_on_failure", by simp only [pruneStrategy, hlower]; decide⟩
  · exact ⟨some "stop_on_failure", by simp only [pruneStrategy, hlower]; decide⟩
  · exact ⟨none, rfl⟩

/-- A call of teardown to the daemon, or to `STATIC_CONTAINERS`. -/
inductive Call where
  /-- `STATIC_CONTAINERS.cleanup(client, network, is_external_network, ids)`, whose body is not
  among the sources. -/
  | staticCleanup (network : String) (externalNetwork : Bool) (ids : List String)
  | stopContainer (id : String)
  /-- `remove_container` with its options `force` and `v` (the anonymous volumes too). -/
  | removeContainer (id : String) (force v : Bool)
  | disconnectNetwork (network container : String) (force : Bool)
  | removeNetwork (network : String)
  | removeVolume (name : String) (force : Bool)
deriving Repr, DecidableEq

/-- One thing teardown does. -/
inductive Event where
  /-- Calls issued together and awaited together. -/
  | issue (calls : List Call)
  /-- A line logged at level `ERROR`. -/
  | log (msg : String)
deriving Repr, DecidableEq

/-- The daemon's answer to each call: success, or the text of its error.  Teardown makes each
call once for each container, network or volume it names. -/
structure Daemon where
  respond : Call → Except String Unit

/-- The parts of `Runner`, and of its `DockerTest` config, that the modelled functions read. -/
structure Runner where
  /-- `config.compositions`. -/
  compositions : List Composition
  /-- `config.namespace`. -/
  ns : String
  /-- `config.external_network`. -/
  externalNetwork : Option String
  /-- `config.container_id`: the container the test runs in, if it runs in one. -/
  containerId : Option String
  namedVolumes : List String
  network : String
  id : String

/-- The batches of calls among the events. -/
def calls : List Event → List (List Call) :=
  List.filterMap fun
    | .issue cs => some cs
    | .log _ => none

@[simp] theorem calls_nil : calls [] = [] := rfl

@[simp] theorem calls_issue (cs : List Call) (l : List Event) :
    calls (.issue cs :: l) = cs :: calls l := rfl

@[simp] theorem calls_log (msg : String) (l : List Event) : calls (.log msg :: l) = calls l := rfl

@[simp] theorem calls_append (l l' : List Event) : calls (l ++ l') = calls l ++ calls l' :=
  List.filterMap_append _ _ _

/-- The lines logged among the events, in order. -/
def logLines : List Event → List String :=
  List.filterMap fun
    | .issue _ => none
    | .log msg => some msg

@[simp] theorem logLines_nil : logLines [] = [] := rfl

@[simp] theorem logLines_issue (cs : List Call) (l : List Event) :
    logLines (.issue cs :: l) = logLines l := rfl

@[simp] theorem logLines_append (l l' : List Event) : logLines (l ++ l') = logLines l ++ logLines l' :=
  List.filterMap_append _ _ _

namespace Runner

/-- One awaited call whose failure is logged as `msg e`. -/
def awaitLogged (d : Daemon) (c : Call) (msg : String → String) : List Event :=
  .issue [c] :: match d.respond c with
    | .ok _ => []
    | .error e => [.log (msg e)]

/-- `teardown_network`: the container the test runs in leaves the network, then the network
is removed. -/
def teardownNetwork (r : Runner) (d : Daemon) : List Event :=
  (match r.containerId with
    | some id => awaitLogged d (.disconnectNetwork r.network id true) fun e =>
        "unable to remove dockertest-container from network: " ++ e
    | none => []) ++
  awaitLogged d (.removeNetwork r.network) fun e =>
    "unable to remove docker network `" ++ r.network ++ "`: " ++ e

/-- `teardown`; `prune` is the value of `DOCKERTEST_PRUNE`. -/
def teardown (r : Runner) (d : Daemon) (prune : Option String) (cleanup : List CleanupContainer)
    (testFailed : Bool) : List Event :=
  let staticCleanup := cleanup.filterMap fun c => if c.isStatic then some c.id else none
  let cleanup := cleanup.filter fun c => !c.isStatic
  let network := if r.externalNetwork.isNone then r.teardownNetwork d else []
  .issue [.staticCleanup r.network r.externalNetwork.isSome staticCleanup] ::
  match pruneStrategy prune, testFailed with
  | .runningRegardless, _ => []
  | .runningOnFailure, true => []
  | .stopOnFailure, true => .issue (cleanup.map fun c => .stopContainer c.id) :: network
  | _, _ =>
    .issue (cleanup.map fun c => .removeContainer c.id true true) :: network ++
      [.issue (r.namedVolumes.map fun v => .removeVolume v true)]

/-! ### What teardown is for -/

/-- The line teardown logs when the daemon fails the call: one for each of the two calls of
`teardown_network`, none for the others. -/
def errorLine (d : Daemon) : Call → Option String
  | .disconnectNetwork n id force =>
    match d.respond (.disconnectNetwork n id force) with
    | .ok _ => none
    | .error e => some ("unable to remove dockertest-container from network: " ++ e)
  | .removeNetwork n =>
    match d.respond (.removeNetwork n) with
    | .ok _ => none
    | .error e => some ("unable to remove docker network `" ++ n ++ "`: " ++ e)
  | _ => none

/-- Removing the network: the container the test runs in leaves it first. -/
def networkPlan (r : Runner) : List (List Call) :=
  r.containerId.toList.map (fun id => [.disconnectNetwork r.network id true]) ++
    [[.removeNetwork r.network]]

/-- Teardown by its table: the static containers go to `STATIC_CONTAINERS`; then nothing when
the containers are to be left running; one stop per container of the run and then the
network, when a failed test is to be kept stopped; otherwise one forced removal per container
of the run, and once they are all done the network, then every named volume.  The network is
removed only when it is not external. -/
def teardownPlan (r : Runner) (strategy : PruneStrategy) (testFailed : Bool)
    (cleanup : List CleanupContainer) : List (List Call) :=
  let perRun := (cleanup.filter fun c => !c.isStatic).map CleanupContainer.id
  let network := if r.externalNetwork.isSome then [] else networkPlan r
  [[.staticCleanup r.network r.externalNetwork.isSome
      ((cleanup.filter CleanupContainer.isStatic).map CleanupContainer.id)]] ++
    if strategy = .runningRegardless ∨ strategy = .runningOnFailure ∧ testFailed then []
    else if strategy = .stopOnFailure ∧ testFailed then [perRun.map .stopContainer] ++ network
    else [perRun.map (Call.removeContainer · true true)] ++ network ++
      [r.namedVolumes.map (Call.removeVolume · true)]

@[simp] theorem calls_awaitLogged (d : Daemon) (c : Call) (msg : String → String) :
    calls (awaitLogged d c msg) = [[c]] := by
  unfold awaitLogged
  cases d.respond c <;> rfl

theorem calls_teardownNetwork (r : Runner) (d : Daemon) :
    calls (r.teardownNetwork d) = networkPlan r := by
  cases h : r.containerId <;> simp [teardownNetwork, networkPlan, h]

theorem filterMap_static (cleanup : List CleanupContainer) :
    cleanup.filterMap (fun c => if c.isStatic then some c.id else none) =
      (cleanup.filter CleanupContainer.isStatic).map CleanupContainer.id := by
  induction cleanup with
  | nil => rfl
  | cons c cs ih => cases h : c.isStatic <;> simp [List.filter_cons, h, ih]

/-- With a strategy that removes, teardown hands the static containers to `STATIC_CONTAINERS`,
force-removes the others, then removes the network unless it is external, then the named
volumes. -/
theorem calls_teardown_of_removeRegardless (r : Runner) (d : Daemon) {prune : Option String}
    (hprune : pruneStrategy prune = .removeRegardless) (cleanup : List CleanupContainer)
    (testFailed : Bool) :
    calls (r.teardown d prune cleanup testFailed) =
      [[.staticCleanup r.network r.externalNetwork.isSome
          ((cleanup.filter CleanupContainer.isStatic).map CleanupContainer.id)],
        (cleanup.filter fun c => !c.isStatic).map fun c => .removeContainer c.id true true] ++
      (if r.externalNetwork.isNone then networkPlan r else []) ++
      [r.namedVolumes.map fun v => .removeVolume v true] := by
  cases hx : r.externalNetwork <;>
    simp [teardown, hprune, filterMap_static, calls_teardownNetwork, hx]

/-- Every call of teardown is the static cleanup, a stop or a forced removal of a container of
the cleanup list that is not static, a call of `teardown_network` when the network is not
external, or the removal of a named volume. -/
theorem mem_calls_teardown {r : Runner} {d : Daemon} {prune : Option String}
    {cleanup : List CleanupContainer} {testFailed : Bool} {c : Call}
    (h : c ∈ (calls (r.teardown d prune cleanup testFailed)).flatten) :
    c = .staticCleanup r.network r.externalNetwork.isSome
        ((cleanup.filter CleanupContainer.isStatic).map CleanupContainer.id) ∨
      (∃ x ∈ cleanup, x.isStatic = false ∧
        (c = .stopContainer x.id ∨ c = .removeContainer x.id true true)) ∨
      (r.externalNetwork = none ∧ c ∈ (networkPlan r).flatten) ∨
      ∃ v ∈ r.namedVolumes, c = .removeVolume v true := by
  have hnet (h : c ∈ (calls (if r.externalNetwork.isNone then r.teardownNetwork d else [])).flatten) :
      r.externalNetwork = none ∧ c ∈ (networkPlan r).flatten := by
    split at h
    · rw [calls_teardownNetwork] at h
      exact ⟨Option.isNone_iff_eq_none.1 ‹_›, h⟩
    · simp at h
  unfold teardown at h
  simp only [calls_issue, List.flatten_cons, List.mem_append, List.mem_singleton,
    filterMap_static] at h
  rcases h with h | h
  · exact .inl h
  right
  split at h
  · simp at h
  · simp at h
  · -- a failed test kept stopped
    simp only [calls_issue, List.flatten_cons, List.mem_append, List.mem_map,
      List.mem_filter] at h
    rcases h with ⟨x, ⟨hx, hs⟩, rfl⟩ | h
    · exact .inl ⟨x, hx, by simpa using hs, .inl rfl⟩
    · exact .inr (.inl (hnet h))
  · -- removal
    simp only [calls_issue, calls_append, calls_nil, List.flatten_cons, List.flatten_append,
      List.mem_append, List.mem_map, List.mem_filter, List.flatten_nil, List.not_mem_nil,
      or_false] at h
    rcases h with (⟨x, ⟨hx, hs⟩, rfl⟩ | h) | ⟨v, hv, rfl⟩
    · exact .inl ⟨x, hx, by simpa using hs, .inr rfl⟩
    · exact .inr (.inl (hnet h))
    · exact .inr (.inr ⟨v, hv, rfl⟩)

/-- **Teardown issues the calls of its table, whatever the daemon answers**, for each of the
four strategies (`pruneStrategy_surjective`). -/
theorem teardown_calls (r : Runner) (d : Daemon) (prune : Option String)
    (cleanup : List CleanupContainer) (testFailed : Bool) :
    calls (r.teardown d prune cleanup testFailed) =
      teardownPlan r (pruneStrategy prune) testFailed cleanup := by
  cases hp : pruneStrategy prune <;> cases testFailed <;> cases hx : r.externalNetwork <;>
    simp [teardown, teardownPlan, filterMap_static, calls_teardownNetwork, hp, hx]

theorem logLines_teardownNetwork (r : Runner) (d : Daemon) :
    logLines (r.teardownNetwork d) =
      (calls (r.teardownNetwork d)).flatten.filterMap (errorLine d) := by
  have hawait (c : Call) (msg : String → String)
      (hmsg : errorLine d c = match d.respond c with | .ok _ => none | .error e => some (msg e)) :
      logLines (awaitLogged d c msg) =
        (calls (awaitLogged d c msg)).flatten.filterMap (errorLine d) := by
    rw [calls_awaitLogged, List.flatten_singleton, List.filterMap_cons, hmsg]
    unfold awaitLogged
    cases d.respond c <;> rfl
  have hremove := hawait (.removeNetwork r.network) (fun e =>
    "unable to remove docker network `" ++ r.network ++ "`: " ++ e) rfl
  unfold teardownNetwork
  split
  · rw [logLines_append, calls_append, List.flatten_append, List.filterMap_append, hremove,
      hawait _ _ rfl]
  · simpa using hremove

/-- **Teardown logs one line for each network call the daemon fails, and nothing else**:
whatever the daemon answers, the lines are those of `errorLine`, in the order of the calls;
a failed stop or removal of a container or of a volume, and a failed static cleanup, are
dropped without a trace. -/
theorem teardown_logLines (r : Runner) (d : Daemon) (prune : Option String)
    (cleanup : List CleanupContainer) (testFailed : Bool) :
    logLines (r.teardown d prune cleanup testFailed) =
      (calls (r.teardown d prune cleanup testFailed)).flatten.filterMap (errorLine d) := by
  have hnet : logLines (if r.externalNetwork.isNone then r.teardownNetwork d else []) =
      (calls (if r.externalNetwork.isNone then r.teardownNetwork d else [])).flatten.filterMap
        (errorLine d) := by
    split
    · exact logLines_teardownNetwork r d
    · rfl
  have hnone {α : Type} (l : List α) : l.filterMap (fun _ => (none : Option String)) = [] :=
    List.filterMap_eq_nil_iff.2 fun _ _ => rfl
  unfold teardown
  generalize (if r.externalNetwork.isNone = true then r.teardownNetwork d else []) = N at hnet ⊢
  split <;> simp [hnet, List.filterMap_map, errorLine, Function.comp_def, hnone]

/-- When the daemon fails every call, only the removal of the network is reported. -/
example : logLines ((⟨[], "ns", none, none, [], "net", "id"⟩ : Runner).teardown
    ⟨fun _ => .error "boom"⟩ none [⟨"a-id", false, "a", none⟩] false) =
      ["unable to remove docker network `net`: boom"] := by
  decide

end Runner

end Dockertest

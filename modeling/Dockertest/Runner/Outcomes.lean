import Dockertest.Runner.Run

/-!
# What a run guarantees

`src/runner.rs`, `Runner::run_impl`, over every `World`: what a run tears down, and what the
handles resolve to in the test body.  The exits that break these guarantees are in `Run.lean`
(`runImpl_of_connectNetwork_error`, `runImpl_of_handleLogs_error`, `runImpl_externalFirst`);
here they are the hypotheses.

* `runImpl_endsInTeardown`: **a run that created its network or a container ends with one
  teardown of every container it created**, when the starter keeps the ids it is given, joining
  a created network cannot fail, no inspection lacks a field the run unwraps, the test closure
  returns its future, and handling the logs cannot fail;
* `runImpl_removes_created`: so, read with `teardown` (`Teardown.lean`), **nothing the run
  created is left behind** when `DOCKERTEST_PRUNE` asks for removal: each container is
  force-removed, or handed to `STATIC_CONTAINERS` if static, and the network is removed unless
  it is external;
* `setup_tryHandle`: when every composition yields a container of its own and none is
  external, **the handle of exactly one composition resolves, in the test body, to the
  container created from it**;
* `runImpl_passes`: **a run in which no call fails passes**: it returns `Ok` and tears down last,
  as after a passed test, when every injection names the handle of exactly one composition.
-/

namespace Dockertest

namespace Runner

variable {r : Runner} {w : World} {compositions : Keeper Composition}

/-! ### What a run tears down -/

/-- The ids of the containers that the run's calls to `create` returned. -/
def createdIds (w : World) (events : List RunEvent) : List String :=
  events.filterMap fun
    | .create c => (createdPending (w.create c)).map PendingContainer.id
    | _ => none

/-- The run created its network, or a container. -/
def CreatedSomething (w : World) (events : List RunEvent) : Prop :=
  ((∃ n, RunEvent.createNetwork n ∈ events) ∧ w.createNetwork = .ok ()) ∨ createdIds w events ≠ []

/-- The events end with the run's only teardown, of a cleanup list that holds every container
the run created. -/
def EndsInTeardown (w : World) (events : List RunEvent) : Prop :=
  ∃ pre cleanup testFailed, events = pre ++ [.teardown cleanup testFailed] ∧
    (∀ ev ∈ pre, ev.NotTeardown) ∧ ∀ id ∈ createdIds w events, id ∈ cleanup.map CleanupContainer.id

@[simp] theorem createdIds_append (l l' : List RunEvent) :
    createdIds w (l ++ l') = createdIds w l ++ createdIds w l' :=
  List.filterMap_append _ _ _

@[simp] theorem createdIds_testBody (l : List RunEvent) :
    createdIds w (.testBody :: l) = createdIds w l := rfl

@[simp] theorem createdIds_teardown (cleanup : List CleanupContainer) (testFailed : Bool) :
    createdIds w [.teardown cleanup testFailed] = [] := rfl

theorem createdIds_of_plain {l : List RunEvent} (h : ∀ ev ∈ l, ev.Plain) : createdIds w l = [] := by
  rw [createdIds, List.filterMap_eq_nil_iff]
  intro ev hev
  have := h ev hev
  cases ev <;> simp_all [RunEvent.Plain]

theorem createdIds_map_create (cs : List Composition) :
    createdIds w (cs.map .create) = (cs.filterMap (createdPending ∘ w.create)).map PendingContainer.id := by
  induction cs with
  | nil => rfl
  | cons c cs ih => cases h : createdPending (w.create c) <;> simp_all [createdIds, List.filterMap_cons]

/-- When no inspection answer misses a field, the inspection loop goes through, or fails with
one teardown of `cleanup` as its last event. -/
theorem inspectContainers_cases (hins : ∀ id, w.inspect id ≠ .missingField)
    (cleanup : List CleanupContainer) : ∀ l : List RunningContainer,
    (inspectContainers w cleanup l).result = .ok (.ok ()) ∨
    ∃ e pre, inspectContainers w cleanup l = ⟨.ok (.error e), pre ++ [.teardown cleanup true]⟩ ∧
      ∀ ev ∈ pre, ev.Plain
  | [] => .inl rfl
  | c :: cs => by
    have ih := inspectContainers_cases hins cleanup cs
    by_cases hw : w.windows
    · simpa only [inspectContainers, hw, ite_true] using ih
    · have hplain : ∀ ev ∈ [RunEvent.inspect c.id], ev.Plain := by simp [RunEvent.Plain]
      cases hi : w.inspect c.id with
      | failed e =>
        exact .inr ⟨.daemon ("failed to inspect container: " ++ e), _,
          by simp [inspectContainers, hw, hi], hplain⟩
      | missingField => exact absurd hi (hins c.id)
      | badPorts e => exact .inr ⟨.hostPort e, _, by simp [inspectContainers, hw, hi], hplain⟩
      | ok =>
        simp only [inspectContainers, hw, hi, Bool.false_eq_true, if_false]
        rw [Stage.andThen_of_ok rfl]
        rcases ih with hok | ⟨e, pre, heq, hpre⟩
        · exact .inl hok
        · refine .inr ⟨e, .inspect c.id :: pre, by rw [heq]; rfl, ?_⟩
          simpa [RunEvent.Plain] using hpre

/-- The inspection stage goes through, or fails with one teardown of all the containers,
external ones included, as its last event. -/
theorem inspectStage_cases (hins : ∀ id, w.inspect id ≠ .missingField)
    (running : Keeper RunningContainer) :
    (inspectStage w running).result = .ok (.ok ({ running with kept := running.kept ++
        w.externalContainers }, (running.kept ++ w.externalContainers).map
          CleanupContainer.fromRunning)) ∨
    ∃ e pre, inspectStage w running = ⟨.ok (.error e), pre ++ [.teardown
        ((running.kept ++ w.externalContainers).map CleanupContainer.fromRunning) true]⟩ ∧
      ∀ ev ∈ pre, ev.Plain := by
  dsimp only [inspectStage]
  rcases inspectContainers_cases hins ((running.kept ++ w.externalContainers).map
    CleanupContainer.fromRunning) (running.kept ++ w.externalContainers) with hok | ⟨e, pre, heq, hpre⟩
  · exact .inl (by rw [Stage.andThen_of_ok hok]; rfl)
  · exact .inr ⟨e, pre, by rw [heq]; rfl, hpre⟩

/-- When no `handle_log` fails, handling the logs goes through. -/
theorem handleLogs_result (hlogs : ∀ c a b b', w.handleLog c a b b' = .ok ()) (testFailed : Bool) :
    ∀ l : List CleanupContainer, (handleLogs w testFailed l).result = .ok (.ok ())
  | [] => rfl
  | c :: cs => by
    have ih := handleLogs_result hlogs testFailed cs
    unfold handleLogs
    split
    · exact ih
    · split
      · exact ih
      · rw [hlogs, Stage.andThen_of_ok rfl]
        exact ih

/-- A setup that fails with a teardown after the creation stage ends in that teardown, when
the teardown's list holds every container created. -/
theorem endsInTeardown_of_setup (pre : List RunEvent) {e : DockerTestError}
    {cleanup : List CleanupContainer}
    (hs : r.setup w compositions = ⟨.ok (.error e), (r.networkStage w).events ++
      ((createContainers w.create compositions).2.map .create ++ (pre ++ [.teardown cleanup true]))⟩)
    (hpre : ∀ ev ∈ pre, ev.Plain)
    (hids : ∀ id ∈ createdIds w ((createContainers w.create compositions).2.map .create),
      id ∈ cleanup.map CleanupContainer.id) :
    EndsInTeardown w (r.setup w compositions).events := by
  rw [hs]
  refine ⟨(r.networkStage w).events ++ (createContainers w.create compositions).2.map .create ++
    pre, cleanup, true, by simp, ?_, fun id hid => hids id ?_⟩
  · simp only [List.mem_append]
    rintro ev ((hev | hev) | hev)
    · exact networkStage_plain.quiet ev hev
    · obtain ⟨c, -, rfl⟩ := List.mem_map.1 hev
      trivial
    · exact (hpre ev hev).notTeardown
  · simpa [createdIds_of_plain networkStage_plain, createdIds_of_plain hpre] using hid

/-- **How setup ends**, when connecting to a created network, the inspections' `unwrap`s and the
sort's `unwrap` cannot fail: it goes through without teardown, having created only containers
that are handed to the test body; or it fails having created nothing; or it fails and its
events end with the one teardown of everything it created. -/
theorem setup_cases (hk : w.starter.KeepsIds)
    (hconn : w.createNetwork = .ok () → w.connectNetwork = .ok ())
    (hins : ∀ id, w.inspect id ≠ .missingField) :
    (∃ running, (r.setup w compositions).result =
        .ok (.ok (running, running.kept.map CleanupContainer.fromRunning)) ∧
      (r.setup w compositions).Quiet ∧
      ∀ id ∈ createdIds w (r.setup w compositions).events, id ∈ running.kept.map RunningContainer.id) ∨
    (∃ e, (r.setup w compositions).result = .ok (.error e) ∧
      ¬CreatedSomething w (r.setup w compositions).events) ∨
    (∃ e, (r.setup w compositions).result = .ok (.error e) ∧
      EndsInTeardown w (r.setup w compositions).events) := by
  have hnetIds : createdIds w (r.networkStage w).events = [] := createdIds_of_plain networkStage_plain
  obtain ⟨x, hx⟩ := @networkStage_result r w
  rcases x with e | ⟨⟩
  case error =>
    have hs : r.setup w compositions = ⟨.ok (.error e), (r.networkStage w).events⟩ := by
      unfold setup; rw [Stage.andThen_of_error hx]
    refine .inr (.inl ⟨e, by rw [hs], ?_⟩)
    rw [hs]
    rintro (⟨-, hn⟩ | hc)
    exacts [networkStage_error hx hconn hn, hc hnetIds]
  have hcreated := createdIds_map_create (w := w) (createContainers w.create compositions).2
  cases hc : (createContainers w.create compositions).1 with
  | error ec =>
    obtain ⟨e, cleanup⟩ := ec
    have hs := setup_of_create_error hx hc
    refine .inr (.inr ⟨e, by rw [hs], endsInTeardown_of_setup [] hs (by simp) fun id hid => ?_⟩)
    rwa [hcreated, ← CleanupContainer.map_fromPending_id, ← createContainers_error_cleanup _ hc]
      at hid
  | ok pending =>
    have hpending := createContainers_ok_kept _ hc
    rcases startContainers_cases hk pending with ⟨e, he⟩ | ⟨kept, hok, hperm⟩
    · have hs := setup_of_start_error hx hc he
      refine .inr (.inr ⟨e, by rw [hs], endsInTeardown_of_setup [] hs (by simp) fun id hid => ?_⟩)
      rw [((startCleanup_perm pending.kept).map CleanupContainer.id).mem_iff,
        CleanupContainer.map_fromPending_id, hpending, ← hcreated]
      exact hid
    · have hs := setup_of_start_ok hx hc hok
      have hkept : ∀ id ∈ createdIds w ((createContainers w.create compositions).2.map .create),
          id ∈ (kept ++ w.externalContainers).map RunningContainer.id := by
        intro id hid
        rw [hcreated, ← hpending, ← hperm.mem_iff] at hid
        rw [List.map_append]
        exact List.mem_append_left _ hid
      rcases inspectStage_cases hins ⟨pending.lookupCollisions, pending.lookupHandlers, kept⟩ with
        hin | ⟨e, pre, heq, hpre⟩
      · refine .inl ⟨_, by rw [hs, hin], setup_quiet (by rw [hs, hin]), fun id hid => ?_⟩
        rw [hs] at hid
        simp only [createdIds_append, hnetIds, createdIds_of_plain (inspectStage_plain hin),
          List.nil_append, List.append_nil] at hid
        exact hkept id hid
      · rw [heq] at hs
        refine .inr (.inr ⟨e, by rw [hs], endsInTeardown_of_setup pre hs hpre fun id hid => ?_⟩)
        simpa using hkept id hid

/-- **Every run that created something tears it all down, once and last**, unless connecting to
the created network fails, an inspection answer misses a field that is unwrapped, a readiness
strategy changes a container's id (the sort's `unwrap`), the test closure panics when called,
or handling the logs fails. -/
theorem runImpl_endsInTeardown (hk : w.starter.KeepsIds)
    (hconn : w.createNetwork = .ok () → w.connectNetwork = .ok ())
    (hins : ∀ id, w.inspect id ≠ .missingField)
    (hcall : ∀ ops, ∃ result, w.test ops = .ok result)
    (hlogs : ∀ c a b b', w.handleLog c a b b' = .ok ())
    (hc : CreatedSomething w (r.runImpl w).events) : EndsInTeardown w (r.runImpl w).events := by
  have hnothing : (r.runImpl w).events ≠ [] := fun h => by
    rw [h] at hc; simp [CreatedSomething, createdIds] at hc
  rcases hp : (r.prepare w).2.result with p | e | compositions
  · exact absurd (by unfold runImpl; rw [Stage.andThen_of_panic hp]; rfl) hnothing
  · exact absurd (by unfold runImpl; rw [Stage.andThen_of_error hp]; rfl) hnothing
  have hstop : ∀ e, ((r.prepare w).1.setup w compositions).result = .ok (.error e) →
      (r.runImpl w).events = ((r.prepare w).1.setup w compositions).events := fun e hs => by
    unfold runImpl; rw [Stage.andThen_of_ok hp, Stage.andThen_of_error hs]; rfl
  rcases @setup_cases (r.prepare w).1 w compositions hk hconn hins with
    ⟨running, hs, hq, hids⟩ | ⟨e, hs, hn⟩ | ⟨e, hs, hend⟩
  · obtain ⟨result, ht⟩ := hcall ⟨running⟩
    have hrun := runImpl_of_handleLogs_ok hp hs ht (handleLogs_result hlogs _ _)
    refine ⟨_, _, _, by rw [hrun], ?_, fun id hid => ?_⟩
    · simp only [List.mem_append, List.mem_cons]
      rintro ev (hev | rfl | hev)
      exacts [hq ev hev, trivial, (handleLogs_plain w _ _).quiet ev hev]
    · rw [hrun] at hid
      simp only [createdIds_append, createdIds_testBody,
        createdIds_of_plain (handleLogs_plain w _ _), createdIds_teardown, List.append_nil] at hid
      simpa using hids id hid
  · rw [hstop e hs] at hc
    exact absurd hc hn
  · rw [hstop e hs]
    exact hend

/-- The calm run tears down both containers it created. -/
example : EndsInTeardown calmWorld (twoRunner.runImpl calmWorld).events :=
  runImpl_endsInTeardown (fun _ _ h => by cases h; rfl) (fun _ => rfl) (fun _ => nofun)
    (fun _ => ⟨_, rfl⟩) (fun _ _ _ _ => rfl) (.inr (by decide))

/-- The calls of a run's teardowns, to the daemon and to `STATIC_CONTAINERS`, when the daemon
answers `d` and `DOCKERTEST_PRUNE` is `prune`; teardown runs on the runner `r`. -/
def teardownCalls (r : Runner) (d : Daemon) (prune : Option String) (events : List RunEvent) :
    List Call :=
  events.flatMap fun
    | .teardown cleanup testFailed => (calls (r.teardown d prune cleanup testFailed)).flatten
    | _ => []

theorem prepare_result : (r.prepare w).2.result =
    match resolveInjectContainerNameEnv
        (finalizedCompositions (r.prepare w).1.ns w.suffixes (r.prepare w).1.compositions) with
    | .error p => .error p
    | .ok (.error e, _) => .ok (.error e)
    | .ok (.ok (), k) => .ok (.ok k) := rfl

/-- The prepared compositions carry the tables of their own handles. -/
theorem prepare_tables (hp : (r.prepare w).2.result = .ok (.ok compositions)) :
    Tables (compositions.kept.map Composition.handle) compositions.lookupHandlers
      compositions.lookupCollisions := by
  rw [prepare_result] at hp
  split at hp
  · cases hp
  · cases hp
  · rename_i k heq
    cases hp
    have hinj := injected_of_resolveInjectContainerNameEnv _ _ _ heq
    rw [hinj.handles, hinj.1, hinj.2.1]
    exact finalizedCompositions_tables _ _ _

theorem createStage_ok {pending : Keeper PendingContainer}
    (h : (createStage w compositions).result = .ok (.ok pending)) :
    (createContainers w.create compositions).1 = .ok pending := by
  cases hc : (createContainers w.create compositions).1 with
  | error p => simp [createStage, hc] at h
  | ok p => simpa [createStage, hc] using h

theorem startStage_ok {pending : Keeper PendingContainer} {running : Keeper RunningContainer}
    (h : (startStage w pending).result = .ok (.ok running)) :
    startContainers w.starter pending = .ok (.ok running) := by
  unfold startStage at h
  split at h <;> simp_all [Stage.pure]

theorem inspectStage_ok {running running' : Keeper RunningContainer}
    {cleanup : List CleanupContainer}
    (h : (inspectStage w running).result = .ok (.ok (running', cleanup))) :
    running' = { running with kept := running.kept ++ w.externalContainers } := by
  unfold inspectStage at h
  obtain ⟨⟨⟩, -, h⟩ := Stage.andThen_result_eq_ok.1 h
  simp only [Stage.pure, Except.ok.injEq, Prod.mk.injEq] at h
  exact h.1.symm

/-- **The keeper handed to the test body**, when the readiness strategies keep ids, the created
containers' ids are distinct and there are no external containers: the compositions' tables,
over the containers created from the compositions, in their order. -/
theorem setup_keeper (hk : w.starter.KeepsIds) (hext : w.externalContainers = [])
    (hn : ((compositions.kept.filterMap (createdPending ∘ w.create)).map PendingContainer.id).Nodup)
    {running : Keeper RunningContainer} {cleanup : List CleanupContainer}
    (hs : (r.setup w compositions).result = .ok (.ok (running, cleanup))) :
    running.kept.map RunningContainer.id =
        (compositions.kept.filterMap (createdPending ∘ w.create)).map PendingContainer.id ∧
      running.lookupHandlers = compositions.lookupHandlers ∧
      running.lookupCollisions = compositions.lookupCollisions := by
  unfold setup at hs
  obtain ⟨⟨⟩, -, h⟩ := Stage.andThen_result_eq_ok.1 hs
  obtain ⟨pending, hc, h⟩ := Stage.andThen_result_eq_ok.1 h
  obtain ⟨started, hst, hin⟩ := Stage.andThen_result_eq_ok.1 h
  rw [inspectStage_ok hin, hext, List.append_nil]
  rw [createContainers_eq_ok _ (createStage_ok hc)] at hst
  exact startContainers_eq_ok hk hn (startStage_ok hst)

/-- The compositions `twoRunner` prepares in `calmWorld`. -/
def calmCompositions : Keeper Composition :=
  match (twoRunner.prepare calmWorld).2.result with
  | .ok (.ok k) => k
  | _ => ⟨⟨[]⟩, .empty, []⟩

/-- What the setup of `twoRunner` in `calmWorld` hands to the test body. -/
def calmSetup : Keeper RunningContainer × List CleanupContainer :=
  match ((twoRunner.prepare calmWorld).1.setup calmWorld calmCompositions).result with
  | .ok (.ok x) => x
  | _ => (⟨⟨[]⟩, .empty, []⟩, [])

/-- **Handles resolve to their own containers** when every composition yields a container of
its own, the created containers' ids are distinct, the readiness strategies keep ids and there
are no external containers: in the test body, the handle of exactly one composition resolves to
the container created from that composition. -/
theorem setup_tryHandle (hk : w.starter.KeepsIds) (hext : w.externalContainers = [])
    (hp : (r.prepare w).2.result = .ok (.ok compositions))
    (hsome : ∀ c ∈ compositions.kept, ∃ p, w.create c = .ok (some p))
    (hn : ((compositions.kept.filterMap (createdPending ∘ w.create)).map PendingContainer.id).Nodup)
    {running : Keeper RunningContainer} {cleanup : List CleanupContainer}
    (hs : ((r.prepare w).1.setup w compositions).result = .ok (.ok (running, cleanup)))
    {i : Nat} (hi : i < compositions.kept.length)
    (h1 : (compositions.kept.map Composition.handle).count compositions.kept[i].handle = 1) :
    ∃ c p, DockerOperations.tryHandle ⟨running⟩ compositions.kept[i].handle = .ok (.ok c) ∧
      w.create compositions.kept[i] = .ok (some p) ∧ c.id = p.id := by
  obtain ⟨hids, hh, hcol⟩ := setup_keeper hk hext hn hs
  obtain ⟨p, hcp⟩ := hsome _ (List.getElem_mem hi)
  have ht : Tables (compositions.kept.map Composition.handle) running.lookupHandlers
      running.lookupCollisions := by
    rw [hh, hcol]
    exact prepare_tables hp
  have hidx : (compositions.kept.map Composition.handle).indexOf compositions.kept[i].handle = i :=
    indexOf_eq_of_count_eq_one (by simpa using hi) h1 (by simp)
  have hcreated : (compositions.kept.filterMap (createdPending ∘ w.create))[i]? = some p := by
    rw [getElem?_filterMap_createdPending _ hsome, List.getElem?_eq_getElem hi]
    simp [createdPending, hcp]
  have hid : (running.kept[i]?).map RunningContainer.id = some p.id := by
    rw [← List.getElem?_map, hids, List.getElem?_map, hcreated]
    rfl
  obtain ⟨c, hc, hcid⟩ := Option.map_eq_some'.1 hid
  refine ⟨c, p, ?_, hcp, hcid⟩
  simp [DockerOperations.tryHandle, ht.resolve_of_count_eq_one h1, hidx, hc]

/-- In the calm run, the handle `a` resolves to the container created from `a`. -/
theorem setup_tryHandle_calmWorld :
    calmWorld.starter.KeepsIds ∧ calmWorld.externalContainers = [] ∧
      (twoRunner.prepare calmWorld).2.result = .ok (.ok calmCompositions) ∧
      (∀ c ∈ calmCompositions.kept, ∃ p, calmWorld.create c = .ok (some p)) ∧
      ((calmCompositions.kept.filterMap (createdPending ∘ calmWorld.create)).map
        PendingContainer.id).Nodup ∧
      ((twoRunner.prepare calmWorld).1.setup calmWorld calmCompositions).result =
        .ok (.ok calmSetup) ∧
      (calmCompositions.kept.map Composition.handle).count
        (calmCompositions.kept.get ⟨0, by decide⟩).handle = 1 ∧
      ∃ c p, DockerOperations.tryHandle ⟨calmSetup.1⟩
          (calmCompositions.kept.get ⟨0, by decide⟩).handle = .ok (.ok c) ∧
        calmWorld.create (calmCompositions.kept.get ⟨0, by decide⟩) = .ok (some p) ∧ c.id = p.id := by
  have hk : calmWorld.starter.KeepsIds := fun _ _ h => by cases h; rfl
  have hp : (twoRunner.prepare calmWorld).2.result = .ok (.ok calmCompositions) := rfl
  have hsome : ∀ c ∈ calmCompositions.kept, ∃ p, calmWorld.create c = .ok (some p) :=
    fun _ _ => ⟨_, rfl⟩
  have hn : ((calmCompositions.kept.filterMap (createdPending ∘ calmWorld.create)).map
      PendingContainer.id).Nodup := by decide
  have hs : ((twoRunner.prepare calmWorld).1.setup calmWorld calmCompositions).result =
      .ok (.ok calmSetup) := rfl
  have h1 : (calmCompositions.kept.map Composition.handle).count
      (calmCompositions.kept.get ⟨0, by decide⟩).handle = 1 := by decide
  exact ⟨hk, rfl, hp, hsome, hn, hs, h1, setup_tryHandle hk rfl hp hsome hn hs (by decide) h1⟩

/-! ### A run in which nothing fails -/

/-- `prepare` changes only the final names of the compositions' named volumes. -/
theorem prepare_compositions : (r.prepare w).1.compositions = r.compositions.map fun c =>
    { c with finalNamedVolumeNames := c.namedVolumes.map fun v => v.1 ++ "-" ++ r.id ++ ":" ++ v.2 } := by
  unfold prepare checkIfInsideContainer
  split <;> exact (resolveCompositionVolumes_spec _ _ _ (suffixedMap_empty _)).1

/-- Preparing succeeds when every injection names the handle of exactly one composition. -/
theorem prepare_succeeds (hu : ∀ c ∈ r.compositions, ∀ req ∈ c.injectContainerNameEnv,
      (r.compositions.map Composition.handle).count req.1 = 1) :
    ∃ compositions, (r.prepare w).2.result = .ok (.ok compositions) := by
  have hh : (r.prepare w).1.compositions.map Composition.handle =
      r.compositions.map Composition.handle := by
    rw [prepare_compositions, List.map_map]; rfl
  have hu' : ∀ c ∈ (r.prepare w).1.compositions, ∀ req ∈ c.injectContainerNameEnv,
      ((r.prepare w).1.compositions.map Composition.handle).count req.1 = 1 := by
    rw [hh, prepare_compositions]
    simp only [List.mem_map]
    rintro _ ⟨c, hc, rfl⟩
    exact hu c hc
  rw [prepare_result, resolveInjectContainerNameEnv_of_unique _ _ _ hu']
  exact ⟨_, rfl⟩

theorem networkStage_succeeds (hnet : w.createNetwork = .ok ()) (hconn : w.connectNetwork = .ok ()) :
    (r.networkStage w).result = .ok (.ok ()) := by
  unfold networkStage createNetwork
  simp only [hnet, hconn]
  split
  · split <;> rfl
  · rfl

theorem createStage_succeeds (hcreate : ∀ c, ∃ p, w.create c = .ok p) :
    (createStage w compositions).result = .ok (.ok ⟨compositions.lookupCollisions,
      compositions.lookupHandlers, compositions.kept.filterMap (createdPending ∘ w.create)⟩) := by
  simp [createStage, createContainers_of_ok w.create fun c _ => hcreate c]

theorem startStage_succeeds (hk : w.starter.KeepsIds)
    (hstart : ∀ p, ∃ running, w.starter.start p = .ok running)
    (hjoin : ∀ p, w.starter.joinFails p = false) (pending : Keeper PendingContainer) :
    ∃ running, (startStage w pending).result = .ok (.ok running) := by
  obtain ⟨running, h⟩ : ∃ running, startContainers w.starter pending = .ok (.ok running) :=
    (startContainers_ok_iff hk).2
      (firstStartPhaseError_eq_none_iff.2 fun p _ => ⟨hstart p, fun _ => hjoin p⟩)
  exact ⟨running, by simp [startStage, h, Stage.pure]⟩

theorem inspectContainers_succeeds (hins : ∀ id, w.inspect id = .ok)
    (cleanup : List CleanupContainer) :
    ∀ l : List RunningContainer, (inspectContainers w cleanup l).result = .ok (.ok ())
  | [] => rfl
  | c :: cs => by
    have ih := inspectContainers_succeeds hins cleanup cs
    by_cases hw : w.windows
    · simpa only [inspectContainers, hw, ite_true] using ih
    · simp only [inspectContainers, hw, hins, Bool.false_eq_true, ite_false]
      rwa [Stage.andThen_of_ok rfl]

theorem inspectStage_succeeds (hins : ∀ id, w.inspect id = .ok) (running : Keeper RunningContainer) :
    (inspectStage w running).result = .ok (.ok ({ running with kept := running.kept ++
      w.externalContainers }, (running.kept ++ w.externalContainers).map CleanupContainer.fromRunning)) := by
  unfold inspectStage
  rw [Stage.andThen_of_ok (inspectContainers_succeeds hins _ _)]
  rfl

theorem setup_succeeds (hk : w.starter.KeepsIds) (hnet : w.createNetwork = .ok ())
    (hconn : w.connectNetwork = .ok ()) (hcreate : ∀ c, ∃ p, w.create c = .ok p)
    (hstart : ∀ p, ∃ running, w.starter.start p = .ok running)
    (hjoin : ∀ p, w.starter.joinFails p = false) (hins : ∀ id, w.inspect id = .ok)
    (compositions : Keeper Composition) :
    ∃ x, (r.setup w compositions).result = .ok (.ok x) := by
  obtain ⟨running, hst⟩ := startStage_succeeds hk hstart hjoin ⟨compositions.lookupCollisions,
    compositions.lookupHandlers, compositions.kept.filterMap (createdPending ∘ w.create)⟩
  exact ⟨_, Stage.andThen_result_eq_ok.2 ⟨(), networkStage_succeeds hnet hconn,
    Stage.andThen_result_eq_ok.2 ⟨_, createStage_succeeds hcreate,
      Stage.andThen_result_eq_ok.2 ⟨running, hst, inspectStage_succeeds hins running⟩⟩⟩⟩

/-- **A run in which nothing fails passes**: when every injection names the handle of exactly one
composition, the daemon creates the network, connects the container the test runs in and
inspects every container, every composition is created, every container starts and every
relaxed task is joined, the logs are handled and the test body returns, then the run returns
`Ok`, and its last event is the teardown of a passed test. -/
theorem runImpl_passes (hk : w.starter.KeepsIds)
    (hu : ∀ c ∈ r.compositions, ∀ req ∈ c.injectContainerNameEnv,
      (r.compositions.map Composition.handle).count req.1 = 1)
    (hnet : w.createNetwork = .ok ()) (hconn : w.connectNetwork = .ok ())
    (hcreate : ∀ c, ∃ p, w.create c = .ok p)
    (hstart : ∀ p, ∃ running, w.starter.start p = .ok running)
    (hjoin : ∀ p, w.starter.joinFails p = false) (hins : ∀ id, w.inspect id = .ok)
    (htest : ∀ ops, w.test ops = .ok (.ok ()))
    (hlogs : ∀ c a b b', w.handleLog c a b b' = .ok ()) :
    (r.runImpl w).result = .ok (.ok ()) ∧
      ∃ pre cleanup, (r.runImpl w).events = pre ++ [.teardown cleanup false] := by
  obtain ⟨compositions, hp⟩ := prepare_succeeds (w := w) hu
  obtain ⟨⟨running, cleanup⟩, hs⟩ :=
    setup_succeeds (r := (r.prepare w).1) hk hnet hconn hcreate hstart hjoin hins compositions
  rw [runImpl_of_handleLogs_ok hp hs (htest _) (handleLogs_result hlogs _ cleanup)]
  exact ⟨rfl, _, cleanup, rfl⟩

/-- The calm run passes. -/
theorem runImpl_passes_calmWorld :
    calmWorld.starter.KeepsIds ∧
      (∀ c ∈ twoRunner.compositions, ∀ req ∈ c.injectContainerNameEnv,
        (twoRunner.compositions.map Composition.handle).count req.1 = 1) ∧
      calmWorld.createNetwork = .ok () ∧ calmWorld.connectNetwork = .ok () ∧
      (∀ c, ∃ p, calmWorld.create c = .ok p) ∧
      (∀ p, ∃ running, calmWorld.starter.start p = .ok running) ∧
      (∀ p, calmWorld.starter.joinFails p = false) ∧ (∀ id, calmWorld.inspect id = .ok) ∧
      (∀ ops, calmWorld.test ops = .ok (.ok ())) ∧
      (∀ c a b b', calmWorld.handleLog c a b b' = .ok ()) ∧
      (twoRunner.runImpl calmWorld).result = .ok (.ok ()) ∧
      ∃ pre cleanup, (twoRunner.runImpl calmWorld).events = pre ++ [.teardown cleanup false] := by
  have hk : calmWorld.starter.KeepsIds := fun _ _ h => by cases h; rfl
  have hu : ∀ c ∈ twoRunner.compositions, ∀ req ∈ c.injectContainerNameEnv,
      (twoRunner.compositions.map Composition.handle).count req.1 = 1 := by decide
  have hcreate : ∀ c, ∃ p, calmWorld.create c = .ok p := fun _ => ⟨_, rfl⟩
  have hstart : ∀ p, ∃ running, calmWorld.starter.start p = .ok running := fun _ => ⟨_, rfl⟩
  exact ⟨hk, hu, rfl, rfl, hcreate, hstart, fun _ => rfl, fun _ => rfl, fun _ => rfl,
    fun _ _ _ _ => rfl, runImpl_passes hk hu rfl rfl hcreate hstart (fun _ => rfl) (fun _ => rfl)
      (fun _ => rfl) fun _ _ _ _ => rfl⟩

end Runner

end Dockertest

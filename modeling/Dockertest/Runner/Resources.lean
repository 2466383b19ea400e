import Dockertest.Runner.Ending
import Dockertest.Runner.Names

/-!
# What a run may touch

`src/runner.rs`, `Runner::try_new` and `generate_random_string`, with `run_impl`,
`create_network`, `teardown` and `teardown_network`.  `try_new` draws an id of twenty letters
and names the network `dockertest-rs-{id}` after it, unless an external network is configured, and `resolve_named_volumes` names each declared
volume `{name}-{id}`: when tests run in parallel, the id tells which resources belong to
which test.  A run must not touch another run's containers, network or volumes, nor a network
the user supplied.

* `touchesNetwork_own`: every network a run creates or joins, and every network its
  teardowns leave or remove, is the runner's own, and there is none when the network is
  external;
* `removesVolume_own`: every volume the teardowns of a run remove is `{name}-{id}` for a named
  volume that one of its compositions declares;
* `runImpl_stops_or_removes_created`: **a run stops or removes only containers it created**,
  or external ones, when the readiness strategies keep ids;
* `prepare_containerName_nodup`: **the compositions a run creates have pairwise different
  container names** when the suffixes drawn for them differ;
* `tryNew_runImpl_resources`: **a run of a runner built by `try_new` touches only the network
  `dockertest-rs-{id}` and the volumes named after its id**;
* `tryNew_runImpl_disjoint`: **two runs with different ids touch no common network or
  volume**.

Each stage says once which networks its events name (`Stage.All`), and teardown says once what
it can call (`mem_calls_teardown`).  `STATIC_CONTAINERS.cleanup` is handed the network's name
too; what it does with it is outside these sources, so it is not counted as a network call.
-/

namespace Dockertest

/-- The network an event of a run creates or joins. -/
def RunEvent.network : RunEvent → Option String
  | .createNetwork n => some n
  | .connectNetwork n _ => some n
  | _ => none

/-- The network a call of teardown leaves or removes. -/
def Call.network : Call → Option String
  | .disconnectNetwork n _ _ => some n
  | .removeNetwork n => some n
  | _ => none

namespace Stage

variable {α β : Type} {s : Stage α} {f : α → Stage β} {P Q : RunEvent → Prop}

theorem All.mono (h : s.All P) (hPQ : ∀ ev, P ev → Q ev) : s.All Q :=
  fun ev hev => hPQ ev (h ev hev)

/-- A property of every event holds of a sequence when it holds of both stages. -/
theorem All.andThen (hs : s.All P) (hf : ∀ a, (f a).All P) : (s.andThen f).All P := by
  intro ev hev
  rcases events_andThen s f with h | ⟨a, h⟩ <;> rw [h] at hev
  · exact hs ev hev
  · rcases List.mem_append.1 hev with hev | hev
    exacts [hs ev hev, hf a ev hev]

end Stage

namespace Runner

variable {r : Runner} {w : World} {compositions : Keeper Composition}

@[simp] theorem prepare_id : (r.prepare w).1.id = r.id := by
  unfold prepare checkIfInsideContainer; split <;> rfl

theorem prepare_namedVolumes :
    (r.prepare w).1.namedVolumes = (resolveNamedVolumes r.id r.compositions).2 := by
  unfold prepare checkIfInsideContainer; split <;> rfl

/-! ### The networks of a run -/

/-- The network stage creates and joins the runner's network, and only when it is not
external. -/
theorem networkStage_network :
    (r.networkStage w).All fun ev => ∀ n, ev.network = some n →
      r.externalNetwork = none ∧ n = r.network := by
  unfold networkStage createNetwork
  split
  · rename_i hx
    have hx := Option.isNone_iff_eq_none.1 hx
    split
    · simp [Stage.All, RunEvent.network, hx]
    · split <;> simp [Stage.All, RunEvent.network, hx]
  · simp

theorem createStage_network : (createStage w compositions).All (·.network = none) := by
  intro ev h
  rcases hc : (createContainers w.create compositions).1 with ⟨e, cleanup⟩ | pending <;>
    simp only [createStage, hc, List.mem_append, List.mem_map, List.mem_singleton] at h
  · rcases h with ⟨_, -, rfl⟩ | rfl <;> rfl
  · obtain ⟨_, -, rfl⟩ := h; rfl

theorem startStage_network {pending : Keeper PendingContainer} :
    (startStage w pending).All (·.network = none) := by
  unfold startStage
  split <;> simp [Stage.All, Stage.pure, RunEvent.network]

theorem inspectContainers_network (cleanup : List CleanupContainer) :
    ∀ l : List RunningContainer, (inspectContainers w cleanup l).All (·.network = none)
  | [] => Stage.all_pure _ _
  | c :: cs => by
    have ih := inspectContainers_network cleanup cs
    unfold inspectContainers
    split
    · exact ih
    · split
      · simp [Stage.All, RunEvent.network]
      · simp [Stage.All, RunEvent.network]
      · simp [Stage.All, RunEvent.network]
      · exact Stage.All.andThen (by simp [Stage.All, RunEvent.network]) fun _ => ih

theorem inspectStage_network {running : Keeper RunningContainer} :
    (inspectStage w running).All (·.network = none) :=
  (inspectContainers_network _ _).andThen fun _ => Stage.all_pure _ _

theorem afterTest_network (cleanup : List CleanupContainer)
    (result : Except (Option String) Unit) : (afterTest w cleanup result).All (·.network = none) := by
  intro ev h
  obtain ⟨logged, hev | hev⟩ := afterTest_events (w := w) cleanup result <;>
    simp only [hev, List.mem_append, List.mem_map, List.mem_singleton] at h
  · obtain ⟨_, -, rfl⟩ := h; rfl
  · rcases h with ⟨_, -, rfl⟩ | rfl <;> rfl

/-- Every network a run creates or joins is the runner's own, and only when it is not
external. -/
theorem runImpl_network :
    (r.runImpl w).All fun ev => ∀ n, ev.network = some n →
      r.externalNetwork = none ∧ n = r.network := by
  have hnone (ev : RunEvent) (h : ev.network = none) (n : String) (hn : ev.network = some n) :
      r.externalNetwork = none ∧ n = r.network := by
    rw [h] at hn; cases hn
  have hnetwork := networkStage_network (r := (r.prepare w).1) (w := w)
  rw [prepare_externalNetwork, prepare_network] at hnetwork
  refine Stage.All.andThen (fun ev h => by simp at h) fun compositions =>
    Stage.All.andThen ?_ fun x => Stage.All.andThen (by simp [Stage.All, RunEvent.network])
      fun _ => by
        split
        · exact fun ev h => by simp at h
        · exact (afterTest_network _ _).mono hnone
  exact hnetwork.andThen fun _ => (createStage_network.mono hnone).andThen fun _ =>
    (startStage_network.mono hnone).andThen fun _ => inspectStage_network.mono hnone

/-! ### The networks and volumes of the teardowns -/

section Teardown

variable {d : Daemon} {prune : Option String} {cleanup : List CleanupContainer} {testFailed : Bool}
  {c : Call}

/-- The calls of `teardown_network` are on the runner's network. -/
theorem network_of_mem_networkPlan (hc : c ∈ (networkPlan r).flatten) : c.network = some r.network := by
  simp only [networkPlan, List.flatten_append, List.mem_append, List.mem_flatten, List.mem_map,
    Option.mem_toList, List.mem_singleton] at hc
  rcases hc with ⟨_, ⟨_, _, rfl⟩, hc⟩ | ⟨_, rfl, hc⟩ <;>
    (rw [List.mem_singleton] at hc; subst hc; rfl)

/-- Every network teardown leaves or removes is the runner's own, and only when it is not
external. -/
theorem network_of_mem_calls_teardown (h : c ∈ (calls (r.teardown d prune cleanup testFailed)).flatten)
    {n : String} (hn : c.network = some n) : r.externalNetwork = none ∧ n = r.network := by
  rcases mem_calls_teardown h with rfl | ⟨x, -, -, rfl | rfl⟩ | ⟨hx, hc⟩ | ⟨v, -, rfl⟩
  · cases hn
  · cases hn
  · cases hn
  · rw [network_of_mem_networkPlan hc] at hn
    exact ⟨hx, (Option.some.inj hn).symm⟩
  · cases hn

/-- Every volume teardown removes is one of the runner's named volumes. -/
theorem removeVolume_of_mem_calls_teardown {v : String} {force : Bool}
    (h : Call.removeVolume v force ∈ (calls (r.teardown d prune cleanup testFailed)).flatten) :
    v ∈ r.namedVolumes := by
  rcases mem_calls_teardown h with h | ⟨x, -, -, h | h⟩ | ⟨-, hc⟩ | ⟨v', hv, h⟩
  · cases h
  · cases h
  · cases h
  · cases network_of_mem_networkPlan hc
  · cases h; exact hv

/-- Teardown stops or removes only containers of its cleanup list that are not static. -/
theorem container_of_mem_calls_teardown {id : String}
    (h : c ∈ (calls (r.teardown d prune cleanup testFailed)).flatten)
    (hc : c = .stopContainer id ∨ ∃ force v, c = .removeContainer id force v) :
    ∃ x ∈ cleanup, x.isStatic = false ∧ x.id = id := by
  rcases mem_calls_teardown h with rfl | ⟨x, hx, hs, rfl | rfl⟩ | ⟨-, hn⟩ | ⟨v, -, rfl⟩
  · rcases hc with h | ⟨_, _, h⟩ <;> cases h
  · rcases hc with h | ⟨_, _, h⟩ <;> cases h
    exact ⟨x, hx, hs, rfl⟩
  · rcases hc with h | ⟨_, _, h⟩ <;> cases h
    exact ⟨x, hx, hs, rfl⟩
  · have := network_of_mem_networkPlan hn
    rcases hc with rfl | ⟨_, _, rfl⟩ <;> cases this
  · rcases hc with h | ⟨_, _, h⟩ <;> cases h

theorem mem_teardownCalls {r' : Runner} {events : List RunEvent}
    (h : c ∈ teardownCalls r' d prune events) :
    ∃ cleanup testFailed, .teardown cleanup testFailed ∈ events ∧
      c ∈ (calls (r'.teardown d prune cleanup testFailed)).flatten := by
  obtain ⟨ev, hev, hc⟩ := List.mem_flatMap.1 h
  cases ev <;> first | exact ⟨_, _, hev, hc⟩ | cases hc

/-- Every volume the teardowns of a run remove is `{name}-{id}` for a named volume that one of
the runner's compositions declares. -/
theorem removeVolume_of_mem_teardownCalls {events : List RunEvent} {v : String} {force : Bool}
    (h : Call.removeVolume v force ∈ teardownCalls (r.prepare w).1 d prune events) :
    ∃ c ∈ r.compositions, ∃ p ∈ c.namedVolumes, v = p.1 ++ "-" ++ r.id := by
  obtain ⟨cleanup, testFailed, -, h⟩ := mem_teardownCalls h
  have hv := removeVolume_of_mem_calls_teardown h
  rw [prepare_namedVolumes, resolveNamedVolumes, List.mem_map] at hv
  obtain ⟨⟨k, v⟩, hkv, rfl⟩ := hv
  obtain ⟨rfl, c, hc, hk⟩ := (mem_resolveCompositionVolumes_entries _ _).1 hkv
  obtain ⟨p, hp, rfl⟩ := List.mem_map.1 hk
  exact ⟨c, hc, p, hp, rfl⟩

end Teardown

/-! ### The containers of a run -/

/-- **A run stops or removes only containers it created**, or external ones, when the
readiness strategies keep ids, whatever the daemon answers and whatever `DOCKERTEST_PRUNE`
says. -/
theorem runImpl_stops_or_removes_created (hk : w.starter.KeepsIds) (d : Daemon)
    (prune : Option String) {id : String}
    (h : Call.stopContainer id ∈ teardownCalls (r.prepare w).1 d prune (r.runImpl w).events ∨
      ∃ force v, Call.removeContainer id force v ∈
        teardownCalls (r.prepare w).1 d prune (r.runImpl w).events) :
    id ∈ createdIds w (r.runImpl w).events ∨ id ∈ w.externalContainers.map RunningContainer.id := by
  obtain ⟨c, hc, hid⟩ : ∃ c ∈ teardownCalls (r.prepare w).1 d prune (r.runImpl w).events,
      c = .stopContainer id ∨ ∃ force v, c = .removeContainer id force v := by
    rcases h with h | ⟨force, v, h⟩
    exacts [⟨_, h, .inl rfl⟩, ⟨_, h, .inr ⟨force, v, rfl⟩⟩]
  obtain ⟨cleanup, testFailed, hev, hc⟩ := mem_teardownCalls hc
  obtain ⟨x, hx, -, rfl⟩ := container_of_mem_calls_teardown hc hid
  obtain ⟨compositions, hcleanup, hids⟩ := runImpl_teardown_cleanup hk hev
  have hmem : x.id ∈ cleanup.map CleanupContainer.id := List.mem_map_of_mem _ hx
  rw [hids]
  rcases List.mem_append.1 (hcleanup.subset hmem) with h | h
  · exact .inl h
  · split at h
    · exact .inr h
    · exact (List.not_mem_nil _ h).elim

/-- The calm run removes the container `a-id` it created. -/
theorem runImpl_stops_or_removes_created_calmWorld :
    calmWorld.starter.KeepsIds ∧
      (∃ force v, Call.removeContainer "a-id" force v ∈ teardownCalls
        (twoRunner.prepare calmWorld).1 ⟨fun _ => .ok ()⟩ none (twoRunner.runImpl calmWorld).events) ∧
      ("a-id" ∈ createdIds calmWorld (twoRunner.runImpl calmWorld).events ∨
        "a-id" ∈ calmWorld.externalContainers.map RunningContainer.id) := by
  have hk : calmWorld.starter.KeepsIds := fun _ _ h => by cases h; rfl
  have hmem : Call.removeContainer "a-id" true true ∈ teardownCalls (twoRunner.prepare calmWorld).1
      ⟨fun _ => .ok ()⟩ none (twoRunner.runImpl calmWorld).events := by decide
  exact ⟨hk, ⟨true, true, hmem⟩,
    runImpl_stops_or_removes_created hk ⟨fun _ => .ok ()⟩ none (.inr ⟨true, true, hmem⟩)⟩

/-! ### Container names -/

theorem prepare_compositions_length :
    (r.prepare w).1.compositions.length = r.compositions.length := by
  rw [prepare_compositions, List.length_map]

/-- `calmWorld` with a suffix drawn for each composition: the `i`-th suffix repeats the
`i`-th letter. -/
def drawnWorld : World :=
  { calmWorld with suffixes := fun i => generateRandomString 20 fun _ => Fin.ofNat i }

/-- What the preparation of `twoRunner` in `drawnWorld` hands to the creation. -/
def drawnCompositions : Keeper Composition :=
  match (twoRunner.prepare drawnWorld).2.result with
  | .ok (.ok k) => k
  | _ => ⟨⟨[]⟩, .empty, []⟩

/-- **The compositions a run hands to `create` have pairwise different container names** when
the suffixes `generate_random_string(20)` draws for them are pairwise different. -/
theorem prepare_containerName_nodup
    (hdrawn : ∀ i, ∃ draw, w.suffixes i = generateRandomString 20 draw)
    (hs : ((List.range r.compositions.length).map w.suffixes).Nodup)
    (hp : (r.prepare w).2.result = .ok (.ok compositions)) :
    (compositions.kept.map Composition.containerName).Nodup := by
  rw [prepare_result] at hp
  split at hp
  · cases hp
  · cases hp
  · rename_i heq
    cases hp
    rw [(injected_of_resolveInjectContainerNameEnv _ _ _ heq).map_eq Composition.containerName fun _ _ => rfl]
    refine resolveFinalContainerName_nodup hdrawn _ ?_
    simpa [validateCompositionHandlers, prepare_compositions_length] using hs

theorem prepare_containerName_nodup_drawnWorld :
    (∀ i, ∃ draw, drawnWorld.suffixes i = generateRandomString 20 draw) ∧
      ((List.range twoRunner.compositions.length).map drawnWorld.suffixes).Nodup ∧
      (twoRunner.prepare drawnWorld).2.result = .ok (.ok drawnCompositions) ∧
      (drawnCompositions.kept.map Composition.containerName).Nodup := by
  have hdrawn : ∀ i, ∃ draw, drawnWorld.suffixes i = generateRandomString 20 draw :=
    fun _ => ⟨_, rfl⟩
  have hs : ((List.range twoRunner.compositions.length).map drawnWorld.suffixes).Nodup := by
    decide
  have hp : (twoRunner.prepare drawnWorld).2.result = .ok (.ok drawnCompositions) := rfl
  exact ⟨hdrawn, hs, hp, prepare_containerName_nodup hdrawn hs hp⟩

/-! ### What a run touches -/

/-- The run of `r` in `w` creates or joins the network `n`, or one of its teardowns leaves or
removes it, when the daemon answers `d` and `DOCKERTEST_PRUNE` is `prune`. -/
def TouchesNetwork (r : Runner) (w : World) (d : Daemon) (prune : Option String) (n : String) :
    Prop :=
  (∃ ev ∈ (r.runImpl w).events, ev.network = some n) ∨
    ∃ c ∈ teardownCalls (r.prepare w).1 d prune (r.runImpl w).events, c.network = some n

/-- One of the teardowns of the run of `r` in `w` removes the volume `v`. -/
def RemovesVolume (r : Runner) (w : World) (d : Daemon) (prune : Option String) (v : String) :
    Prop :=
  ∃ force, Call.removeVolume v force ∈ teardownCalls (r.prepare w).1 d prune (r.runImpl w).events

section Touches

variable {d : Daemon} {prune : Option String}

/-- A run touches only the runner's network, and only when it is not external. -/
theorem touchesNetwork_own {n : String} (h : r.TouchesNetwork w d prune n) :
    r.externalNetwork = none ∧ n = r.network := by
  rcases h with ⟨ev, hev, hn⟩ | ⟨c, hc, hn⟩
  · exact runImpl_network ev hev n hn
  · obtain ⟨cleanup, testFailed, -, hc⟩ := mem_teardownCalls hc
    simpa using network_of_mem_calls_teardown hc hn

theorem removesVolume_own {v : String} (h : r.RemovesVolume w d prune v) :
    ∃ c ∈ r.compositions, ∃ p ∈ c.namedVolumes, v = p.1 ++ "-" ++ r.id :=
  let ⟨_, h⟩ := h
  removeVolume_of_mem_teardownCalls h

end Touches

/-! ### Runners built by `try_new` -/

/-- `Runner::try_new` on the config's compositions, namespace, external network and container
id; `connect` is what `connect_with_local_or_tls_defaults` returns and `draw` what the random
number generator draws for the id. -/
def tryNew (compositions : List Composition) (ns : String)
    (externalNetwork containerId : Option String) (connect : Except DockerTestError Unit)
    (draw : Nat → Fin 25) : Except DockerTestError Runner :=
  connect.map fun () =>
    let id := generateRandomString 20 draw
    { compositions, ns, externalNetwork, containerId, namedVolumes := []
      network := externalNetwork.getD ("dockertest-rs-" ++ id), id }

section TryNew

variable {compositions : List Composition} {ns : String}
  {externalNetwork containerId : Option String} {connect : Except DockerTestError Unit}
  {draw : Nat → Fin 25}

theorem eq_of_tryNew (h : tryNew compositions ns externalNetwork containerId connect draw = .ok r) :
    r = { compositions, ns, externalNetwork, containerId, namedVolumes := []
          network := externalNetwork.getD ("dockertest-rs-" ++ generateRandomString 20 draw)
          id := generateRandomString 20 draw } := by
  cases connect with
  | error e => cases h
  | ok u => cases h; rfl

/-- Names that end in ids of one length are equal only when the ids are. -/
theorem eq_of_append_eq_append {a b c e : String} (h : a ++ b = c ++ e) (hl : b.length = e.length) :
    b = e := by
  have h' := congrArg String.data h
  simp only [String.data_append] at h'
  exact String.ext (List.append_inj' h' hl).2

/-- The runner `try_new` builds for the compositions of `twoRunner` when every letter drawn is
the `k`-th. -/
def drawnRunner (k : Fin 25) : Runner :=
  { twoRunner with
    network := "dockertest-rs-" ++ generateRandomString 20 fun _ => k
    id := generateRandomString 20 fun _ => k }

/-- **A run of a runner built by `try_new` touches only its own resources**, whatever the
daemon answers and whatever `DOCKERTEST_PRUNE` says: every network the run creates or joins,
and every network its teardowns leave or remove, is `dockertest-rs-{id}`, and there is none
when an external network is configured; every volume its teardowns remove is `{name}-{id}`
for a named volume that one of the compositions declares. -/
theorem tryNew_runImpl_resources
    (h : tryNew compositions ns externalNetwork containerId connect draw = .ok r)
    (w : World) (d : Daemon) (prune : Option String) :
    (∀ n, r.TouchesNetwork w d prune n → externalNetwork = none ∧ n = "dockertest-rs-" ++ r.id) ∧
      ∀ v, r.RemovesVolume w d prune v →
        ∃ c ∈ compositions, ∃ p ∈ c.namedVolumes, v = p.1 ++ "-" ++ r.id := by
  obtain rfl := eq_of_tryNew h
  refine ⟨fun n hn => ?_, fun v hv => removesVolume_own hv⟩
  obtain ⟨rfl, rfl⟩ := touchesNetwork_own hn
  exact ⟨rfl, rfl⟩

theorem tryNew_runImpl_resources_drawnRunner :
    tryNew twoRunner.compositions "ns" none none (.ok ()) (fun _ => 0) = .ok (drawnRunner 0) ∧
      (∀ n, (drawnRunner 0).TouchesNetwork calmWorld ⟨fun _ => .ok ()⟩ none n →
        (none : Option String) = none ∧ n = "dockertest-rs-" ++ (drawnRunner 0).id) ∧
      ∀ v, (drawnRunner 0).RemovesVolume calmWorld ⟨fun _ => .ok ()⟩ none v →
        ∃ c ∈ twoRunner.compositions, ∃ p ∈ c.namedVolumes, v = p.1 ++ "-" ++ (drawnRunner 0).id := by
  have h : tryNew twoRunner.compositions "ns" none none (.ok ()) (fun _ => 0) = .ok (drawnRunner 0) :=
    rfl
  exact ⟨h, tryNew_runImpl_resources h calmWorld ⟨fun _ => .ok ()⟩ none⟩

/-- The calm run does create its network. -/
example : (drawnRunner 0).TouchesNetwork calmWorld ⟨fun _ => .ok ()⟩ none
    ("dockertest-rs-" ++ (drawnRunner 0).id) :=
  .inl ⟨.createNetwork ("dockertest-rs-" ++ (drawnRunner 0).id), by decide, rfl⟩

/-- **Two runs with different ids touch no common network or volume**, whatever they are
configured with, whatever the daemon answers each and whatever `DOCKERTEST_PRUNE` says: tests
that run in parallel on one daemon do not interfere through them.  The volumes are told apart
because every id has twenty letters. -/
theorem tryNew_runImpl_disjoint {compositions₂ : List Composition} {ns₂ : String}
    {externalNetwork₂ containerId₂ : Option String} {connect₂ : Except DockerTestError Unit}
    {draw₂ : Nat → Fin 25} {r₂ : Runner}
    (h : tryNew compositions ns externalNetwork containerId connect draw = .ok r)
    (h₂ : tryNew compositions₂ ns₂ externalNetwork₂ containerId₂ connect₂ draw₂ = .ok r₂)
    (hid : r.id ≠ r₂.id) (w w₂ : World) (d d₂ : Daemon) (prune prune₂ : Option String) :
    (∀ n, r.TouchesNetwork w d prune n → ¬ r₂.TouchesNetwork w₂ d₂ prune₂ n) ∧
      ∀ v, r.RemovesVolume w d prune v → ¬ r₂.RemovesVolume w₂ d₂ prune₂ v := by
  obtain rfl := eq_of_tryNew h
  obtain rfl := eq_of_tryNew h₂
  refine ⟨fun n hn hn₂ => hid ?_, fun v hv hv₂ => hid ?_⟩
  · obtain ⟨rfl, rfl⟩ := touchesNetwork_own hn
    obtain ⟨rfl, h⟩ := touchesNetwork_own hn₂
    exact eq_of_append_eq_append h (by simp)
  · obtain ⟨_, -, p, -, rfl⟩ := removesVolume_own hv
    obtain ⟨_, -, p₂, -, h⟩ := removesVolume_own hv₂
    exact eq_of_append_eq_append h (by simp)

theorem tryNew_runImpl_disjoint_drawnRunner :
    tryNew twoRunner.compositions "ns" none none (.ok ()) (fun _ => 0) = .ok (drawnRunner 0) ∧
      tryNew twoRunner.compositions "ns" none none (.ok ()) (fun _ => 1) = .ok (drawnRunner 1) ∧
      (drawnRunner 0).id ≠ (drawnRunner 1).id ∧
      (∀ n, (drawnRunner 0).TouchesNetwork calmWorld ⟨fun _ => .ok ()⟩ none n →
        ¬ (drawnRunner 1).TouchesNetwork calmWorld ⟨fun _ => .ok ()⟩ none n) ∧
      ∀ v, (drawnRunner 0).RemovesVolume calmWorld ⟨fun _ => .ok ()⟩ none v →
        ¬ (drawnRunner 1).RemovesVolume calmWorld ⟨fun _ => .ok ()⟩ none v := by
  have h : tryNew twoRunner.compositions "ns" none none (.ok ()) (fun _ => 0) = .ok (drawnRunner 0) :=
    rfl
  have h₂ : tryNew twoRunner.compositions "ns" none none (.ok ()) (fun _ => 1) = .ok (drawnRunner 1) :=
    rfl
  have hid : (drawnRunner 0).id ≠ (drawnRunner 1).id := by decide
  exact ⟨h, h₂, hid, tryNew_runImpl_disjoint h h₂ hid calmWorld calmWorld ⟨fun _ => .ok ()⟩
    ⟨fun _ => .ok ()⟩ none none⟩

end TryNew

end Runner

end Dockertest

import Mathlib.Logic.Relation
import Dockertest.Runner.Start

/-!
# The start phase as interleaved tasks

`start_containers` spawns a task per relaxed container (`tokio::spawn(c.start())`), then
starts the strict containers one by one on the orchestrating task, and then joins the
relaxed tasks, or drops their handles when a strict start failed.  The spawned tasks run on
their own: they finish in any order, interleaved with the strict starts, and a dropped task
still runs to its end.

`Starting` is the state of this phase and `Starting.step` one step of one task: a relaxed task
runs its start, or the orchestrating task starts its next strict container, or returns.  Every
interleaving is a sequence of steps from `Starting.init`.

`Inv` is what holds in every reachable state (`reachable_inv`, from `inv_init` and
`Inv.step`).  Its consequences:

* `returned_eq_startContainers`: whatever the interleaving, what the orchestrating task
  returns is `startContainers`, the sequential reading of `Start.lean`;
* `exists_complete_startContainers`: from every reachable state, the tasks can all run to
  their end and the orchestrating task return, and every state so completed holds
  `startContainers`;
* `startContainers_starts_and_reports`: in a complete state, every relaxed container has been
  started and the strict ones up to the first failure, in order (`startedPrefix`), and the
  phase reports the first failure; it returns running containers only when every start
  succeeds, and whenever they all succeed if the readiness strategies keep ids, which
  `startContainers_foreignReady` shows to be needed: a strategy that hands back another id
  makes the sort unwind.
-/

namespace Dockertest

/-- Who runs next: the orchestrating task, or the `i`-th spawned relaxed task. -/
inductive Thread where
  | orchestrator
  | relaxed (i : Nat)
deriving Repr, DecidableEq

/-- A state of `start_containers` while it runs. -/
structure Starting where
  /-- The relaxed tasks in spawn order: `none` while running, their result once finished. -/
  tasks : List (Option JoinResult)
  /-- The strict containers the loop of `start_strict_containers` has not reached. -/
  strictTodo : List PendingContainer
  /-- `running` of `start_strict_containers`. -/
  strictRunning : List RunningContainer
  /-- `first_error` of `start_strict_containers`. -/
  strictError : Option DockerTestError
  /-- The containers whose start has been issued, in order. -/
  issued : List PendingContainer
  /-- What `start_containers` returned, once it has. -/
  returned : Option StartOutcome

namespace Starting

variable (s : Starter) (input : Keeper PendingContainer)

/-- Right after `start_relaxed_containers`: every relaxed task spawned, nothing started. -/
def init : Starting where
  tasks := (partitionPolicy input.kept).1.map fun _ => none
  strictTodo := (partitionPolicy input.kept).2
  strictRunning := []
  strictError := none
  issued := []
  returned := none

/-- The orchestrating task returns: after a strict failure at once, dropping the relaxed
tasks; otherwise once every relaxed task has finished, with their results in spawn order. -/
def finish (st : Starting) : Option StartOutcome :=
  if st.strictError.isSome ∨ st.tasks.all Option.isSome then
    some (startResult input (startCleanup input.kept)
      (match st.strictError with
        | some e => .error e
        | none => .ok st.strictRunning)
      (waitForRelaxedContainers (st.tasks.filterMap id) st.strictError.isSome))
  else none

/-- One step of one task; `none` when that task cannot move. -/
def step (st : Starting) : Thread → Option Starting
  | .relaxed i =>
    match st.tasks[i]?, (partitionPolicy input.kept).1[i]? with
    | some none, some p =>
      some { st with tasks := st.tasks.set i (some (s.task p)), issued := st.issued ++ [p] }
    | _, _ => none
  | .orchestrator =>
    if st.returned.isSome then none
    else
      match st.strictError, st.strictTodo with
      | none, c :: cs =>
        some (match s.start c with
          | .ok r => { st with
              strictTodo := cs
              strictRunning := st.strictRunning ++ [r]
              issued := st.issued ++ [c] }
          | .error e => { st with
              strictTodo := cs
              strictError := some e
              issued := st.issued ++ [c] })
      | _, _ => (finish input st).map fun r => { st with returned := some r }

inductive Reachable : Starting → Prop
  | init : Reachable (init input)
  | step {st st' : Starting} {t : Thread} : Reachable st → step s input st t = some st' →
      Reachable st'

/-- Every task has run to its end and the orchestrating task has returned. -/
def Complete (st : Starting) : Prop :=
  st.returned.isSome ∧ st.tasks.all Option.isSome

end Starting

/-- The strict containers whose start is issued: up to and including the first that fails. -/
def startedPrefix (start : PendingContainer → Except DockerTestError RunningContainer) :
    List PendingContainer → List PendingContainer
  | [] => []
  | c :: cs =>
    c :: match start c with
      | .ok _ => startedPrefix start cs
      | .error _ => []

namespace Starting

variable {s : Starter} {input : Keeper PendingContainer} {st st' : Starting} {t : Thread}

/-- **What one step can do**: a relaxed task finishes, the next strict container is started,
or the orchestrating task returns. -/
theorem step_cases (h : step s input st t = some st') :
    (∃ i p, st.tasks[i]? = some none ∧ (partitionPolicy input.kept).1[i]? = some p ∧
      st' = { st with tasks := st.tasks.set i (some (s.task p)), issued := st.issued ++ [p] }) ∨
    (∃ c cs, st.returned = none ∧ st.strictError = none ∧ st.strictTodo = c :: cs ∧
      ((∃ r, s.start c = .ok r ∧ st' = { st with
          strictTodo := cs
          strictRunning := st.strictRunning ++ [r]
          issued := st.issued ++ [c] }) ∨
       (∃ e, s.start c = .error e ∧ st' = { st with
          strictTodo := cs
          strictError := some e
          issued := st.issued ++ [c] }))) ∨
    (∃ r, st.returned = none ∧ (st.strictError.isSome ∨ st.strictTodo = []) ∧
      finish input st = some r ∧ st' = { st with returned := some r }) := by
  cases t with
  | relaxed i =>
    left
    simp only [step] at h
    split at h
    · cases h; exact ⟨i, _, ‹_›, ‹_›, rfl⟩
    · cases h
  | orchestrator =>
    right
    simp only [step] at h
    split at h
    · cases h
    · rename_i hret
      have hret : st.returned = none := by simpa using hret
      split at h
      · rename_i c cs he ht
        left
        refine ⟨c, cs, hret, he, ht, ?_⟩
        cases hs : s.start c with
        | ok r => simp only [hs, Option.some.injEq] at h; exact .inl ⟨r, rfl, h.symm⟩
        | error e => simp only [hs, Option.some.injEq] at h; exact .inr ⟨e, rfl, h.symm⟩
      · rename_i hne
        right
        obtain ⟨r, hf, rfl⟩ := Option.map_eq_some'.1 h
        refine ⟨r, hret, ?_, hf, rfl⟩
        cases he : st.strictError with
        | some e => simp
        | none =>
          cases ht : st.strictTodo with
          | nil => simp
          | cons c cs => exact absurd ht (hne c cs he)

variable (s input) in
/-- What holds in every reachable state: each finished task holds its container's result and
has issued its start, the strict containers issued are those the strict loop has passed, the
strict loop agrees with `start_strict_containers`, and what was returned is
`startContainers`. -/
structure Inv (st : Starting) : Prop where
  tasks_length : st.tasks.length = (partitionPolicy input.kept).1.length
  task_eq : ∀ (i : Nat) p r, (partitionPolicy input.kept).1[i]? = some p →
    st.tasks[i]? = some (some r) → r = s.task p
  task_issued : ∀ (i : Nat) p r, (partitionPolicy input.kept).1[i]? = some p →
    st.tasks[i]? = some (some r) → p ∈ st.issued
  strict_issued : st.issued.filter (·.startPolicy == .strict) ++ st.strictTodo =
    (partitionPolicy input.kept).2
  strict_running : st.strictError = none →
    startStrictLoop s.start st.strictRunning st.strictTodo =
      startStrictContainers s.start (partitionPolicy input.kept).2
  strict_error : ∀ e, st.strictError = some e →
    startStrictContainers s.start (partitionPolicy input.kept).2 = .error e
  prefix_running : st.strictError = none →
    startedPrefix s.start (partitionPolicy input.kept).2 =
      st.issued.filter (·.startPolicy == .strict) ++ startedPrefix s.start st.strictTodo
  prefix_error : st.strictError.isSome →
    startedPrefix s.start (partitionPolicy input.kept).2 =
      st.issued.filter (·.startPolicy == .strict)
  returned_eq : ∀ r, st.returned = some r → r = startContainers s input
  returned_done : st.returned.isSome → st.strictError.isSome ∨ st.strictTodo = []

theorem init_task_running {i : Nat} {r : JoinResult} : (init input).tasks[i]? ≠ some (some r) := by
  simp only [init, List.map_const', List.getElem?_replicate]
  split <;> simp

theorem inv_init : Inv s input (init input) where
  tasks_length := by simp [init]
  task_eq _ _ _ _ h := absurd h init_task_running
  task_issued _ _ _ _ h := absurd h init_task_running
  strict_issued := by simp [init]
  strict_running _ := rfl
  strict_error e h := by simp [init] at h
  prefix_running _ := by simp [init]
  prefix_error h := by simp [init] at h
  returned_eq r h := by simp [init] at h
  returned_done h := by simp [init] at h

theorem Inv.task_done (hi : Inv s input st) (ha : st.tasks.all Option.isSome) {i : Nat}
    {p : PendingContainer} (hpi : (partitionPolicy input.kept).1[i]? = some p) :
    st.tasks[i]? = some (some (s.task p)) := by
  have hlt : i < st.tasks.length := hi.tasks_length ▸ (List.getElem?_eq_some_iff.1 hpi).1
  obtain ⟨r, hr⟩ := Option.isSome_iff_exists.1 (List.all_eq_true.1 ha _ (List.getElem_mem hlt))
  have hr' : st.tasks[i]? = some (some r) := by rw [List.getElem?_eq_getElem hlt, hr]
  rw [hr', hi.task_eq i p r hpi hr']

theorem Inv.filterMap_tasks (hi : Inv s input st) (ha : st.tasks.all Option.isSome) :
    st.tasks.filterMap id = (partitionPolicy input.kept).1.map s.task := by
  have hall : st.tasks = (partitionPolicy input.kept).1.map (some ∘ s.task) := by
    refine List.ext_getElem? fun i => ?_
    cases hp : (partitionPolicy input.kept).1[i]? with
    | none =>
      have := List.getElem?_eq_none_iff.1 hp
      rw [List.getElem?_eq_none (by rw [hi.tasks_length]; exact this)]
      simp [hp]
    | some p => simp [hp, hi.task_done ha hp]
  rw [hall, List.filterMap_map, Function.id_comp, List.filterMap_eq_map]

theorem Inv.finish_eq (hi : Inv s input st) {r : StartOutcome}
    (hd : st.strictError.isSome ∨ st.strictTodo = []) (hf : finish input st = some r) :
    r = startContainers s input := by
  unfold finish at hf
  split_ifs at hf with hc
  cases hf
  cases he : st.strictError with
  | some e =>
    simp [startContainers, hi.strict_error e he, startResult]
  | none =>
    have ht : st.strictTodo = [] := by simpa [he] using hd
    have ha : st.tasks.all Option.isSome := by simpa [he] using hc
    have hs := hi.strict_running he
    rw [ht, startStrictLoop] at hs
    simp [startContainers, ← hs, hi.filterMap_tasks ha, Except.isOk, Except.toBool]

theorem getElem?_set_task {tasks : List (Option JoinResult)} {i j : Nat} {x r : JoinResult}
    (h : (tasks.set i (some x))[j]? = some (some r)) :
    (j = i ∧ r = x) ∨ tasks[j]? = some (some r) := by
  rw [List.getElem?_set] at h
  split_ifs at h with hij
  · cases h; exact .inl ⟨hij.symm, rfl⟩
  · exact .inr h

theorem Inv.relaxed_step (hi : Inv s input st) {i : Nat} {p : PendingContainer}
    (hti : st.tasks[i]? = some none) (hpi : (partitionPolicy input.kept).1[i]? = some p) :
    Inv s input { st with tasks := st.tasks.set i (some (s.task p)), issued := st.issued ++ [p] } := by
  have hstrict : (st.issued ++ [p]).filter (·.startPolicy == .strict) =
      st.issued.filter (·.startPolicy == .strict) := by
    simp [(mem_partitionPolicy_fst.1 (List.getElem?_mem hpi)).2]
  refine { hi with
    tasks_length := by simp [hi.tasks_length]
    task_eq := fun j q r hq hr => ?_
    task_issued := fun j q r hq hr => ?_
    strict_issued := by rw [hstrict]; exact hi.strict_issued
    prefix_running := by rw [hstrict]; exact hi.prefix_running
    prefix_error := by rw [hstrict]; exact hi.prefix_error }
  · rcases getElem?_set_task hr with ⟨rfl, rfl⟩ | hr
    · rw [hpi] at hq; cases hq; rfl
    · exact hi.task_eq j q r hq hr
  · rcases getElem?_set_task hr with ⟨rfl, rfl⟩ | hr
    · rw [hpi] at hq; cases hq; simp
    · exact List.mem_append_left _ (hi.task_issued j q r hq hr)

theorem Inv.startPolicy_of_todo (hi : Inv s input st) {c : PendingContainer}
    {cs : List PendingContainer} (ht : st.strictTodo = c :: cs) : c.startPolicy = .strict := by
  have : c ∈ (partitionPolicy input.kept).2 := by rw [← hi.strict_issued, ht]; simp
  exact (mem_partitionPolicy_snd.1 this).2

theorem Inv.strict_of_todo (hi : Inv s input st) {c : PendingContainer} {cs : List PendingContainer}
    (ht : st.strictTodo = c :: cs) :
    (st.issued ++ [c]).filter (·.startPolicy == .strict) ++ cs = (partitionPolicy input.kept).2 := by
  rw [← hi.strict_issued, ht]
  simp [hi.startPolicy_of_todo ht]

theorem Inv.strict_ok (hi : Inv s input st) {c : PendingContainer} {cs : List PendingContainer}
    {r : RunningContainer} (he : st.strictError = none) (ht : st.strictTodo = c :: cs)
    (hr : s.start c = .ok r) :
    Inv s input { st with
      strictTodo := cs
      strictRunning := st.strictRunning ++ [r]
      issued := st.issued ++ [c] } := by
  have hc := hi.strict_of_todo ht
  refine { hi with
    task_issued := fun j q r hq hr => List.mem_append_left _ (hi.task_issued j q r hq hr)
    strict_issued := hc
    strict_running := fun _ => ?_
    prefix_running := fun _ => ?_
    prefix_error := fun h => by simp [he] at h
    returned_done := fun h => ?_ }
  · rw [← hi.strict_running he, ht, startStrictLoop, hr]
  · rw [hi.prefix_running he, ht, startedPrefix, hr]
    simp [hi.startPolicy_of_todo ht]
  · have := hi.returned_done h
    simp_all

theorem Inv.strict_error_step (hi : Inv s input st) {c : PendingContainer}
    {cs : List PendingContainer} {e : DockerTestError} (he : st.strictError = none)
    (ht : st.strictTodo = c :: cs) (hr : s.start c = .error e) :
    Inv s input { st with
      strictTodo := cs
      strictError := some e
      issued := st.issued ++ [c] } := by
  have hc := hi.strict_of_todo ht
  refine { hi with
    task_issued := fun j q r hq hr => List.mem_append_left _ (hi.task_issued j q r hq hr)
    strict_issued := hc
    strict_running := fun h => by simp at h
    strict_error := fun e' h => ?_
    prefix_running := fun h => by simp at h
    prefix_error := fun _ => ?_
    returned_done := fun _ => by simp }
  · cases h
    rw [← hi.strict_running he, ht, startStrictLoop, hr]
  · rw [hi.prefix_running he, ht, startedPrefix, hr]
    simp [hi.startPolicy_of_todo ht]

theorem Inv.return_step (hi : Inv s input st) {r : StartOutcome}
    (hd : st.strictError.isSome ∨ st.strictTodo = []) (hf : finish input st = some r) :
    Inv s input { st with returned := some r } :=
  { hi with
    returned_eq := fun r' h => by cases h; exact hi.finish_eq hd hf
    returned_done := fun _ => hd }

theorem Inv.step (hi : Inv s input st) (h : step s input st t = some st') : Inv s input st' := by
  rcases step_cases h with ⟨i, p, hti, hpi, rfl⟩ |
    ⟨c, cs, -, he, ht, ⟨r, hr, rfl⟩ | ⟨e, hr, rfl⟩⟩ | ⟨r, -, hd, hf, rfl⟩
  · exact hi.relaxed_step hti hpi
  · exact hi.strict_ok he ht hr
  · exact hi.strict_error_step he ht hr
  · exact hi.return_step hd hf

/-- **The invariant holds in every reachable state.** -/
theorem reachable_inv (h : Reachable s input st) : Inv s input st := by
  induction h with
  | init => exact inv_init
  | step _ hst ih => exact ih.step hst

/-- **Whatever the interleaving, the orchestrating task returns `startContainers`.** -/
theorem returned_eq_startContainers (h : Reachable s input st) {r : StartOutcome}
    (hr : st.returned = some r) : r = startContainers s input :=
  (reachable_inv h).returned_eq r hr

/-! ### Every run can be completed -/

variable (s input) in
def Steps : Starting → Starting → Prop :=
  Relation.ReflTransGen fun a b => ∃ t, step s input a t = some b

theorem Reachable.steps (h : Reachable s input st) (hs : Steps s input st st') :
    Reachable s input st' := by
  induction hs with
  | refl => exact h
  | tail _ hab ih => exact .step ih hab.choose_spec

theorem exists_tasks_done (h : Reachable s input st) :
    ∃ st', Steps s input st st' ∧ Reachable s input st' ∧ st'.tasks.all Option.isSome := by
  generalize hn : st.tasks.countP Option.isNone = n
  induction n generalizing st with
  | zero => exact ⟨st, .refl, h, by simpa [Option.isSome_iff_ne_none] using hn⟩
  | succ n ih =>
    obtain ⟨x, hx, hnone⟩ := List.countP_pos_iff.1 (by omega : 0 < st.tasks.countP Option.isNone)
    obtain ⟨i, hti⟩ := List.mem_iff_getElem?.1 hx
    rw [Option.isNone_iff_eq_none.1 hnone] at hti
    obtain ⟨hlt, hget⟩ := List.getElem?_eq_some_iff.1 hti
    obtain ⟨p, hpi⟩ : ∃ p, (partitionPolicy input.kept).1[i]? = some p :=
      ⟨_, List.getElem?_eq_getElem ((reachable_inv h).tasks_length ▸ hlt)⟩
    have hstep : step s input st (.relaxed i) = some
        { st with tasks := st.tasks.set i (some (s.task p)), issued := st.issued ++ [p] } := by
      simp [step, hti, hpi]
    have hcount : (st.tasks.set i (some (s.task p))).countP Option.isNone = n := by
      rw [List.countP_set _ _ _ _ hlt, hget]; simp; omega
    obtain ⟨st', hs, h', ha⟩ := ih (.step h hstep) hcount
    exact ⟨st', .head ⟨_, hstep⟩ hs, h', ha⟩

theorem step_return (hr : st.returned = none) (ha : st.tasks.all Option.isSome)
    (hd : st.strictError.isSome ∨ st.strictTodo = []) :
    ∃ st', step s input st .orchestrator = some st' ∧ Complete st' := by
  obtain ⟨r, hf⟩ : ∃ r, finish input st = some r := ⟨_, if_pos (.inr ha)⟩
  refine ⟨{ st with returned := some r }, ?_, by simp, ha⟩
  cases he : st.strictError with
  | some e => simp [step, hr, he, hf]
  | none =>
    have ht : st.strictTodo = [] := by simpa [he] using hd
    simp [step, hr, he, ht, hf]

theorem exists_strict_step {c : PendingContainer} {cs : List PendingContainer}
    (hr : st.returned = none) (he : st.strictError = none) (ht : st.strictTodo = c :: cs) :
    ∃ st', step s input st .orchestrator = some st' ∧ st'.strictTodo = cs ∧
      st'.tasks = st.tasks ∧ st'.returned = none := by
  cases hc : s.start c with
  | ok r =>
    refine ⟨{ st with
      strictTodo := cs
      strictRunning := st.strictRunning ++ [r]
      issued := st.issued ++ [c] }, ?_, rfl, rfl, hr⟩
    simp [step, hr, he, ht, hc]
  | error e =>
    refine ⟨{ st with
      strictTodo := cs
      strictError := some e
      issued := st.issued ++ [c] }, ?_, rfl, rfl, hr⟩
    simp [step, hr, he, ht, hc]

theorem exists_complete_of_tasks_done (h : Reachable s input st)
    (ha : st.tasks.all Option.isSome) (hr : st.returned = none) :
    ∃ st', Steps s input st st' ∧ Complete st' := by
  generalize ht : st.strictTodo = todo
  induction todo generalizing st with
  | nil =>
    obtain ⟨st', hs, hc⟩ := step_return hr ha (.inr ht)
    exact ⟨st', .single ⟨_, hs⟩, hc⟩
  | cons c cs ih =>
    cases he : st.strictError with
    | some e =>
      obtain ⟨st', hs, hc⟩ := step_return hr ha (.inl (by simp [he]))
      exact ⟨st', .single ⟨_, hs⟩, hc⟩
    | none =>
      obtain ⟨st₁, hs, ht₁, hta, hr₁⟩ := @exists_strict_step s input st c cs hr he ht
      obtain ⟨st', hs', hc⟩ := ih (.step h hs) (hta ▸ ha) hr₁ ht₁
      exact ⟨st', .head ⟨_, hs⟩ hs', hc⟩

/-- **Every run can be completed**: from every reachable state, the tasks can all run to their
end and the orchestrating task return. -/
theorem exists_complete (h : Reachable s input st) :
    ∃ st', Steps s input st st' ∧ Complete st' := by
  obtain ⟨st₁, h₁, hr₁, ha⟩ := exists_tasks_done h
  cases hret : st₁.returned with
  | some r => exact ⟨st₁, h₁, by simp [hret], ha⟩
  | none =>
    obtain ⟨st', h₂, hc⟩ := exists_complete_of_tasks_done hr₁ ha hret
    exact ⟨st', h₁.trans h₂, hc⟩

/-! ### What was started -/

theorem Inv.relaxed_issued (hi : Inv s input st) (ha : st.tasks.all Option.isSome)
    {p : PendingContainer} (hp : p ∈ (partitionPolicy input.kept).1) : p ∈ st.issued := by
  obtain ⟨i, hpi⟩ := List.mem_iff_getElem?.1 hp
  exact hi.task_issued i p _ hpi (hi.task_done ha hpi)

theorem Inv.strict_issued_prefix (hi : Inv s input st) (hr : st.returned.isSome) :
    st.issued.filter (·.startPolicy == .strict) = startedPrefix s.start (partitionPolicy input.kept).2 := by
  cases he : st.strictError with
  | some e => exact (hi.prefix_error (by simp [he])).symm
  | none =>
    have ht : st.strictTodo = [] := by simpa [he] using hi.returned_done hr
    rw [hi.prefix_running he, ht, startedPrefix, List.append_nil]

/-! ### Two runs

A relaxed container `a` declared before a strict container `b`.  When every start succeeds,
the schedule "start `b`, finish `a`, return" leads to `readyDone`.  When strict starts fail,
the orchestrating task returns at once and the relaxed task finishes after: the schedule
"start `b`, return, finish `a`" leads to `strictFailedDone`. -/

def relaxedThenStrict : Keeper PendingContainer where
  lookupCollisions := ⟨[]⟩
  lookupHandlers := HashMap.empty
  kept := [⟨"a", "1", "a", .relaxed, false, none⟩, ⟨"b", "2", "b", .strict, false, none⟩]

def alwaysReady : Starter where
  start p := .ok (.fromPending p)
  joinFails _ := false

def strictFails : Starter where
  start p := if p.startPolicy = .strict then .error (.startup p.name) else .ok (.fromPending p)
  joinFails _ := false

def readyDone : Starting where
  tasks := [some (.ok (.ok ⟨"a", "1", "a", false, none⟩))]
  strictTodo := []
  strictRunning := [⟨"b", "2", "b", false, none⟩]
  strictError := none
  issued := [⟨"b", "2", "b", .strict, false, none⟩, ⟨"a", "1", "a", .relaxed, false, none⟩]
  returned := some (.ok (.ok ⟨⟨[]⟩, .empty, [⟨"a", "1", "a", false, none⟩, ⟨"b", "2", "b", false, none⟩]⟩))

def strictFailedDone : Starting where
  tasks := [some (.ok (.ok ⟨"a", "1", "a", false, none⟩))]
  strictTodo := []
  strictRunning := []
  strictError := some (.startup "b")
  issued := [⟨"b", "2", "b", .strict, false, none⟩, ⟨"a", "1", "a", .relaxed, false, none⟩]
  returned := some (.ok (.error (.startup "b", [⟨"1", false, "a", none⟩, ⟨"2", false, "b", none⟩])))

/-! ### What `start_containers` guarantees -/

/-- **Declaration order is restored**, whatever order the relaxed starts finish in: the
running containers come back with the pending containers' ids, in declaration order, under
the original tables. -/
theorem startContainers_declaration_order (hn : (input.kept.map PendingContainer.id).Nodup)
    (hk : s.KeepsIds) (h : Reachable s input st) {keeper : Keeper RunningContainer}
    (hr : st.returned = some (.ok (.ok keeper))) :
    keeper.kept.map RunningContainer.id = input.kept.map PendingContainer.id ∧
      keeper.lookupHandlers = input.lookupHandlers ∧
      keeper.lookupCollisions = input.lookupCollisions :=
  startContainers_eq_ok hk hn (returned_eq_startContainers h hr).symm

theorem startContainers_declaration_order_readyDone :
    Reachable alwaysReady relaxedThenStrict readyDone ∧
      ([⟨"a", "1", "a", false, none⟩, ⟨"b", "2", "b", false, none⟩] : List RunningContainer).map
          RunningContainer.id = relaxedThenStrict.kept.map PendingContainer.id ∧
      HashMap.empty = relaxedThenStrict.lookupHandlers ∧ ⟨[]⟩ = relaxedThenStrict.lookupCollisions := by
  have h : Reachable alwaysReady relaxedThenStrict readyDone :=
    .step (.step (.step .init (t := .orchestrator) rfl) (t := .relaxed 0) rfl) (t := .orchestrator) rfl
  exact ⟨h, startContainers_declaration_order (by decide) (fun _ _ h => by cases h; rfl) h rfl⟩

/-- **What is started and what is reported.**  Once every task has finished and the
orchestrating task has returned: every relaxed container was started, the strict ones in
order up to the first failure; the phase returns running containers only if every start
succeeds, and, when the readiness strategies keep ids, whenever every start succeeds;
otherwise it reports `firstStartPhaseError`, which no interleaving changes. -/
theorem startContainers_starts_and_reports (h : Reachable s input st) (hc : Complete st) :
    (∀ p ∈ (partitionPolicy input.kept).1, p ∈ st.issued) ∧
    st.issued.filter (·.startPolicy == .strict) =
      startedPrefix s.start (partitionPolicy input.kept).2 ∧
    ((∃ keeper, st.returned = some (.ok (.ok keeper))) →
      ∀ p ∈ input.kept, (∃ r, s.start p = .ok r) ∧
        (p.startPolicy = .relaxed → s.joinFails p = false)) ∧
    (s.KeepsIds → (∀ p ∈ input.kept, (∃ r, s.start p = .ok r) ∧
        (p.startPolicy = .relaxed → s.joinFails p = false)) →
      ∃ keeper, st.returned = some (.ok (.ok keeper))) ∧
    ∀ e, (∃ cleanup, st.returned = some (.ok (.error (e, cleanup)))) ↔
      firstStartPhaseError s input.kept = some e := by
  have hi := reachable_inv h
  obtain ⟨hret, ha⟩ := hc
  obtain ⟨r, hr⟩ := Option.isSome_iff_exists.1 hret
  obtain rfl := hi.returned_eq r hr
  simp only [hr, Option.some.injEq]
  exact ⟨fun p hp => hi.relaxed_issued ha hp, hi.strict_issued_prefix hret,
    fun ⟨_, hok⟩ => firstStartPhaseError_eq_none_iff.1 (firstStartPhaseError_of_ok hok),
    fun hk hall => (startContainers_ok_iff hk).2 (firstStartPhaseError_eq_none_iff.2 hall),
    fun e => startContainers_error_iff⟩

theorem startContainers_starts_and_reports_strictFailedDone :
    Reachable strictFails relaxedThenStrict strictFailedDone ∧ Complete strictFailedDone ∧
    (∀ p ∈ (partitionPolicy relaxedThenStrict.kept).1, p ∈ strictFailedDone.issued) ∧
    strictFailedDone.issued.filter (·.startPolicy == .strict) =
      startedPrefix strictFails.start (partitionPolicy relaxedThenStrict.kept).2 ∧
    ((∃ keeper, strictFailedDone.returned = some (.ok (.ok keeper))) →
      ∀ p ∈ relaxedThenStrict.kept, (∃ r, strictFails.start p = .ok r) ∧
        (p.startPolicy = .relaxed → strictFails.joinFails p = false)) ∧
    (strictFails.KeepsIds → (∀ p ∈ relaxedThenStrict.kept, (∃ r, strictFails.start p = .ok r) ∧
        (p.startPolicy = .relaxed → strictFails.joinFails p = false)) →
      ∃ keeper, strictFailedDone.returned = some (.ok (.ok keeper))) ∧
    ∀ e, (∃ cleanup, strictFailedDone.returned = some (.ok (.error (e, cleanup)))) ↔
      firstStartPhaseError strictFails relaxedThenStrict.kept = some e := by
  have h : Reachable strictFails relaxedThenStrict strictFailedDone :=
    .step (.step (.step .init (t := .orchestrator) rfl) (t := .orchestrator) rfl) (t := .relaxed 0) rfl
  exact ⟨h, ⟨rfl, rfl⟩, startContainers_starts_and_reports h ⟨rfl, rfl⟩⟩

/-- A readiness strategy that hands back a container under another id. -/
def foreignReady : Starter where
  start p := .ok ⟨p.handle, "ready", p.name, p.isStatic, p.logOptions⟩
  joinFails _ := false

/-- The schedule "start `b`, finish `a`, return" under `foreignReady`. -/
def foreignDone : Starting where
  tasks := [some (.ok (.ok ⟨"a", "ready", "a", false, none⟩))]
  strictTodo := []
  strictRunning := [⟨"b", "ready", "b", false, none⟩]
  strictError := none
  issued := [⟨"b", "2", "b", .strict, false, none⟩, ⟨"a", "1", "a", .relaxed, false, none⟩]
  returned := some (.error "called `Option::unwrap()` on a `None` value")

/-- **Every start succeeds, and the phase unwinds**: with a readiness strategy that returns
another id, the sort's `position(..).unwrap()` finds no pending container for it. -/
theorem startContainers_foreignReady :
    Reachable foreignReady relaxedThenStrict foreignDone ∧ Complete foreignDone ∧
      (∀ p ∈ relaxedThenStrict.kept, (∃ r, foreignReady.start p = .ok r) ∧
        (p.startPolicy = .relaxed → foreignReady.joinFails p = false)) ∧
      ¬∃ keeper, foreignDone.returned = some (.ok (.ok keeper)) :=
  ⟨.step (.step (.step .init (t := .orchestrator) rfl) (t := .relaxed 0) rfl) (t := .orchestrator) rfl,
    ⟨rfl, rfl⟩, fun _ _ => ⟨⟨_, rfl⟩, fun _ => rfl⟩, fun ⟨_, h⟩ => nomatch h⟩

/-- **Every interleaving can be completed, and every completion agrees with the sequential
result**: from every reachable state, some interleaving runs every task to its end, and in
every state so completed the orchestrating task has returned `startContainers`, the sequential
reading of `Start.lean`. -/
theorem exists_complete_startContainers (h : Reachable s input st) :
    (∃ st', Steps s input st st' ∧ Complete st' ∧ st'.returned = some (startContainers s input)) ∧
      ∀ st', Steps s input st st' → Complete st' → st'.returned = some (startContainers s input) := by
  have hall : ∀ st', Steps s input st st' → Complete st' →
      st'.returned = some (startContainers s input) := fun st' hs hc => by
    obtain ⟨r, hr⟩ := Option.isSome_iff_exists.1 hc.1
    rw [hr, returned_eq_startContainers (h.steps hs) hr]
  obtain ⟨st', hs, hc⟩ := exists_complete h
  exact ⟨⟨st', hs, hc, hall st' hs hc⟩, hall⟩

theorem exists_complete_startContainers_init :
    Reachable strictFails relaxedThenStrict (init relaxedThenStrict) ∧
      (∃ st', Steps strictFails relaxedThenStrict (init relaxedThenStrict) st' ∧ Complete st' ∧
        st'.returned = some (startContainers strictFails relaxedThenStrict)) ∧
      ∀ st', Steps strictFails relaxedThenStrict (init relaxedThenStrict) st' → Complete st' →
        st'.returned = some (startContainers strictFails relaxedThenStrict) :=
  ⟨.init, exists_complete_startContainers .init⟩

theorem returned_error_cleanup (h : Reachable s input st) {e : DockerTestError}
    {cleanup : List CleanupContainer} (hr : st.returned = some (.ok (.error (e, cleanup)))) :
    cleanup.Perm (input.kept.map CleanupContainer.fromPending) := by
  rw [(startContainers_eq_error (returned_eq_startContainers h hr).symm).2]
  exact startCleanup_perm _

end Starting

end Dockertest

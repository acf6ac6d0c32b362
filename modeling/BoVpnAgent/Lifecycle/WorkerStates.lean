import BoVpnAgent.Lifecycle.Order
import BoVpnAgent.Worker.Runs

/-! # The states that a task takes

    A critical section of the worker may give its task two states one after
    the other.  `states_set` lists them, and `History` says what the list of
    all states of a task looks like: it begins with `created`, follows the
    order, and only its last state can be terminal.
-/

namespace BoVpnAgent.Worker

/-- The states that a step gives to its task. -/
def states_set (x : Execution) : Action → List TaskState
  | .settle _ =>
    match x.executor with
    | .lapsed => [.cleanup, .timeout]
    | .settled (.raised (.runnerFailure _ _)) => [.cleanup, .failed]
    | .settled (.raised _) => []
    | .settled (.returned result) =>
      match (orEmptyList result.warnings).iter? with
      | some _ => [.cleanup, .finished]
      | none => []
    | _ => []
  | .normalize _ => [.cleanup, .failed]
  | .close _ _ => if x.task.state.terminal then [] else [.cleanup, .failed]
  | .report state _ _ => if x.task.state.terminal then [] else (TaskState.ofName? state).toList
  | _ => []

/-- What the runner may report while the task is in the state `st`. -/
def Orderly (st : TaskState) : Action → Prop
  | .report state _ _ => ∃ st' : TaskState, state = st'.name.py ∧
      (st.terminal = false → st'.phase = true ∧ st.rank ≤ st'.rank)
  | _ => True

/-! ### Histories -/

/-- The states of a task up to `st`, in the order of the lifecycle. -/
structure History (st : TaskState) (states : List TaskState) : Prop where
  head : states.head? = some .created
  last : states.getLast? = some st
  listed : .queued ∉ states
  sorted : states.Pairwise fun st st' => st.rank ≤ st'.rank
  opened : ∀ st' ∈ states.dropLast, st'.terminal = false

namespace History

variable {st st' : TaskState} {states : List TaskState}

theorem new : History .created [.created] := ⟨rfl, rfl, by decide, by decide, by decide⟩

/-- All states come before the last one. -/
theorem rank_le (h : History st states) : ∀ st' ∈ states, st'.rank ≤ st.rank := by
  intro st' hmem
  obtain ⟨before, rfl⟩ := List.getLast?_eq_some_iff.mp h.last
  obtain hbefore | hlast := List.mem_append.mp hmem
  · exact (List.pairwise_append.mp h.sorted).2.2 st' hbefore st List.mem_cons_self
  · rw [List.mem_singleton.mp hlast]

/-- An open task takes a state that is not earlier. -/
theorem snoc (h : History st states) (hopen : st.terminal = false) (hle : st.rank ≤ st'.rank)
    (hne : st' ≠ .queued) : History st' (states ++ [st']) where
  head := by
    rw [List.head?_append, h.head]
    rfl
  last := by simp
  listed := by
    rw [List.mem_append, List.mem_singleton]
    exact not_or.mpr ⟨h.listed, hne.symm⟩
  sorted := by
    refine List.pairwise_append.mpr ⟨h.sorted, List.pairwise_singleton _ _, fun s hs s' hs' => ?_⟩
    obtain rfl := List.mem_singleton.mp hs'
    exact Nat.le_trans (h.rank_le s hs) hle
  opened := by
    intro s hs
    rw [List.dropLast_concat] at hs
    obtain ⟨before, rfl⟩ := List.getLast?_eq_some_iff.mp h.last
    obtain hbefore | hlast := List.mem_append.mp hs
    · exact h.opened s (by rwa [List.dropLast_concat])
    · rwa [List.mem_singleton.mp hlast]

/-- A section that ends an open task. -/
theorem close (h : History st states) (hopen : st.terminal = false) (hterm : st'.terminal = true) :
    History st' (states ++ [.cleanup, st']) := by
  have hcleanup := h.snoc hopen (TaskState.rank_le_cleanup hopen) nofun
  have hle : TaskState.cleanup.rank ≤ st'.rank := by
    rw [TaskState.rank_of_terminal hterm]
    exact TaskState.rank_le _
  have hne : st' ≠ .queued := by
    rintro rfl
    cases hterm
  have hlast := hcleanup.snoc rfl hle hne
  rwa [List.append_assoc] at hlast

/-- The terminal states of a history: none, or the last one. -/
theorem terminals (h : History st states) :
    (states.filter fun st => st.terminal).length = if st.terminal then 1 else 0 := by
  obtain ⟨before, rfl⟩ := List.getLast?_eq_some_iff.mp h.last
  have hopened := h.opened
  rw [List.dropLast_concat] at hopened
  have hbefore : before.filter (fun st => st.terminal) = [] :=
    List.filter_eq_nil_iff.mpr fun s hs hterm => by simp [hopened s hs] at hterm
  rw [List.filter_append, hbefore, List.nil_append]
  cases hterm : st.terminal <;> simp [hterm]

end History

section advance

variable {I : Interp} {config : WorkerConfig} {x x' : Execution} {a : Action}
  {written : List AuditRecord} {states : List TaskState}

/-- What holds of a task and of the states it has taken. -/
structure InOrder (x : Execution) (states : List TaskState) : Prop where
  done : x.task.state.terminal = x.executor.done
  unlaunched : x.executor = .begun ∨ (∃ vpn, x.executor = .fetched vpn) → x.runner = .unborn
  unentered : x.runner = .unborn ∨ x.runner = .started → x.task.state.terminal = false →
    x.task.state = .created
  history : History x.task.state states

theorem report_state_of_open {t : Task} (hopen : t.state.terminal = false) (st : TaskState)
    (message : PyStr) (now : Time) :
    (report_state t st.name.py message now).state = st := by
  simp [report_state, hopen, TaskState.ofName?_name]

theorem InOrder.done_step (hx : InOrder x states) (h : Advance I config x a x' written)
    (ha : Orderly x.task.state a) : x'.task.state.terminal = x'.executor.done := by
  cases hterm : x.task.state.terminal with
  | true =>
    have hdone : x.executor.done = true := hx.done ▸ hterm
    obtain ⟨htask, hdone'⟩ := frozen_step rfl hterm hdone h
    rw [htask, hterm, hdone']
  | false =>
    refine terminal_iff_done ?_ hx.done h
    cases a with
    | report state message now =>
      obtain ⟨st, rfl, hst⟩ := ha
      simp [progressOnly, TaskState.ofName?_name, TaskState.terminal_of_phase (hst hterm).1]
    | _ => rfl

/-- A step of the executor before it is done finds its task open. -/
theorem InOrder.opened (hx : InOrder x states) (hpc : x.executor.done = false) :
    x.task.state.terminal = false := hx.done.trans hpc

theorem InOrder.history_step (hx : InOrder x states) (h : Advance I config x a x' written)
    (ha : Orderly x.task.state a) : History x'.task.state (states ++ states_set x a) := by
  have hsame : History x.task.state (states ++ []) := by
    rw [List.append_nil]
    exact hx.history
  -- a section that ends the task finds it open, since its executor was not done
  cases h with
  | lapse now hpc =>
    simp only [states_set, hpc]
    exact hx.history.close (hx.opened (by rw [hpc]; rfl)) rfl
  | failed error_code message now hpc =>
    simp only [states_set, hpc]
    exact hx.history.close (hx.opened (by rw [hpc]; rfl)) rfl
  | error exc now hpc hne =>
    simp only [states_set, hpc]
    exact hsame
  | unreadable result now hpc hw =>
    simp only [states_set, hpc, hw]
    exact hsame
  | finished result warnings now hpc hw =>
    simp only [states_set, hpc, hw]
    exact hx.history.close (hx.opened (by rw [hpc]; rfl)) rfl
  | normalize exc now hpc => exact hx.history.close (hx.opened (by rw [hpc]; rfl)) rfl
  | close now fault hpc =>
    -- the clause finds a task that has its terminal state already
    have hterm : x.task.state.terminal = true := by rw [hx.done, hpc]; rfl
    simp only [states_set, hterm, if_true, at_close_terminal hterm]
    exact hsame
  | report state message now hr =>
    obtain ⟨st, rfl, hst⟩ := ha
    cases hterm : x.task.state.terminal with
    | true =>
      simp only [states_set, hterm, if_true, report_state_terminal hterm]
      exact hsame
    | false =>
      obtain ⟨hphase, hle⟩ := hst hterm
      simp only [states_set, hterm, Bool.false_eq_true, if_false, TaskState.ofName?_name,
        report_state_of_open hterm]
      exact hx.history.snoc hterm hle (TaskState.ne_queued_of_phase hphase)
  | _ => exact hsame

theorem InOrder.unlaunched_step (hx : InOrder x states) (h : Advance I config x a x' written) :
    x'.executor = .begun ∨ (∃ vpn, x'.executor = .fetched vpn) → x'.runner = .unborn := by
  have hborn : ∀ {runner}, x.runner = runner → runner ≠ .unborn →
      ¬ (x.executor = .begun ∨ ∃ vpn, x.executor = .fetched vpn) :=
    fun hr hne hpc => hne (hr.symm.trans (hx.unlaunched hpc))
  intro hpc'
  cases h with
  | fetch hpc => exact hx.unlaunched (.inl hpc)
  | enter hr => exact absurd hpc' (hborn hr nofun)
  | report state message now hr => exact absurd hpc' (hborn hr nofun)
  | leave outcome hr => exact absurd hpc' (hborn hr nofun)
  | die outcome hr => exact absurd hpc' (hborn hr nofun)
  | _ => rcases hpc' with h | ⟨vpn, h⟩ <;> cases h

theorem InOrder.unentered_step (hx : InOrder x states) (h : Advance I config x a x' written) :
    x'.runner = .unborn ∨ x'.runner = .started → x'.task.state.terminal = false →
      x'.task.state = .created := by
  intro hr' hopen
  cases h with
  | launched vpn hpc => exact hx.unentered (.inl (hx.unlaunched (.inr ⟨vpn, hpc⟩))) hopen
  | lapse | failed | finished | normalize => cases hopen
  | close now fault hpc =>
    rw [terminal_at_close] at hopen
    cases hopen
  | report state message now hr => rcases hr' with h | h <;> cases hr.symm.trans h
  | enter | leave | die => rcases hr' with h | h <;> cases h
  | _ => exact hx.unentered hr' hopen

/-- Every step keeps the order when the runner does. -/
theorem InOrder.step (hx : InOrder x states) (h : Advance I config x a x' written)
    (ha : Orderly x.task.state a) : InOrder x' (states ++ states_set x a) :=
  ⟨hx.done_step h ha, hx.unlaunched_step h, hx.unentered_step h, hx.history_step h ha⟩

theorem InOrder.new {s : Service} {payload : Json.Fields} {env : CreateEnv} {task : Task}
    {vpn : VpnCredentials} (hacc : s.Accepts I config payload env task vpn) :
    InOrder (newExecution task vpn) [.created] := by
  have hcreated : task.state = .created := congrArg Task.state hacc.asCreated.symm
  refine ⟨?_, fun _ => rfl, fun _ _ => hcreated, ?_⟩
  · simp only [newExecution, hcreated]
    rfl
  · simp only [newExecution, hcreated]
    exact .new

end advance

/-! ### The executor comes to its end -/

/-- The most steps that the thread of `_execute_task` still has to take. -/
def Executor.left : Executor → Nat
  | begun => 7
  | fetched _ => 6
  | joining => 5
  | joined => 4
  | settled _ => 3
  | lapsed | crashed _ => 2
  | closing => 1
  | ended => 0

theorem Executor.left_eq_zero {pc : Executor} : pc.left = 0 ↔ pc = .ended := by
  cases pc <;> simp [left]

section left

variable {I : Interp} {config : WorkerConfig} {x x' : Execution} {a : Action}
  {written : List AuditRecord}

/-- A step of the thread leaves it fewer steps to take. -/
theorem left_step (h : Advance I config x a x' written) (ha : a.byRunner = false) :
    x'.executor.left < x.executor.left := by
  cases h with
  | enter | report | leave | die => cases ha
  | fetch hpc | join_over hpc | join_raise _ hpc | found_alive hpc => simp [hpc, Executor.left]
  | launch_failed _ _ hpc | launched _ hpc | found_dead _ hpc => simp [hpc, Executor.left]
  | lapse _ hpc | failed _ _ _ hpc | error _ _ hpc | unreadable _ _ hpc | finished _ _ _ hpc =>
    simp [hpc, Executor.left]
  | normalize _ _ hpc | close _ _ hpc => simp [hpc, Executor.left]

/-- No step of a task's threads gives its executor more to do. -/
theorem left_le (h : Advance I config x a x' written) : x'.executor.left ≤ x.executor.left := by
  cases ha : a.byRunner with
  | true => rw [(runner_step h ha).1]
  | false => exact (left_step h ha).le

/-- The thread is never blocked: `join` has a timeout, and the lock is free
    between two steps. -/
theorem executor_enabled (I : Interp) (config : WorkerConfig) (hpc : x.executor ≠ .ended) :
    ∃ a p, a.byRunner = false ∧ advance I config x a = some p := by
  have hnow : Time := x.task.created_at
  obtain ⟨executor, runner, task, secret⟩ := x
  cases executor with
  | begun => exact ⟨.fetch, _, rfl, rfl⟩
  | fetched vpn => exact ⟨.launch, _, rfl, rfl⟩
  | joining =>
    by_cases htime : task.timeout_sec ≤ I.timeout_max
    · exact ⟨.join_over, _, rfl, if_pos htime⟩
    · exact ⟨.join_raise [], _, rfl, if_neg htime⟩
  | joined => cases runner <;> exact ⟨.check_alive, _, rfl, rfl⟩
  | lapsed => exact ⟨.settle hnow, _, rfl, rfl⟩
  | settled outcome => exact ⟨.settle hnow, _, rfl, rfl⟩
  | crashed exc => exact ⟨.normalize hnow, _, rfl, rfl⟩
  | closing => exact ⟨.close hnow false, _, rfl, rfl⟩
  | ended => exact absurd rfl hpc

/-- In any later state the task is there, and its executor has no more to do. -/
theorem left_star {s s' : State} (hr : Lts.Reachable (worker I config) s)
    (hlater : Lts.Star (worker I config) s s') {id : PyStr} (hx : s.view id = some x) :
    ∃ x', s'.view id = some x' ∧ x'.executor.left ≤ x.executor.left := by
  exact task_stable (D := fun _ _ => true) (Q := fun y _ => y.executor.left ≤ x.executor.left)
    (fun _ _ _ _ _ _ hle h => (left_le h).trans hle) (star_runs hr) (star_runs hlater) hx le_rfl

end left

end BoVpnAgent.Worker

import BoVpnAgent.Worker.Runs

/-! # One diagnostic at a time

    The busy check of `create_task` looks at the states of the tasks.  A task
    whose runner is at work is unfinished as long as its executor still waits
    for the runner, and then at most one runner is at work.  The executor
    stops waiting before the runner has ended when `join` times out or
    raises; and a runner could report a terminal state itself.
-/

namespace BoVpnAgent.Worker

variable {I : Interp} {config : WorkerConfig}

/-- A call of `runner.run` may be in progress. -/
def RunnerThread.atWork : RunnerThread → Bool
  | started | in_run => true
  | _ => false

/-- A call of `runner.run` is in progress. -/
def RunnerThread.running : RunnerThread → Bool
  | in_run => true
  | _ => false

/-- The executor waits for its runner. -/
def Executor.waits : Executor → Bool
  | joining | joined => true
  | _ => false

/-- The executor does not turn away from a runner at work: neither does
    `join` raise while `runner.run` is in progress, nor does it return
    before; and the runner does not end the task by its reports. -/
def awaitsRunner (x : Execution) (a : Action) : Bool :=
  progressOnly a && match a with
    | .join_raise _ | .check_alive => !x.runner.atWork
    | _ => true

/-- What holds of a task whose executor awaits its runner. -/
structure Awaited (x : Execution) : Prop where
  waits : x.runner.atWork = true → x.executor.waits = true
  terminal : x.task.state.terminal = x.executor.done

theorem Awaited.new {task : Task} (hnew : task.asCreated = task) (vpn : VpnCredentials) :
    Awaited (newExecution task vpn) where
  waits := fun h => by cases h
  terminal := by rw [newExecution, ← hnew]; rfl

/-- A runner is put to work by an executor that then waits for it. -/
theorem atWork_step {x x' : Execution} {a : Action} {written : List AuditRecord}
    (h : Advance I config x a x' written) (hwork : x'.runner.atWork = true) :
    x.runner.atWork = true ∨ x'.executor.waits = true := by
  cases h with
  | launched => exact .inr rfl
  | enter hr => exact .inl (by rw [hr]; rfl)
  | leave | die => cases hwork
  | _ => exact .inl hwork

/-- An executor stops waiting when it looks at its runner or `join` raises. -/
theorem waits_step {x x' : Execution} {a : Action} {written : List AuditRecord}
    (h : Advance I config x a x' written) (hwaits : x.executor.waits = true) :
    x'.executor.waits = true ∨ a = .check_alive ∨ ∃ text, a = .join_raise text := by
  cases h with
  | join_over => exact .inl rfl
  | join_raise text => exact .inr (.inr ⟨text, rfl⟩)
  | found_dead | found_alive => exact .inr (.inl rfl)
  | enter | report | leave | die => exact .inl hwaits
  | _ => simp_all [Executor.waits]

theorem Awaited.step {x x' : Execution} {a : Action} {written : List AuditRecord}
    (ha : awaitsRunner x a = true) (hx : Awaited x) (h : Advance I config x a x' written) :
    Awaited x' := by
  obtain ⟨hp, hawaits⟩ := Bool.and_eq_true_iff.mp ha
  refine ⟨fun hwork' => ?_, terminal_iff_done hp hx.terminal h⟩
  obtain hwork | hwaits := atWork_step h hwork'
  · obtain hwaits | rfl | ⟨text, rfl⟩ := waits_step h (hx.waits hwork)
    · exact hwaits
    · simp [hwork] at hawaits
    · simp [hwork] at hawaits
  · exact hwaits

/-- The calls of `runner.run` exclude each other, and none is in progress
    when `create_task` accepts a task. -/
structure Exclusive (I : Interp) (config : WorkerConfig) (s : State) : Prop where
  one_runner : ∀ id id' x x', s.view id = some x → s.view id' = some x' →
    x.runner.atWork = true → x'.runner.atWork = true → id = id'
  none_at_accept : ∀ payload env service response,
    s.service.create_task I config payload env = (service, .ok (201, response)) →
    ∀ id x, s.view id = some x → x.runner.atWork = false

/-- In every run in which each executor awaits the end of `runner.run`, and
    no runner reports a terminal state, at most one runner is at work, and none
    when a new task is accepted. -/
theorem runners_exclusive {s : State} (h : Lts.Reachable (runs I config awaitsRunner) s) :
    Exclusive I config s := by
  have hwf := well_formed (reachable_worker h)
  have hawaited : ∀ id x, s.view id = some x → Awaited x := by
    intro id x hx
    refine task_invariant (P := fun x _ => Awaited x) ?_ ?_ h hx
    · intro s payload env task vpn hacc
      exact Awaited.new hacc.asCreated vpn
    · intro x a x' written _ ha hx hadv
      exact hx.step ha hadv
  have hunfinished : ∀ id x, s.view id = some x → x.runner.atWork = true →
      x.task.state.terminal = false := by
    intro id x hx hwork
    have hwaits := (hawaited id x hx).waits hwork
    rw [(hawaited id x hx).terminal]
    cases hpc : x.executor <;> simp_all [Executor.waits, Executor.done]
  refine ⟨?_, ?_⟩
  · intro id id' x x' hx hx' hwork hwork'
    exact hwf.active id id' x x' hx hx' (hunfinished id x hx hwork) (hunfinished id' x' hx' hwork')
  · intro payload env service response h201 id x hx
    by_contra hwork
    have hterm := hunfinished id x hx (Bool.eq_true_of_not_eq_false hwork)
    obtain ⟨_, _, heq⟩ | ⟨_, _, _, heq⟩ | ⟨_, task, vpn, hacc, _⟩ :=
      Service.create_task_cases I config s.service payload env
    · rw [heq] at h201
      cases h201
    · rw [heq] at h201
      cases h201
    · rw [terminal_of_active_task hacc.idle (view_eq_some.mp hx).2.1] at hterm
      cases hterm

/-- A runner that overruns its timeout and a request that comes after it. -/
def overrun : List Label :=
  [.create_task (samplePayload "r1") (sampleEnv "t1"), .thread "t1".py .fetch,
    .thread "t1".py .launch, .thread "t1".py .enter, .thread "t1".py .join_over,
    .thread "t1".py .check_alive, .thread "t1".py (.settle ⟨5000000, by decide⟩)]

theorem runners_exclusive_overrun :
    Exclusive sampleInterp sampleConfig ((runs sampleInterp sampleConfig awaitsRunner).play overrun) :=
  runners_exclusive (Lts.reachable_play _)

set_option maxRecDepth 4000 in
/-- While the first runner is still in `run` a second task is accepted, and
    soon its runner is in `run` too. -/
theorem runners_not_exclusive :
    ∃ s s', Lts.Reachable (worker sampleInterp sampleConfig) s ∧
      Lts.Reachable (worker sampleInterp sampleConfig) s' ∧
      ((s.view "t1".py).any fun x => x.runner.running) = true ∧
      (s.service.create_task sampleInterp sampleConfig (samplePayload "r2") (sampleEnv "t2")).2 =
        .ok (201, ⟨true, "t2".py, "r2".py, .created⟩) ∧
      ((s'.view "t1".py).any fun x => x.runner.running) = true ∧
      ((s'.view "t2".py).any fun x => x.runner.running) = true := by
  refine ⟨(worker sampleInterp sampleConfig).play overrun,
    (worker sampleInterp sampleConfig).play (overrun ++
      [.create_task (samplePayload "r2") (sampleEnv "t2"), .thread "t2".py .fetch,
        .thread "t2".py .launch, .thread "t2".py .enter]),
    Lts.reachable_play _, Lts.reachable_play _, ?_, ?_, ?_, ?_⟩
  · decide +kernel
  · rfl
  · decide +kernel
  · decide +kernel

end BoVpnAgent.Worker

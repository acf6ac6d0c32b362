import BoVpnAgent.Lib.Transition
import BoVpnAgent.Audit
import BoVpnAgent.Runner
import BoVpnAgent.Service

/-! # The worker at run time

    A request's thread runs `create_task`; for each new task it starts an
    executor thread (`_execute_task`), which starts a runner thread
    (`run_runner`) and waits for it at most `timeout_sec`.

    A step is one critical section, or one event outside the lock that
    another thread can observe: in every state of this system the lock is
    free.  The labels carry what the code does not decide: the requests, the
    readings of the clocks, what the runner reports and how it ends, and
    whether the audit file can be written.
-/

namespace BoVpnAgent.Worker

/-! ### The threads of one task -/

/-- Where the thread of `_execute_task` stands. -/
inductive Executor where
  /-- before its first critical section -/
  | begun
  /-- `vpn` is read, the runner is not yet created -/
  | fetched (vpn : Option VpnCredentials)
  /-- in `runner_thread.join(task.timeout_sec)` -/
  | joining
  /-- `join` has returned, `is_alive()` is next -/
  | joined
  /-- the runner thread was found alive -/
  | lapsed
  /-- the runner thread was found dead, with this outcome in its holders -/
  | settled (outcome : Outcome)
  /-- an exception is on its way to the `except` clause -/
  | crashed (exc : PyExc)
  /-- the `finally` clause is next -/
  | closing
  | ended

/-- Where the thread of `run_runner` stands. -/
inductive RunnerThread where
  | unborn
  /-- started, `runner.run` not yet called -/
  | started
  /-- inside `runner.run` -/
  | in_run
  /-- `runner.run` has ended, the thread has not -/
  | leaving (outcome : Outcome)
  | ended (outcome : Outcome)

/-- What the threads of one task work on: the `Task` object, its entry in
    `secrets_by_task_id`, and where the two threads stand. -/
structure Execution where
  executor : Executor
  runner : RunnerThread
  task : Task
  secret : Option VpnCredentials

/-- The steps of a task's threads.  `now` is the reading of the clock in a
    critical section. -/
inductive Action where
  | fetch
  | launch
  | join_over
  | join_raise (text : PyStr)
  | check_alive
  | settle (now : Time)
  | normalize (now : Time)
  | close (now : Time) (fault : Bool)
  | enter
  | report (state message : PyStr) (now : Time)
  | leave (outcome : Outcome)
  | die

/-! ### The critical sections of `_execute_task` -/

/-- The section of a runner that is still alive. -/
def after_timeout (t : Task) (now : Time) : Task :=
  let t := { t with error_code := some "operation_timeout".py
                    message := some "Операция превысила timeout".py }
  let t := t.set_state .cleanup "Очистка временного состояния после timeout".py now
  t.set_state .timeout "Операция превысила timeout".py now

/-- The section of a `RunnerFailure`. -/
def after_failure (t : Task) (error_code message : PyStr) (now : Time) : Task :=
  let t := { t with error_code := some error_code, message := some message }
  let t := t.set_state .cleanup "Очистка временного состояния после ошибки".py now
  t.set_state .failed message now

/-- The assignments of the result section up to the warnings. -/
def copy_result (t : Task) (result : RunnerResult) : Task :=
  { t with summary := result.summary
           data := result.data
           artifacts := orEmptyList result.artifacts }

/-- The section of a result whose warnings are `warnings`. -/
def after_result (t : Task) (result : RunnerResult) (warnings : List Json) (now : Time) : Task :=
  let t := copy_result t result
  let t := { t with warnings := t.warnings ++ warnings }
  let t := t.set_state .cleanup "Очистка временного состояния".py now
  t.set_state .finished "Диагностика завершена".py now

/-- The section of the `except` clause. -/
def after_error (t : Task) (exc : PyExc) (now : Time) : Task :=
  let t := { t with error_code := some "internal_error".py, message := some exc.str }
  let t := t.set_state .cleanup "Очистка временного состояния после ошибки".py now
  t.set_state .failed "Внутренняя ошибка worker-а".py now

/-- The state the `finally` clause leaves a task in. -/
def at_close (t : Task) (now : Time) : Task :=
  if t.state.terminal then t
  else
    let t := t.set_state .cleanup "Очистка временного состояния".py now
    t.set_state .failed "Задача завершилась без результата".py now

/-- `WorkerService._set_state`.  An unknown state raises in the runner, before
    anything is written. -/
def report_state (t : Task) (state message : PyStr) (now : Time) : Task :=
  if t.state.terminal then t
  else
    match TaskState.ofName? state with
    | some st => t.set_state st message now
    | none => t

/-! ### One step of a task's threads -/

section advance

variable (I : Interp) (config : WorkerConfig)

/-- The `try` body between the first section and the start of the runner
    thread. -/
def launch (x : Execution) (vpn : Option VpnCredentials) : Execution :=
  match vpn with
  | none =>
    { x with executor :=
        .crashed (.runnerFailure "vpn_client_error".py "VPN credentials отсутствуют".py) }
  | some _ =>
    match create_runner x.task.runner_mode config.runner_url with
    | .error exc => { x with executor := .crashed exc }
    | .ok _ => { x with executor := .joining, runner := .started }

/-- What follows the end of a runner thread. -/
def settle (x : Execution) (outcome : Outcome) (now : Time) : Execution :=
  match outcome with
  | .raised (.runnerFailure error_code message) =>
    { x with executor := .closing, task := after_failure x.task error_code message now }
  | .raised exc => { x with executor := .crashed exc }
  | .returned result =>
    match (orEmptyList result.warnings).iter? with
    | none =>
      -- `warnings.extend` raises inside the section
      { x with executor := .crashed (.builtin .typeError []), task := copy_result x.task result }
    | some warnings =>
      { x with executor := .closing, task := after_result x.task result warnings now }

/-- One step of the executor or the runner thread, with the audit records it
    writes; `none` when the step is not possible. -/
def advance (x : Execution) (a : Action) : Option (Execution × List AuditRecord) :=
  match a, x.executor, x.runner with
  | .fetch, .begun, _ => some ({ x with executor := .fetched x.secret }, [])
  | .launch, .fetched vpn, _ => some (launch config x vpn, [])
  | .join_over, .joining, _ =>
    if x.task.timeout_sec ≤ I.timeout_max then some ({ x with executor := .joined }, []) else none
  | .join_raise text, .joining, _ =>
    if x.task.timeout_sec ≤ I.timeout_max then none
    else some ({ x with executor := .crashed (.builtin .overflowError text) }, [])
  | .check_alive, .joined, .ended outcome => some ({ x with executor := .settled outcome }, [])
  | .check_alive, .joined, _ => some ({ x with executor := .lapsed }, [])
  | .settle now, .lapsed, _ =>
    some ({ x with executor := .closing, task := after_timeout x.task now }, [])
  | .settle now, .settled outcome, _ => some (settle x outcome now, [])
  | .normalize now, .crashed exc, _ =>
    some ({ x with executor := .closing, task := after_error x.task exc now }, [])
  | .close now fault, .closing, _ =>
    let t := at_close x.task now
    some ({ x with executor := .ended, task := t, secret := none },
      (AuditLogger.write_task_event I t now fault).toOption.toList)
  | .enter, _, .started => some ({ x with runner := .in_run }, [])
  | .report state message now, _, .in_run =>
    some ({ x with task := report_state x.task state message now }, [])
  | .leave outcome, _, .in_run => some ({ x with runner := .leaving outcome }, [])
  | .die, _, .leaving outcome => some ({ x with runner := .ended outcome }, [])
  | _, _, _ => none

/-- The cases of `advance`, with what each one needs. -/
inductive Advance (x : Execution) : Action → Execution → List AuditRecord → Prop where
  | fetch (hpc : x.executor = .begun) :
      Advance x .fetch { x with executor := .fetched x.secret } []
  | launch_failed (vpn : Option VpnCredentials) (exc : PyExc) (hpc : x.executor = .fetched vpn)
      (hexc : vpn = none ∨ create_runner x.task.runner_mode config.runner_url = .error exc) :
      Advance x .launch { x with executor := .crashed exc } []
  | launched (vpn : VpnCredentials) (hpc : x.executor = .fetched (some vpn)) :
      Advance x .launch { x with executor := .joining, runner := .started } []
  | join_over (hpc : x.executor = .joining) (htime : x.task.timeout_sec ≤ I.timeout_max) :
      Advance x .join_over { x with executor := .joined } []
  | join_raise (text : PyStr) (hpc : x.executor = .joining)
      (htime : ¬ x.task.timeout_sec ≤ I.timeout_max) :
      Advance x (.join_raise text) { x with executor := .crashed (.builtin .overflowError text) } []
  | found_dead (outcome : Outcome) (hpc : x.executor = .joined) (hr : x.runner = .ended outcome) :
      Advance x .check_alive { x with executor := .settled outcome } []
  | found_alive (hpc : x.executor = .joined) (hr : ∀ outcome, x.runner ≠ .ended outcome) :
      Advance x .check_alive { x with executor := .lapsed } []
  | lapse (now : Time) (hpc : x.executor = .lapsed) :
      Advance x (.settle now) { x with executor := .closing, task := after_timeout x.task now } []
  | failed (error_code message : PyStr) (now : Time)
      (hpc : x.executor = .settled (.raised (.runnerFailure error_code message))) :
      Advance x (.settle now)
        { x with executor := .closing, task := after_failure x.task error_code message now } []
  | error (exc : PyExc) (now : Time) (hpc : x.executor = .settled (.raised exc))
      (hne : ∀ error_code message, exc ≠ .runnerFailure error_code message) :
      Advance x (.settle now) { x with executor := .crashed exc } []
  | unreadable (result : RunnerResult) (now : Time) (hpc : x.executor = .settled (.returned result))
      (hw : (orEmptyList result.warnings).iter? = none) :
      Advance x (.settle now)
        { x with executor := .crashed (.builtin .typeError []), task := copy_result x.task result } []
  | finished (result : RunnerResult) (warnings : List Json) (now : Time)
      (hpc : x.executor = .settled (.returned result))
      (hw : (orEmptyList result.warnings).iter? = some warnings) :
      Advance x (.settle now)
        { x with executor := .closing, task := after_result x.task result warnings now } []
  | normalize (exc : PyExc) (now : Time) (hpc : x.executor = .crashed exc) :
      Advance x (.normalize now) { x with executor := .closing, task := after_error x.task exc now } []
  | close (now : Time) (fault : Bool) (hpc : x.executor = .closing) :
      Advance x (.close now fault)
        { x with executor := .ended, task := at_close x.task now, secret := none }
        (AuditLogger.write_task_event I (at_close x.task now) now fault).toOption.toList
  | enter (hr : x.runner = .started) : Advance x .enter { x with runner := .in_run } []
  | report (state message : PyStr) (now : Time) (hr : x.runner = .in_run) :
      Advance x (.report state message now)
        { x with task := report_state x.task state message now } []
  | leave (outcome : Outcome) (hr : x.runner = .in_run) :
      Advance x (.leave outcome) { x with runner := .leaving outcome } []
  | die (outcome : Outcome) (hr : x.runner = .leaving outcome) :
      Advance x .die { x with runner := .ended outcome } []

variable {I config}

theorem launch_cases (config : WorkerConfig) (x : Execution) (vpn : Option VpnCredentials) :
    (∃ exc, (vpn = none ∨ create_runner x.task.runner_mode config.runner_url = .error exc) ∧
      launch config x vpn = { x with executor := .crashed exc }) ∨
    (∃ v, vpn = some v ∧ launch config x vpn = { x with executor := .joining, runner := .started })
    := by
  unfold launch
  cases vpn with
  | none => exact .inl ⟨_, .inl rfl, rfl⟩
  | some v =>
    cases hr : create_runner x.task.runner_mode config.runner_url with
    | error exc => exact .inl ⟨exc, .inr rfl, rfl⟩
    | ok _ => exact .inr ⟨v, rfl, rfl⟩

theorem advance_cases {x x' : Execution} {a : Action} {written : List AuditRecord}
    (h : advance I config x a = some (x', written)) : Advance I config x a x' written := by
  unfold advance at h
  split at h
  · next hpc => cases h; exact .fetch hpc
  · next vpn hpc =>
    obtain ⟨exc, hexc, heq⟩ | ⟨v, rfl, heq⟩ := launch_cases config x vpn
    · rw [heq] at h
      cases h
      exact .launch_failed vpn exc hpc hexc
    · rw [heq] at h
      cases h
      exact .launched v hpc
  · next hpc =>
    split at h
    · next htime => cases h; exact .join_over hpc htime
    · cases h
  · next text hpc =>
    split at h
    · cases h
    · next htime => cases h; exact .join_raise text hpc htime
  · next outcome hpc hr => cases h; exact .found_dead outcome hpc hr
  · next hpc hr => cases h; exact .found_alive hpc hr
  · next now hpc => cases h; exact .lapse now hpc
  · next now outcome hpc =>
    unfold settle at h
    split at h
    · cases h; exact .failed _ _ now hpc
    · next hne => cases h; exact .error _ now hpc hne
    · next result =>
      split at h
      · next hw => cases h; exact .unreadable result now hpc hw
      · next warnings hw => cases h; exact .finished result warnings now hpc hw
  · next now exc hpc => cases h; exact .normalize exc now hpc
  · next now fault hpc => cases h; exact .close now fault hpc
  · next hr => cases h; exact .enter hr
  · next hr => cases h; exact .report _ _ _ hr
  · next hr => cases h; exact .leave _ hr
  · next hr => cases h; exact .die _ hr
  · cases h

end advance

/-! ### The whole worker -/

/-- Where the two threads of a task stand. -/
structure Threads where
  executor : Executor
  runner : RunnerThread

/-- A state of the worker. -/
structure State where
  service : Service
  /-- The threads of each task, by its id. -/
  threads : Dict PyStr Threads
  /-- The lines of the audit file. -/
  audit_log : List AuditRecord

/-- A step: a call of `create_task`, or a step of a task's threads. -/
inductive Label where
  | create_task (payload : Json.Fields) (env : CreateEnv)
  | thread (task_id : PyStr) (action : Action)

namespace State

/-- What the threads of the task `id` see. -/
def view (s : State) (id : PyStr) : Option Execution := do
  let threads ← s.threads.get? id
  let task ← s.service.task? id
  return { executor := threads.executor, runner := threads.runner, task := task,
           secret := s.service.secrets_by_task_id.get? id }

/-- Writes back what a step of the threads of `id` changed. -/
def put (s : State) (id : PyStr) (x : Execution) (written : List AuditRecord) : State where
  service :=
    { s.service with
      heap := match s.service.tasks_by_id.get? id with
        | some r => s.service.heap.write r x.task
        | none => s.service.heap
      secrets_by_task_id := match x.secret with
        | some vpn => s.service.secrets_by_task_id.set id vpn
        | none => s.service.secrets_by_task_id.pop id }
  threads := s.threads.set id { executor := x.executor, runner := x.runner }
  audit_log := s.audit_log ++ written

/-- The state after an accepted task: its executor thread is started. -/
def start (s : State) (limiter : RateLimiter) (task : Task) (vpn : VpnCredentials) : State where
  service := { s.service with rate_limiter := limiter }.register task vpn
  threads := s.threads.set task.task_id { executor := .begun, runner := .unborn }
  audit_log := s.audit_log

/-- The audit records written for the task `id`. -/
def records (s : State) (id : PyStr) : List AuditRecord :=
  s.audit_log.filter fun r => r.task_id = id

end State

section worker

variable (I : Interp) (config : WorkerConfig)

/-- One step of the worker.  A new uuid is one that no task has. -/
def next (s : State) : Label → Option State
  | .create_task payload env =>
    if (s.service.tasks_by_id.get? env.task_id.val).isSome then none
    else
      match s.service.create_task I config payload env with
      | (service, .ok (201, response)) =>
        some { s with
          service := service
          threads := s.threads.set response.task_id { executor := .begun, runner := .unborn } }
      | (service, _) => some { s with service := service }
  | .thread id a => do
    let x ← s.view id
    let (x', written) ← advance I config x a
    return s.put id x' written

/-- The worker from its start on. -/
def worker : Lts.System State Label where
  init := { service := Service.init config, threads := Dict.empty, audit_log := [] }
  next := next I config

/-- The condition `D` on a step of a task's threads. -/
def perTask (D : Execution → Action → Bool) (s : State) : Label → Bool
  | .create_task _ _ => true
  | .thread id a => (s.view id).all fun x => D x a

/-- The runs in which every step of a task's threads meets `D`. -/
def runs (D : Execution → Action → Bool) : Lts.System State Label :=
  (worker I config).restrict fun s l => perTask D s l = true

variable {I config}

/-- A call that is answered 201 starts the threads of its task. -/
theorem step_accepted {s s' : State} {payload : Json.Fields} {env : CreateEnv} {service : Service}
    {response : CreateResponse}
    (hstep : (worker I config).step s (.create_task payload env) s')
    (h201 : s.service.create_task I config payload env = (service, .ok (201, response))) :
    ∃ limiter task vpn, s.service.tasks_by_id.get? task.task_id = none ∧
      s.service.Accepts I config payload env task vpn ∧ s' = s.start limiter task vpn ∧
      response = task.to_create_response := by
  simp only [Lts.System.step, worker, next, h201] at hstep
  split at hstep
  · cases hstep
  · next hfresh =>
    obtain ⟨_, _, heq⟩ | ⟨_, _, _, heq⟩ | ⟨limiter, task, vpn, hacc, heq⟩ :=
      Service.create_task_cases I config s.service payload env
    · rw [heq] at h201
      cases h201
    · rw [heq] at h201
      cases h201
    · rw [heq] at h201
      cases h201
      refine ⟨limiter, task, vpn, ?_, hacc, (Option.some.inj hstep).symm, rfl⟩
      obtain ⟨_, _, _, _, _, _, _, _, _, _, htask⟩ := build_task_ok hacc.built
      rw [htask]
      exact Option.not_isSome_iff_eq_none.mp hfresh

/-- What a step does: a call of `create_task` that starts nothing, one that
    starts a task, or a step of one task's threads. -/
theorem step_cases {s s' : State} {l : Label} (h : (worker I config).step s l s') :
    (∃ payload env limiter, l = .create_task payload env ∧
      s' = { s with service := { s.service with rate_limiter := limiter } }) ∨
    (∃ payload env limiter task vpn, l = .create_task payload env ∧
      s.service.tasks_by_id.get? task.task_id = none ∧
      s.service.Accepts I config payload env task vpn ∧ s' = s.start limiter task vpn) ∨
    (∃ id a x x' written, l = .thread id a ∧ s.view id = some x ∧
      advance I config x a = some (x', written) ∧ s' = s.put id x' written) := by
  cases l with
  | create_task payload env =>
    obtain ⟨limiter, e, heq⟩ | ⟨_, t, _, heq⟩ | ⟨_, task, vpn, _, heq⟩ :=
      Service.create_task_cases I config s.service payload env
    · simp only [Lts.System.step, worker, next, heq] at h
      split at h
      · cases h
      · exact .inl ⟨payload, env, limiter, rfl, (Option.some.inj h).symm⟩
    · simp only [Lts.System.step, worker, next, heq] at h
      split at h
      · cases h
      · exact .inl ⟨payload, env, s.service.rate_limiter, rfl, (Option.some.inj h).symm⟩
    · obtain ⟨limiter, task, vpn, hfresh, hacc, rfl, _⟩ := step_accepted h heq
      exact .inr (.inl ⟨payload, env, limiter, task, vpn, rfl, hfresh, hacc, rfl⟩)
  | thread id a =>
    simp only [Lts.System.step, worker, next, Option.bind_eq_bind, Option.bind_eq_some_iff] at h
    obtain ⟨x, hx, ⟨x', written⟩, hadv, heq⟩ := h
    exact .inr (.inr ⟨id, a, x, x', written, rfl, hx, hadv, (Option.some.inj heq).symm⟩)

end worker

end BoVpnAgent.Worker

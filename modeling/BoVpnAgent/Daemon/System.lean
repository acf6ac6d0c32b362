import BoVpnAgent.Lib.Components
import BoVpnAgent.ContainerNamespaceExecutor

/-! # The runner daemon at run time

    Each accepted job has an executor thread (`_execute_job`), which starts a
    runner thread and waits for it at most `timeout_sec`.  Nothing limits how
    many jobs run at once.  As for the worker, a step is one critical section
    or one event that another thread can observe, and the labels carry what
    the code does not decide.

    A runner thread of the mode `container_namespace` is the machine of
    `ContainerNamespaceExecutor`; that of another mode reports states and
    ends as it likes.
-/

namespace BoVpnAgent.Daemon

open ContainerNamespaceExecutor (Session SessionAction)

/-! ### The threads of one job -/

/-- Where the thread of `_execute_job` stands. -/
inductive Executor where
  /-- before the runner is selected -/
  | begun
  /-- in `thread.join(job.task.timeout_sec)` -/
  | joining
  /-- `join` has returned, the section that settles the job is next -/
  | joined
  /-- the `finally` clause is next -/
  | closing
  | ended
  deriving DecidableEq

/-- Where the thread of `run_runner` stands. -/
inductive RunnerThread where
  | unborn
  | started
  /-- inside the `run` of a mode other than `container_namespace` -/
  | in_run
  /-- inside `ContainerNamespaceExecutor.run`, with the credentials it was
      called with -/
  | session (vpn : VpnCredentials) (at_ : Session)
  | leaving (outcome : Outcome)
  | ended (outcome : Outcome)

/-- What the threads of one job work on. -/
structure Execution where
  executor : Executor
  runner : RunnerThread
  job : RunnerJob

/-- The steps of a job's threads, and the call of `cancel_job` for it. -/
inductive Action where
  | select
  | join_over
  | join_raise
  | conclude
  | wipe
  | enter
  | report (state message : PyStr)
  | session (a : SessionAction)
  | leave (outcome : Outcome)
  | die
  | cancel

/-! ### The sections of `_execute_job` -/

/-- The runner modes that `_execute_job` has a runner for. -/
def select_runner (runner_mode : PyStr) : Except PyExc Unit :=
  if runner_mode = "existing_container".py then .ok ()
  else if runner_mode = "container_namespace".py then .ok ()
  else (create_runner runner_mode none).map fun _ => ()

/-- The `set_state` callback. -/
def report_state (j : RunnerJob) (state message : PyStr) : RunnerJob :=
  if j.state.terminal then j
  else
    match JobState.ofName? state with
    | some st => j.set_state st message
    | none => j

/-- The section after `join`. -/
def conclude (j : RunnerJob) (runner : RunnerThread) : RunnerJob :=
  if j.state.terminal then j
  else
    match runner with
    | .ended (.raised (.runnerFailure error_code message)) => j.fail error_code message .failed
    | .ended (.raised exc) => j.fail "runner_internal_error".py exc.str .failed
    | .ended (.returned result) =>
      { j with summary := result.summary
               data := result.data
               artifacts := orEmptyList result.artifacts
               warnings := orEmptyList result.warnings }.set_state (.task .finished)
        "Runner job завершён".py
    | _ => j.fail "operation_timeout".py "Runner job превысил timeout".py .timeout

/-! ### One step of a job's threads -/

section advance

variable (I : Interp) (config : RunnerDaemonConfig)

/-- What a step of `ContainerNamespaceExecutor.run` does to its job. -/
def take (x : Execution) (vpn : VpnCredentials) (st : ContainerNamespaceExecutor.SessionStep) :
    Execution × List ControlWrite :=
  let job := match st.report with
    | some (state, message) => report_state x.job state.name.py message.py
    | none => x.job
  let runner := match st.next with
    | .inl at_ => .session vpn at_
    | .inr outcome => .leaving outcome
  ({ x with job := job, runner := runner },
    (st.write.map fun w => { job_id := x.job.job_id, block := w.1, text := w.2 }).toList)

/-- One step, with the writes it appends to the control file; `none` when the
    step is not possible. -/
def advance (x : Execution) (a : Action) : Option (Execution × List ControlWrite) :=
  match a, x.executor, x.runner with
  | .select, .begun, _ =>
    match select_runner x.job.task.runner_mode with
    | .ok _ => some ({ x with executor := .joining, runner := .started }, [])
    -- the exception leaves `_execute_job` before its `try`
    | .error _ => some ({ x with executor := .ended }, [])
  | .join_over, .joining, _ =>
    if x.job.task.timeout_sec ≤ I.timeout_max then some ({ x with executor := .joined }, [])
    else none
  | .join_raise, .joining, _ =>
    if x.job.task.timeout_sec ≤ I.timeout_max then none
    else some ({ x with executor := .closing }, [])
  | .conclude, .joined, runner =>
    some ({ x with executor := .closing, job := conclude x.job runner }, [])
  | .wipe, .closing, _ =>
    some ({ x with executor := .ended, job := { x.job with vpn := RunnerJob.wipedVpn } }, [])
  | .enter, _, .started =>
    if x.job.task.runner_mode = "container_namespace".py then
      some ({ x with runner := .session x.job.vpn .begun }, [])
    else some ({ x with runner := .in_run }, [])
  | .report state message, _, .in_run =>
    some ({ x with job := report_state x.job state message }, [])
  | .session a, _, .session vpn at_ =>
    (ContainerNamespaceExecutor.step config x.job.task vpn at_ a).map (take x vpn)
  | .leave outcome, _, .in_run => some ({ x with runner := .leaving outcome }, [])
  | .die, _, .leaving outcome => some ({ x with runner := .ended outcome }, [])
  | .cancel, _, _ => some ({ x with job := RunnerDaemon.cancelled x.job }, [])
  | _, _, _ => none

end advance

/-! ### The whole daemon -/

/-- Where the two threads of a job stand. -/
structure Threads where
  executor : Executor
  runner : RunnerThread

/-- A state of the daemon. -/
structure State where
  jobs : Dict PyStr RunnerJob
  /-- The threads of each job, by its id. -/
  threads : Dict PyStr Threads
  /-- The writes appended to `univpn_control_path`. -/
  control_log : List ControlWrite

/-- A step: a call of `create_job`, or a step on a job. -/
inductive Label where
  | create_job (payload : Json.Fields) (env : JobEnv)
  | job (job_id : PyStr) (action : Action)

namespace State

/-- What the threads of the job `id` see. -/
def view (s : State) (id : PyStr) : Option Execution := do
  let threads ← s.threads.get? id
  let job ← s.jobs.get? id
  return { executor := threads.executor, runner := threads.runner, job := job }

/-- Writes back what a step on the job `id` changed. -/
def put (s : State) (id : PyStr) (x : Execution) (written : List ControlWrite) : State where
  jobs := s.jobs.set id x.job
  threads := s.threads.set id { executor := x.executor, runner := x.runner }
  control_log := s.control_log ++ written

/-- The state after a new job: its executor thread is started. -/
def start (s : State) (job : RunnerJob) : State where
  jobs := s.jobs.set job.job_id job
  threads := s.threads.set job.job_id { executor := .begun, runner := .unborn }
  control_log := s.control_log

/-- The writes of the job `id` to the control file. -/
def writes (s : State) (id : PyStr) : List ControlWrite :=
  s.control_log.filter fun w => w.job_id = id

end State

section daemon

variable (I : Interp) (config : RunnerDaemonConfig)

/-- One step of the daemon.  A new uuid is one that no job has. -/
def next (s : State) : Label → Option State
  | .create_job payload env =>
    if (s.jobs.get? env.job_id.val).isSome then none
    else
      match RunnerDaemon.build_job I payload env with
      | .ok job => some (s.start job)
      | .error _ => some s
  | .job id a => do
    let x ← s.view id
    let (x', written) ← advance I config x a
    return s.put id x' written

/-- The daemon from its start on. -/
def daemon : Lts.System State Label where
  init := { jobs := Dict.empty, threads := Dict.empty, control_log := [] }
  next := next I config

/-- A condition on the steps of each job. -/
def perJob (D : Execution → Action → Bool) (s : State) : Label → Bool
  | .create_job _ _ => true
  | .job id a => (s.view id).all fun x => D x a

/-- The runs in which every step on a job meets `D`. -/
def runs (D : Execution → Action → Bool) : Lts.System State Label :=
  (daemon I config).restrict fun s l => perJob D s l = true

end daemon

end BoVpnAgent.Daemon

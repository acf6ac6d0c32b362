import BoVpnAgent.Client.Results
import BoVpnAgent.Lifecycle.RunningDaemon
import BoVpnAgent.Lifecycle.WorkerStates

/-! # The worker, its runners and the daemon

    A runner thread of the worker follows the `run` of the runner that
    `create_runner` made for it.  A local runner follows its program; the
    client of the daemon sends its request, reads the answer and polls.  The
    daemon is another process: it goes on by itself between any two of these
    steps, serves other clients, and each request to it may fail.

    `taken` keeps, for each task, all states that it has taken.
-/

namespace BoVpnAgent.Deployment

/-! ### The runner of a task -/

/-- Where the runner thread of a task stands inside `run`. -/
inductive Position where
  | program (p : RunnerProgram)
  /-- the client, before the daemon has its request -/
  | posting
  /-- the daemon has created the job, its answer is not yet read -/
  | posted (job_id : PyStr)
  /-- before the body of the loop, with the answer in hand -/
  | reading (job_id : PyStr) (job : Json.Fields)
  /-- behind the call of `set_state` -/
  | reported (job_id : PyStr) (job : Json.Fields)
  /-- behind `time.sleep` -/
  | polling (job_id : PyStr)

/-- A step of a runner thread inside `run`. -/
inductive RunnerEvent where
  | answered (answer : (q : RunnerQuery) → q.Answer)
  /-- the daemon handles the request, whose body it reads as `payload` -/
  | post (payload : Json.Fields) (env : JobEnv)
  /-- the answer of `create_job`; look number `i` at the job found its value
      number `looks i`, in no particular order -/
  | created (looks : Nat → Nat)
  | report
  | turn
  | poll
  /-- a request fails -/
  | fail (exc : PyExc)

/-- What a step of a runner thread does: it goes on or leaves `run`, and it may
    call `set_state`. -/
structure Turn where
  next : Position ⊕ Outcome
  report : Option (PyStr × PyStr) := none

/-- `RunnerDaemonClient.run` once it has the answer of `_create_job`. -/
def begin_loop (I : Interp) (job : Json.Fields) : Turn :=
  match RunnerDaemonClient.job_id I job with
  | .ok job_id => { next := .inl (.reading job_id job) }
  | .error exc => { next := .inr (.raised exc) }

/-- The value of the job `id` that a look finds. -/
def found (daemon : RunningDaemon.State) (id : PyStr) (job : RunnerJob) (looks : Nat → Nat)
    (i : Nat) : RunnerJob := ((daemon.job_values id)[looks i]?).getD job

/-- A step of a runner thread inside `run` while the daemon is as it is. -/
def turn (I : Interp) (daemon : RunningDaemon.State) : Position → RunnerEvent → Option Turn
  | .program p, .answered answer =>
    match RunnerProgram.step answer p with
    | .asked report p' =>
      some { next := .inl (.program p'), report := report.map fun r => (r.1.name.py, r.2) }
    | .ended outcome => some { next := .inr outcome }
  | .posted id, .created looks => do
    let x ← daemon.daemon.view id
    let response ← (RunnerJob.read_response (found daemon id x.job looks)).toOption
    return begin_loop I response.received
  | .reading id job, .report =>
    some { next := .inl (.reported id job), report := (RunnerDaemonClient.round I job).report }
  | .reported id job, .turn =>
    match (RunnerDaemonClient.round I job).ended with
    | some outcome => some { next := .inr outcome }
    | none => some { next := .inl (.polling id) }
  | .polling id, .poll => do
    let response ← (RunnerDaemon.get_job daemon.daemon.jobs id).toOption
    return { next := .inl (.reading id response.received) }
  | .posting, .fail exc | .posted _, .fail exc | .polling _, .fail exc =>
    some { next := .inr (.raised exc) }
  | _, _ => none

/-! ### The system -/

/-- The worker, the daemon, the runner threads inside `run`, and the states
    that each task has taken. -/
structure State where
  worker : Worker.State
  daemon : RunningDaemon.State
  positions : Dict PyStr Position
  taken : Dict PyStr (List TaskState)

/-- A step of the worker outside `run`, one of the daemon, or one of a runner
    thread of the worker inside `run`. -/
inductive Label where
  | worker (l : Worker.Label)
  | daemon (l : RunningDaemon.Label)
  | runner (task_id : PyStr) (now : Time) (e : RunnerEvent)

/-- The states that the task `id` has taken. -/
def State.states (s : State) (id : PyStr) : List TaskState := (s.taken.get? id).getD []

/-- The step is one of the inside of `run`. -/
def inside_run : Worker.Action → Bool
  | .report _ _ _ | .leave _ => true
  | _ => false

def inside : Worker.Label → Bool
  | .create_task _ _ => false
  | .thread _ a => inside_run a

section system

variable (I : Interp) (config : WorkerConfig) (daemon_config : RunnerDaemonConfig)

/-- The states taken after a step that leads from `s` to `s'`. -/
def record (taken : Dict PyStr (List TaskState)) (s s' : Worker.State) :
    Worker.Label → Dict PyStr (List TaskState)
  | .create_task _ env =>
    match s.view env.task_id.val, s'.view env.task_id.val with
    | none, some x => taken.set env.task_id.val [x.task.state]
    | _, _ => taken
  | .thread id a =>
    match s.view id with
    | some x => taken.set id ((taken.get? id).getD [] ++ Worker.states_set x a)
    | none => taken

/-- A step of the worker, recorded. -/
def move (s : State) (l : Worker.Label) : Option State := do
  let worker ← Worker.next I config s.worker l
  return { s with worker := worker, taken := record s.taken s.worker worker l }

/-- Where a runner that enters `run` begins. -/
def start (task : Task) (runner : VpnRunner) : Position :=
  match RunnerProgram.start task runner with
  | some p => .program p
  | none => .posting

def begin_run (positions : Dict PyStr Position) (s : Worker.State) :
    Worker.Label → Dict PyStr Position
  | .thread id .enter =>
    match (s.view id).bind fun x =>
        (create_runner x.task.runner_mode config.runner_url).toOption.map (start x.task) with
    | some position => positions.set id position
    | none => positions.pop id
  | _ => positions

/-- The daemon accepts the request of the client of the task `id`; one that it
    refuses changes nothing, and the client sees it fail. -/
def post (s : State) (id : PyStr) (payload : Json.Fields) (env : JobEnv) : Option State := do
  let .posting ← s.positions.get? id | none
  let daemon ← RunningDaemon.next I daemon_config s.daemon (.daemon (.create_job payload env))
  let _ ← daemon.daemon.jobs.get? env.job_id.val
  return { s with daemon := daemon
                  positions := s.positions.set id (.posted env.job_id.val) }

/-- The call of `set_state`, if there is one. -/
def call_set_state (s : State) (id : PyStr) (now : Time) : Option (PyStr × PyStr) → Option State
  | some (state, message) => move I config s (.thread id (.report state message now))
  | none => some s

/-- The runner thread goes on inside `run`, or leaves it. -/
def go_on (s : State) (id : PyStr) : Position ⊕ Outcome → Option State
  | .inl position => some { s with positions := s.positions.set id position }
  | .inr outcome => move I config s (.thread id (.leave outcome))

/-- A step of a runner thread inside `run` that is not `post`. -/
def take_turn (s : State) (id : PyStr) (now : Time) (e : RunnerEvent) : Option State := do
  let position ← s.positions.get? id
  let t ← turn I s.daemon position e
  let s ← call_set_state I config s id now t.report
  go_on I config s id t.next

def next (s : State) : Label → Option State
  | .worker l =>
    if inside l then none
    else (move I config s l).map fun s' =>
      { s' with positions := begin_run config s.positions s.worker l }
  | .daemon l => (RunningDaemon.next I daemon_config s.daemon l).map fun daemon =>
      { s with daemon := daemon }
  | .runner id _ (.post payload env) => post I daemon_config s id payload env
  | .runner id now e => take_turn I config s id now e

def system : Lts.System State Label where
  init :=
    { worker := (Worker.worker I config).init
      daemon := (RunningDaemon.system I daemon_config).init
      positions := Dict.empty
      taken := Dict.empty }
  next := next I config daemon_config

end system

end BoVpnAgent.Deployment

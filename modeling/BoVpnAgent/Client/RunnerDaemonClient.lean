import BoVpnAgent.RunnerDaemon

/-! # The client of the runner daemon

    `RunnerDaemonClient` is the runner of a worker that has a daemon: it asks
    for a job and polls it until the job has ended.
-/

namespace BoVpnAgent

/-- `Vehicle.to_response` -/
def Vehicle.to_response (v : Vehicle) : Json :=
  .obj [("number".py, .str v.number), ("ip".py, .str v.ip)]

namespace RunnerDaemonClient

/-! ### Requests -/

/-- `json.dumps(payload, ensure_ascii=False)` -/
def requestOptions : Json.DumpOptions :=
  { sort_keys := false, ensure_ascii := false, item_separator := ", ", key_separator := ": " }

/-- The payload of `_create_job`. -/
def job_request (task : Task) (vpn : VpnCredentials) : Json.Fields :=
  [("request_id".py, .str task.request_id),
    ("runner_mode".py, .str task.runner_mode),
    ("vehicle".py, task.vehicle.to_response),
    ("vpn".py, .obj [("mode".py, .str vpn.mode), ("username".py, .str vpn.username),
      ("password".py, .str vpn.password)]),
    ("operation".py, .str task.operation),
    ("params".py, .obj task.params),
    ("timeout_sec".py, .int task.timeout_sec)]

/-- The body of the request of `_create_job`. -/
def request_body (I : Interp) (task : Task) (vpn : VpnCredentials) : Except Builtin Bytes :=
  Json.dumpsUtf8 I requestOptions (.obj (job_request task vpn))

/-! ### The loop of `run` -/

/-- `_dict_or_empty` -/
def dict_or_empty : Option Json → Json
  | some (.obj fields) => .obj fields
  | _ => .obj []

/-- `_list_or_empty` -/
def list_or_empty : Option Json → Json
  | some (.arr xs) => .arr xs
  | _ => .arr []

/-- `str(job.get(key, default))` -/
def text (I : Interp) (job : Json.Fields) (key : String) (default : PyStr) : Except PyExc PyStr :=
  liftBuiltin (Json.toStr I ((Json.get? job key.py).getD (.str default)))

/-- `str(job.get(key) or default)` -/
def text_or (I : Interp) (job : Json.Fields) (key default : String) : Except PyExc PyStr :=
  liftBuiltin (Json.toStr I (((Json.get? job key.py).bind Json.ifTruthy).getD (.str default.py)))

/-- The states that `run` passes on to the worker. -/
def progressStates : List PyStr :=
  ["starting_vpn".py, "vpn_connected".py, "checking_vehicle".py, "running_operation".py,
    "collecting_result".py, "cleanup".py]

/-- The end of a round of the loop: the result that `run` returns, the
    exception that it raises, or nothing, when it goes on. -/
def result (I : Interp) (state : PyStr) (job : Json.Fields) :
    Except PyExc (Option RunnerResult) :=
  if state = "finished".py then do
    let summary ← text I job "summary" "Операция выполнена".py
    return some { summary := .str summary
                  data := dict_or_empty (Json.get? job "data".py)
                  artifacts := list_or_empty (Json.get? job "artifacts".py)
                  warnings := list_or_empty (Json.get? job "warnings".py) }
  else if state = "timeout".py then do
    let error_code ← text_or I job "error_code" "operation_timeout"
    let message ← text_or I job "message" "Операция превысила timeout"
    .error (.runnerFailure error_code message)
  else if state = "failed".py then do
    let error_code ← text_or I job "error_code" "runner_failed"
    let message ← text_or I job "message" "Runner job failed"
    .error (.runnerFailure error_code message)
  else return none

/-- One round of the loop of `run` on an answer of the daemon: the call of
    `set_state`, if there is one, and how `run` ends, if it does. -/
structure Round where
  report : Option (PyStr × PyStr)
  ended : Option Outcome

/-- How `run` ends after a call that gave `r`. -/
def ended : Except PyExc (Option RunnerResult) → Option Outcome
  | .ok r => r.map .returned
  | .error exc => some (.raised exc)

/-- One round of the loop of `run`. -/
def round (I : Interp) (job : Json.Fields) : Round :=
  let header : Except PyExc (PyStr × PyStr) := do
    let state ← text I job "state" "created".py
    let phase_message ← text I job "phase_message" state
    return (state, phase_message)
  match header with
  | .error exc => { report := none, ended := some (.raised exc) }
  | .ok (state, phase_message) =>
    { report := if state ∈ progressStates then some (state, phase_message) else none
      ended := ended (result I state job) }

/-- How a call of `run` has ended, with the answers it did not wait for. -/
structure Ended where
  outcome : Outcome
  unread : List Json.Fields

/-- The loop of `run` on the answers of the daemon: the calls of `set_state`,
    and how it ends; `none` when it waits for the next answer. -/
def loop (I : Interp) : List Json.Fields → List (PyStr × PyStr) × Option Ended
  | [] => ([], none)
  | job :: jobs =>
    let r := round I job
    match r.ended with
    | some outcome => (r.report.toList, some { outcome := outcome, unread := jobs })
    | none => (r.report.toList ++ (loop I jobs).1, (loop I jobs).2)

/-- `str(job["job_id"])` -/
def job_id (I : Interp) (job : Json.Fields) : Except PyExc PyStr :=
  match Json.get? job "job_id".py with
  | some x => liftBuiltin (Json.toStr I x)
  | none => .error (.other "'job_id'".py)

/-- `RunnerDaemonClient.run` when `_create_job` returns `job` and the calls of
    `_get_job` return `jobs`. -/
def run (I : Interp) (job : Json.Fields) (jobs : List Json.Fields) :
    List (PyStr × PyStr) × Option Ended :=
  match job_id I job with
  | .error exc => ([], some { outcome := .raised exc, unread := jobs })
  | .ok _ => loop I (job :: jobs)

end RunnerDaemonClient

end BoVpnAgent

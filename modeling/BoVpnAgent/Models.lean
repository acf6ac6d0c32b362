import BoVpnAgent.Errors

/-! # Tasks

    The data of one diagnostic task: its state machine `TaskState`, the
    record `Task` that the threads write to, and the two responses made of
    it.
-/

namespace BoVpnAgent

/-- A moment of the wall clock, in microseconds from the epoch: what a
    `datetime` can hold, the years 1 to 9999. -/
abbrev Time := {t : Int // -62135596800000000 ≤ t ∧ t < 253402300800000000}

/-! ### States -/

/-- `TASK_STATES` -/
inductive TaskState where
  | created
  | queued
  | starting_vpn
  | vpn_connected
  | checking_vehicle
  | running_operation
  | collecting_result
  | cleanup
  | finished
  | failed
  | timeout
  deriving DecidableEq

namespace TaskState

/-- The string the code uses for a state. -/
def name : TaskState → String
  | created => "created"
  | queued => "queued"
  | starting_vpn => "starting_vpn"
  | vpn_connected => "vpn_connected"
  | checking_vehicle => "checking_vehicle"
  | running_operation => "running_operation"
  | collecting_result => "collecting_result"
  | cleanup => "cleanup"
  | finished => "finished"
  | failed => "failed"
  | timeout => "timeout"

/-- Every state once. -/
def all : List TaskState :=
  [created, queued, starting_vpn, vpn_connected, checking_vehicle, running_operation,
    collecting_result, cleanup, finished, failed, timeout]

/-- The state of a name; `none` when it is not in `TASK_STATES`. -/
def ofName? (s : PyStr) : Option TaskState := all.find? fun st => st.name.py = s

/-- `state in TERMINAL_STATES` -/
def terminal : TaskState → Bool
  | finished | failed | timeout => true
  | _ => false

end TaskState

/-! ### Records -/

/-- The vehicle of a task. -/
structure Vehicle where
  number : PyStr
  ip : PyStr
  deriving DecidableEq

/-- `VpnCredentials` -/
structure VpnCredentials where
  mode : PyStr
  username : PyStr
  password : PyStr
  deriving DecidableEq

/-- A Python `int`; a `bool` is one, equal to 0 or 1. -/
inductive PyInt where
  | bool (b : Bool)
  | int (n : Int)
  deriving DecidableEq

namespace PyInt

def val : PyInt → Int
  | bool b => if b then 1 else 0
  | int n => n

def to_json : PyInt → Json
  | bool b => .bool b
  | int n => .int n

end PyInt

/-- `Task`.  The fields a runner's result is copied to hold any Python value
    of the kinds JSON has; `None` is `Json.null`. -/
structure Task where
  task_id : PyStr
  request_id : PyStr
  telegram_user_id : PyInt
  user_role : PyStr
  vehicle : Vehicle
  operation : PyStr
  params : Json.Fields
  timeout_sec : Int
  request_fingerprint : PyStr
  runner_mode : PyStr
  risk : PyStr
  state_changing : Bool := false
  state : TaskState := .created
  phase : TaskState := .created
  phase_message : PyStr := "Задача создана".py
  summary : Json := .null
  data : Json := .obj []
  artifacts : Json := .arr []
  warnings : List Json := []
  error_code : Option PyStr := none
  message : Option PyStr := none
  cleanup_failed : Bool := false
  created_at : Time
  started_at : Option Time := none
  finished_at : Option Time := none
  updated_at : Time

namespace Task

/-- `Task.set_state` for a known state and a message; `now` is the reading
    of the clock. -/
def set_state (t : Task) (state : TaskState) (message : PyStr) (now : Time) : Task :=
  { t with
    state := state
    phase := state
    phase_message := message
    updated_at := now
    started_at := if state ≠ .created ∧ t.started_at = none then some now else t.started_at
    finished_at := if state.terminal ∧ t.finished_at = none then some now else t.finished_at }

/-- `Task.duration_sec` -/
def duration_sec (t : Task) (now : Time) : Option Int :=
  let end_ := t.finished_at.getD now
  let start := t.started_at.getD t.created_at
  if t.state.terminal ∨ t.started_at.isSome then
    some (max 0 ((end_.val - start.val).tdiv 1000000))
  else none

/-- The task as it was created: the fields that its threads write are
    reset. -/
def asCreated (t : Task) : Task :=
  { t with
    state := .created
    phase := .created
    phase_message := "Задача создана".py
    summary := .null
    data := .obj []
    artifacts := .arr []
    warnings := []
    error_code := none
    message := none
    started_at := none
    finished_at := none
    updated_at := t.created_at }

/-- The texts of a task that come from its request can be encoded. -/
structure RequestTexts (t : Task) : Prop where
  task_id : t.task_id.Scalar
  request_id : t.request_id.Scalar
  operation : t.operation.Scalar
  vehicle_number : t.vehicle.number.Scalar
  vehicle_ip : t.vehicle.ip.Scalar

/-- The threads of a task do not write to them. -/
theorem RequestTexts.of_asCreated {t t' : Task} (h : t.RequestTexts)
    (hsame : t'.asCreated = t.asCreated) : t'.RequestTexts := by
  have hcreated : t'.asCreated.RequestTexts := hsame ▸ ⟨h.1, h.2, h.3, h.4, h.5⟩
  exact ⟨hcreated.1, hcreated.2, hcreated.3, hcreated.4, hcreated.5⟩

/-! ### What `set_state` changes -/

section set_state

variable (t : Task) (st : TaskState) (msg : PyStr) (now : Time)

@[simp] theorem asCreated_set_state : (t.set_state st msg now).asCreated = t.asCreated := rfl

@[simp] theorem set_state_state : (t.set_state st msg now).state = st := rfl

@[simp] theorem set_state_summary : (t.set_state st msg now).summary = t.summary := rfl

@[simp] theorem set_state_data : (t.set_state st msg now).data = t.data := rfl

@[simp] theorem set_state_artifacts : (t.set_state st msg now).artifacts = t.artifacts := rfl

@[simp] theorem set_state_error_code : (t.set_state st msg now).error_code = t.error_code := rfl

@[simp] theorem set_state_message : (t.set_state st msg now).message = t.message := rfl

variable {st}

theorem isSome_finished_at_set_state (hterm : st.terminal = true) :
    (t.set_state st msg now).finished_at.isSome = true := by
  by_cases h : t.finished_at = none
  · simp [set_state, hterm, h]
  · simpa [set_state, h] using Option.isSome_iff_ne_none.mpr h

theorem finished_at_set_state (hterm : st.terminal = false) :
    (t.set_state st msg now).finished_at = t.finished_at := by
  simp [set_state, hterm]

end set_state

end Task

/-! ### Responses -/

/-- `Task.to_create_response` -/
structure CreateResponse where
  ok : Bool
  task_id : PyStr
  request_id : PyStr
  state : TaskState
  deriving DecidableEq

def Task.to_create_response (t : Task) : CreateResponse :=
  { ok := true, task_id := t.task_id, request_id := t.request_id, state := t.state }

/-- The response as the dictionary that is sent. -/
def CreateResponse.to_json (r : CreateResponse) : Json :=
  .obj [("ok".py, .bool r.ok), ("task_id".py, .str r.task_id), ("request_id".py, .str r.request_id),
    ("state".py, .str r.state.name.py)]

/-- `Task.to_response`.  The fields that the code adds only under a
    condition are options. -/
structure TaskResponse where
  ok : Bool
  task_id : PyStr
  request_id : PyStr
  state : TaskState
  phase : TaskState
  phase_message : PyStr
  vehicle : Vehicle
  operation : PyStr
  warnings : List Json
  created_at : Time
  started_at : Option Time
  finished_at : Option Time
  timing_duration_sec : Option Int
  runner_mode : PyStr
  duration_sec : Option Int
  summary : Option Json
  data : Option Json
  artifacts : Option Json
  error_code : Option PyStr
  message : Option PyStr

/-- `Task.to_response`; the readings of the clock in one response are taken
    as one. -/
def Task.to_response (t : Task) (now : Time) : TaskResponse where
  ok := t.state = .finished
  task_id := t.task_id
  request_id := t.request_id
  state := t.state
  phase := t.phase
  phase_message := t.phase_message
  vehicle := t.vehicle
  operation := t.operation
  warnings := t.warnings
  created_at := t.created_at
  started_at := t.started_at
  finished_at := t.finished_at
  timing_duration_sec := t.duration_sec now
  runner_mode := t.runner_mode
  duration_sec := t.duration_sec now
  summary := t.summary.unlessNull
  data := t.data.ifTruthy
  artifacts := t.artifacts.ifTruthy
  error_code := t.error_code
  message := t.message

/-- The response as the dictionary that is sent. -/
def TaskResponse.to_json (I : Interp) (r : TaskResponse) : Json :=
  let isoformat := fun t : Time => Json.str (I.isoformat t.val).py
  .obj ([("ok".py, .bool r.ok), ("task_id".py, .str r.task_id),
      ("request_id".py, .str r.request_id), ("state".py, .str r.state.name.py),
      ("phase".py, .str r.phase.name.py), ("phase_message".py, .str r.phase_message),
      ("vehicle".py, .obj [("number".py, .str r.vehicle.number), ("ip".py, .str r.vehicle.ip)]),
      ("operation".py, .str r.operation), ("warnings".py, .arr r.warnings),
      ("timing".py, .obj [("created_at".py, isoformat r.created_at),
        ("started_at".py, (r.started_at.map isoformat).getD .null),
        ("finished_at".py, (r.finished_at.map isoformat).getD .null),
        ("duration_sec".py, (r.timing_duration_sec.map Json.int).getD .null)]),
      ("runner".py, .obj [("mode".py, .str r.runner_mode)])] ++
    Json.optional "duration_sec".py (r.duration_sec.map Json.int) ++
    Json.optional "summary".py r.summary ++ Json.optional "data".py r.data ++
    Json.optional "artifacts".py r.artifacts ++
    Json.optional "error_code".py (r.error_code.map Json.str) ++
    Json.optional "message".py (r.message.map Json.str))

end BoVpnAgent

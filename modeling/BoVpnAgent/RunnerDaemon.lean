import BoVpnAgent.Runner
import BoVpnAgent.Service

/-! # The runner daemon's jobs

    A job is the record that a request to the daemon creates, that its
    threads write to and that `get_job` and `cancel_job` read.
-/

namespace BoVpnAgent

/-- `time.sleep(seconds)`, before it waits.  The seconds become nanoseconds,
    first as a double and then as an integer of 64 bits, which may not be
    negative. -/
def sleep : PyFloat → Except Builtin Unit
  | .nan => .error .valueError
  | .inf _ => .error .overflowError
  | .fin neg m e =>
    -- the nanoseconds as a fraction
    let num := m * 1000000000 * 2 ^ e.toNat
    let den := 2 ^ (-e).toNat
    if neg = false then
      -- the nearest double is 2^63 or more
      if (2 ^ 63 - 512) * den ≤ num then .error .overflowError else .ok ()
    else if (2 ^ 63 + 1024) * den < num then .error .overflowError
    else if m = 0 then .ok ()
    else .error .valueError

/-- `time.monotonic() + seconds`: an integer beyond the range of doubles cannot
    be added. -/
def add_seconds (seconds : Int) : Except Builtin Unit :=
  -- half a unit above the largest double, 2^1024 - 2^970
  if (2 ^ 128) ^ 8 - (2 ^ 97) ^ 10 ≤ seconds.natAbs then .error .overflowError else .ok ()

/-- What the model needs of `RunnerDaemonConfig`. -/
structure RunnerDaemonConfig where
  auth_token : Option PyStr := none
  existing_container_name : PyStr := "univpn-service".py
  nsenter_bin : PyStr := "/usr/bin/nsenter".py
  docker_bin : PyStr := "/usr/bin/docker".py
  ssh_bin : PyStr := "/usr/bin/ssh".py
  ssh_key_path : PyStr := "/run/keys/rsa.key".py
  default_ssh_user : PyStr := "root".py
  nsenter_timeout_sec : Int := 8
  manage_vpn_session : Bool := false
  stop_vpn_after_task : Bool := false
  univpn_control_path : PyStr := "/run/univpn/univpn.in".py
  univpn_login_timeout_sec : Int := 45
  univpn_connect_poll_interval_sec : PyFloat := .fin false 2 0
  univpn_route_cidr : PyStr := "172.26.0.0/15".py
  univpn_interface : PyStr := "cnem_vnic".py
  univpn_login_mode : PyStr := "container_secret".py
  univpn_profile_menu_index : PyStr := "3".py
  univpn_disconnect_sequence : Option PyStr := none
  univpn_login_after_profile_delay_sec : PyFloat := .fin false 2 0
  univpn_login_after_connect_delay_sec : PyFloat := .fin false 4 0
  univpn_login_after_username_delay_sec : PyFloat := .fin false 2 0
  univpn_post_login_wait_sec : PyFloat := .fin false 12 0

/-! ### Jobs -/

/-- The states that `RunnerJob.set_state` accepts. -/
inductive JobState where
  | task (state : TaskState)
  | cancelled
  deriving DecidableEq

namespace JobState

/-- The string the code uses for a state. -/
def name : JobState → String
  | task state => state.name
  | cancelled => "cancelled"

/-- `state in TERMINAL_STATES` -/
def terminal : JobState → Bool
  | task state => state.terminal
  | cancelled => false

/-- The state of a name; `none` when `set_state` raises `ValueError`. -/
def ofName? (s : PyStr) : Option JobState :=
  if s = "cancelled".py then some .cancelled else (TaskState.ofName? s).map .task

end JobState

/-- `RunnerJob` -/
structure RunnerJob where
  job_id : PyStr
  request_id : PyStr
  task : Task
  vpn : VpnCredentials
  state : JobState := .task .created
  phase_message : PyStr := "Job создан".py
  summary : Json := .null
  data : Json := .obj []
  artifacts : Json := .arr []
  warnings : Json := .arr []
  error_code : Option PyStr := none
  message : Option PyStr := none

namespace RunnerJob

/-- `RunnerJob.set_state` with a state that it accepts. -/
def set_state (j : RunnerJob) (state : JobState) (message : PyStr) : RunnerJob :=
  { j with state := state, phase_message := message }

/-- The assignments of an error and the state that goes with it. -/
def fail (j : RunnerJob) (error_code message : PyStr) (state : TaskState) : RunnerJob :=
  { j with error_code := some error_code, message := some message }.set_state (.task state) message

/-- The credentials that the `finally` clause leaves in a job. -/
def wipedVpn : VpnCredentials := { mode := "inline_once".py, username := [], password := [] }

/-- The job without its credentials: all that a response shows, and its
    request. -/
def shown (j : RunnerJob) : RunnerJob := { j with vpn := wipedVpn }

end RunnerJob

/-- The response of `RunnerJob.to_response`.  The fields that the code adds
    only under a condition are options. -/
structure JobResponse where
  ok : Bool
  job_id : PyStr
  request_id : PyStr
  state : JobState
  phase_message : PyStr
  operation : PyStr
  warnings : List Json
  summary : Option Json
  data : Option Json
  artifacts : Option Json
  error_code : Option PyStr
  message : Option PyStr

/-- `RunnerJob.to_response`; `list(self.warnings)` can raise. -/
def RunnerJob.to_response (j : RunnerJob) : Except PyExc JobResponse :=
  match j.warnings.iter? with
  | none => raiseBuiltin .typeError
  | some warnings =>
    .ok { ok := j.state = .task .finished
          job_id := j.job_id
          request_id := j.request_id
          state := j.state
          phase_message := j.phase_message
          operation := j.task.operation
          warnings := warnings
          summary := j.summary.unlessNull
          data := j.data.ifTruthy
          artifacts := j.artifacts.ifTruthy
          error_code := j.error_code
          message := j.message }

/-- The response as the dictionary that is sent. -/
def JobResponse.to_json (r : JobResponse) : Json :=
  .obj ([("ok".py, .bool r.ok), ("job_id".py, .str r.job_id),
      ("request_id".py, .str r.request_id), ("state".py, .str r.state.name.py),
      ("phase_message".py, .str r.phase_message), ("operation".py, .str r.operation),
      ("warnings".py, .arr r.warnings)] ++
    Json.optional "summary".py r.summary ++ Json.optional "data".py r.data ++
    Json.optional "artifacts".py r.artifacts ++
    Json.optional "error_code".py (r.error_code.map Json.str) ++
    Json.optional "message".py (r.message.map Json.str))

/-- A response does not show the credentials. -/
theorem RunnerJob.to_response_shown (j : RunnerJob) : j.shown.to_response = j.to_response := rfl

/-! ### Requests to the daemon -/

/-- What one call of `create_job` reads from outside. -/
structure JobEnv where
  /-- `str(uuid.uuid4())`, for the task and for the job -/
  task_id : ScalarText
  job_id : ScalarText
  now : Time

/-- The parts of a request that `_build_job` has checked before it converts
    `timeout_sec`. -/
structure CheckedJob where
  request_id : PyStr
  runner_mode : PyStr
  vehicle : Vehicle
  vpn : VpnCredentials
  operation : PyStr

namespace RunnerDaemon

/-- `RunnerDaemonService._build_job` up to the conversion of `timeout_sec`. -/
def check_job (payload : Json.Fields) : Except PyExc CheckedJob := do
  let request_id ← require_str payload "request_id"
  let runner_mode ← require_str payload "runner_mode"
  let vehicle_raw ← require_dict payload "vehicle"
  let vpn_raw ← require_dict payload "vpn"
  let number ← require_str vehicle_raw "number" "vehicle.number"
  let ip ← require_str vehicle_raw "ip" "vehicle.ip"
  let vpn ← build_vpn vpn_raw "vpn.mode должен быть inline_once или container_secret"
  let operation ← require_str payload "operation"
  return { request_id := request_id, runner_mode := runner_mode,
           vehicle := { number := number, ip := ip }, vpn := vpn, operation := operation }

/-- `RunnerDaemonService._build_job` -/
def build_job (I : Interp) (payload : Json.Fields) (env : JobEnv) : Except PyExc RunnerJob := do
  let checked ← check_job payload
  let params := match Json.get? payload "params".py with
    | some (.obj params) => params
    | _ => []
  let timeout_sec ← liftBuiltin (Json.toInt I ((Json.get? payload "timeout_sec".py).getD
    (.int 120)))
  return { job_id := env.job_id.val
           request_id := checked.request_id
           task :=
             { task_id := env.task_id.val, request_id := checked.request_id,
               telegram_user_id := .int 0, user_role := "runner-daemon".py,
               vehicle := checked.vehicle, operation := checked.operation, params := params,
               timeout_sec := timeout_sec, request_fingerprint := "runner-daemon".py,
               runner_mode := checked.runner_mode, risk := "read_only".py,
               created_at := env.now, updated_at := env.now }
           vpn := checked.vpn }

/-- `RunnerDaemonService.get_job` -/
def get_job (jobs : Dict PyStr RunnerJob) (job_id : PyStr) : Except PyExc JobResponse :=
  match jobs.get? job_id with
  | none => raiseWorker 404 "job_not_found" "Job не найден"
  | some job => job.to_response

/-- The job that `cancel_job` leaves. -/
def cancelled (job : RunnerJob) : RunnerJob :=
  if job.state.terminal then job
  else job.fail "operation_cancelled".py "Job отменён".py .failed

/-- `RunnerDaemonService.cancel_job`: the jobs afterwards and the answer. -/
def cancel_job (jobs : Dict PyStr RunnerJob) (job_id : PyStr) :
    Dict PyStr RunnerJob × Except PyExc JobResponse :=
  match jobs.get? job_id with
  | none => (jobs, raiseWorker 404 "job_not_found" "Job не найден")
  | some job => (jobs.set job_id (cancelled job), (cancelled job).to_response)

/-- A job as `_build_job` makes it. -/
theorem build_job_ok {I : Interp} {payload : Json.Fields} {env : JobEnv} {job : RunnerJob}
    (h : build_job I payload env = .ok job) :
    ∃ checked timeout_sec params, check_job payload = .ok checked ∧
      Json.toInt I ((Json.get? payload "timeout_sec".py).getD (.int 120)) = .ok timeout_sec ∧
      job = { job_id := env.job_id.val
              request_id := checked.request_id
              task :=
                { task_id := env.task_id.val, request_id := checked.request_id,
                  telegram_user_id := .int 0, user_role := "runner-daemon".py,
                  vehicle := checked.vehicle, operation := checked.operation, params := params,
                  timeout_sec := timeout_sec, request_fingerprint := "runner-daemon".py,
                  runner_mode := checked.runner_mode, risk := "read_only".py,
                  created_at := env.now, updated_at := env.now }
              vpn := checked.vpn } := by
  unfold build_job at h
  obtain ⟨checked, hchecked, h⟩ := bind_ok.mp h
  obtain ⟨timeout_sec, htimeout, h⟩ := bind_ok.mp h
  exact ⟨checked, timeout_sec, _, hchecked, liftBuiltin_ok.mp htimeout, (Except.ok.inj h).symm⟩

end RunnerDaemon

/-! ### A sample request -/

def sampleDaemonConfig : RunnerDaemonConfig where
  auth_token := some "dev-token".py
  manage_vpn_session := true

/-- A request for a job in the mode `runner_mode`. -/
def sampleJobPayload (runner_mode : String) (timeout_sec : Int) : Json.Fields :=
  [("request_id".py, .str "r1".py), ("runner_mode".py, .str runner_mode.py),
    ("vehicle".py, .obj [("number".py, .str "1".py), ("ip".py, .str "10.0.0.1".py)]),
    ("vpn".py, .obj [("mode".py, .str "inline_once".py), ("username".py, .str "u".py),
      ("password".py, .str "p".py)]),
    ("operation".py, .str "basic_status".py), ("timeout_sec".py, .int timeout_sec)]

def sampleJobEnv (job_id : String) : JobEnv where
  task_id := ⟨("task-" ++ job_id).py, PyStr.scalar_py _⟩
  job_id := ⟨job_id.py, PyStr.scalar_py _⟩
  now := sampleNow

end BoVpnAgent

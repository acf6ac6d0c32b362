import BoVpnAgent.Api
import BoVpnAgent.Bot.Branches
import BoVpnAgent.Lib.Trim

/-! # The check in front of a playback

    Before the bot plays anything, `_ensure_vehicle_ready` has the worker
    reach the vehicle: it creates a task and polls it until the task has
    ended.  A vehicle that did not answer is tried again, three times at most.

    A step is one call whose answer comes from outside.  A JSON response of
    the worker arrives as it was sent; a request may also fail in any other
    way, and it may fail after the worker has handled it.
-/

namespace BoVpnAgent.Readiness

/-! ### Requests and responses -/

/-- The arguments of `_ensure_vehicle_ready`. -/
structure Subject where
  user_id : Int
  number : PyStr
  address : AudioBot.MntAddress

/-- The vehicle that is checked. -/
def Subject.vehicle (v : Subject) : Vehicle := { number := v.number, ip := v.address.text }

/-- The payload of `_check_vehicle_once`. -/
def check_payload (v : Subject) (request_id : PyStr) : Json.Fields :=
  [("request_id".py, .str request_id),
    ("telegram_user_id".py, .int v.user_id),
    ("user_role".py, .str "engineer".py),
    ("vehicle".py, .obj [("number".py, .str v.number), ("ip".py, .str v.address.text)]),
    ("vpn".py, .obj [("mode".py, .str "container_secret".py)]),
    ("operation".py, .str "vehicle_reachability".py),
    ("params".py, .obj []),
    ("runner_mode".py, .str "container_namespace".py),
    ("timeout_sec".py, .int 90)]

section responses

variable (I : Interp)

/-- The worker closes the connection: its handler was left by an exception. -/
def disconnected : PyExc :=
  .builtin .osError "Remote end closed connection without response".py

/-- What `_worker_request` raises when the worker has raised `exc`. -/
def request_error : PyExc → PyExc
  | .worker e =>
    match Json.dumpsUtf8 I responseOptions e.to_response with
    | .ok body => .builtin .runtimeError ("worker HTTP ".py ++ Json.intRepr e.status ++ ": ".py ++
        Utf8.decodeReplace body)
    | .error _ => disconnected
  | _ => disconnected

/-- `str(task["task_id"])` -/
def created_id : Json → Except PyExc PyStr
  | .obj task =>
    match Json.get? task "task_id".py with
    | some id => liftBuiltin (Json.toStr I id)
    | none => .error (.other "'task_id'".py)
  | _ => raiseBuiltin .typeError

def TERMINAL_TASK_STATES : List PyStr := ["finished".py, "failed".py, "timeout".py]

/-- What one look at a task says. -/
inductive Verdict where
  | unfinished
  | ready
  | ended (error_code message : PyStr)

/-- `status.get(key)`, when that is true -/
def field (status : Json.Fields) (key : String) : Option Json :=
  (Json.get? status key.py).bind Json.ifTruthy

/-- The body of the loop of `_check_vehicle_once`, behind its request. -/
def verdict : Json → Except PyExc Verdict
  | .obj status => do
    let state ← liftBuiltin (Json.toStr I ((Json.get? status "state".py).getD .null))
    if state = "finished".py then return .ready
    else if state ∈ TERMINAL_TASK_STATES then do
      let error_code ← liftBuiltin (Json.toStr I ((field status "error_code").getD (.str state)))
      let message ← liftBuiltin (Json.toStr I
        (((field status "message").or (field status "phase_message")).getD (.str state)))
      return .ended error_code message
    else return .unfinished
  | _ => raiseBuiltin .attributeError

end responses

/-! ### The check -/

/-- Where a check stands. -/
inductive Position where
  /-- an attempt begins -/
  | begun
  | posting (request_id : PyStr)
  /-- `deadline = time.monotonic() + 95` is next -/
  | posted (request_id task_id : PyStr)
  /-- `while time.monotonic() < deadline` is next -/
  | waiting (request_id task_id : PyStr) (deadline : Int)
  | asking (request_id task_id : PyStr) (deadline : Int)
  /-- `time.sleep(2)` of the loop is next -/
  | resting (request_id task_id : PyStr) (deadline : Int)
  /-- `time.sleep(2)` between two attempts is next -/
  | pausing
  | ready
  | failed (exc : PyExc)

/-- A check, with the tasks that it has been told of. -/
structure Check where
  attempt : Nat := 1
  position : Position := .begun
  tasks : List PyStr := []

/-- A call of the check returns. -/
inductive Event where
  /-- `uuid.uuid4()` -/
  | uuid (text : PyStr)
  /-- the worker handles the POST request -/
  | post (env : CreateEnv)
  /-- `time.monotonic()`, in nanoseconds -/
  | clock (now : Int)
  /-- the worker handles the GET request -/
  | get (now : Time)
  | slept
  /-- a request fails on its way -/
  | fail (exc : PyExc)

def attempts : Nat := 3

/-- `raise RuntimeError(message)` -/
def runtimeError (message : PyStr) : PyExc := .builtin .runtimeError message

namespace Check

variable (I : Interp) (c : Check)

/-- The answer to the POST request. -/
def created (request_id : PyStr) : Except PyExc (Nat × CreateResponse) → Check
  | .error exc => { c with position := .failed (request_error I exc) }
  | .ok (_, response) =>
    match created_id I response.to_json with
    | .error exc => { c with position := .failed exc }
    | .ok task_id =>
      { c with position := .posted request_id task_id, tasks := c.tasks ++ [task_id] }

/-- The body of the loop of `_ensure_vehicle_ready` once its task has ended. -/
def settled (error_code message : PyStr) : Check :=
  if error_code ≠ "vehicle_unreachable".py ∨ c.attempt = attempts then
    { c with position := .failed (runtimeError message) }
  else { c with position := .pausing }

/-- The answer to a GET request. -/
def polled (request_id task_id : PyStr) (deadline : Int) : Except PyExc TaskResponse → Check
  | .error exc => { c with position := .failed (request_error I exc) }
  | .ok response =>
    match verdict I (response.to_json I) with
    | .error exc => { c with position := .failed exc }
    | .ok .unfinished => { c with position := .resting request_id task_id deadline }
    | .ok .ready => { c with position := .ready }
    | .ok (.ended error_code message) => c.settled error_code message

/-- A step of the check of `v` while the worker is as it is. -/
def next (config : WorkerConfig) (s : Service) (v : Subject) (e : Event) : Option Check :=
  match c.position, e with
  | .begun, .uuid text => some { c with position := .posting ("audio-".py ++ text) }
  | .posting request_id, .post env =>
    some (c.created I request_id (s.create_task I config (check_payload v request_id) env).2)
  | .posted request_id task_id, .clock now =>
    some { c with position := .waiting request_id task_id (now + 95 * 1000000000) }
  | .waiting request_id task_id deadline, .clock now =>
    if now < deadline then some { c with position := .asking request_id task_id deadline }
    else some { c with position := .failed (runtimeError "проверка VPN/ТС превысила timeout".py) }
  | .asking request_id task_id deadline, .get now =>
    some (c.polled I request_id task_id deadline (s.get_task task_id now))
  | .resting request_id task_id deadline, .slept =>
    some { c with position := .waiting request_id task_id deadline }
  | .pausing, .slept => some { c with attempt := c.attempt + 1, position := .begun }
  | .posting _, .fail exc | .asking _ _ _, .fail exc => some { c with position := .failed exc }
  | _, _ => none

/-- The call of `create_task` in a step. -/
def creates (v : Subject) (e : Event) : Option (Json.Fields × CreateEnv) :=
  match c.position, e with
  | .posting request_id, .post env => some (check_payload v request_id, env)
  | _, _ => none

end Check

end BoVpnAgent.Readiness

import BoVpnAgent.Lib.Url
import BoVpnAgent.RunnerDaemon

/-! # The HTTP handlers

    The handlers of the worker and of the runner daemon.  A handler parses
    the target, then does its work in a `try` statement that catches
    `WorkerError` only; `_send_json` encodes the whole body before it sends
    anything.

    The socket is healthy: a reply that is sent arrives.
-/

namespace BoVpnAgent

/-! ### Requests and replies -/

/-- Text that was decoded as Latin-1, as a request line and its headers are. -/
abbrev Latin1Text := {s : PyStr // ∀ c ∈ s, c.val < 256}

/-- What a handler reads. -/
structure Request where
  /-- `self.path` -/
  path : Latin1Text
  /-- `self.headers.get(name)` -/
  header : String → Option Latin1Text
  /-- The bytes behind the headers. -/
  body : Bytes

/-- One JSON response. -/
structure Reply where
  status : Nat
  body : Bytes

/-- What a handler has done: the responses that it sent, and the exception
    that left it. -/
structure Handled where
  sent : List Reply
  escaped : Option PyExc

/-- Exactly one response is sent, and no exception leaves the handler. -/
def Handled.Once (h : Handled) : Prop := ∃ reply, h = { sent := [reply], escaped := none }

/-- An exception leaves the handler before anything is sent. -/
def Handled.leave (exc : PyExc) : Handled := { sent := [], escaped := some exc }

section handlers

variable (I : Interp)

/-- The options of a response. -/
def responseOptions : Json.DumpOptions :=
  { sort_keys := false, ensure_ascii := false, item_separator := ", ", key_separator := ": " }

/-- `_send_json` -/
def send_json (status : Nat) (payload : Json) : Except PyExc Reply := do
  let body ← liftBuiltin (Json.dumpsUtf8 I responseOptions payload)
  return { status := status, body := body }

/-- The `try` statement of a handler. -/
def answer (body : Except PyExc Reply) : Handled :=
  match body with
  | .ok reply => { sent := [reply], escaped := none }
  | .error (.worker e) =>
    match send_json I e.status e.to_response with
    | .ok reply => { sent := [reply], escaped := none }
    | .error exc => .leave exc
  | .error exc => .leave exc

/-! ### Reading the body -/

/-- `int(self.headers.get("Content-Length", "0"))`; `none` when it raises
    `ValueError`. -/
def content_length (request : Request) : Option Int :=
  PyStr.toInt I.int_max_str_digits (((request.header "Content-Length").map (·.val)).getD "0".py)

/-- `self.rfile.read(length)` of a positive length -/
def read (request : Request) (length : Int) : Except PyExc Bytes :=
  if 2 ^ 63 ≤ length then raiseBuiltin .overflowError
  else if (I.max_read : Int) < length then raiseBuiltin .memoryError
  else .ok (request.body.take length.toNat)

/-- The body of a request as JSON, with the limit that the worker has for
    its length and the daemon has not. -/
def read_body (limit : Option Int) (request : Request) : Except PyExc Json.Fields :=
  match content_length I request with
  | none => raiseBuiltin .valueError
  | some length =>
    if length ≤ 0 then raiseWorker 400 "invalid_request" "Пустое тело запроса"
    else if limit.any (· < length) then
      raiseWorker 400 "invalid_request" "Тело запроса слишком большое"
    else do
      let raw_body ← read I request length
      load_json_body I raw_body

/-! ### The worker -/

namespace WorkerHandler

variable (config : WorkerConfig) (s : Service)

/-- `validate_service_headers` -/
def validate_service_headers (request : Request) : Except PyExc Unit := do
  let valid ← Security.check_bearer ((request.header "Authorization").map (·.val)) config.service_token
  if valid = false then
    raiseWorker 401 "unauthorized" "Service auth отсутствует или некорректна"
  else if ((request.header "X-Request-Id").map (·.val)).getD [] = [] then
    raiseWorker 400 "invalid_request" "X-Request-Id обязателен"
  else .ok ()

/-- What a GET request reads from outside. -/
structure GetEnv where
  now : Time
  inventory : InventoryFile
  /-- Another thread adds a task while `health` iterates over the tasks. -/
  resized : Bool

/-- `WorkerService.health`, which iterates without the lock. -/
def health (env : GetEnv) : Except PyExc Json :=
  if env.resized then raiseBuiltin .runtimeError
  else .ok (.obj [("ok".py, .bool true), ("worker".py, .str "bo-vpn-worker".py),
    ("status".py, .str (if s.active_task.isSome then "busy" else "idle").py)])

/-- The endpoints of `do_GET` behind the check of the headers. -/
def get_resource (env : GetEnv) (url : Url.ParseResult) : Except PyExc Reply :=
  if url.path = "/capabilities".py then send_json I 200 capabilities_response
  else if url.path = "/vehicles/resolve".py then do
    let response ← Service.resolve_vehicle config env.inventory
      (Url.queryValue url.query "query".py [])
    send_json I 200 response
  else if PyStr.startsWith url.path "/tasks/".py then do
    let response ← s.get_task (PyStr.removePrefix url.path "/tasks/".py) env.now
    send_json I 200 (response.to_json I)
  else raiseWorker 404 "not_found" "Endpoint не найден"

/-- The `try` block of `do_GET`. -/
def get_body (request : Request) (env : GetEnv) (url : Url.ParseResult) : Except PyExc Reply :=
  if url.path = "/health".py then do
    let response ← health s env
    send_json I 200 response
  else do
    validate_service_headers config request
    get_resource I config s env url

/-- `do_GET` -/
def do_GET (request : Request) (env : GetEnv) : Handled :=
  match Url.urlparse request.path.val with
  | none => .leave (.builtin .valueError [])
  | some url => answer I (get_body I config s request env url)

/-- The `try` block of `do_POST` up to the call of `create_task`. -/
def post_payload (request : Request) (url : Url.ParseResult) : Except PyExc Json.Fields := do
  validate_service_headers config request
  if url.path ≠ "/tasks".py then raiseWorker 404 "not_found" "Endpoint не найден"
  else read_body I (some (1024 * 1024)) request

/-- `do_POST`: the service afterwards and what was sent. -/
def do_POST (request : Request) (env : CreateEnv) : Service × Handled :=
  match Url.urlparse request.path.val with
  | none => (s, .leave (.builtin .valueError []))
  | some url =>
    match post_payload I config request url with
    | .error exc => (s, answer I (.error exc))
    | .ok payload =>
      let (s', created) := s.create_task I config payload env
      (s', answer I do
        let (status, response) ← created
        send_json I status response.to_json)

end WorkerHandler

/-! ### The runner daemon -/

namespace RunnerHandler

variable (config : RunnerDaemonConfig) (jobs : Dict PyStr RunnerJob)

/-- `validate_runner_headers` -/
def validate_runner_headers (request : Request) : Except PyExc Unit :=
  match config.auth_token with
  | none => .ok ()
  | some auth_token =>
    if auth_token = [] then .ok ()
    else do
      let valid ← Security.check_bearer ((request.header "Authorization").map (·.val)) auth_token
      if valid = false then
        raiseWorker 401 "unauthorized" "Runner auth отсутствует или некорректна"
      else .ok ()

/-- `RunnerDaemonService.health` -/
def health : Json :=
  .obj [("ok".py, .bool true), ("runner".py, .str "bo-vpn-runner-daemon".py),
    ("status".py, .str "ready".py)]

/-- The endpoints of `do_GET` behind the check of the headers. -/
def get_resource (url : Url.ParseResult) : Except PyExc Reply :=
  if PyStr.startsWith url.path "/jobs/".py then do
    let response ← RunnerDaemon.get_job jobs (PyStr.removePrefix url.path "/jobs/".py)
    send_json I 200 response.to_json
  else raiseWorker 404 "not_found" "Endpoint не найден"

/-- The `try` block of `do_GET`. -/
def get_body (request : Request) (url : Url.ParseResult) : Except PyExc Reply :=
  if url.path = "/health".py then send_json I 200 health
  else do
    validate_runner_headers config request
    get_resource I jobs url

/-- `do_GET` -/
def do_GET (request : Request) : Handled :=
  match Url.urlparse request.path.val with
  | none => .leave (.builtin .valueError [])
  | some url => answer I (get_body I config jobs request url)

/-- What a POST request reads from outside. -/
structure PostEnv where
  job : JobEnv
  /-- What the threads of a new job have made of it when `create_job` renders
      it, outside the lock. -/
  meanwhile : RunnerJob → RunnerJob
  keeps_id : ∀ job, (meanwhile job).job_id = job.job_id

/-- `RunnerDaemonService.create_job`: the jobs with the new one, and the
    answer. -/
def create_job (payload : Json.Fields) (env : PostEnv) :
    Dict PyStr RunnerJob × Except PyExc (Nat × JobResponse) :=
  match RunnerDaemon.build_job I payload env.job with
  | .error exc => (jobs, .error exc)
  | .ok job => (jobs.set job.job_id job, (env.meanwhile job).to_response.map fun r => (201, r))

/-- The id in the target of a cancellation. -/
def cancelled_id (url : Url.ParseResult) : PyStr :=
  PyStr.removeSuffix (PyStr.removePrefix url.path "/jobs/".py) "/cancel".py

/-- The target is `/jobs/<id>/cancel`. -/
def isCancel (url : Url.ParseResult) : Bool :=
  PyStr.startsWith url.path "/jobs/".py && PyStr.endsWith url.path "/cancel".py

/-- The endpoints of `do_POST` behind the check of the headers. -/
def post_resource (request : Request) (env : PostEnv) (url : Url.ParseResult) :
    Dict PyStr RunnerJob × Handled :=
  if url.path = "/jobs".py then
    match read_body I none request with
    | .error exc => (jobs, answer I (.error exc))
    | .ok payload =>
      let (jobs', created) := create_job I jobs payload env
      (jobs', answer I do
        let (status, response) ← created
        send_json I status response.to_json)
  else if isCancel url then
    let (jobs', cancelled) := RunnerDaemon.cancel_job jobs (cancelled_id url)
    (jobs', answer I do
      let response ← cancelled
      send_json I 200 response.to_json)
  else (jobs, answer I (raiseWorker 404 "not_found" "Endpoint не найден"))

/-- `do_POST`: the jobs afterwards and what was sent. -/
def do_POST (request : Request) (env : PostEnv) : Dict PyStr RunnerJob × Handled :=
  match Url.urlparse request.path.val with
  | none => (jobs, .leave (.builtin .valueError []))
  | some url =>
    match validate_runner_headers config request with
    | .error exc => (jobs, answer I (.error exc))
    | .ok () => post_resource I jobs request env url

end RunnerHandler

end handlers

end BoVpnAgent

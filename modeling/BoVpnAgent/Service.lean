import BoVpnAgent.Lib.Heap
import BoVpnAgent.Lib.JsonLoads
import BoVpnAgent.Models
import BoVpnAgent.Operations
import BoVpnAgent.Security
import BoVpnAgent.VehicleInventory

/-! # The worker service

    The data that `WorkerService` keeps under its lock, and the methods that
    run on a request's thread: `create_task` and the lookups.  A `Task` is an
    object that two dictionaries point to, so tasks are cells of a heap.

    Each method here is one critical section.  What it reads from outside
    (the clocks, a fresh uuid, the inventory file) is an argument.
-/

namespace BoVpnAgent

/-- What the model needs of `WorkerConfig`. -/
structure WorkerConfig where
  service_token : PyStr
  runner_mode : PyStr := "dry_run".py
  runner_url : Option PyStr := none
  vehicle_inventory_path : Option PyStr := none
  global_create_limit_per_minute : Int := 60
  user_create_limit_per_minute : Int := 10

/-! ### Rate limits -/

/-- `RateLimiter`; times are in nanoseconds of the monotonic clock. -/
structure RateLimiter where
  global_limit : Int
  user_limit : Int
  global_events : List Int
  user_events : Dict Int (List Int)

namespace RateLimiter

/-- `RateLimiter._trim` -/
def trim (events : List Int) (cutoff : Int) : List Int := events.dropWhile (· < cutoff)

/-- `RateLimiter.check`: the limiter afterwards and whether the call may go
    on. -/
def check (r : RateLimiter) (telegram_user_id : Int) (now : Int) : RateLimiter × Bool :=
  let cutoff := now - 60 * 1000000000
  let global_events := trim r.global_events cutoff
  let user_queue := trim ((r.user_events.get? telegram_user_id).getD []) cutoff
  if r.global_limit ≤ global_events.length ∨ r.user_limit ≤ user_queue.length then
    ({ r with global_events := global_events
              user_events := r.user_events.set telegram_user_id user_queue }, false)
  else
    ({ r with global_events := global_events ++ [now]
              user_events := r.user_events.set telegram_user_id (user_queue ++ [now]) }, true)

end RateLimiter

/-! ### Reading a request -/

/-- `_require_str` -/
def require_str (payload : Json.Fields) (key : String) (label : String := key) :
    Except PyExc PyStr :=
  match Json.get? payload key.py with
  | some (.str value) => if value ≠ [] then .ok value else raiseValidation (label ++ " обязателен").py
  | _ => raiseValidation (label ++ " обязателен").py

/-- `_require_int`; a `bool` is an `int`. -/
def require_int (payload : Json.Fields) (key : String) : Except PyExc PyInt :=
  match Json.get? payload key.py with
  | some (.int n) => .ok (.int n)
  | some (.bool b) => .ok (.bool b)
  | _ => raiseValidation (key ++ " обязателен").py

/-- A field that must be a JSON object. -/
def require_dict (payload : Json.Fields) (key : String) : Except PyExc Json.Fields :=
  match Json.get? payload key.py with
  | some (.obj fields) => .ok fields
  | _ => raiseValidation (key ++ " обязателен").py

/-- The credentials of a request, as `_build_task` and `_build_job` read
    them; they differ in the message for an unsupported mode. -/
def build_vpn (vpn_raw : Json.Fields) (unsupported : String) : Except PyExc VpnCredentials := do
  let vpn_mode ← require_str vpn_raw "mode" "vpn.mode"
  if vpn_mode = "inline_once".py then
    let username ← require_str vpn_raw "username" "vpn.username"
    let password ← require_str vpn_raw "password" "vpn.password"
    return { mode := vpn_mode, username := username, password := password }
  else if vpn_mode = "container_secret".py then
    return { mode := vpn_mode, username := [], password := [] }
  else raiseValidation unsupported.py

/-- `load_json_body` -/
def load_json_body (I : Interp) (raw_body : Bytes) : Except PyExc Json.Fields :=
  match Utf8.decode raw_body with
  | none => raiseValidation "Некорректный JSON".py
  | some text =>
    match Json.loads I text with
    | .error .jsonDecodeError => raiseValidation "Некорректный JSON".py
    | .error kind => raiseBuiltin kind
    | .ok (.obj payload) => .ok payload
    | .ok _ => raiseValidation "Тело запроса должно быть JSON-объектом".py

/-! ### Texts of a request that can be written out -/

section texts

variable {I : Interp} {payload : Json.Fields}

theorem require_str_ok {key label : String} {value : PyStr}
    (h : require_str payload key label = .ok value) :
    Json.get? payload key.py = some (.str value) ∧ value ≠ [] := by
  unfold require_str at h
  split at h
  · next v hv =>
    split at h
    · next hne => cases h; exact ⟨hv, hne⟩
    · cases h
  · cases h

theorem require_dict_ok {key : String} {fields : Json.Fields}
    (h : require_dict payload key = .ok fields) :
    Json.get? payload key.py = some (.obj fields) := by
  unfold require_dict at h
  split at h
  · next hv => cases h; exact hv
  · cases h

theorem scalar_require_str (h : Json.Clean I (.obj payload)) {key label : String} {value : PyStr}
    (hv : require_str payload key label = .ok value) : value.Scalar :=
  Json.All.get? h (require_str_ok hv).1

theorem digitsWithin_require_int (h : Json.Clean I (.obj payload)) {key : String} {n : PyInt}
    (hn : require_int payload key = .ok n) : Json.DigitsWithin I.int_max_str_digits n.val := by
  unfold require_int at hn
  split at hn
  · next i hi => cases hn; exact Json.All.get? h hi
  · next b hb =>
    cases hn
    have hone : (Nat.toDigits 10 (PyInt.bool b).val.natAbs).length = 1 := by cases b <;> rfl
    unfold Json.DigitsWithin
    rw [hone]
    exact le_trans (by omega) I.digits_min
  · cases hn

end texts

/-! ### Building a task -/

/-- What one call of `create_task` reads from outside. -/
structure CreateEnv where
  /-- `str(uuid.uuid4())` -/
  task_id : ScalarText
  /-- The wall clock at the construction of the task. -/
  now : Time
  /-- `time.monotonic()` -/
  monotonic : Int
  /-- The inventory file as last loaded. -/
  inventory : InventoryFile

/-- The parts of a request that `_build_task` has checked before it converts
    `timeout_sec`. -/
structure CheckedRequest where
  vehicle : Vehicle
  vpn : VpnCredentials
  operation : OperationSpec
  user_role : PyStr
  params : Json.Fields

section build_task

variable (I : Interp) (config : WorkerConfig)

/-- `WorkerService._build_vehicle` -/
def build_vehicle (inventory : InventoryFile) (vehicle_raw : Json.Fields) :
    Except PyExc Vehicle :=
  match VehicleInventory.text? vehicle_raw "ip" with
  | some ip => do
    let number ← require_str vehicle_raw "number" "vehicle.number"
    return { number := number, ip := PyStr.strip ip }
  | none =>
    if config.vehicle_inventory_path = none then
      raiseWorker 422 "vehicle_ip_not_found" "Vehicle inventory is not configured"
    else
      match VehicleInventory.resolve_vehicle inventory vehicle_raw with
      | .ok record => .ok { number := record.number.val, ip := record.ip.val }
      | .error e => .error (.worker e)

/-- `WorkerService._build_task` up to the check of `params`. -/
def check_request (payload : Json.Fields) (inventory : InventoryFile) :
    Except PyExc CheckedRequest := do
  let vehicle_raw ← require_dict payload "vehicle"
  let vehicle ← build_vehicle config inventory vehicle_raw
  let vpn_raw ← require_dict payload "vpn"
  let vpn ← build_vpn vpn_raw "В MVP поддерживается только vpn.mode=inline_once или container_secret"
  let operation_name ← require_str payload "operation"
  let operation ← get_operation operation_name
  let user_role ← liftBuiltin (Json.toStr I ((Json.get? payload "user_role".py).getD
    ((Json.get? payload "role".py).getD (.str "engineer".py))))
  if user_role ∉ operation.roles_allowed.map String.py then
    raiseWorker 403 "operation_not_allowed" "Операция запрещена для роли пользователя"
  else
    match (Json.get? payload "params".py).getD (.obj []) with
    | .obj params =>
      return { vehicle := vehicle, vpn := vpn, operation := operation, user_role := user_role,
               params := params }
    | _ => raiseValidation "params должен быть объектом".py

/-- `WorkerService._build_task` -/
def build_task (payload : Json.Fields) (fingerprint : PyStr) (env : CreateEnv) :
    Except PyExc (Task × VpnCredentials) := do
  let checked ← check_request I config payload env.inventory
  let timeout_sec ← liftBuiltin (Json.toInt I ((Json.get? payload "timeout_sec".py).getD
    (.int checked.operation.timeout_sec_default)))
  if timeout_sec ≤ 0 then raiseValidation "timeout_sec должен быть положительным".py
  else
    let runner_mode ← liftBuiltin (Json.toStr I ((Json.get? payload "runner_mode".py).getD
      (.str config.runner_mode)))
    let request_id ← require_str payload "request_id"
    let telegram_user_id ← require_int payload "telegram_user_id"
    return ({ task_id := env.task_id.val, request_id := request_id,
              telegram_user_id := telegram_user_id, user_role := checked.user_role,
              vehicle := checked.vehicle, operation := checked.operation.name.py,
              params := checked.params, timeout_sec := timeout_sec,
              request_fingerprint := fingerprint, runner_mode := runner_mode,
              risk := checked.operation.risk.py,
              state_changing := checked.operation.state_changing,
              created_at := env.now, updated_at := env.now }, checked.vpn)

variable {I config}

/-- The vehicle of a request has texts of the request or of the inventory. -/
theorem scalar_build_vehicle {inventory : InventoryFile} {vehicle_raw : Json.Fields}
    {vehicle : Vehicle} (h : Json.Clean I (.obj vehicle_raw))
    (hv : build_vehicle config inventory vehicle_raw = .ok vehicle) :
    vehicle.number.Scalar ∧ vehicle.ip.Scalar := by
  unfold build_vehicle at hv
  split at hv
  · next ip hip =>
    obtain ⟨number, hnumber, hv⟩ := bind_ok.mp hv
    obtain rfl := Except.ok.inj hv
    refine ⟨scalar_require_str h hnumber, ?_⟩
    unfold VehicleInventory.text? at hip
    split at hip
    · next value hvalue =>
      split at hip
      · cases hip
        exact PyStr.Scalar.strip (Json.All.get? h hvalue)
      · cases hip
    · cases hip
  · split at hv
    · cases hv
    · split at hv
      · next record _ =>
        cases hv
        exact ⟨record.number.property, record.ip.property⟩
      · cases hv

/-- What a checked request is made of. -/
theorem check_request_ok {payload : Json.Fields} {inventory : InventoryFile}
    {checked : CheckedRequest} (h : check_request I config payload inventory = .ok checked) :
    ∃ vehicle_raw, Json.get? payload "vehicle".py = some (.obj vehicle_raw) ∧
      build_vehicle config inventory vehicle_raw = .ok checked.vehicle ∧
      Json.toStr I ((Json.get? payload "user_role".py).getD
        ((Json.get? payload "role".py).getD (.str "engineer".py))) = .ok checked.user_role := by
  unfold check_request at h
  obtain ⟨vehicle_raw, hraw, h⟩ := bind_ok.mp h
  obtain ⟨vehicle, hvehicle, h⟩ := bind_ok.mp h
  obtain ⟨vpn_raw, _, h⟩ := bind_ok.mp h
  obtain ⟨vpn, _, h⟩ := bind_ok.mp h
  obtain ⟨operation_name, _, h⟩ := bind_ok.mp h
  obtain ⟨operation, _, h⟩ := bind_ok.mp h
  obtain ⟨user_role, hrole, h⟩ := bind_ok.mp h
  split at h
  · cases h
  · split at h
    · cases h
      exact ⟨vehicle_raw, require_dict_ok hraw, hvehicle, liftBuiltin_ok.mp hrole⟩
    · cases h

/-- What a built task is made of. -/
theorem build_task_ok {payload : Json.Fields} {fingerprint : PyStr} {env : CreateEnv}
    {task : Task} {vpn : VpnCredentials}
    (h : build_task I config payload fingerprint env = .ok (task, vpn)) :
    ∃ checked timeout_sec runner_mode request_id telegram_user_id,
      check_request I config payload env.inventory = .ok checked ∧
      Json.toStr I ((Json.get? payload "runner_mode".py).getD (.str config.runner_mode)) =
        .ok runner_mode ∧
      require_str payload "request_id" = .ok request_id ∧
      require_int payload "telegram_user_id" = .ok telegram_user_id ∧
      vpn = checked.vpn ∧
      task =
        { task_id := env.task_id.val, request_id := request_id,
          telegram_user_id := telegram_user_id, user_role := checked.user_role,
          vehicle := checked.vehicle, operation := checked.operation.name.py,
          params := checked.params, timeout_sec := timeout_sec,
          request_fingerprint := fingerprint, runner_mode := runner_mode,
          risk := checked.operation.risk.py,
          state_changing := checked.operation.state_changing,
          created_at := env.now, updated_at := env.now } := by
  unfold build_task at h
  obtain ⟨checked, hchecked, h⟩ := bind_ok.mp h
  obtain ⟨timeout_sec, _, h⟩ := bind_ok.mp h
  split at h
  · cases h
  · obtain ⟨runner_mode, hmode, h⟩ := bind_ok.mp h
    obtain ⟨request_id, hreq, h⟩ := bind_ok.mp h
    obtain ⟨telegram_user_id, hint, h⟩ := bind_ok.mp h
    obtain ⟨rfl, rfl⟩ := Prod.mk.inj (Except.ok.inj h)
    exact ⟨checked, timeout_sec, runner_mode, request_id, telegram_user_id, hchecked,
      liftBuiltin_ok.mp hmode, hreq, hint, rfl, rfl⟩

end build_task

/-! ### The service -/

/-- What `WorkerService` keeps under its lock. -/
structure Service where
  rate_limiter : RateLimiter
  heap : Heap Task
  tasks_by_id : Dict PyStr Ref
  tasks_by_request_id : Dict PyStr Ref
  secrets_by_task_id : Dict PyStr VpnCredentials

namespace Service

/-- `WorkerService.__init__` -/
def init (config : WorkerConfig) : Service where
  rate_limiter :=
    { global_limit := config.global_create_limit_per_minute
      user_limit := config.user_create_limit_per_minute
      global_events := []
      user_events := Dict.empty }
  heap := Heap.empty
  tasks_by_id := Dict.empty
  tasks_by_request_id := Dict.empty
  secrets_by_task_id := Dict.empty

/-- `self.tasks_by_id.get(task_id)` -/
def task? (s : Service) (task_id : PyStr) : Option Task :=
  (s.tasks_by_id.get? task_id).bind s.heap.read

/-- `self.tasks_by_request_id.get(request_id)` -/
def request? (s : Service) (request_id : PyStr) : Option Task :=
  (s.tasks_by_request_id.get? request_id).bind s.heap.read

/-- `WorkerService._active_task` -/
def active_task (s : Service) : Option Task :=
  (s.tasks_by_id.values.filterMap s.heap.read).find? fun t => !t.state.terminal

/-- `WorkerService.get_task`; `now` is the reading of the wall clock. -/
def get_task (s : Service) (task_id : PyStr) (now : Time) : Except PyExc TaskResponse :=
  match s.task? task_id with
  | none => raiseWorker 404 "task_not_found" "Задача не найдена"
  | some t => .ok (t.to_response now)

/-- `WorkerService.resolve_vehicle` -/
def resolve_vehicle (config : WorkerConfig) (inventory : InventoryFile) (query : PyStr) :
    Except PyExc Json :=
  if config.vehicle_inventory_path = none then
    raiseWorker 422 "vehicle_ip_not_found" "Vehicle inventory is not configured"
  else
    match VehicleInventory.resolve_query inventory query with
    | .ok record =>
      .ok (.obj [("ok".py, .bool true), ("query".py, .str query),
        ("vehicle".py, record.to_response)])
    | .error e => .error (.worker e)

/-- Files a new task and its credentials under their keys. -/
def register (s : Service) (task : Task) (vpn : VpnCredentials) : Service :=
  { s with
    heap := s.heap.alloc task
    tasks_by_id := s.tasks_by_id.set task.task_id s.heap.next
    tasks_by_request_id := s.tasks_by_request_id.set task.request_id s.heap.next
    secrets_by_task_id := s.secrets_by_task_id.set task.task_id vpn }

variable (I : Interp) (config : WorkerConfig)

/-- `WorkerService.create_task` for a new `request_id`. -/
def create_new (s : Service) (payload : Json.Fields) (fingerprint : PyStr) (env : CreateEnv) :
    Service × Except PyExc (Nat × CreateResponse) :=
  match require_int payload "telegram_user_id" with
  | .error e => (s, .error e)
  | .ok telegram_user_id =>
    let (limiter, allowed) := s.rate_limiter.check telegram_user_id.val env.monotonic
    let s := { s with rate_limiter := limiter }
    if allowed = false then
      (s, raiseWorker 429 "rate_limited" "Превышен лимит создания задач")
    else if s.active_task.isSome then
      (s, raiseWorker 409 "worker_busy" "Worker уже выполняет задачу")
    else
      match build_task I config payload fingerprint env with
      | .error e => (s, .error e)
      | .ok (task, vpn) => (s.register task vpn, .ok (201, task.to_create_response))

/-- `WorkerService.create_task`: the service afterwards and the answer.  The
    thread that it starts is part of the worker's runs. -/
def create_task (s : Service) (payload : Json.Fields) (env : CreateEnv) :
    Service × Except PyExc (Nat × CreateResponse) :=
  match require_str payload "request_id" with
  | .error e => (s, .error e)
  | .ok request_id =>
    match Security.fingerprint_request I payload with
    | .error e => (s, .error e)
    | .ok fingerprint =>
      match s.request? request_id with
      | some existing =>
        if existing.request_fingerprint ≠ fingerprint then
          (s, raiseWorker 409 "request_id_conflict"
            "request_id уже использован с другим телом запроса")
        else (s, .ok (200, existing.to_create_response))
      | none => create_new I config s payload fingerprint env

variable {I config}

/-! ### The answers of `create_task` -/

/-- The call is answered 201 with the task `task`. -/
structure Accepts (I : Interp) (config : WorkerConfig) (s : Service) (payload : Json.Fields)
    (env : CreateEnv) (task : Task) (vpn : VpnCredentials) : Prop where
  request_id : require_str payload "request_id" = .ok task.request_id
  fingerprint : Security.fingerprint_request I payload = .ok task.request_fingerprint
  new : s.request? task.request_id = none
  idle : s.active_task = none
  built : build_task I config payload task.request_fingerprint env = .ok (task, vpn)

/-- An accepted task is as its constructor left it. -/
theorem Accepts.asCreated {s : Service} {payload : Json.Fields} {env : CreateEnv} {task : Task}
    {vpn : VpnCredentials} (h : Accepts I config s payload env task vpn) :
    task.asCreated = task := by
  obtain ⟨_, _, _, _, _, _, _, _, _, _, htask⟩ := build_task_ok h.built
  rw [htask]
  rfl

/-- An accepted request has no lone surrogate and no integer that is too
    long. -/
theorem Accepts.clean {s : Service} {payload : Json.Fields} {env : CreateEnv} {task : Task}
    {vpn : VpnCredentials} (h : Accepts I config s payload env task vpn) :
    Json.Clean I (.obj payload) :=
  ((Security.fingerprint_request_ok_iff I payload).mp ⟨_, h.fingerprint⟩).leaves

/-- The texts of an accepted task are those of a request with a
    fingerprint. -/
theorem Accepts.requestTexts {s : Service} {payload : Json.Fields} {env : CreateEnv} {task : Task}
    {vpn : VpnCredentials} (h : Accepts I config s payload env task vpn) : task.RequestTexts := by
  obtain ⟨checked, _, _, request_id, _, hchecked, _, hreq, _, _, htask⟩ := build_task_ok h.built
  obtain ⟨vehicle_raw, hraw, hvehicle, -⟩ := check_request_ok hchecked
  have htexts := scalar_build_vehicle (Json.All.get? h.clean hraw) hvehicle
  rw [htask]
  exact
    { task_id := env.task_id.property
      request_id := scalar_require_str h.clean hreq
      operation := PyStr.scalar_py _
      vehicle_number := htexts.1
      vehicle_ip := htexts.2 }

/-- A call changes at most the rate limiter, answers with a task that is
    filed already, or files a new one. -/
theorem create_task_cases (I : Interp) (config : WorkerConfig) (s : Service) (payload : Json.Fields) (env : CreateEnv) :
    (∃ limiter e, s.create_task I config payload env =
      ({ s with rate_limiter := limiter }, .error e)) ∨
    (∃ request_id t, s.request? request_id = some t ∧
      s.create_task I config payload env = (s, .ok (200, t.to_create_response))) ∨
    (∃ limiter task vpn, Accepts I config s payload env task vpn ∧
      s.create_task I config payload env =
        ({ s with rate_limiter := limiter }.register task vpn,
          .ok (201, task.to_create_response))) := by
  unfold create_task
  cases hreq : require_str payload "request_id" with
  | error e => exact .inl ⟨s.rate_limiter, e, rfl⟩
  | ok request_id =>
    cases hfp : Security.fingerprint_request I payload with
    | error e => exact .inl ⟨s.rate_limiter, e, rfl⟩
    | ok fingerprint =>
      -- a known request is repeated or refused, a new one goes on
      cases hex : s.request? request_id with
      | some t =>
        by_cases hne : t.request_fingerprint ≠ fingerprint
        · exact .inl ⟨s.rate_limiter, _, by simp only [hex, if_pos hne]; rfl⟩
        · exact .inr (.inl ⟨request_id, t, hex, by simp only [hex, if_neg hne]⟩)
      | none =>
        simp only [hex]
        unfold create_new
        cases hint : require_int payload "telegram_user_id" with
        | error e => exact .inl ⟨s.rate_limiter, e, rfl⟩
        | ok telegram_user_id =>
          simp only
          split_ifs with hallowed hactive
          · exact .inl ⟨_, _, rfl⟩
          · exact .inl ⟨_, _, rfl⟩
          · cases hbuild : build_task I config payload fingerprint env with
            | error e => exact .inl ⟨_, e, rfl⟩
            | ok built =>
              obtain ⟨task, vpn⟩ := built
              obtain ⟨_, _, _, _, _, _, _, hreq', _, _, rfl⟩ := build_task_ok hbuild
              rw [hreq] at hreq'
              cases hreq'
              refine .inr (.inr ⟨_, _, vpn, ⟨hreq, hfp, hex, ?_, hbuild⟩, rfl⟩)
              exact Option.not_isSome_iff_eq_none.mp hactive

end Service

/-! ### A concrete request -/

/-- An interpreter with the usual limits of CPython.  Its digest is a
    stand-in that tells all texts apart. -/
def sampleInterp : Interp where
  int_max_str_digits := 4300
  digits_min := by decide
  loads_depth := 990
  loads_min := by decide
  dumps_depth := 990
  dumps_min := by decide
  max_read := 9223372036854775807
  read_min := by decide
  timeout_max := 9223372036
  float_repr := fun _ => "0.5"
  float_repr_ne := fun _ => by decide
  container_str := fun _ => "[]"
  container_str_ne := fun _ => by decide
  sha256_hexdigest := fun bytes => bytes.map fun b => Fin.ofNat 0x110000 b.toNat
  isoformat := fun _ => "1970-01-01T00:00:00Z"

def sampleConfig : WorkerConfig where
  service_token := "dev-token".py

/-- A request for a diagnostic that may take five seconds. -/
def samplePayload (request_id : String) : Json.Fields :=
  [("request_id".py, .str request_id.py), ("telegram_user_id".py, .int 7),
    ("vehicle".py, .obj [("number".py, .str "1".py), ("ip".py, .str "10.0.0.1".py)]),
    ("vpn".py, .obj [("mode".py, .str "inline_once".py), ("username".py, .str "u".py),
      ("password".py, .str "p".py)]),
    ("operation".py, .str "basic_status".py), ("timeout_sec".py, .int 5)]

def sampleNow : Time := ⟨0, by decide⟩

def sampleEnv (task_id : String) : CreateEnv where
  task_id := ⟨task_id.py, PyStr.scalar_py _⟩
  now := sampleNow
  monotonic := 0
  inventory := none

end BoVpnAgent

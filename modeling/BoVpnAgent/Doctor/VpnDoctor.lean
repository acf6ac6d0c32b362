import BoVpnAgent.Errors
import BoVpnAgent.Lib.Dialogue
import BoVpnAgent.Lib.IpAddress
import BoVpnAgent.Lib.JsonLoads

/-! # The VPN doctor

    `VpnDoctor` runs commands, talks to the worker over HTTP, reads a clock
    and writes a log.  Each of its methods is a program that asks for the
    results of these; loops are cut off after a number of rounds, so that a
    run with many rounds stands for the beginning of one that goes on.
-/

namespace BoVpnAgent.VpnDoctor

/-! ### What is asked -/

/-- The commands of the doctor. -/
inductive Command where
  | running (name : PyStr)
  | inspect (name : PyStr)
  | readlink (name : PyStr)
  | runner_health
  | ssh_key
  | vpn_interface
  | vpn_route
  | host_interface
  | host_route
  | compose_up (compose : PyStr) (services : List PyStr) (force : Bool)
  deriving DecidableEq

/-- The script of `runner_health`. -/
def runnerHealthCode : PyStr :=
  ("import os,urllib.request; print(urllib.request.urlopen(os.environ[\"BO_VPN_RUNNER_URL\"]" ++
    "+\"/health\",timeout=5).read().decode())").py

/-- The words of a command. -/
def Command.argv : Command → List PyStr
  | running name =>
    ["docker".py, "inspect".py, "-f".py, "\x7b\x7b.State.Running\x7d\x7d".py, name]
  | inspect name => ["docker".py, "inspect".py, name]
  | readlink name => ["docker".py, "exec".py, name, "readlink".py, "/proc/self/ns/net".py]
  | runner_health =>
    ["docker".py, "exec".py, "bo-vpn-worker".py, "python".py, "-c".py, runnerHealthCode]
  | ssh_key =>
    ["docker".py, "exec".py, "bo-vpn-runner".py, "test".py, "-r".py, "/run/keys/rsa.key".py]
  | vpn_interface =>
    ["docker".py, "exec".py, "univpn-service".py, "ip".py, "-o".py, "addr".py, "show".py,
      "dev".py, "cnem_vnic".py]
  | vpn_route =>
    ["docker".py, "exec".py, "univpn-service".py, "ip".py, "route".py, "show".py,
      "172.26.0.0/15".py]
  | host_interface => ["ip".py, "link".py, "show".py, "cnem_vnic".py]
  | host_route => ["ip".py, "route".py, "show".py, "172.26.0.0/15".py]
  | compose_up compose services force =>
    ["docker".py, "compose".py, "-f".py, compose, "--profile".py, "audio".py, "up".py, "-d".py,
      "--no-deps".py] ++ (if force then ["--force-recreate".py] else []) ++ services

/-- The timeout of a command in seconds. -/
def Command.timeout : Command → Nat
  | runner_health => 8
  | compose_up _ _ _ => 120
  | _ => 30

/-- `subprocess.CompletedProcess` -/
structure Completed where
  returncode : Int
  stdout : PyStr
  stderr : PyStr

/-- How `subprocess.run` raises: with an `OSError` or `TimeoutExpired` of this
    name, or with something else. -/
inductive CommandFailure where
  | caught (name : PyStr)
  | other (kind : Builtin)

/-- The requests to the worker. -/
inductive Request where
  | health
  | tasks (request_id : PyStr) (payload : Json.Fields)
  | task (task_id request_id : PyStr)

/-- Method, path and timeout of a request. -/
def Request.line : Request → String × PyStr × Nat
  | health => ("GET", "/health".py, 5)
  | tasks _ _ => ("POST", "/tasks".py, 10)
  | task task_id _ => ("GET", "/tasks/".py ++ task_id, 10)

/-- What a request gives: the decoded body of a response, an error status
    with its body, an `OSError` or `ValueError` of this name, or another
    exception. -/
inductive Response where
  | body (text : PyStr)
  | http_error (code : Int) (text : Except Builtin PyStr)
  | failed (name : PyStr)
  | other (kind : Builtin)

inductive Question where
  /-- `self.compose.exists()` -/
  | compose_exists
  | command (c : Command)
  | worker (r : Request)
  | log (level event : String) (detail : PyStr)
  | monotonic
  | uuid4

/-- The type of an answer. -/
def Answer : Question → Type
  | .compose_exists => Bool
  | .command _ => Except CommandFailure Completed
  | .worker _ => Response
  | .log _ _ _ => Except Builtin Unit
  | .monotonic => Int
  | .uuid4 => PyStr

/-- The exceptions of the doctor; `cut` is not one: there a run is cut off. -/
inductive Exc where
  | doctorError (message : PyStr)
  | other (exc : PyExc)
  | cut

/-- A program of the doctor. -/
abbrev Talk (α : Type) : Type := Dialogue Question Answer Exc α

/-- One question with its answer. -/
abbrev Event : Type := Dialogue.Exchange Question Answer

/-- `raise DoctorError(message)` -/
def fail {α : Type} (message : PyStr) : Talk α := Dialogue.raise (.doctorError message)

/-- The exceptions of a library function. -/
def lift {α : Type} : Except Builtin α → Except Exc α
  | .ok a => .ok a
  | .error kind => .error (.other (.builtin kind []))

/-! ### Reports -/

/-- `Check` -/
structure Check where
  name : PyStr
  ok : Bool
  detail : PyStr

/-- `Report` -/
structure Report where
  checks : List Check := []
  actions : List PyStr := []

/-- `Report.ok` -/
def Report.ok (report : Report) : Bool := report.checks.all Check.ok

def Report.add (report : Report) (name : PyStr) (ok : Bool) (detail : PyStr) : Report :=
  { report with checks := report.checks ++ [{ name := name, ok := ok, detail := detail }] }

/-- The options of `json.dumps` with its defaults. -/
def dumpDefaults : Json.DumpOptions :=
  { ensure_ascii := true, sort_keys := false, item_separator := ", ", key_separator := ": " }

/-! ### Commands and requests -/

section methods

-- `clean` is `VpnDoctor.clean`; nothing here depends on what it removes
variable (I : Interp) (clean : PyStr → PyStr)

/-- What `command` makes of the end of `subprocess.run`. -/
def completed (c : Command) (check : Bool) :
    Except CommandFailure Completed → Except Exc Completed
  | .error (.caught name) =>
    .error (.doctorError ("command failed: ".py ++ c.argv.headD [] ++ ": ".py ++ name))
  | .error (.other kind) => .error (.other (.builtin kind []))
  | .ok result =>
    if check ∧ result.returncode ≠ 0 then
      let detail := clean (if result.stderr ≠ [] then result.stderr
        else if result.stdout ≠ [] then result.stdout
        else "exit ".py ++ Json.intRepr result.returncode)
      .error (.doctorError (c.argv.headD [] ++ " failed: ".py ++ detail.take 300))
    else .ok result

/-- `command` -/
def command (c : Command) (check : Bool) : Talk Completed :=
  .ask (.command c) fun result => .done (completed clean c check result)

/-- `log`; the text that is written goes through `clean`. -/
def log (level event : String) (detail : PyStr) : Talk Unit :=
  .ask (.log level event detail) fun result => .done (lift result)

/-- `docker_running` -/
def docker_running (name : PyStr) : Talk Bool := do
  let result ← command clean (.running name) false
  pure (result.returncode = 0 && PyStr.strip result.stdout = "true".py)

/-- `namespace` -/
def namespace_ (name : PyStr) : Talk (Option PyStr) := do
  let result ← command clean (.readlink name) false
  pure (if result.returncode = 0 then some (PyStr.strip result.stdout) else none)

/-- `isinstance(exc, ValueError)` -/
def isValueError : Builtin → Bool
  | .valueError | .jsonDecodeError | .unicodeDecodeError | .unicodeEncodeError => true
  | _ => false

/-- `type(exc).__name__` of what `json.loads` raises -/
def loadsErrorName (kind : Builtin) : PyStr :=
  if kind = .jsonDecodeError then "JSONDecodeError".py else "ValueError".py

/-- The `detail` of an error status. -/
def error_detail (code : Int) (text : Except Builtin PyStr) : Except Builtin Json :=
  let fallback : Json := .str ("HTTP ".py ++ Json.intRepr code)
  match text.bind (Json.loads I) with
  | .error kind =>
    if isValueError kind ∨ kind = .attributeError ∨ kind = .typeError then .ok fallback
    else .error kind
  | .ok (.obj error) =>
    let nested := match (Json.get? error "error".py).getD .null with
      | .obj fields => (Json.get? fields "error_code".py).getD .null
      | other => other
    let detail := ((Json.get? error "error_code".py).bind Json.ifTruthy).getD nested
    .ok (if detail.truthy then detail else fallback)
  | .ok _ => .ok fallback

/-- What `worker_request` makes of a response. -/
def respond : Response → Except Exc Json
  | .body text =>
    match Json.loads I text with
    | .ok payload => .ok payload
    | .error kind =>
      if isValueError kind then
        .error (.doctorError ("worker request failed: ".py ++ loadsErrorName kind))
      else .error (.other (.builtin kind []))
  | .http_error code text =>
    match (error_detail I code text).bind (Json.toStr I) with
    | .ok detail => .error (.doctorError ("worker request failed: ".py ++ detail))
    | .error kind => .error (.other (.builtin kind []))
  | .failed name => .error (.doctorError ("worker request failed: ".py ++ name))
  | .other kind => .error (.other (.builtin kind []))

/-- `worker_request` -/
def worker_request (r : Request) : Talk Json :=
  .ask (.worker r) fun response => .done (respond I response)

/-- `bool(result.get("ok")), str(result.get("status") or "unknown")` -/
def health_of (payload : Json) : Except Builtin (Bool × PyStr) :=
  match payload with
  | .obj fields => do
    let status ← Json.toStr I (((Json.get? fields "status".py).bind Json.ifTruthy).getD
      (.str "unknown".py))
    .ok (((Json.get? fields "ok".py).getD .null).truthy, status)
  | _ => .error .attributeError

/-- What `worker_health` makes of a response. -/
def worker_status (response : Response) : Except Exc (Bool × PyStr) :=
  match respond I response with
  | .ok payload => lift (health_of I payload)
  | .error (.doctorError message) => .ok (false, message)
  | .error exc => .error exc

/-- `worker_health` -/
def worker_health : Talk (Bool × PyStr) :=
  .ask (.worker .health) fun response => .done (worker_status I response)

/-- What `runner_health` makes of the result of its command. -/
def runner_status (result : Completed) : Except Exc (Bool × PyStr) :=
  if result.returncode ≠ 0 then
    .ok (false, clean (if result.stderr ≠ [] then result.stderr else "runner unavailable".py))
  else
    match (Json.loads I result.stdout).bind (health_of I) with
    | .ok health => .ok health
    | .error kind =>
      if isValueError kind then .ok (false, "invalid runner health response".py)
      else .error (.other (.builtin kind []))

/-- `runner_health` -/
def runner_health : Talk (Bool × PyStr) := do
  let result ← command clean .runner_health false
  .done (runner_status I clean result)

/-- `vpn_health` -/
def vpn_health : Talk (Bool × PyStr) := do
  let interface ← command clean .vpn_interface false
  let route ← command clean .vpn_route false
  let ok := interface.returncode = 0 ∧ PyStr.strip interface.stdout ≠ [] ∧
    PyStr.strip route.stdout ≠ []
  pure (ok, if ok then "cnem_vnic and 172.26.0.0/15 route present".py
    else "cnem_vnic or route missing".py)

/-- `host_isolated` -/
def host_isolated : Talk (Bool × PyStr) := do
  let interface ← command clean .host_interface false
  let route ← command clean .host_route false
  let ok := interface.returncode ≠ 0 ∧ PyStr.strip route.stdout = []
  pure (ok, if ok then "VPN route absent on host".py
    else "VPN interface or route leaked to host".py)

/-- `compose_up` -/
def compose_up (compose : PyStr) (services : List PyStr) (force : Bool) : Talk Unit := do
  let _ ← command clean (.compose_up compose services force) true
  pure ()

/-! ### Inspection -/

/-- The check of one container. -/
def inspect_container (name : PyStr) (report : Report) : Talk Report := do
  let running ← docker_running clean name
  pure (report.add ("container:".py ++ name) running
    (if running then "running".py else "not running".py))

/-- The check of the namespace of one container. -/
def inspect_namespace (vpn_ns : Option PyStr) (name : PyStr) (report : Report) : Talk Report := do
  let own_ns ← namespace_ clean name
  let same := vpn_ns ≠ none ∧ vpn_ns ≠ some [] ∧ own_ns = vpn_ns
  pure (report.add ("namespace:".py ++ name) same
    (if same then "matches UniVPN".py else "stale or unavailable".py))

/-- `docker inspect bo-vpn-tcp-proxy` succeeds. -/
def proxy_exists : Talk Bool := do
  let result ← command clean (.inspect "bo-vpn-tcp-proxy".py) false
  pure (result.returncode = 0)

/-- `inspect` -/
def inspect : Talk Report := do
  let report ← inspect_container clean "univpn-service".py {}
  let report ← inspect_container clean "bo-vpn-runner".py report
  let report ← inspect_container clean "bo-vpn-worker".py report
  let proxy ← proxy_exists clean
  let report ← (if proxy then inspect_container clean "bo-vpn-tcp-proxy".py report
    else pure report : Talk Report)
  let vpn_ns ← namespace_ clean "univpn-service".py
  let report ← inspect_namespace clean vpn_ns "bo-vpn-runner".py report
  let report ← (if proxy then inspect_namespace clean vpn_ns "bo-vpn-tcp-proxy".py report
    else pure report : Talk Report)
  let worker ← worker_health I
  let runner ← (if worker.1 then runner_health I clean
    else pure (false, "worker unavailable".py) : Talk (Bool × PyStr))
  let running ← docker_running clean "univpn-service".py
  let vpn ← (if running then vpn_health clean
    else pure (false, "container unavailable".py) : Talk (Bool × PyStr))
  let isolated ← host_isolated clean
  pure ((((report.add "worker".py worker.1 worker.2).add "runner".py runner.1 runner.2).add
    "vpn".py vpn.1 vpn.2).add "host_isolation".py isolated.1 isolated.2)

/-- `preflight` -/
def preflight : Talk Report := do
  let vpn_running ← docker_running clean "univpn-service".py
  let runner_running ← docker_running clean "bo-vpn-runner".py
  let vpn_ns ← (if vpn_running then namespace_ clean "univpn-service".py
    else pure none : Talk (Option PyStr))
  let runner_ns ← (if runner_running then namespace_ clean "bo-vpn-runner".py
    else pure none : Talk (Option PyStr))
  let same := vpn_ns ≠ none ∧ vpn_ns ≠ some [] ∧ runner_ns = vpn_ns
  let key ← (if runner_running then do
      let key ← command clean .ssh_key false
      pure (key.returncode = 0, if key.returncode = 0 then "readable".py else "not readable".py)
    else pure (false, "runner unavailable".py) : Talk (Bool × PyStr))
  let vpn ← (if vpn_running then vpn_health clean
    else pure (false, "container unavailable".py) : Talk (Bool × PyStr))
  let isolated ← host_isolated clean
  let report := (({} : Report).add "container:univpn-service".py vpn_running
      (if vpn_running then "running".py else "not running".py)).add
    "container:bo-vpn-runner".py runner_running
      (if runner_running then "running".py else "not running".py)
  let report := report.add "namespace:bo-vpn-runner".py same
    (if same then "matches UniVPN".py else "stale or unavailable".py)
  pure (((report.add "runner:ssh-key".py key.1 key.2).add "vpn".py vpn.1 vpn.2).add
    "host_isolation".py isolated.1 isolated.2)

/-! ### Waiting and the canary task -/

/-- `time.monotonic()`, in nanoseconds -/
def monotonic : Talk Int := .ask .monotonic fun now => .done (.ok now)

/-- `str(uuid.uuid4())` -/
def uuid4 : Talk PyStr := .ask .uuid4 fun id => .done (.ok id)

/-- A second of the clock. -/
def second : Int := 1000000000

/-- The loop of `wait_until`. -/
def wait_loop (check : Talk (Bool × PyStr)) (deadline : Int) :
    Nat → Bool × PyStr → Talk (Bool × PyStr)
  | 0, _ => Dialogue.raise .cut
  | rounds + 1, result => do
    let now ← monotonic
    if now < deadline then
      let result ← check
      if result.1 then pure result else wait_loop check deadline rounds result
    else pure result

/-- `wait_until` -/
def wait_until (rounds : Nat) (check : Talk (Bool × PyStr)) : Talk (Bool × PyStr) := do
  let now ← monotonic
  wait_loop check (now + 20 * second) rounds (false, "not ready".py)

/-- The payload of the canary task. -/
def canary_payload (request_id ip : PyStr) : Json.Fields :=
  [("request_id".py, .str request_id), ("telegram_user_id".py, .int 0),
    ("user_role".py, .str "engineer".py),
    ("vehicle".py, .obj [("number".py, .str "vpn-doctor-canary".py), ("ip".py, .str ip)]),
    ("vpn".py, .obj [("mode".py, .str "container_secret".py)]),
    ("operation".py, .str "vehicle_reachability".py), ("params".py, .obj []),
    ("runner_mode".py, .str "container_namespace".py), ("timeout_sec".py, .int 90)]

/-- `str(task["task_id"])` -/
def task_id_of : Json → Except Exc PyStr
  | .obj fields =>
    match Json.get? fields "task_id".py with
    | some task_id => lift (Json.toStr I task_id)
    | none => .error (.other (.other "'task_id'".py))
  | _ => .error (.other (.builtin .typeError []))

/-- One poll of the canary task: its text when it is over. -/
def canary_result : Json → Except Exc (Option PyStr)
  | .obj fields =>
    lift (do
      let state ← Json.toStr I ((Json.get? fields "state".py).getD .null)
      if state ∈ ["finished".py, "failed".py, "timeout".py] then
        let code ← Json.toStr I (((Json.get? fields "error_code".py).bind Json.ifTruthy).getD
          (.str "none".py))
        .ok (some ("task=".py ++ state ++ " code=".py ++ code))
      else .ok none)
  | _ => .error (.other (.builtin .attributeError []))

/-- The loop of `trigger_login`. -/
def canary_loop (task_id request_id : PyStr) (deadline : Int) : Nat → Talk PyStr
  | 0 => Dialogue.raise .cut
  | rounds + 1 => do
    let now ← monotonic
    if now < deadline then
      let result ← worker_request I (.task task_id request_id)
      match ← (Dialogue.done (canary_result I result) : Talk (Option PyStr)) with
      | some detail => pure detail
      | none => canary_loop task_id request_id deadline rounds
    else fail "canary task polling timed out".py

/-- `trigger_login` -/
def trigger_login (rounds : Nat) (canary_ip : PyStr) : Talk PyStr :=
  match IpAddress.ipv4? canary_ip with
  | none =>
    if IpAddress.isAddress canary_ip then fail "canary IP must be inside 172.26.0.0/15".py
    else Dialogue.raise (.other (.builtin .valueError []))
  | some address =>
    if IpAddress.inNetwork 0xAC1A0000 15 address then do
      let id ← uuid4
      let request_id := "vpn-doctor-".py ++ id
      let task ← worker_request I (.tasks request_id (canary_payload request_id canary_ip))
      let task_id ← (Dialogue.done (task_id_of I task) : Talk PyStr)
      let now ← monotonic
      canary_loop I task_id request_id (now + 100 * second) rounds
    else fail "canary IP must be inside 172.26.0.0/15".py

end methods

end BoVpnAgent.VpnDoctor

import BoVpnAgent.RunnerDaemon

/-! # The container-namespace executor

    `ContainerNamespaceExecutor.run` as a machine that its thread takes step
    by step: between two of its steps other threads move.  A step may report
    a state and may append one write to the UniVPN control file; what the
    commands answer, which writes fail, what the paths are and when the login
    deadline has passed is part of the step's label.
-/

namespace BoVpnAgent

/-- The fields of `CommandResult` that the executors read. -/
structure CommandResult where
  returncode : Int
  stdout : PyStr
  stderr : PyStr := []
  timed_out : Bool := false

/-- Who wrote to the control file: `_login` or `_cleanup`. -/
inductive ControlBlock where
  | login
  | disconnect
  deriving DecidableEq

/-- One write that was appended to `univpn_control_path`. -/
structure ControlWrite where
  job_id : PyStr
  block : ControlBlock
  text : PyStr
  deriving DecidableEq

namespace ContainerNamespaceExecutor

/-- `raise RunnerFailure(error_code, message)` -/
def raiseFailure {α : Type} (error_code : String) (message : PyStr) : Except PyExc α :=
  .error (.runnerFailure error_code.py message)

section run

variable (config : RunnerDaemonConfig)

/-! ### The connection check and the credentials -/

/-- `_is_connected` with the answers of its two commands; `routes` is asked
    for only when the interface is there. -/
def is_connected (addr routes : Except PyExc CommandResult) : Except PyExc Bool := do
  let addr ← addr
  if addr.timed_out then
    raiseFailure "operation_timeout"
      ("VPN preflight: проверка ".py ++ config.univpn_interface ++ " превысила timeout".py)
  else if addr.returncode = 0 ∧ PyStr.includes addr.stdout config.univpn_interface then
    let routes ← routes
    if routes.timed_out then
      raiseFailure "operation_timeout" "VPN preflight: проверка маршрутов превысила timeout".py
    else if routes.returncode ≠ 0 then
      raiseFailure "vpn_client_error" "VPN preflight: не удалось получить маршруты".py
    else return PyStr.includes routes.stdout config.univpn_route_cidr
  else return false

/-- `_read_env_file` on the lines of the file. -/
def read_env_file : List PyStr → Dict PyStr PyStr → Dict PyStr PyStr
  | [], result => result
  | raw_line :: lines, result =>
    let line := PyStr.strip raw_line
    if line = [] ∨ PyStr.startsWith line "#".py ∨ ¬ PyStr.includes line "=".py then
      read_env_file lines result
    else
      let key := line.takeWhile (· ≠ 0x3D)
      let value := (line.dropWhile (· ≠ 0x3D)).drop 1
      read_env_file lines (result.set (PyStr.strip key)
        (PyStr.stripChar 0x27 (PyStr.stripChar 0x22 (PyStr.strip value))))

/-- `_credentials`; `secret_file` is the text of the secret file or the
    exception that reading it raises. -/
def credentials (vpn : VpnCredentials) (secret_file : Except Builtin (List PyStr)) :
    Except PyExc (PyStr × PyStr) :=
  if vpn.mode = "inline_once".py then
    if vpn.username = [] ∨ vpn.password = [] then
      raiseFailure "vpn_client_error" "UniVPN credentials отсутствуют".py
    else .ok (vpn.username, vpn.password)
  else if vpn.mode ≠ "container_secret".py ∨ config.univpn_login_mode ≠ "container_secret".py then
    raiseFailure "vpn_client_error" "UniVPN login mode не поддержан для container_namespace".py
  else
    match secret_file with
    | .error .osError => raiseFailure "vpn_client_error" "UniVPN secret file недоступен".py
    | .error kind => raiseBuiltin kind
    | .ok lines =>
      let secrets := read_env_file lines Dict.empty
      let username := (secrets.get? "VPN_USERNAME".py).getD []
      let password := (secrets.get? "VPN_PASSWORD".py).getD []
      if username = [] ∨ password = [] then
        raiseFailure "vpn_client_error"
          "UniVPN secret file не содержит VPN_USERNAME/VPN_PASSWORD".py
      else .ok (username, password)

/-! ### Writes to the control file -/

/-- The text of `_write_control_line`. -/
def controlLine (line : PyStr) : PyStr := line ++ [0x0A]

/-- The four lines that `_login` writes. -/
def loginLines (username password : PyStr) : List PyStr :=
  [controlLine config.univpn_profile_menu_index, controlLine "1".py, controlLine username,
    controlLine password]

/-- How long `_login` sleeps behind each of them. -/
def loginDelay : Nat → PyFloat
  | 0 => config.univpn_login_after_profile_delay_sec
  | 1 => config.univpn_login_after_connect_delay_sec
  | 2 => config.univpn_login_after_username_delay_sec
  | _ => config.univpn_post_login_wait_sec

/-- What follows each of them: the pause, and behind the last one the sum for
    the deadline of the wait. -/
def behindLine (written : Nat) : Except Builtin Unit := do
  sleep (loginDelay config written)
  if written < 3 then .ok () else add_seconds config.univpn_login_timeout_sec

theorem behindLine_ok_iff (written : Nat) :
    behindLine config written = .ok () ↔ sleep (loginDelay config written) = .ok () ∧
      (3 ≤ written → add_seconds config.univpn_login_timeout_sec = .ok ()) := by
  unfold behindLine
  cases sleep (loginDelay config written) with
  | error kind => exact iff_of_false (fun h => by cases h) fun h => by cases h.1
  | ok =>
    show (if written < 3 then Except.ok () else _) = _ ↔ _
    split
    · next hearly => exact iff_of_true rfl ⟨rfl, fun hlate => absurd hearly (by omega)⟩
    · next hlate => exact ⟨fun h => ⟨rfl, fun _ => h⟩, fun h => h.2 (by omega)⟩

/-- The text of `_write_control_sequence`. -/
def controlSequence (sequence : PyStr) : PyStr :=
  (PyStr.join [0x0A] (PyStr.splitlines sequence)).rdropWhile (· = 0x0A) ++ [0x0A]

/-- Appending a text to the control file: `fault` is an `OSError` of `mkdir`,
    `open` or `write`, behind which nothing has been appended, and the file is
    encoded as UTF-8. -/
def append (text : PyStr) (fault : Bool) : Except Builtin PyStr :=
  if fault then .error .osError
  else if PyStr.Scalar text then .ok text
  else .error .unicodeEncodeError

theorem append_cases (text : PyStr) (fault : Bool) :
    (fault = true ∧ append text fault = .error .osError) ∨
    (fault = false ∧ PyStr.Scalar text ∧ append text fault = .ok text) ∨
    (fault = false ∧ ¬PyStr.Scalar text ∧ append text fault = .error .unicodeEncodeError) := by
  unfold append
  cases fault with
  | true => exact .inl ⟨rfl, rfl⟩
  | false =>
    by_cases hscalar : PyStr.Scalar text
    · exact .inr (.inl ⟨rfl, hscalar, if_pos hscalar⟩)
    · exact .inr (.inr ⟨rfl, hscalar, if_neg hscalar⟩)

/-! ### One step of `run` -/

/-- Where `run` stands. -/
inductive Session where
  /-- before `set_state("starting_vpn", ..)` -/
  | begun
  /-- in the first `_is_connected` -/
  | preflight
  /-- in `_login`, before the credentials are read -/
  | login
  /-- in `_login`, with so many of the four lines written -/
  | writing (username password : PyStr) (written : Nat)
  /-- in the loop that waits for the connection -/
  | polling
  /-- before `set_state("vpn_connected", ..)` -/
  | connected
  /-- before the branch on the operation -/
  | announced
  /-- in `basic_status`, before `set_state("running_operation", ..)` -/
  | checking
  /-- in the operation -/
  | operating
  /-- in the `finally` clause, with the way the `try` body ended -/
  | cleanup (outcome : Outcome)
  /-- before the write of the disconnect sequence -/
  | disconnecting (outcome : Outcome)

/-- The steps of `run`. -/
inductive SessionAction where
  | set_state
  | probe (addr routes : Except PyExc CommandResult) (expired : Bool)
  | read_credentials (secret_file : Except Builtin (List PyStr)) (control_path : Except Builtin Bool)
  | write (fault : Bool)
  | operate (outcome : Outcome)
  | cleanup
  | disconnect (fault : Bool)

/-- What a step does: it goes on or leaves `run`, it may report a state, and
    it may append a write. -/
structure SessionStep where
  next : Session ⊕ Outcome
  report : Option (TaskState × String) := none
  write : Option (ControlBlock × PyStr) := none

/-- A step that only goes on. -/
def go (next : Session) : Option SessionStep := some { next := .inl next }

/-- A step that reports a state and goes on. -/
def report (state : TaskState) (message : String) (next : Session) : Option SessionStep :=
  some { next := .inl next, report := some (state, message) }

/-- An exception in the `try` body. -/
def raised (exc : PyExc) : Option SessionStep := go (.cleanup (.raised exc))

/-- On to `next` behind a pause.  What `time.sleep` raises is no `OSError`, nor
    is what the sum for the deadline raises, so that no handler of `run`
    catches it. -/
def pausedThen (pause : Except Builtin Unit) (next : Session) : Session :=
  match pause with
  | .ok () => next
  | .error kind => .cleanup (.raised (.builtin kind []))

theorem pausedThen_cases (pause : Except Builtin Unit) (next : Session) :
    (pause = .ok () ∧ pausedThen pause next = next) ∨
    ∃ kind, pause = .error kind ∧
      pausedThen pause next = .cleanup (.raised (.builtin kind [])) := by
  cases pause with
  | ok => exact .inl ⟨rfl, rfl⟩
  | error kind => exact .inr ⟨kind, rfl, rfl⟩

/-- The failure of a poll whose deadline has passed. -/
def loginExpired : PyExc :=
  .runnerFailure "vpn_client_error".py
    ("UniVPN login не дал интерфейс ".py ++ config.univpn_interface ++ " и маршрут ".py ++
      config.univpn_route_cidr)

/-- The failure of a preflight whose session is not managed. -/
def unmanaged : PyExc :=
  .runnerFailure "vpn_client_error".py
    ("VPN preflight: интерфейс ".py ++ config.univpn_interface ++ " или маршрут ".py ++
      config.univpn_route_cidr ++ " отсутствует".py)

/-- One write of `_login`, and the delay behind it. -/
def login_write (username password : PyStr) (written : Nat) (fault : Bool) : Option SessionStep :=
  match (loginLines config username password)[written]? with
  | none => none
  | some line =>
    match append line fault with
    | .ok text =>
      some { next := .inl (pausedThen (behindLine config written)
               (if written + 1 < 4 then .writing username password (written + 1) else .polling))
             write := some (.login, text) }
    | .error .osError =>
      raised (.runnerFailure "vpn_client_error".py
        "UniVPN control FIFO недоступен для managed login".py)
    | .error kind => raised (.builtin kind [])

/-- The warnings that `_cleanup` returns, added to a result. -/
def warn (warning : Option String) : Outcome → Outcome
  | .returned result =>
    .returned { result with warnings := .arr (((orEmptyList result.warnings).iter?.getD []) ++
      (warning.map fun w => Json.str w.py).toList) }
  | .raised exc => .raised exc

/-- One step of `run` for a job with the task `task` and the credentials
    `vpn`; `none` when the step is not possible. -/
def step (task : Task) (vpn : VpnCredentials) (s : Session) (a : SessionAction) :
    Option SessionStep :=
  match a, s with
  | .set_state, .begun =>
    report .starting_vpn "Проверка UniVPN session в container namespace" .preflight
  | .probe addr routes _, .preflight =>
    match is_connected config addr routes with
    | .ok true => go .connected
    | .ok false => if config.manage_vpn_session then go .login else raised (unmanaged config)
    | .error exc => raised exc
  | .read_credentials secret_file control_path, .login =>
    match credentials config vpn secret_file with
    | .ok (username, password) =>
      -- `univpn_control_path.exists()`, in the arguments of a log record
      match control_path with
      | .ok _ => go (.writing username password 0)
      | .error kind => raised (.builtin kind [])
    | .error exc => raised exc
  | .write fault, .writing username password written =>
    login_write config username password written fault
  | .probe addr routes expired, .polling =>
    match is_connected config addr routes with
    | .ok true => go .connected
    | .ok false =>
      if expired then raised (loginExpired config)
      else go (pausedThen (sleep config.univpn_connect_poll_interval_sec) .polling)
    | .error exc => raised exc
  | .set_state, .connected =>
    report .vpn_connected "UniVPN session доступна в container namespace" .announced
  | .set_state, .announced =>
    if task.operation = "vehicle_reachability".py then
      report .checking_vehicle "Проверка TCP-доступности ТС" .operating
    else if task.operation = "basic_status".py then
      report .checking_vehicle "Проверка VPN-доступности перед SSH" .checking
    else
      raised (.runnerFailure "operation_not_allowed".py
        "Операция пока не реализована для container_namespace".py)
  | .set_state, .checking =>
    report .running_operation "Получение basic_status по SSH" .operating
  | .operate outcome, .operating => go (.cleanup outcome)
  | .cleanup, .cleanup outcome =>
    if config.stop_vpn_after_task = false then some { next := .inr (warn none outcome) }
    else if config.univpn_disconnect_sequence.getD [] = [] then
      some { next := .inr (warn (some "UniVPN cleanup requested, but disconnect sequence is not configured") outcome)
             report := some (.cleanup, "Cleanup UniVPN session") }
    else report .cleanup "Cleanup UniVPN session" (.disconnecting outcome)
  | .disconnect fault, .disconnecting outcome =>
    match append (controlSequence (config.univpn_disconnect_sequence.getD [])) fault with
    | .ok text => some { next := .inr (warn none outcome), write := some (.disconnect, text) }
    | .error .osError => some { next := .inr (warn (some "UniVPN cleanup failed") outcome) }
    | .error kind => some { next := .inr (.raised (.builtin kind [])) }
  | _, _ => none

end run

end ContainerNamespaceExecutor

end BoVpnAgent

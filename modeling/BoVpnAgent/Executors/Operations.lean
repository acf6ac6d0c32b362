import BoVpnAgent.ContainerNamespaceExecutor
import BoVpnAgent.Lib.Script
import BoVpnAgent.Lib.Url

/-! # The operations of the two executors

    `ExistingContainerExecutor` enters the namespace of the UniVPN container
    for each command, `ContainerNamespaceExecutor` runs inside it.  Both carry
    out `vehicle_reachability` and `basic_status` with one command each.  An
    executor is a program that asks for the results of commands.
-/

namespace BoVpnAgent

/-- The commands that the executors run. -/
inductive Command where
  /-- `docker inspect -f {{.State.Pid}} container` -/
  | docker_inspect (docker_bin container : PyStr)
  /-- `ip addr show interface`, with `-br` when `brief` -/
  | interface_check (brief : Bool) (interface : PyStr)
  /-- `ip route` -/
  | route_check
  /-- `python3 -c` with the script of `_tcp_probe_script` -/
  | tcp_probe (host : PyStr) (ports : List Nat) (timeout : Int)
  /-- `ssh` to `user@host` with the status command -/
  | ssh (ssh_bin ssh_key_path : PyStr) (connect_timeout : Int) (user host : PyStr)
  /-- `nsenter -t pid -n command` -/
  | nsenter (nsenter_bin pid : PyStr) (command : Command)
  deriving DecidableEq

/-- One call of `command_executor.run`. -/
structure Invocation where
  command : Command
  timeout_sec : Int
  deriving DecidableEq

/-- A program that runs commands. -/
abbrev CommandScript (α : Type) := Script Invocation CommandResult PyExc α

/-- `self.command_executor.run(command, timeout_sec=timeout_sec)` -/
def run_command (command : Command) (timeout_sec : Int) : CommandScript CommandResult :=
  Script.ask { command := command, timeout_sec := timeout_sec }

/-- `raise RunnerFailure(error_code, message)` in a program. -/
def failScript {α : Type} (error_code : String) (message : PyStr) : CommandScript α :=
  Script.raise (.runnerFailure error_code.py message)

/-! ### Reading the results -/

def TCP_PORTS : List Nat := [22, 443, 80]

def REQUIRED_VPN_ROUTE : PyStr := "172.26.0.0/15".py

/-- The ports can be written out. -/
theorem digitsWithin_port (I : Interp) {port : Nat} (h : port ∈ TCP_PORTS) :
    Json.DigitsWithin I.int_max_str_digits port := by
  have hlength : ∀ n ∈ TCP_PORTS, (Nat.toDigits 10 (n : Int).natAbs).length ≤ 3 := by decide
  exact le_trans (hlength port h) (le_trans (by decide) I.digits_min)

/-- `f"tcp_{port}"` -/
def tcpKey (port : Nat) : PyStr := "tcp_".py ++ Json.intRepr port

/-- The options of `json.dumps` in `_tcp_probe_script`. -/
def probeOptions : Json.DumpOptions :=
  { ensure_ascii := true, sort_keys := false, item_separator := ",", key_separator := ":" }

section reading

variable (I : Interp)

/-- `_tcp_probe_script`: the command that runs the script; `json.dumps` of the
    payload can raise. -/
def tcp_probe_script (host : PyStr) (ports : List Nat) (timeout : Int) : Except PyExc Command :=
  match Json.dumps I probeOptions (.obj [("host".py, .str host),
      ("ports".py, .arr (ports.map fun port => .int port)), ("timeout".py, .int timeout)]) with
  | .ok _ => .ok (.tcp_probe host ports timeout)
  | .error kind => raiseBuiltin kind

/-- `str(probe.get(str(port), "closed"))` -/
def probe_port (probe : Json) (port : Nat) : Except PyExc PyStr :=
  match probe with
  | .obj fields =>
    liftBuiltin (Json.toStr I ((Json.get? fields (Json.intRepr port)).getD (.str "closed".py)))
  | _ => raiseBuiltin .attributeError

/-- What `_vehicle_reachability` makes of the result of the probe.  The
    executors differ in the texts for a timeout, for a failure and for a
    vehicle that answers. -/
def read_probe (timeout failed summary : String) (result : CommandResult) :
    Except PyExc RunnerResult :=
  if result.timed_out then
    ContainerNamespaceExecutor.raiseFailure "operation_timeout" timeout.py
  else if result.returncode ≠ 0 then
    ContainerNamespaceExecutor.raiseFailure "vpn_client_error" failed.py
  else
    match Json.loads I result.stdout with
    | .error .jsonDecodeError =>
      ContainerNamespaceExecutor.raiseFailure "vpn_client_error"
        "TCP-проверка вернула некорректный JSON".py
    | .error kind => raiseBuiltin kind
    | .ok probe => do
      let tcp_22 ← probe_port I probe 22
      let tcp_443 ← probe_port I probe 443
      let tcp_80 ← probe_port I probe 80
      if tcp_22 ≠ "open".py ∧ tcp_443 ≠ "open".py then
        ContainerNamespaceExecutor.raiseFailure "vehicle_unreachable"
          "ТС недоступно по 22/tcp и 443/tcp".py
      else
        return { summary := .str summary.py
                 data := .obj [(tcpKey 22, .str tcp_22), (tcpKey 443, .str tcp_443),
                   (tcpKey 80, .str tcp_80)] }

end reading

/-- `_find_line_index` -/
def find_line_index (lines : List PyStr) (head : PyStr) : Option Nat :=
  lines.findIdx? fun line => PyStr.startsWith (line.dropWhile CodePoint.isSpace) head

/-- `_parse_basic_status` -/
def parse_basic_status (stdout : PyStr) : Json :=
  let lines := PyStr.splitlines stdout
  let disk_start := find_line_index lines "Filesystem".py
  let memory_start := find_line_index lines "total".py
  let line (k : Nat) : Json := .str ((lines[k]?.map PyStr.strip).getD [])
  .obj [("hostname".py, line 0), ("uptime_raw".py, line 1), ("system_time".py, line 2),
    ("disk_root_raw".py, .str ((disk_start.map fun start =>
      PyStr.strip (PyStr.join [0x0A] ((lines.take (memory_start.getD lines.length)).drop start))).getD [])),
    ("memory_raw".py, .str ((memory_start.map fun start =>
      PyStr.strip (PyStr.join [0x0A] (lines.drop start))).getD []))]

/-- What `_basic_status` makes of the result of the ssh command; the texts
    differ as for the probe. -/
def read_status (timeout failed : String) (result : CommandResult) : Except PyExc RunnerResult :=
  if result.timed_out then
    ContainerNamespaceExecutor.raiseFailure "operation_timeout" timeout.py
  else if result.returncode ≠ 0 then
    ContainerNamespaceExecutor.raiseFailure "ssh_failed" failed.py
  else
    .ok { summary := .str "Базовый статус ТС получен через SSH".py
          data := parse_basic_status result.stdout }

/-- The ssh command of both executors; writing out `ConnectTimeout` can raise. -/
def ssh_command (I : Interp) (config : RunnerDaemonConfig) (host : PyStr) : Except PyExc Command :=
  if Json.DigitsWithin I.int_max_str_digits config.nsenter_timeout_sec then
    .ok (.ssh config.ssh_bin config.ssh_key_path config.nsenter_timeout_sec config.default_ssh_user
      host)
  else raiseBuiltin .valueError

/-- The failure for a missing key. -/
def missing_key (config : RunnerDaemonConfig) : PyExc :=
  .runnerFailure "ssh_failed".py ("SSH-ключ не найден: ".py ++ config.ssh_key_path)

/-! ### Inside the namespace -/

namespace ContainerNamespaceExecutor

variable (I : Interp) (config : RunnerDaemonConfig)

/-- `ContainerNamespaceExecutor._vehicle_reachability` -/
def vehicle_reachability (task : Task) : CommandScript RunnerResult := do
  let script ← .done (tcp_probe_script I task.vehicle.ip TCP_PORTS
    (min config.nsenter_timeout_sec task.timeout_sec))
  let result ← run_command script task.timeout_sec
  .done (read_probe I "TCP-проверка в container namespace превысила timeout"
    "TCP-проверка в container namespace завершилась ошибкой"
    "ТС доступно через UniVPN container namespace" result)

/-- `ContainerNamespaceExecutor._basic_status`; `key_present` is
    `ssh_key_path.is_file()`. -/
def basic_status (key_present : Except Builtin Bool) (task : Task) : CommandScript RunnerResult := do
  let key_present ← .done (liftBuiltin key_present)
  if key_present = false then Script.raise (missing_key config)
  else do
    let command ← .done (ssh_command I config task.vehicle.ip)
    let result ← run_command command task.timeout_sec
    .done (read_status "SSH basic_status в container namespace превысил timeout"
      "SSH basic_status в container namespace завершился ошибкой" result)

/-- The operation that `run` chose. -/
def operation (key_present : Except Builtin Bool) (task : Task) : CommandScript RunnerResult :=
  if task.operation = "vehicle_reachability".py then vehicle_reachability I config task
  else basic_status I config key_present task

end ContainerNamespaceExecutor

/-! ### Through `nsenter` -/

/-- `_is_permission_denied`.  The phrase is ASCII, and what `str.lower` makes
    of other characters never continues it. -/
def is_permission_denied (result : CommandResult) : Bool :=
  result.returncode ≠ 0 &&
    PyStr.includes (Url.lower (result.stderr ++ [0x0A] ++ result.stdout)) "permission denied".py

namespace ExistingContainerExecutor

variable (I : Interp) (config : RunnerDaemonConfig)

/-- `ExistingContainerExecutor._nsenter` -/
def nsenter (container_pid : PyStr) (command : Command) (timeout_sec : Int) :
    CommandScript CommandResult :=
  run_command (.nsenter config.nsenter_bin container_pid command)
    (min timeout_sec config.nsenter_timeout_sec)

/-- `ExistingContainerExecutor._container_pid` -/
def container_pid : CommandScript PyStr := do
  let result ← run_command (.docker_inspect config.docker_bin config.existing_container_name)
    config.nsenter_timeout_sec
  if result.timed_out then failScript "operation_timeout" "docker inspect превысил timeout".py
  else
    let pid := PyStr.strip result.stdout
    if result.returncode ≠ 0 ∨ pid = [] ∨ pid = "0".py then
      failScript "vpn_client_error" "Не удалось получить PID existing UniVPN container".py
    else return pid

/-- The second half of `ExistingContainerExecutor._preflight`: the routes. -/
def preflight_routes (container_pid : PyStr) : CommandScript Unit := do
  let routes ← nsenter config container_pid .route_check config.nsenter_timeout_sec
  if routes.timed_out then
    failScript "operation_timeout" "VPN preflight: проверка маршрутов превысила timeout".py
  else if is_permission_denied routes then
    failScript "vpn_client_error" "VPN preflight: nsenter permission denied".py
  else if routes.returncode ≠ 0 then
    failScript "vpn_client_error" "VPN preflight: не удалось получить маршруты".py
  else if ¬PyStr.includes routes.stdout REQUIRED_VPN_ROUTE then
    failScript "vpn_client_error" "VPN preflight: маршрут 172.26.0.0/15 отсутствует".py
  else return ()

/-- `ExistingContainerExecutor._preflight` -/
def preflight (container_pid : PyStr) : CommandScript Unit := do
  let addr ← nsenter config container_pid (.interface_check false "cnem_vnic".py)
    config.nsenter_timeout_sec
  if addr.timed_out then
    failScript "operation_timeout" "VPN preflight: проверка cnem_vnic превысила timeout".py
  else if is_permission_denied addr then
    failScript "vpn_client_error" "VPN preflight: nsenter permission denied".py
  else if addr.returncode ≠ 0 ∨ ¬PyStr.includes addr.stdout "cnem_vnic".py then
    failScript "vpn_client_error" "VPN preflight: интерфейс cnem_vnic отсутствует".py
  else preflight_routes config container_pid

/-- `ExistingContainerExecutor._vehicle_reachability` -/
def vehicle_reachability (container_pid : PyStr) (task : Task) : CommandScript RunnerResult := do
  let script ← .done (tcp_probe_script I task.vehicle.ip TCP_PORTS
    (min config.nsenter_timeout_sec task.timeout_sec))
  let result ← nsenter config container_pid script task.timeout_sec
  .done (read_probe I "TCP-проверка через nsenter превысила timeout"
    "TCP-проверка через nsenter завершилась ошибкой"
    "ТС доступно через existing UniVPN namespace" result)

/-- `ExistingContainerExecutor._basic_status` -/
def basic_status (key_present : Except Builtin Bool) (container_pid : PyStr) (task : Task) :
    CommandScript RunnerResult := do
  let key_present ← .done (liftBuiltin key_present)
  if key_present = false then Script.raise (missing_key config)
  else do
    let command ← .done (ssh_command I config task.vehicle.ip)
    let result ← nsenter config container_pid command task.timeout_sec
    .done (read_status "SSH basic_status через nsenter превысил timeout"
      "SSH basic_status через nsenter завершился ошибкой" result)

/-- `ExistingContainerExecutor.run` once the PID is known. -/
def run_in (key_present : Except Builtin Bool) (container_pid : PyStr) (task : Task) :
    CommandScript RunnerResult := do
  preflight config container_pid
  if task.operation = "vehicle_reachability".py then
    vehicle_reachability I config container_pid task
  else if task.operation = "basic_status".py then
    basic_status I config key_present container_pid task
  else failScript "operation_not_allowed" "Операция пока не реализована для existing_container".py

/-- `ExistingContainerExecutor.run` -/
def run (key_present : Except Builtin Bool) (task : Task) : CommandScript RunnerResult := do
  let container_pid ← container_pid config
  run_in I config key_present container_pid task

end ExistingContainerExecutor

/-! ### A sample task -/

/-- A task for the vehicle at 10.0.0.1. -/
def sampleTask (operation : String) (timeout_sec : Int) : Task where
  task_id := "t-1".py
  request_id := "r-1".py
  telegram_user_id := .int 0
  user_role := "runner-daemon".py
  vehicle := { number := "1".py, ip := "10.0.0.1".py }
  operation := operation.py
  params := []
  timeout_sec := timeout_sec
  request_fingerprint := "runner-daemon".py
  runner_mode := "container_namespace".py
  risk := "read_only".py
  created_at := sampleNow
  updated_at := sampleNow

end BoVpnAgent

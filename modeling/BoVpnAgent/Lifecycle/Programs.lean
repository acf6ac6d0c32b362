import BoVpnAgent.Lib.Dialogue
import BoVpnAgent.Runner

/-! # What the runners do

    The `run` of `DryRunRunner`, `ExistingContainerRunner` and
    `JobContainerRunner` as programs.  A question is what a program cannot
    answer by itself; `set_state` is one, for a program goes on only when the
    call has returned.

    The order of the states is defined here, too, and each program is shown
    to report along it.
-/

namespace BoVpnAgent

/-! ### The order of the states -/

namespace TaskState

/-- The place of a state in the life of a task, the terminal states last.
    Nothing sets `queued`. -/
def rank : TaskState → Nat
  | created | queued => 0
  | starting_vpn => 1
  | vpn_connected => 2
  | checking_vehicle => 3
  | running_operation => 4
  | collecting_result => 5
  | cleanup => 6
  | finished | failed | timeout => 7

/-- The states between the first one and the last. -/
def phase : TaskState → Bool
  | created | queued | finished | failed | timeout => false
  | _ => true

variable {st : TaskState}

theorem rank_le (st : TaskState) : st.rank ≤ 7 := by cases st <;> decide

theorem rank_of_terminal (h : st.terminal = true) : st.rank = 7 := by
  cases st <;> first | rfl | cases h

theorem rank_le_cleanup (h : st.terminal = false) : st.rank ≤ cleanup.rank := by
  cases st <;> first | decide | cases h

theorem terminal_of_phase (h : st.phase = true) : st.terminal = false := by
  cases st <;> first | rfl | cases h

theorem ne_queued_of_phase (h : st.phase = true) : st ≠ queued := by
  rintro rfl
  cases h

theorem ofName?_name (st : TaskState) : ofName? st.name.py = some st := by
  cases st <;> decide

theorem name_inj {st' : TaskState} (h : st.name.py = st'.name.py) : st = st' := by
  have hback := congrArg ofName? h
  rwa [ofName?_name, ofName?_name, Option.some.injEq] at hback

end TaskState

/-! ### Programs -/

/-- The questions of a runner. -/
inductive RunnerQuery where
  | set_state (state : TaskState) (message : PyStr)
  | sleep
  /-- `_tcp_connect(host, port, timeout)` -/
  | tcp_connect (host : PyStr) (port timeout : Nat)
  /-- `artifact_store.create_text_artifact(filename, content)` -/
  | create_text_artifact (filename content : PyStr)
  /-- `ExistingContainerExecutor.run(task)`, which has no callback -/
  | existing_container

/-- What the question is answered with. -/
def RunnerQuery.Answer : RunnerQuery → Type
  | set_state _ _ | sleep => Unit
  | tcp_connect _ _ _ => Bool
  | create_text_artifact _ _ => Except PyExc Json
  | existing_container => Except PyExc RunnerResult

/-- A program of a runner. -/
abbrev RunnerDialogue (α : Type) := Dialogue RunnerQuery RunnerQuery.Answer PyExc α

abbrev RunnerProgram := RunnerDialogue RunnerResult

namespace RunnerProgram

/-- Asks one question. -/
def query (q : RunnerQuery) : RunnerDialogue q.Answer := Dialogue.question q

def set_state (state : TaskState) (message : String) : RunnerDialogue Unit :=
  query (.set_state state message.py)

def sleep : RunnerDialogue Unit := query .sleep

def tcp_connect (host : PyStr) (port timeout : Nat) : RunnerDialogue Bool :=
  query (.tcp_connect host port timeout)

/-- The value of a call that may raise. -/
def lift {α : Type} (r : Except PyExc α) : RunnerDialogue α := .done r

def create_text_artifact (filename content : PyStr) : RunnerDialogue Json := do
  let artifact ← query (.create_text_artifact filename content)
  lift artifact

end RunnerProgram

open RunnerProgram

/-! ### The runners -/

namespace DryRunRunner

/-- The phases of `_simulate_lifecycle`. -/
def phases : List (TaskState × String) :=
  [(.starting_vpn, "Подключение к UniVPN"), (.vpn_connected, "UniVPN подключён"),
    (.checking_vehicle, "Проверка доступности ТС"), (.running_operation, "Выполнение операции"),
    (.collecting_result, "Сбор результата")]

/-- The loop of `_simulate_lifecycle`. -/
def simulate : List (TaskState × String) → RunnerDialogue Unit
  | [] => return ()
  | (state, message) :: rest => do
    set_state state message
    sleep
    simulate rest

/-- `_operation_result` -/
def operation_result (task : Task) : RunnerProgram :=
  if task.operation = "vehicle_reachability".py then
    return { summary := .str "ТС доступно по проверяемым TCP-портам".py
             data := .obj [("tcp".py, .obj [("22".py, .bool true), ("443".py, .bool true),
               ("80".py, .bool false)]), ("ping".py, .null)] }
  else if task.operation = "basic_status".py then
    return { summary := .str "ТС доступно, основные сервисы работают".py
             data := .obj [("hostname".py, .str "dry-run-vehicle".py),
               ("uptime".py, .str "2 days, 04:11".py), ("date".py, .str "2026-06-29T10:15:42Z".py),
               ("disk".py, .obj [("root_used_percent".py, .int 41)]),
               ("memory".py, .obj [("used_percent".py, .int 53)]), ("ssh_22".py, .bool true),
               ("https_443".py, .bool true),
               ("services".py, .obj [("mnt-brd".py, .str "active".py),
                 ("mnt-rout".py, .str "active".py)])] }
  else if task.operation = "validators_status".py then
    return { summary := .str "Валидаторы отвечают, критичных ошибок не найдено".py
             data := .obj [("validators".py, .arr
                 [.obj [("id".py, .str "front".py), ("reachable".py, .bool true),
                   ("status".py, .str "ok".py)],
                  .obj [("id".py, .str "rear".py), ("reachable".py, .bool true),
                   ("status".py, .str "ok".py)]]),
               ("read_only".py, .bool true)] }
  else if task.operation = "collect_bundle_light".py then do
    let artifact ← create_text_artifact
      ("vehicle-".py ++ task.vehicle.number ++ "-collect-bundle-light.txt".py)
      "dry-run diagnostic bundle\nsecrets: redacted\n".py
    return { summary := .str "Лёгкий диагностический пакет собран".py
             data := .obj [("bundle".py, .str "light".py), ("read_only".py, .bool true)]
             artifacts := .arr [artifact] }
  else return { summary := .str "Операция выполнена".py, data := .obj [] }

def run (task : Task) : RunnerProgram := do
  simulate phases
  operation_result task

end DryRunRunner

def ExistingContainerRunner.run (task : Task) : RunnerProgram := do
  set_state .starting_vpn "Использование существующего UniVPN namespace"
  set_state .vpn_connected "Существующий UniVPN namespace выбран"
  set_state .checking_vehicle "Проверка TCP-доступности ТС"
  let tcp_22 ← tcp_connect task.vehicle.ip 22 3
  let tcp_443 ← tcp_connect task.vehicle.ip 443 3
  let tcp_80 ← tcp_connect task.vehicle.ip 80 3
  if !(tcp_22 || tcp_443 || tcp_80) then
    Dialogue.raise (.runnerFailure "vehicle_unreachable".py
      "ТС недоступно по проверяемым TCP-портам".py)
  else do
    set_state .running_operation "Выполнение read-only операции"
    set_state .collecting_result "Сбор результата"
    return { summary := .str "ТС доступно из текущего сетевого окружения runner-а".py
             data := .obj [("tcp".py, .obj [("22".py, .bool tcp_22), ("443".py, .bool tcp_443),
                 ("80".py, .bool tcp_80)]),
               ("runner_note".py,
                 .str "existing_container mode expects execution inside VPN namespace".py)] }

def JobContainerRunner.run : RunnerProgram := do
  set_state .starting_vpn "Подготовка одноразового UniVPN job container"
  Dialogue.raise (.runnerFailure "vpn_client_error".py
    "job_container runner требует установленный vpn runner-daemon на хосте".py)

namespace RunnerProgram

/-- The program of a runner that works in its own process; the client of the
    daemon does not. -/
def start (task : Task) : VpnRunner → Option RunnerProgram
  | .dry_run => some (DryRunRunner.run task)
  | .existing_container => some (ExistingContainerRunner.run task)
  | .job_container => some JobContainerRunner.run
  | .runner_daemon => none

/-- The branch of the daemon's `run_runner` for `existing_container`. -/
def existing_container : RunnerProgram := do
  set_state .starting_vpn "Поиск existing UniVPN container"
  let result ← query .existing_container
  lift result

/-! ### One step -/

/-- What a program does when it is answered: it may report a state before it
    goes on, or it ends. -/
inductive Step where
  | asked (report : Option (TaskState × PyStr)) (next : RunnerProgram)
  | ended (outcome : Outcome)

/-- What a question reports. -/
def report : RunnerQuery → Option (TaskState × PyStr)
  | .set_state state message => some (state, message)
  | _ => none

def step (answer : (q : RunnerQuery) → q.Answer) : RunnerProgram → Step
  | .ask q next => .asked (report q) (next (answer q))
  | .done (.ok result) => .ended (.returned result)
  | .done (.error exc) => .ended (.raised exc)

end RunnerProgram

end BoVpnAgent

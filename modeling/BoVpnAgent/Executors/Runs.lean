import BoVpnAgent.Executors.Operations
import Mathlib.Order.Basic

/-! # One call of `ContainerNamespaceExecutor.run`

    Here the machine of `ContainerNamespaceExecutor` is driven by one
    environment: the result of every command in the order they are issued,
    the readings of the clock, which writes to the control file fail, and the
    files that are read.  A run leaves a trace of everything it does that can
    be seen from outside.
-/

namespace BoVpnAgent.ContainerNamespaceExecutor

/-! ### Traces -/

/-- The records that the executor logs. -/
inductive LogRecord where
  | poll (attempt : Nat) (interface_found route_found : Bool)
  | secret_keys_found (username password : Bool)
  | control_path_exists (found : Bool)
  | profile_selected (index : PyStr)
  | connect_selected
  | username_submitted
  | password_submitted
  | waiting
  deriving DecidableEq

/-- What can be seen of a run, in its order. -/
inductive Effect where
  | set_state (state : TaskState) (message : String)
  | command (invocation : Invocation) (result : CommandResult)
  | write (block : ControlBlock) (text : PyStr)
  /-- a write that raised -/
  | write_failed (block : ControlBlock)
  | monotonic (now : Int)
  | log (record : LogRecord)

/-- The command of an effect, with its result. -/
def Effect.command? : Effect → Option (Invocation × CommandResult)
  | command invocation result => some (invocation, result)
  | _ => none

/-- The write of an effect. -/
def Effect.write? : Effect → Option (ControlBlock × PyStr)
  | write block text => some (block, text)
  | _ => none

def Effect.isAttempt : Effect → Bool
  | write _ _ => true
  | write_failed _ => true
  | _ => false

def Effect.isReading : Effect → Bool
  | monotonic _ => true
  | _ => false

def Effect.isPoll : Effect → Bool
  | log (.poll _ _ _) => true
  | _ => false

/-- The commands of a trace with their results. -/
def commands (trace : List Effect) : List (Invocation × CommandResult) :=
  trace.filterMap Effect.command?

/-- The writes of a trace. -/
def writes (trace : List Effect) : List (ControlBlock × PyStr) := trace.filterMap Effect.write?

@[simp] theorem commands_append (t t' : List Effect) :
    commands (t ++ t') = commands t ++ commands t' := List.filterMap_append

@[simp] theorem writes_append (t t' : List Effect) : writes (t ++ t') = writes t ++ writes t' :=
  List.filterMap_append

/-- The commands of effects that are all commands. -/
theorem commands_map (calls : List (Invocation × CommandResult)) :
    commands (calls.map fun c => .command c.1 c.2) = calls := by
  unfold commands
  rw [List.filterMap_map]
  exact List.filterMap_some

/-! ### The environment of a run -/

/-- What one call of `run` reads from outside. -/
structure Environment where
  /-- The result of the command number `k`. -/
  command : Nat → Invocation → CommandResult
  /-- The readings of `time.monotonic()`, in nanoseconds. -/
  monotonic : Nat → Int
  /-- The attempts to write that raise `OSError`. -/
  write_fault : Nat → Bool
  /-- The lines of the secret file. -/
  secret_file : Except Builtin (List PyStr)
  /-- `path.is_file()` -/
  is_file : PyStr → Except Builtin Bool
  /-- `path.exists()` -/
  path_exists : PyStr → Except Builtin Bool

/-- What `_basic_status` finds at `ssh_key_path`. -/
def Environment.key_present (env : Environment) (config : RunnerDaemonConfig) : Except Builtin Bool :=
  env.is_file config.ssh_key_path

/-- What `_login` finds at `univpn_control_path`. -/
def Environment.control_path (env : Environment) (config : RunnerDaemonConfig) :
    Except Builtin Bool :=
  env.path_exists config.univpn_control_path

/-- How far a run has come. -/
structure Progress where
  at_ : Session ⊕ Outcome := .inl .begun
  /-- `deadline` of `_ensure_vpn_connected` -/
  deadline : Int := 0
  trace : List Effect := []

section advance

variable (I : Interp) (config : RunnerDaemonConfig) (task : Task) (vpn : VpnCredentials)
  (env : Environment)

/-- The first command of `_is_connected`. -/
def addr_check : Invocation :=
  { command := .interface_check true config.univpn_interface
    timeout_sec := config.nsenter_timeout_sec }

/-- Its second command. -/
def routes_check : Invocation :=
  { command := .route_check, timeout_sec := config.nsenter_timeout_sec }

/-- The result of the first command when it is issued next. -/
def addr_result (trace : List Effect) : CommandResult :=
  env.command (commands trace).length (addr_check config)

/-- The result of the second one right after it. -/
def routes_result (trace : List Effect) : CommandResult :=
  env.command ((commands trace).length + 1) (routes_check config)

/-- The next reading of the clock. -/
def now (trace : List Effect) : Int := env.monotonic (trace.countP Effect.isReading)

/-- The next write fails. -/
def fault (trace : List Effect) : Bool := env.write_fault (trace.countP Effect.isAttempt)

/-- The next call of `_is_connected`. -/
def probed (trace : List Effect) : Except PyExc Bool :=
  is_connected config (.ok (addr_result config env trace)) (.ok (routes_result config env trace))

/-- The operation, run to its end. -/
def operated (trace : List Effect) : Except PyExc RunnerResult × List (Invocation × CommandResult) :=
  (operation I config (env.key_present config) task).run env.command (commands trace).length

/-- How the `try` body ends when its last statement is the operation. -/
def outcomeOf : Except PyExc RunnerResult → Outcome
  | .ok result => .returned result
  | .error exc => .raised exc

/-- The step that a run takes next. -/
def action (p : Progress) : Session → SessionAction
  | .begun | .connected | .announced | .checking => .set_state
  | .preflight | .polling =>
    .probe (.ok (addr_result config env p.trace)) (.ok (routes_result config env p.trace))
      (p.deadline ≤ now env p.trace)
  | .login => .read_credentials env.secret_file (env.control_path config)
  | .writing _ _ _ => .write (fault env p.trace)
  | .operating => .operate (outcomeOf (operated I config task env p.trace).1)
  | .cleanup _ => .cleanup
  | .disconnecting _ => .disconnect (fault env p.trace)

/-- The commands of one `_is_connected`, and its record unless it raises. -/
def check_effects (trace : List Effect) : List Effect :=
  let addr := addr_result config env trace
  let routes := routes_result config env trace
  let attempt := trace.countP Effect.isPoll
  if addr.timed_out then [.command (addr_check config) addr]
  else if addr.returncode = 0 ∧ PyStr.includes addr.stdout config.univpn_interface then
    [.command (addr_check config) addr, .command (routes_check config) routes] ++
      if routes.timed_out ∨ routes.returncode ≠ 0 then []
      else [.log (.poll attempt true (PyStr.includes routes.stdout config.univpn_route_cidr))]
  else [.command (addr_check config) addr, .log (.poll attempt false false)]

/-- The records after each of the four lines, and the reading that starts the
    wait. -/
def login_records (trace : List Effect) : Nat → List Effect
  | 0 => [.log (.profile_selected config.univpn_profile_menu_index)]
  | 1 => [.log .connect_selected]
  | 2 => [.log .username_submitted]
  | _ => .log .password_submitted ::
    match sleep config.univpn_post_login_wait_sec with
    | .ok () =>
      .monotonic (now env trace) ::
        match add_seconds config.univpn_login_timeout_sec with
        | .ok () => [.log .waiting]
        | .error _ => []
    | .error _ => []

/-- What `_login` logs of the control path, unless looking it up raises. -/
def control_path_records : List Effect :=
  match env.control_path config with
  | .ok found => [.log (.control_path_exists found)]
  | .error _ => []

/-- What `_credentials` and `_login` log before the first line. -/
def credential_records : List Effect :=
  match credentials config vpn env.secret_file with
  | .error _ => []
  | .ok _ =>
    (if vpn.mode = "inline_once".py then [] else [.log (.secret_keys_found true true)]) ++
      control_path_records config env

/-- What can be seen of a write. -/
def write_effects (block : ControlBlock) (step : SessionStep) (records : List Effect) :
    List Effect :=
  match step.write with
  | some (_, text) => .write block text :: records
  | none => [.write_failed block]

/-- What can be seen of a step. -/
def effects (p : Progress) (s : Session) (step : SessionStep) : List Effect :=
  match s with
  | .begun | .connected | .announced | .checking | .cleanup _ =>
    (step.report.map fun r => Effect.set_state r.1 r.2).toList
  | .preflight => check_effects config env p.trace
  | .polling =>
    check_effects config env p.trace ++
      match probed config env p.trace with
      | .ok false => [.monotonic (now env p.trace)]
      | _ => []
  | .login => credential_records config vpn env
  | .writing _ _ written => write_effects .login step (login_records config env p.trace written)
  | .operating => (operated I config task env p.trace).2.map fun c => .command c.1 c.2
  | .disconnecting _ => write_effects .disconnect step []

/-- The deadline after a step: it is set behind the last line of `_login`. -/
def deadline (p : Progress) : Session → Int
  | .writing _ _ 3 =>
    match behindLine config 3 with
    | .ok () => now env p.trace + config.univpn_login_timeout_sec * 1000000000
    | .error _ => p.deadline
  | _ => p.deadline

/-- One step of a run; a run that has ended stays as it is. -/
def advance (p : Progress) : Progress :=
  match p.at_ with
  | .inr _ => p
  | .inl s =>
    match step config task vpn s (action I config task env p s) with
    | none => p
    | some st =>
      { at_ := st.next
        deadline := deadline config env p s
        trace := p.trace ++ effects I config task vpn env p s st }

/-- A run after `n` steps. -/
def drive (n : Nat) : Progress := (advance I config task vpn env)^[n] {}

theorem drive_succ (n : Nat) :
    drive I config task vpn env (n + 1) =
      advance I config task vpn env (drive I config task vpn env n) :=
  Function.iterate_succ_apply' _ _ _

theorem drive_add (m n : Nat) :
    drive I config task vpn env (n + m) =
      (advance I config task vpn env)^[n] (drive I config task vpn env m) :=
  Function.iterate_add_apply _ _ _ _

end advance

/-! ### What a check shows -/

section check

variable (config : RunnerDaemonConfig)

/-- The result of the first command shows the configured interface. -/
def shows_interface (addr : CommandResult) : Bool :=
  !addr.timed_out && addr.returncode == 0 && PyStr.includes addr.stdout config.univpn_interface

/-- The result of the second command shows the configured route. -/
def shows_route (routes : CommandResult) : Bool :=
  !routes.timed_out && routes.returncode == 0 &&
    PyStr.includes routes.stdout config.univpn_route_cidr

/-- How one call of `_is_connected` ends: the number of commands, and the
    value or the failure. -/
inductive Check (addr routes : CommandResult) : Nat → Except PyExc Bool → Prop where
  | up (hinterface : shows_interface config addr = true) (hroute : shows_route config routes = true) :
      Check addr routes 2 (.ok true)
  | no_interface (htime : addr.timed_out = false) (hinterface : shows_interface config addr = false) :
      Check addr routes 1 (.ok false)
  | no_route (hinterface : shows_interface config addr = true) (htime : routes.timed_out = false)
      (hcode : routes.returncode = 0) (hroute : shows_route config routes = false) :
      Check addr routes 2 (.ok false)
  | addr_timeout (htime : addr.timed_out = true) (message : PyStr) :
      Check addr routes 1 (.error (.runnerFailure "operation_timeout".py message))
  | routes_timeout (hinterface : shows_interface config addr = true)
      (htime : routes.timed_out = true) (message : PyStr) :
      Check addr routes 2 (.error (.runnerFailure "operation_timeout".py message))
  | routes_failed (hinterface : shows_interface config addr = true)
      (htime : routes.timed_out = false) (hcode : routes.returncode ≠ 0) (message : PyStr) :
      Check addr routes 2 (.error (.runnerFailure "vpn_client_error".py message))

theorem is_connected_check (addr routes : CommandResult) :
    ∃ n, Check config addr routes n (is_connected config (.ok addr) (.ok routes)) := by
  unfold is_connected
  simp only [bind, Except.bind]
  by_cases haddr : addr.timed_out = true
  · rw [if_pos haddr]
    exact ⟨1, .addr_timeout haddr _⟩
  rw [if_neg haddr]
  have haddr' : addr.timed_out = false := Bool.eq_false_iff.mpr haddr
  -- the routes are asked for only when the interface is shown
  by_cases hshown : addr.returncode = 0 ∧ PyStr.includes addr.stdout config.univpn_interface
  · have hinterface : shows_interface config addr = true := by
      unfold shows_interface
      simp [haddr', hshown.1, hshown.2]
    rw [if_pos hshown]
    by_cases hroutes : routes.timed_out = true
    · rw [if_pos hroutes]
      exact ⟨2, .routes_timeout hinterface hroutes _⟩
    rw [if_neg hroutes]
    have hroutes' : routes.timed_out = false := Bool.eq_false_iff.mpr hroutes
    by_cases hcode : routes.returncode ≠ 0
    · rw [if_pos hcode]
      exact ⟨2, .routes_failed hinterface hroutes' hcode _⟩
    rw [if_neg hcode]
    have hcode' : routes.returncode = 0 := not_not.mp hcode
    have hroute : shows_route config routes =
        PyStr.includes routes.stdout config.univpn_route_cidr := by
      unfold shows_route
      simp [hroutes', hcode']
    refine ⟨2, ?_⟩
    cases hfound : PyStr.includes routes.stdout config.univpn_route_cidr with
    | true => exact .up hinterface (hroute.trans hfound)
    | false => exact .no_route hinterface hroutes' hcode' (hroute.trans hfound)
  · have hinterface : shows_interface config addr = false := by
      unfold shows_interface
      rw [haddr']
      simpa using hshown
    rw [if_neg hshown]
    exact ⟨1, .no_interface haddr' hinterface⟩

variable {config}

theorem shows_interface_iff {addr : CommandResult} :
    shows_interface config addr = true ↔
      addr.timed_out = false ∧ addr.returncode = 0 ∧
        PyStr.includes addr.stdout config.univpn_interface = true := by
  unfold shows_interface
  simp [and_assoc]

theorem shows_route_iff {routes : CommandResult} :
    shows_route config routes = true ↔
      routes.timed_out = false ∧ routes.returncode = 0 ∧
        PyStr.includes routes.stdout config.univpn_route_cidr = true := by
  unfold shows_route
  simp [and_assoc]

/-- The second command is issued when the first one shows the interface. -/
theorem Check.count {addr routes : CommandResult} {n : Nat} {r : Except PyExc Bool}
    (h : Check config addr routes n r) : n = if shows_interface config addr then 2 else 1 := by
  cases h with
  | addr_timeout htime message =>
    have hinterface : ¬shows_interface config addr = true := by
      rw [shows_interface_iff, htime]
      exact fun h => Bool.noConfusion h.1
    rw [if_neg hinterface]
  | no_interface htime hinterface => rw [hinterface]; rfl
  | up hinterface hroute => rw [if_pos hinterface]
  | no_route hinterface htime hcode hroute => rw [if_pos hinterface]
  | routes_timeout hinterface htime message => rw [if_pos hinterface]
  | routes_failed hinterface htime hcode message => rw [if_pos hinterface]

/-- The commands of a check, and nothing is written by it. -/
theorem commands_check_effects (env : Environment) (trace : List Effect) :
    commands (check_effects config env trace) =
      (addr_check config, addr_result config env trace) ::
        if shows_interface config (addr_result config env trace) then
          [(routes_check config, routes_result config env trace)] else [] := by
  unfold check_effects
  generalize addr_result config env trace = addr
  generalize routes_result config env trace = routes
  by_cases htime : addr.timed_out = true
  · have hinterface : ¬shows_interface config addr = true := by
      rw [shows_interface_iff, htime]
      exact fun h => Bool.noConfusion h.1
    simp only [if_pos htime, if_neg hinterface]
    rfl
  simp only [if_neg htime]
  by_cases hshown : addr.returncode = 0 ∧ PyStr.includes addr.stdout config.univpn_interface = true
  · have hinterface : shows_interface config addr = true :=
      shows_interface_iff.mpr ⟨Bool.eq_false_iff.mpr htime, hshown⟩
    simp only [if_pos hshown, if_pos hinterface]
    split
    · rfl
    · rfl
  · have hinterface : ¬shows_interface config addr = true :=
      fun h => hshown (shows_interface_iff.mp h).2
    simp only [if_neg hshown, if_neg hinterface]
    rfl

theorem writes_check_effects (env : Environment) (trace : List Effect) :
    writes (check_effects config env trace) = [] := by
  unfold check_effects
  simp only
  split
  · rfl
  · split
    · split
      · rfl
      · rfl
    · rfl

end check

/-! ### Steps -/

section steps

variable {I : Interp} {config : RunnerDaemonConfig} {task : Task} {vpn : VpnCredentials}
  {env : Environment}

theorem advance_inl {p : Progress} {s : Session} {st : SessionStep} (h : p.at_ = .inl s)
    (hstep : step config task vpn s (action I config task env p s) = some st) :
    advance I config task vpn env p =
      { at_ := st.next
        deadline := deadline config env p s
        trace := p.trace ++ effects I config task vpn env p s st } := by
  unfold advance
  rw [h]
  simp only [hstep]

theorem advance_none {p : Progress} {s : Session} (h : p.at_ = .inl s)
    (hstep : step config task vpn s (action I config task env p s) = none) :
    advance I config task vpn env p = p := by
  unfold advance
  rw [h]
  simp only [hstep]

theorem advance_ended {p : Progress} {outcome : Outcome} (h : p.at_ = .inr outcome) :
    advance I config task vpn env p = p := by
  unfold advance
  rw [h]

/-- A run that has ended does nothing more. -/
theorem drive_ended {m n : Nat} {outcome : Outcome}
    (h : (drive I config task vpn env m).at_ = .inr outcome) (hmn : m ≤ n) :
    drive I config task vpn env n = drive I config task vpn env m := by
  induction n, hmn using Nat.le_induction with
  | base => rfl
  | succ n _ ih => rw [drive_succ, ih, advance_ended h]

/-! ### What each step does -/

variable (I config task vpn env)

/-- Where the first check leads. -/
def afterPreflight (config : RunnerDaemonConfig) : Except PyExc Bool → Session
  | .ok true => .connected
  | .ok false => if config.manage_vpn_session then .login else .cleanup (.raised (unmanaged config))
  | .error exc => .cleanup (.raised exc)

/-- Where a poll leads. -/
def afterPoll (config : RunnerDaemonConfig) (expired : Bool) : Except PyExc Bool → Session
  | .ok true => .connected
  | .ok false =>
    if expired then .cleanup (.raised (loginExpired config))
    else pausedThen (sleep config.univpn_connect_poll_interval_sec) .polling
  | .error exc => .cleanup (.raised exc)

/-- A poll that finds the session down fails behind the deadline; before it the
    session is polled again, if `time.sleep` accepts the interval. -/
theorem afterPoll_cases (config : RunnerDaemonConfig) (late : Prop) [Decidable late] :
    (late ∧ afterPoll config late (.ok false) = .cleanup (.raised (loginExpired config))) ∨
    (¬late ∧ sleep config.univpn_connect_poll_interval_sec = .ok () ∧
      afterPoll config late (.ok false) = .polling) ∨
    ∃ kind, ¬late ∧ sleep config.univpn_connect_poll_interval_sec = .error kind ∧
      afterPoll config late (.ok false) = .cleanup (.raised (.builtin kind [])) := by
  by_cases hlate : late
  · exact .inl ⟨hlate, if_pos (decide_eq_true hlate)⟩
  · have hagain : afterPoll config late (.ok false) =
        pausedThen (sleep config.univpn_connect_poll_interval_sec) .polling :=
      if_neg (by rw [decide_eq_false hlate]; exact Bool.false_ne_true)
    rcases pausedThen_cases (sleep config.univpn_connect_poll_interval_sec) .polling with
      ⟨hsleep, hthen⟩ | ⟨kind, hsleep, hthen⟩
    · exact .inr (.inl ⟨hlate, hsleep, hagain.trans hthen⟩)
    · exact .inr (.inr ⟨kind, hlate, hsleep, hagain.trans hthen⟩)

/-- The failure for an operation that the executor does not know. -/
def unknownOperation : PyExc :=
  .runnerFailure "operation_not_allowed".py
    "Операция пока не реализована для container_namespace".py

/-- Where the branch on the operation leads. -/
def afterAnnounced (task : Task) : Session :=
  if task.operation = "vehicle_reachability".py then .operating
  else if task.operation = "basic_status".py then .checking
  else .cleanup (.raised unknownOperation)

/-- Where the credentials lead. -/
def afterCredentials (username password : PyStr) : Except Builtin Bool → Session
  | .ok _ => .writing username password 0
  | .error kind => .cleanup (.raised (.builtin kind []))

theorem advance_preflight {p : Progress} (h : p.at_ = .inl .preflight) :
    (advance I config task vpn env p).at_ =
      .inl (afterPreflight config (probed config env p.trace)) ∧
    (advance I config task vpn env p).trace = p.trace ++ check_effects config env p.trace := by
  have hstep : step config task vpn .preflight (action I config task env p .preflight) =
      go (afterPreflight config (probed config env p.trace)) := by
    show (match probed config env p.trace with
      | .ok true => go .connected
      | .ok false => if config.manage_vpn_session then go .login else raised (unmanaged config)
      | .error exc => raised exc) = _
    cases probed config env p.trace with
    | error exc => rfl
    | ok up =>
      cases up with
      | true => rfl
      | false => exact (apply_ite go _ _ _).symm
  rw [advance_inl h hstep]
  exact ⟨rfl, rfl⟩

theorem advance_polling {p : Progress} (h : p.at_ = .inl .polling) :
    (advance I config task vpn env p).at_ =
      .inl (afterPoll config (p.deadline ≤ now env p.trace) (probed config env p.trace)) ∧
    (advance I config task vpn env p).deadline = p.deadline ∧
    (advance I config task vpn env p).trace = p.trace ++ (check_effects config env p.trace ++
      match probed config env p.trace with
      | .ok false => [.monotonic (now env p.trace)]
      | _ => []) := by
  have hstep : step config task vpn .polling (action I config task env p .polling) =
      go (afterPoll config (p.deadline ≤ now env p.trace) (probed config env p.trace)) := by
    show (match probed config env p.trace with
      | .ok true => go .connected
      | .ok false =>
        if decide (p.deadline ≤ now env p.trace) = true then raised (loginExpired config)
        else go (pausedThen (sleep config.univpn_connect_poll_interval_sec) .polling)
      | .error exc => raised exc) = _
    cases probed config env p.trace with
    | error exc => rfl
    | ok up =>
      cases up with
      | true => rfl
      | false => exact (apply_ite go _ _ _).symm
  rw [advance_inl h hstep]
  exact ⟨rfl, rfl, rfl⟩

theorem advance_login {p : Progress} (h : p.at_ = .inl .login) :
    (advance I config task vpn env p).trace = p.trace ++ credential_records config vpn env ∧
    (∀ username password, credentials config vpn env.secret_file = .ok (username, password) →
      (advance I config task vpn env p).at_ =
        .inl (afterCredentials username password (env.control_path config))) ∧
    (∀ exc, credentials config vpn env.secret_file = .error exc →
      (advance I config task vpn env p).at_ = .inl (.cleanup (.raised exc))) := by
  cases hcredentials : credentials config vpn env.secret_file with
  | ok pair =>
    have hstep : step config task vpn .login (action I config task env p .login) =
        go (afterCredentials pair.1 pair.2 (env.control_path config)) := by
      simp only [step, action, hcredentials]
      cases env.control_path config <;> rfl
    rw [advance_inl h hstep]
    refine ⟨rfl, ?_, ?_⟩
    · intro username password hpair
      cases hpair
      rfl
    · intro exc herror
      cases herror
  | error exc =>
    have hstep : step config task vpn .login (action I config task env p .login) = raised exc := by
      simp only [step, action, hcredentials]
    rw [advance_inl h hstep]
    refine ⟨rfl, ?_, ?_⟩
    · intro username password hpair
      cases hpair
    · intro exc' herror
      cases herror
      rfl

/-- The failure of `_login` for an `OSError`. -/
def fifoFailure : PyExc :=
  .runnerFailure "vpn_client_error".py "UniVPN control FIFO недоступен для managed login".py

/-- A line is written, or the write raises: for an `OSError`, or for a lone
    surrogate in the line. -/
theorem advance_writing {p : Progress} {username password line : PyStr} {written : Nat}
    (h : p.at_ = .inl (.writing username password written))
    (hline : (loginLines config username password)[written]? = some line) :
    (fault env p.trace = false ∧ line.Scalar ∧
      (advance I config task vpn env p).at_ = .inl (pausedThen (behindLine config written)
        (if written + 1 < 4 then .writing username password (written + 1) else .polling)) ∧
      (advance I config task vpn env p).trace =
        p.trace ++ .write .login line :: login_records config env p.trace written) ∨
    ∃ exc, (fault env p.trace = true ∧ exc = fifoFailure ∨
        ¬line.Scalar ∧ exc = .builtin .unicodeEncodeError []) ∧
      (advance I config task vpn env p).at_ = .inl (.cleanup (.raised exc)) ∧
      (advance I config task vpn env p).trace = p.trace ++ [.write_failed .login] := by
  have hwrite : step config task vpn (.writing username password written)
      (action I config task env p (.writing username password written)) =
      login_write config username password written (fault env p.trace) := rfl
  unfold login_write at hwrite
  -- the control file cannot be written, the line is written, or it cannot be encoded
  rcases append_cases line (fault env p.trace) with
    ⟨hfault, happend⟩ | ⟨hfault, hscalar, happend⟩ | ⟨hfault, hscalar, happend⟩
  · simp only [hline, happend] at hwrite
    right
    rw [advance_inl h hwrite]
    exact ⟨fifoFailure, .inl ⟨hfault, rfl⟩, rfl, rfl⟩
  · simp only [hline, happend] at hwrite
    left
    rw [advance_inl h hwrite]
    exact ⟨hfault, hscalar, rfl, rfl⟩
  · simp only [hline, happend] at hwrite
    right
    rw [advance_inl h hwrite]
    exact ⟨_, .inr ⟨hscalar, rfl⟩, rfl, rfl⟩

/-- A step that only reports a state. -/
theorem advance_report {p : Progress} {s next : Session} {state : TaskState} {message : String}
    (h : p.at_ = .inl s)
    (hstep : step config task vpn s (action I config task env p s) = report state message next)
    (heffects : ∀ st, effects I config task vpn env p s st =
      (st.report.map fun r => Effect.set_state r.1 r.2).toList) :
    (advance I config task vpn env p).at_ = .inl next ∧
      (advance I config task vpn env p).trace = p.trace ++ [.set_state state message] := by
  rw [advance_inl h hstep]
  refine ⟨rfl, ?_⟩
  rw [heffects]
  rfl

/-- A report is neither a command nor a write. -/
theorem commands_report (trace : List Effect) (state : TaskState) (message : String) :
    commands (trace ++ [.set_state state message]) = commands trace := by
  rw [commands_append]
  exact List.append_nil _

theorem writes_report (trace : List Effect) (state : TaskState) (message : String) :
    writes (trace ++ [.set_state state message]) = writes trace := by
  rw [writes_append]
  exact List.append_nil _

/-- The branch on the operation. -/
theorem advance_announced {p : Progress} (h : p.at_ = .inl .announced) :
    (advance I config task vpn env p).at_ = .inl (afterAnnounced task) ∧
      commands (advance I config task vpn env p).trace = commands p.trace ∧
      writes (advance I config task vpn env p).trace = writes p.trace := by
  by_cases hreach : task.operation = "vehicle_reachability".py
  · have hstep : step config task vpn .announced (action I config task env p .announced) =
        report .checking_vehicle "Проверка TCP-доступности ТС" .operating := if_pos hreach
    obtain ⟨hat, htrace⟩ := advance_report I config task vpn env h hstep fun _ => rfl
    have hnext : afterAnnounced task = .operating := if_pos hreach
    rw [hat, htrace, hnext]
    exact ⟨rfl, commands_report _ _ _, writes_report _ _ _⟩
  by_cases hstatus : task.operation = "basic_status".py
  · have hstep : step config task vpn .announced (action I config task env p .announced) =
        report .checking_vehicle "Проверка VPN-доступности перед SSH" .checking :=
      (if_neg hreach).trans (if_pos hstatus)
    obtain ⟨hat, htrace⟩ := advance_report I config task vpn env h hstep fun _ => rfl
    have hnext : afterAnnounced task = .checking := (if_neg hreach).trans (if_pos hstatus)
    rw [hat, htrace, hnext]
    exact ⟨rfl, commands_report _ _ _, writes_report _ _ _⟩
  · have hstep : step config task vpn .announced (action I config task env p .announced) =
        raised unknownOperation := (if_neg hreach).trans (if_neg hstatus)
    have hnext : afterAnnounced task = .cleanup (.raised unknownOperation) :=
      (if_neg hreach).trans (if_neg hstatus)
    have htrace : (advance I config task vpn env p).trace = p.trace ++ [] := by
      rw [advance_inl h hstep]
      rfl
    rw [htrace, List.append_nil, hnext]
    refine ⟨?_, rfl, rfl⟩
    rw [advance_inl h hstep]

theorem advance_operating {p : Progress} (h : p.at_ = .inl .operating) :
    (advance I config task vpn env p).at_ =
      .inl (.cleanup (outcomeOf (operated I config task env p.trace).1)) ∧
    (advance I config task vpn env p).trace = p.trace ++
      (operated I config task env p.trace).2.map fun c => .command c.1 c.2 := by
  have hstep : step config task vpn .operating (action I config task env p .operating) =
      go (.cleanup (outcomeOf (operated I config task env p.trace).1)) := rfl
  rw [advance_inl h hstep]
  exact ⟨rfl, rfl⟩

/-- The `finally` clause with a disconnect sequence to write. -/
theorem advance_stopping {p : Progress} {outcome : Outcome}
    (h : p.at_ = .inl (.cleanup outcome)) (hstop : config.stop_vpn_after_task = true)
    (hsequence : config.univpn_disconnect_sequence.getD [] ≠ []) :
    (advance I config task vpn env p).at_ = .inl (.disconnecting outcome) ∧
      commands (advance I config task vpn env p).trace = commands p.trace ∧
      writes (advance I config task vpn env p).trace = writes p.trace := by
  have hstop' : ¬config.stop_vpn_after_task = false := by
    rw [hstop]
    exact Bool.noConfusion
  have hstep : step config task vpn (.cleanup outcome)
      (action I config task env p (.cleanup outcome)) =
      report .cleanup "Cleanup UniVPN session" (.disconnecting outcome) :=
    (if_neg hstop').trans (if_neg hsequence)
  obtain ⟨hat, htrace⟩ := advance_report I config task vpn env h hstep fun _ => rfl
  rw [htrace]
  exact ⟨hat, commands_report _ _ _, writes_report _ _ _⟩

/-- The `finally` clause up to the write of the disconnect sequence. -/
theorem advance_cleanup {p : Progress} {outcome : Outcome}
    (h : p.at_ = .inl (.cleanup outcome)) :
    (∃ warning, (advance I config task vpn env p).at_ = .inr (warn warning outcome) ∧
      commands (advance I config task vpn env p).trace = commands p.trace ∧
      writes (advance I config task vpn env p).trace = writes p.trace) ∨
    config.stop_vpn_after_task = true ∧ config.univpn_disconnect_sequence.getD [] ≠ [] ∧
      (advance I config task vpn env p).at_ = .inl (.disconnecting outcome) ∧
      commands (advance I config task vpn env p).trace = commands p.trace ∧
      writes (advance I config task vpn env p).trace = writes p.trace := by
  by_cases hstop : config.stop_vpn_after_task = false
  · have hstep : step config task vpn (.cleanup outcome)
        (action I config task env p (.cleanup outcome)) =
        some { next := .inr (warn none outcome) } := if_pos hstop
    left
    rw [advance_inl h hstep]
    refine ⟨none, rfl, ?_, ?_⟩
    · rw [commands_append]
      exact List.append_nil _
    · rw [writes_append]
      exact List.append_nil _
  by_cases hsequence : config.univpn_disconnect_sequence.getD [] = []
  · have hstep : step config task vpn (.cleanup outcome)
        (action I config task env p (.cleanup outcome)) =
        some { next := .inr (warn (some "UniVPN cleanup requested, but disconnect sequence is not configured") outcome)
               report := some (.cleanup, "Cleanup UniVPN session") } :=
      (if_neg hstop).trans (if_pos hsequence)
    left
    rw [advance_inl h hstep]
    refine ⟨_, rfl, ?_, ?_⟩
    · rw [commands_append]
      exact List.append_nil _
    · rw [writes_append]
      exact List.append_nil _
  · right
    have hstop' : config.stop_vpn_after_task = true := Bool.not_eq_false _ ▸ hstop
    exact ⟨hstop', hsequence, advance_stopping I config task vpn env h hstop' hsequence⟩

/-- The write of the disconnect sequence. -/
theorem advance_disconnecting {p : Progress} {outcome : Outcome}
    (h : p.at_ = .inl (.disconnecting outcome)) :
    let text := controlSequence (config.univpn_disconnect_sequence.getD [])
    commands (advance I config task vpn env p).trace = commands p.trace ∧
    ((∃ warning, (advance I config task vpn env p).at_ = .inr (warn warning outcome)) ∨
      fault env p.trace = false ∧ ¬text.Scalar ∧
        (advance I config task vpn env p).at_ = .inr (.raised (.builtin .unicodeEncodeError []))) ∧
    (writes (advance I config task vpn env p).trace = writes p.trace ∨
      writes (advance I config task vpn env p).trace = writes p.trace ++ [(.disconnect, text)]) := by
  intro text
  -- an `OSError` becomes a warning, an encoding error leaves the executor
  rcases append_cases (controlSequence (config.univpn_disconnect_sequence.getD []))
    (fault env p.trace) with ⟨hfault, happend⟩ | ⟨hfault, hscalar, happend⟩ | ⟨hfault, hscalar, happend⟩
  · have hstep : step config task vpn (.disconnecting outcome)
        (action I config task env p (.disconnecting outcome)) =
        some { next := .inr (warn (some "UniVPN cleanup failed") outcome) } := by
      simp only [step, action, happend]
    rw [advance_inl h hstep]
    refine ⟨?_, .inl ⟨_, rfl⟩, .inl ?_⟩
    · rw [commands_append]
      exact List.append_nil _
    · rw [writes_append]
      exact List.append_nil _
  · have hstep : step config task vpn (.disconnecting outcome)
        (action I config task env p (.disconnecting outcome)) =
        some { next := .inr (warn none outcome), write := some (.disconnect, text) } := by
      simp only [step, action, happend, text]
    rw [advance_inl h hstep]
    refine ⟨?_, .inl ⟨_, rfl⟩, .inr ?_⟩
    · rw [commands_append]
      exact List.append_nil _
    · rw [writes_append]
      rfl
  · have hstep : step config task vpn (.disconnecting outcome)
        (action I config task env p (.disconnecting outcome)) =
        some { next := .inr (.raised (.builtin .unicodeEncodeError [])) } := by
      simp only [step, action, happend]
    rw [advance_inl h hstep]
    refine ⟨?_, .inr ⟨hfault, hscalar, rfl⟩, .inl ?_⟩
    · rw [commands_append]
      exact List.append_nil _
    · rw [writes_append]
      exact List.append_nil _

/-- The `try` body is over. -/
def Closing : Session ⊕ Outcome → Prop
  | .inl (.cleanup _) => True
  | .inl (.disconnecting _) => True
  | .inl _ => False
  | .inr _ => True

theorem closing_advance {p : Progress} (h : Closing p.at_) :
    Closing (advance I config task vpn env p).at_ := by
  rcases hat : p.at_ with s | outcome
  · rw [hat] at h
    cases s with
    | cleanup outcome =>
      rcases advance_cleanup I config task vpn env hat with ⟨_, hnext, _⟩ | ⟨_, _, hnext, _⟩
      · rw [hnext]
        trivial
      · rw [hnext]
        trivial
    | disconnecting outcome =>
      rcases (advance_disconnecting I config task vpn env hat).2.1 with ⟨_, hnext⟩ | ⟨_, _, hnext⟩
      · rw [hnext]
        trivial
      · rw [hnext]
        trivial
    | _ => exact h.elim
  · rw [advance_ended hat, hat]
    trivial

theorem closing_iterate {p : Progress} (h : Closing p.at_) (n : Nat) :
    Closing ((advance I config task vpn env)^[n] p).at_ := by
  induction n with
  | zero => exact h
  | succ n ih =>
    rw [Function.iterate_succ_apply']
    exact closing_advance I config task vpn env ih

variable {I config task vpn env}

@[simp] theorem commands_login_records (trace : List Effect) (written : Nat) :
    commands (login_records config env trace written) = [] := by
  unfold login_records
  split
  · rfl
  · rfl
  · rfl
  · cases sleep config.univpn_post_login_wait_sec with
    | ok => cases add_seconds config.univpn_login_timeout_sec <;> rfl
    | error kind => rfl

@[simp] theorem writes_login_records (trace : List Effect) (written : Nat) :
    writes (login_records config env trace written) = [] := by
  unfold login_records
  split
  · rfl
  · rfl
  · rfl
  · cases sleep config.univpn_post_login_wait_sec with
    | ok => cases add_seconds config.univpn_login_timeout_sec <;> rfl
    | error kind => rfl

theorem commands_credential_records : commands (credential_records config vpn env) = [] := by
  unfold credential_records control_path_records
  split
  · rfl
  · cases env.control_path config <;> split <;> rfl

theorem writes_credential_records : writes (credential_records config vpn env) = [] := by
  unfold credential_records control_path_records
  split
  · rfl
  · cases env.control_path config <;> split <;> rfl

end steps

/-! ### A sample run -/

def sampleCredentials : VpnCredentials :=
  { mode := "inline_once".py, username := "u".py, password := "p".py }

/-- Interface and route are there, and the vehicle answers on port 22. -/
def sampleAnswers : Nat → CommandResult
  | 0 => { returncode := 0, stdout := "cnem_vnic UP".py }
  | 1 => { returncode := 0, stdout := "172.26.0.0/15 dev cnem_vnic".py }
  | _ => { returncode := 0, stdout := "\x7b\"22\": \"open\"\x7d".py }

/-- An environment whose clock shows a minute more at each reading. -/
def sampleEnvironment : Environment where
  command := fun k _ => sampleAnswers k
  monotonic := fun k => k * (60 * 1000000000)
  write_fault := fun _ => false
  secret_file := .error .osError
  is_file := fun _ => .ok true
  path_exists := fun _ => .ok true

end BoVpnAgent.ContainerNamespaceExecutor

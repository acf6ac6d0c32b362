import BoVpnAgent.Executors.Runs

/-! # The two executors agree

    `ExistingContainerExecutor` and `ContainerNamespaceExecutor` are two
    implementations of one diagnostic.  They wrap their commands differently
    and word their failures differently; here both get the same results of
    their commands, by number.

    The proof is in three parts: the preflight of the one against the check of
    the other, the operations in lock step, and the run of the second
    executor put together from its steps.
-/

namespace BoVpnAgent

/-- Both raise a `RunnerFailure` with one code, or exceptions of one kind. -/
def PyExc.SameKind : PyExc → PyExc → Prop
  | .runnerFailure error_code _, .runnerFailure error_code' _ => error_code = error_code'
  | .builtin kind _, .builtin kind' _ => kind = kind'
  | _, _ => False

/-- Both return equal data, or both raise with the same code or kind. -/
def SameOutcome : Except PyExc RunnerResult → Except PyExc RunnerResult → Prop
  | .ok result, .ok result' => result.data = result'.data
  | .error exc, .error exc' => exc.SameKind exc'
  | _, _ => False

/-- The outcome of a run, as one that is returned or raised. -/
def Outcome.result : Outcome → Except PyExc RunnerResult
  | .returned result => .ok result
  | .raised exc => .error exc

section operations

variable {I : Interp} {config : RunnerDaemonConfig}

/-- Two failures with one code. -/
theorem same_failure (error_code : String) (message message' : PyStr) :
    SameOutcome (ContainerNamespaceExecutor.raiseFailure error_code message)
      (ContainerNamespaceExecutor.raiseFailure error_code message') := rfl

theorem same_error {exc : PyExc} (h : exc.SameKind exc) :
    SameOutcome (.error exc) (.error exc) := h

/-- Reading a port fails with an exception of the interpreter only. -/
theorem probe_port_error {probe : Json} {port : Nat} {exc : PyExc}
    (h : probe_port I probe port = .error exc) : exc.SameKind exc := by
  unfold probe_port at h
  split at h
  · unfold liftBuiltin at h
    split at h
    · cases h
    · cases h
      rfl
  · cases h
    rfl

/-- The executors read the result of the probe alike. -/
theorem read_probe_same (timeout failed summary timeout' failed' summary' : String)
    (result : CommandResult) :
    SameOutcome (read_probe I timeout failed summary result)
      (read_probe I timeout' failed' summary' result) := by
  unfold read_probe
  by_cases htimeout : result.timed_out
  · rw [if_pos htimeout, if_pos htimeout]
    exact same_failure _ _ _
  rw [if_neg htimeout, if_neg htimeout]
  by_cases hfailed : result.returncode ≠ 0
  · rw [if_pos hfailed, if_pos hfailed]
    exact same_failure _ _ _
  rw [if_neg hfailed, if_neg hfailed]
  cases hloads : Json.loads I result.stdout with
  | error kind =>
    cases kind with
    | jsonDecodeError => exact same_failure _ _ _
    | _ => exact rfl
  | ok probe =>
    simp only
    cases h22 : probe_port I probe 22 with
    | error exc => exact same_error (probe_port_error h22)
    | ok tcp_22 =>
      cases h443 : probe_port I probe 443 with
      | error exc => exact same_error (probe_port_error h443)
      | ok tcp_443 =>
        cases h80 : probe_port I probe 80 with
        | error exc => exact same_error (probe_port_error h80)
        | ok tcp_80 =>
          by_cases hclosed : tcp_22 ≠ "open".py ∧ tcp_443 ≠ "open".py
          · simp only [bind, Except.bind, if_pos hclosed]
            exact same_failure _ _ _
          · simp only [bind, Except.bind, if_neg hclosed]
            exact rfl

/-- They read the status of the vehicle alike. -/
theorem read_status_same (timeout failed timeout' failed' : String) (result : CommandResult) :
    SameOutcome (read_status timeout failed result) (read_status timeout' failed' result) := by
  unfold read_status
  by_cases htimeout : result.timed_out
  · rw [if_pos htimeout, if_pos htimeout]
    exact same_failure _ _ _
  rw [if_neg htimeout, if_neg htimeout]
  by_cases hfailed : result.returncode ≠ 0
  · rw [if_pos hfailed, if_pos hfailed]
    exact same_failure _ _ _
  rw [if_neg hfailed, if_neg hfailed]
  exact rfl

/-- The operations, in lock step. -/
theorem vehicle_reachability_lockStep (pid : PyStr) (task : Task) :
    Script.LockStep SameOutcome
      (ExistingContainerExecutor.vehicle_reachability I config pid task)
      (ContainerNamespaceExecutor.vehicle_reachability I config task) := by
  unfold ExistingContainerExecutor.vehicle_reachability
    ContainerNamespaceExecutor.vehicle_reachability ExistingContainerExecutor.nsenter run_command
  cases hscript : tcp_probe_script I task.vehicle.ip TCP_PORTS
      (min config.nsenter_timeout_sec task.timeout_sec) with
  | error exc =>
    have hkind : exc.SameKind exc := by
      unfold tcp_probe_script at hscript
      split at hscript
      · cases hscript
      · cases hscript
        rfl
    exact .done (same_error hkind)
  | ok script => exact .call fun result => .done (read_probe_same _ _ _ _ _ _ result)

theorem basic_status_lockStep (key_present : Except Builtin Bool) (pid : PyStr) (task : Task) :
    Script.LockStep SameOutcome
      (ExistingContainerExecutor.basic_status I config key_present pid task)
      (ContainerNamespaceExecutor.basic_status I config key_present task) := by
  unfold ExistingContainerExecutor.basic_status ContainerNamespaceExecutor.basic_status
    ExistingContainerExecutor.nsenter run_command ssh_command
  cases key_present with
  | error kind => exact .done rfl
  | ok found =>
    cases found with
    | false => exact .raise rfl
    | true =>
      split
      · exact .call fun result => .done (read_status_same _ _ _ _ result)
      · exact .done rfl

end operations

/-! ### The preflight -/

section preflight

open ContainerNamespaceExecutor (Check shows_interface shows_route shows_interface_iff shows_route_iff)

variable {config : RunnerDaemonConfig}

/-- How a preflight ends whose check would have ended with `r`. -/
def Preflighted : Except PyExc Bool → Except PyExc Unit → Prop
  | .ok true, outcome => outcome = .ok ()
  | .ok false, outcome => ∃ message, outcome = .error (.runnerFailure "vpn_client_error".py message)
  | .error exc, outcome => ∃ exc', outcome = .error exc' ∧ exc'.SameKind exc

/-- A refused command has failed. -/
theorem returncode_of_denied {result : CommandResult} (h : is_permission_denied result = true) :
    result.returncode ≠ 0 := by
  unfold is_permission_denied at h
  rw [Bool.and_eq_true] at h
  exact of_decide_eq_true h.1

/-- The condition for a missing interface. -/
theorem interface_missing_iff (hinterface : config.univpn_interface = "cnem_vnic".py)
    {addr : CommandResult} (htime : addr.timed_out = false) :
    (addr.returncode ≠ 0 ∨ ¬PyStr.includes addr.stdout "cnem_vnic".py = true) ↔
      shows_interface config addr = false := by
  unfold shows_interface
  rw [htime, hinterface]
  by_cases hcode : addr.returncode = 0
  · simp [hcode]
  · simp [hcode]

/-- The preflight after the result of its first command. -/
theorem preflight_addr (hinterface : config.univpn_interface = "cnem_vnic".py) (pid : PyStr)
    (answer : Nat → Invocation → CommandResult) (asked : Nat) (addr : CommandResult)
    (haddr : ∀ c, answer asked c = addr) :
    let ran := (ExistingContainerExecutor.preflight config pid).run answer asked
    if addr.timed_out then
      ran.2.length = 1 ∧ ∃ message, ran.1 = .error (.runnerFailure "operation_timeout".py message)
    else if shows_interface config addr then
      ran.1 = ((ExistingContainerExecutor.preflight_routes config pid).run answer (asked + 1)).1 ∧
        ran.2.length = ((ExistingContainerExecutor.preflight_routes config pid).run answer (asked + 1)).2.length + 1
    else
      ran.2.length = 1 ∧ ∃ message, ran.1 = .error (.runnerFailure "vpn_client_error".py message) := by
  unfold ExistingContainerExecutor.preflight ExistingContainerExecutor.nsenter run_command failScript
  simp only [Script.ask_bind, Script.run_call, haddr]
  by_cases htime : addr.timed_out = true
  · simp only [if_pos htime]
    exact ⟨rfl, _, rfl⟩
  simp only [if_neg htime]
  have hmissing := interface_missing_iff hinterface (Bool.eq_false_iff.mpr htime)
  by_cases hshown : shows_interface config addr = true
  · have hdenied : ¬is_permission_denied addr = true := fun h =>
      returncode_of_denied h (shows_interface_iff.mp hshown).2.1
    have hthere : ¬(addr.returncode ≠ 0 ∨ ¬PyStr.includes addr.stdout "cnem_vnic".py = true) := by
      rw [hmissing, hshown]
      exact Bool.noConfusion
    simp only [if_pos hshown, if_neg hdenied, if_neg hthere, List.length_cons]
    exact ⟨trivial, trivial⟩
  · have hthere := hmissing.mpr (Bool.eq_false_iff.mpr hshown)
    simp only [if_neg hshown, if_pos hthere]
    split
    · exact ⟨rfl, _, rfl⟩
    · exact ⟨rfl, _, rfl⟩

/-- The preflight after the result of its second command. -/
theorem preflight_routes_run (hroute : config.univpn_route_cidr = REQUIRED_VPN_ROUTE) (pid : PyStr)
    (answer : Nat → Invocation → CommandResult) (asked : Nat) (routes : CommandResult)
    (hroutes : ∀ c, answer asked c = routes) :
    let ran := (ExistingContainerExecutor.preflight_routes config pid).run answer asked
    ran.2.length = 1 ∧
      if routes.timed_out then
        ∃ message, ran.1 = .error (.runnerFailure "operation_timeout".py message)
      else if shows_route config routes then ran.1 = .ok ()
      else ∃ message, ran.1 = .error (.runnerFailure "vpn_client_error".py message) := by
  unfold ExistingContainerExecutor.preflight_routes ExistingContainerExecutor.nsenter run_command
    failScript
  simp only [Script.ask_bind, Script.run_call, hroutes]
  by_cases htime : routes.timed_out = true
  · simp only [if_pos htime]
    exact ⟨rfl, _, rfl⟩
  simp only [if_neg htime]
  by_cases hshown : shows_route config routes = true
  · obtain ⟨-, hcode, hfound⟩ := shows_route_iff.mp hshown
    have hdenied : ¬is_permission_denied routes = true := fun h => returncode_of_denied h hcode
    rw [hroute] at hfound
    simp only [if_pos hshown, if_neg hdenied, if_neg (not_not.mpr hcode), if_neg (not_not.mpr hfound)]
    exact ⟨rfl, rfl⟩
  · simp only [if_neg hshown]
    by_cases hdenied : is_permission_denied routes = true
    · simp only [if_pos hdenied]
      exact ⟨rfl, _, rfl⟩
    by_cases hcode : routes.returncode ≠ 0
    · simp only [if_neg hdenied, if_pos hcode]
      exact ⟨rfl, _, rfl⟩
    have hlost : ¬PyStr.includes routes.stdout REQUIRED_VPN_ROUTE = true := by
      intro hfound
      rw [← hroute] at hfound
      exact hshown (shows_route_iff.mpr
        ⟨Bool.eq_false_iff.mpr htime, not_not.mp hcode, hfound⟩)
    simp only [if_neg hdenied, if_neg hcode, if_pos hlost]
    exact ⟨rfl, _, rfl⟩

/-- The preflight consumes as many results as the check and ends alike. -/
theorem preflight_run (hinterface : config.univpn_interface = "cnem_vnic".py)
    (hroute : config.univpn_route_cidr = REQUIRED_VPN_ROUTE) (answers : Nat → CommandResult)
    (asked : Nat) (pid : PyStr) {n : Nat} {r : Except PyExc Bool}
    (h : Check config (answers asked) (answers (asked + 1)) n r) :
    let ran := (ExistingContainerExecutor.preflight config pid).run (fun k _ => answers k) asked
    ran.2.length = n ∧ Preflighted r ran.1 := by
  have haddr := preflight_addr hinterface pid (fun k _ => answers k) asked (answers asked)
    (fun _ => rfl)
  have hroutes := preflight_routes_run hroute pid (fun k _ => answers k) (asked + 1)
    (answers (asked + 1)) (fun _ => rfl)
  intro ran
  -- the two executors ask the same two commands and read them the same way
  cases h with
  | up hinterface hroute =>
    simp only [(shows_interface_iff.mp hinterface).1, hinterface, (shows_route_iff.mp hroute).1,
      hroute, if_true, Bool.false_eq_true, if_false] at haddr hroutes
    exact ⟨by rw [haddr.2, hroutes.1], haddr.1.trans hroutes.2⟩
  | no_interface htime hinterface =>
    simp only [htime, hinterface, Bool.false_eq_true, if_false] at haddr
    exact haddr
  | no_route hinterface htime hcode hroute =>
    simp only [(shows_interface_iff.mp hinterface).1, hinterface, htime, hroute, if_true,
      Bool.false_eq_true, if_false] at haddr hroutes
    obtain ⟨message, hmessage⟩ := hroutes.2
    exact ⟨by rw [haddr.2, hroutes.1], message, haddr.1.trans hmessage⟩
  | addr_timeout htime message =>
    simp only [htime, if_true] at haddr
    obtain ⟨hlength, message', hmessage⟩ := haddr
    exact ⟨hlength, _, hmessage, rfl⟩
  | routes_timeout hinterface htime message =>
    simp only [(shows_interface_iff.mp hinterface).1, hinterface, htime, if_true,
      Bool.false_eq_true, if_false] at haddr hroutes
    obtain ⟨hlength, message', hmessage⟩ := hroutes
    exact ⟨by rw [haddr.2, hlength], _, haddr.1.trans hmessage, rfl⟩
  | routes_failed hinterface htime hcode message =>
    have hlost : shows_route config (answers (asked + 1)) = false := by
      rw [Bool.eq_false_iff]
      intro h
      exact hcode (shows_route_iff.mp h).2.1
    simp only [(shows_interface_iff.mp hinterface).1, hinterface, htime, hlost, if_true,
      Bool.false_eq_true, if_false] at haddr hroutes
    obtain ⟨hlength, message', hmessage⟩ := hroutes
    exact ⟨by rw [haddr.2, hlength], _, haddr.1.trans hmessage, rfl⟩

end preflight

/-! ### The run of the namespace executor -/

section run

open ContainerNamespaceExecutor

variable {I : Interp} {config : RunnerDaemonConfig} {task : Task} {vpn : VpnCredentials}
  {env : Environment}

variable (I config task vpn env)

/-- Without a cleanup, the outcome of the `try` body is the outcome of the
    run, up to its warnings. -/
theorem leaves_cleanup (hstop : config.stop_vpn_after_task = false) {p : Progress}
    {outcome : Outcome} (h : p.at_ = .inl (.cleanup outcome)) :
    (advance I config task vpn env p).at_ = .inr (warn none outcome) ∧
    (advance I config task vpn env p).trace = p.trace := by
  have hstep : step config task vpn (.cleanup outcome)
      (action I config task env p (.cleanup outcome)) = some { next := .inr (warn none outcome) } := by
    show (if config.stop_vpn_after_task = false then _ else _) = _
    rw [if_pos hstop]
  rw [advance_inl h hstep]
  exact ⟨rfl, List.append_nil _⟩

/-- The run from its operation on. -/
theorem runs_operation (hstop : config.stop_vpn_after_task = false) {p : Progress}
    (h : p.at_ = .inl .operating) :
    let ran := operated I config task env p.trace
    let p' := advance I config task vpn env (advance I config task vpn env p)
    p'.at_ = .inr (warn none (outcomeOf ran.1)) ∧
      (commands p'.trace).length = (commands p.trace).length + ran.2.length := by
  intro ran p'
  obtain ⟨hnext, htrace⟩ := advance_operating I config task vpn env h
  obtain ⟨hended, hquiet⟩ := leaves_cleanup I config task vpn env hstop hnext
  refine ⟨hended, ?_⟩
  rw [hquiet, htrace, commands_append, commands_map, List.length_append]

/-- What `run` does with the connection, as one program. -/
def connected_script (I : Interp) (config : RunnerDaemonConfig) (key_present : Except Builtin Bool)
    (task : Task) : CommandScript RunnerResult :=
  if task.operation = "vehicle_reachability".py ∨ task.operation = "basic_status".py then
    operation I config key_present task
  else
    failScript "operation_not_allowed"
      "Операция пока не реализована для container_namespace".py

/-- How a run ends that has the connection, after at most five steps. -/
theorem runs_connected (hstop : config.stop_vpn_after_task = false) {p : Progress}
    (h : p.at_ = .inl .connected) :
    let ran := (connected_script I config (env.key_present config) task).run env.command
      (commands p.trace).length
    ∃ k ≤ 5, ((advance I config task vpn env)^[k] p).at_ = .inr (warn none (outcomeOf ran.1)) ∧
      (commands ((advance I config task vpn env)^[k] p).trace).length =
        (commands p.trace).length + ran.2.length := by
  intro ran
  have hconnected := advance_report I config task vpn env h rfl fun _ => rfl
  generalize hp₁ : advance I config task vpn env p = p₁ at hconnected
  have hannounced := advance_announced I config task vpn env hconnected.1
  have hcalls : commands (advance I config task vpn env p₁).trace = commands p.trace := by
    rw [hannounced.2.1, hconnected.2, commands_report]
  generalize hp₂ : advance I config task vpn env p₁ = p₂ at hannounced hcalls
  -- `vehicle_reachability` skips the check that `basic_status` begins with
  by_cases hreach : task.operation = "vehicle_reachability".py
  · have hnext : afterAnnounced task = .operating := if_pos hreach
    have hat : p₂.at_ = .inl .operating := hannounced.1.trans (congrArg Sum.inl hnext)
    have hoperated := runs_operation I config task vpn env hstop hat
    have hran : operated I config task env p₂.trace = ran := by
      unfold operated
      rw [hcalls]
      simp only [ran, connected_script, if_pos (Or.inl hreach)]
    rw [hran, hcalls, ← hp₂, ← hp₁] at hoperated
    exact ⟨4, by omega, hoperated⟩
  by_cases hstatus : task.operation = "basic_status".py
  · have hnext : afterAnnounced task = .checking := (if_neg hreach).trans (if_pos hstatus)
    have hat : p₂.at_ = .inl .checking := hannounced.1.trans (congrArg Sum.inl hnext)
    have hchecking := advance_report I config task vpn env hat rfl fun _ => rfl
    have hcalls' : commands (advance I config task vpn env p₂).trace = commands p.trace := by
      rw [hchecking.2, commands_report, hcalls]
    have hoperated := runs_operation I config task vpn env hstop hchecking.1
    have hran : operated I config task env (advance I config task vpn env p₂).trace = ran := by
      unfold operated
      rw [hcalls']
      simp only [ran, connected_script, if_pos (Or.inr hstatus)]
    rw [hran, hcalls', ← hp₂, ← hp₁] at hoperated
    exact ⟨5, by omega, hoperated⟩
  · have hran : ran = (.error unknownOperation, []) := by
      simp only [ran, connected_script, if_neg (not_or.mpr ⟨hreach, hstatus⟩)]
      rfl
    have hnext : afterAnnounced task = .cleanup (.raised unknownOperation) :=
      (if_neg hreach).trans (if_neg hstatus)
    have hat : p₂.at_ = .inl (.cleanup (.raised unknownOperation)) :=
      hannounced.1.trans (congrArg Sum.inl hnext)
    obtain ⟨hended, hquiet⟩ := leaves_cleanup I config task vpn env hstop hat
    have hthree : (advance I config task vpn env)^[3] p = advance I config task vpn env p₂ := by
      rw [← hp₂, ← hp₁]
      rfl
    refine ⟨3, by omega, ?_⟩
    rw [hthree, hran, hended, hquiet, hcalls]
    exact ⟨rfl, rfl⟩

/-- A run that fails in its first check ends with that failure. -/
theorem runs_raised (hstop : config.stop_vpn_after_task = false) {p : Progress} {exc : PyExc}
    (h : p.at_ = .inl .preflight)
    (hnext : afterPreflight config (probed config env p.trace) = .cleanup (.raised exc)) :
    let p' := advance I config task vpn env (advance I config task vpn env p)
    p'.at_ = .inr (.raised exc) ∧
      commands p'.trace = commands p.trace ++ commands (check_effects config env p.trace) := by
  obtain ⟨hat, htrace⟩ := advance_preflight I config task vpn env h
  rw [hnext] at hat
  obtain ⟨hended, hquiet⟩ := leaves_cleanup I config task vpn env hstop hat
  refine ⟨hended, ?_⟩
  rw [hquiet, htrace, commands_append]

end run

/-! ### Both executors -/

section agreement

open ContainerNamespaceExecutor

/-- An environment in which the results of commands come by number. -/
def ContainerNamespaceExecutor.Environment.answering (env : Environment)
    (answers : Nat → CommandResult) : Environment :=
  { env with command := fun k _ => answers k }

/-- One result, and then the others. -/
def followed (first : CommandResult) (answers : Nat → CommandResult) : Nat → CommandResult
  | 0 => first
  | k + 1 => answers k

/-- `docker inspect` shows the PID of a running container. -/
structure Found (inspect : CommandResult) : Prop where
  timed_out : inspect.timed_out = false
  returncode : inspect.returncode = 0
  pid : PyStr.strip inspect.stdout ≠ [] ∧ PyStr.strip inspect.stdout ≠ "0".py

variable {I : Interp} {config : RunnerDaemonConfig} {task : Task} {vpn : VpnCredentials}
  {env : Environment} {answers : Nat → CommandResult}

theorem SameOutcome.warn {x y : Except PyExc RunnerResult} (h : SameOutcome x y) :
    SameOutcome x (warn none (outcomeOf y)).result := by
  cases x with
  | ok result =>
    cases y with
    | ok result' => exact h
    | error exc => exact h
  | error exc =>
    cases y with
    | ok result' => exact h
    | error exc' => exact h

/-- What `ExistingContainerExecutor.run` does behind its preflight. -/
def existing_script (I : Interp) (config : RunnerDaemonConfig) (key_present : Except Builtin Bool) (pid : PyStr)
    (task : Task) : CommandScript RunnerResult :=
  if task.operation = "vehicle_reachability".py then
    ExistingContainerExecutor.vehicle_reachability I config pid task
  else if task.operation = "basic_status".py then
    ExistingContainerExecutor.basic_status I config key_present pid task
  else failScript "operation_not_allowed"
    "Операция пока не реализована для existing_container".py

variable (I config task) in
/-- What both do with the connection, in lock step. -/
theorem connected_lockStep (key_present : Except Builtin Bool) (pid : PyStr) :
    Script.LockStep SameOutcome (existing_script I config key_present pid task)
      (connected_script I config key_present task) := by
  unfold existing_script connected_script operation
  by_cases hreach : task.operation = "vehicle_reachability".py
  · rw [if_pos hreach, if_pos (Or.inl hreach), if_pos hreach]
    exact vehicle_reachability_lockStep pid task
  by_cases hstatus : task.operation = "basic_status".py
  · rw [if_neg hreach, if_pos hstatus, if_pos (Or.inr hstatus), if_neg hreach]
    exact basic_status_lockStep key_present pid task
  · rw [if_neg hreach, if_neg hstatus, if_neg (not_or.mpr ⟨hreach, hstatus⟩)]
    exact .raise rfl

/-- The lookup of the PID consumes one result. -/
theorem container_pid_run {inspect : CommandResult} (h : Found inspect) :
    (ExistingContainerExecutor.container_pid config).run (fun k _ => followed inspect answers k) 0 =
      (.ok (PyStr.strip inspect.stdout),
        [({ command := .docker_inspect config.docker_bin config.existing_container_name
            timeout_sec := config.nsenter_timeout_sec }, inspect)]) := by
  have hpid : ¬(inspect.returncode ≠ 0 ∨ PyStr.strip inspect.stdout = [] ∨
      PyStr.strip inspect.stdout = "0".py) := by
    rw [not_or, not_or]
    exact ⟨not_not.mpr h.returncode, h.pid⟩
  unfold ExistingContainerExecutor.container_pid run_command
  simp only [Script.ask_bind, Script.run_call, followed, h.timed_out, Bool.false_eq_true,
    if_false, if_neg hpid]
  rfl

variable (I task) in
/-- How the run ends for each end of its preflight. -/
theorem existing_run {inspect : CommandResult} (h : Found inspect) (key_present : Except Builtin Bool)
    {calls : List (Invocation × CommandResult)} {ended : Except PyExc Unit}
    (hpre : (ExistingContainerExecutor.preflight config (PyStr.strip inspect.stdout)).run
      (fun k _ => followed inspect answers k) 1 = (ended, calls)) :
    let existing := (ExistingContainerExecutor.run I config key_present task).run
      (fun k _ => followed inspect answers k) 0
    let tail := (existing_script I config key_present (PyStr.strip inspect.stdout) task).run
      (fun k _ => followed inspect answers k) (1 + calls.length)
    (ended = .ok () → existing.1 = tail.1 ∧ existing.2.length = 1 + calls.length + tail.2.length) ∧
    (∀ exc, ended = .error exc → existing.1 = .error exc ∧ existing.2.length = 1 + calls.length) := by
  intro existing tail
  have hexisting := Script.run_bind (fun k _ => followed inspect answers k) 0
    (ExistingContainerExecutor.container_pid config)
    (fun pid => ExistingContainerExecutor.run_in I config key_present pid task)
  rw [container_pid_run h] at hexisting
  have hrun_in := Script.run_bind (fun k _ => followed inspect answers k) 1
    (ExistingContainerExecutor.preflight config (PyStr.strip inspect.stdout))
    (fun _ => existing_script I config key_present (PyStr.strip inspect.stdout) task)
  rw [hpre] at hrun_in
  have hfirst : existing.1 = ((ExistingContainerExecutor.run_in I config key_present
      (PyStr.strip inspect.stdout) task).run (fun k _ => followed inspect answers k) 1).1 :=
    congrArg (fun r => r.1) hexisting
  have hsecond : existing.2.length = 1 + ((ExistingContainerExecutor.run_in I config key_present
      (PyStr.strip inspect.stdout) task).run (fun k _ => followed inspect answers k) 1).2.length := by
    rw [Nat.add_comm]
    exact congrArg (fun r => r.2.length) hexisting
  have htail : (ExistingContainerExecutor.run_in I config key_present
      (PyStr.strip inspect.stdout) task).run (fun k _ => followed inspect answers k) 1 = _ := hrun_in
  constructor
  · intro hok
    rw [hfirst, hsecond, htail, hok]
    refine ⟨rfl, ?_⟩
    simp only [List.length_append, tail]
    omega
  · intro exc hexc
    rw [hfirst, hsecond, htail, hexc]
    exact ⟨rfl, rfl⟩

variable (I task vpn env) in
/-- The run of the namespace executor for each end of its first check. -/
theorem namespaced_run (hmanage : config.manage_vpn_session = false)
    (hstop : config.stop_vpn_after_task = false) {checked : Nat} {r : Except PyExc Bool}
    (hcheck : Check config (answers 0) (answers 1) checked r)
    (hr : is_connected config (.ok (answers 0)) (.ok (answers 1)) = r) {n : Nat} (hn : 7 ≤ n) :
    let namespaced := drive I config task vpn (env.answering answers) n
    let tail := (connected_script I config (env.key_present config) task).run (fun k _ => answers k) checked
    (r = .ok true → namespaced.at_ = .inr (warn none (outcomeOf tail.1)) ∧
      (commands namespaced.trace).length = checked + tail.2.length) ∧
    (r = .ok false → namespaced.at_ = .inr (.raised (unmanaged config)) ∧
      (commands namespaced.trace).length = checked) ∧
    (∀ exc, r = .error exc → namespaced.at_ = .inr (.raised exc) ∧
      (commands namespaced.trace).length = checked) := by
  intro namespaced tail
  -- the first step only reports; what follows depends on the result of the preflight
  generalize hp : drive I config task vpn (env.answering answers) 1 = p
  have hstart : p.at_ = .inl .preflight := by rw [← hp]; rfl
  have hnone : commands p.trace = [] := by rw [← hp]; rfl
  have hprobed : probed config (env.answering answers) p.trace = r := by
    rw [← hp, ← hr]
    rfl
  have hchecked : (commands (check_effects config (env.answering answers) p.trace)).length =
      checked := by
    have haddr : addr_result config (env.answering answers) p.trace = answers 0 := by rw [← hp]; rfl
    rw [commands_check_effects, hcheck.count, haddr]
    split
    · rfl
    · rfl
  -- a preflight that does not pass goes to the cleanup, which does nothing here
  have hraises : ∀ exc, afterPreflight config r = .cleanup (.raised exc) →
      namespaced.at_ = .inr (.raised exc) ∧ (commands namespaced.trace).length = checked := by
    intro exc hnext
    rw [← hprobed] at hnext
    obtain ⟨hended, hcommands⟩ := runs_raised I config task vpn (env.answering answers) hstop
      hstart hnext
    rw [hnone, List.nil_append, ← hp, ← drive_succ, ← drive_succ] at hcommands
    rw [← hp, ← drive_succ, ← drive_succ] at hended
    have hstays : namespaced = _ := drive_ended hended (by omega)
    rw [hstays, hended, hcommands, hp, hchecked]
    exact ⟨rfl, rfl⟩
  refine ⟨?_, ?_, ?_⟩
  · intro hup
    obtain ⟨hconnected, htrace⟩ := advance_preflight I config task vpn (env.answering answers) hstart
    rw [hprobed, hup] at hconnected
    obtain ⟨k, hk, hended, hlength⟩ := runs_connected I config task vpn (env.answering answers) hstop
      hconnected
    have hdrive : drive I config task vpn (env.answering answers) (k + 2) =
        (advance I config task vpn (env.answering answers))^[k]
          (advance I config task vpn (env.answering answers) p) := by
      rw [drive_add, drive_succ, hp]
    rw [← hdrive, htrace, commands_append, hnone, List.nil_append, hchecked] at hended hlength
    have hstays : namespaced = _ := drive_ended hended (by omega)
    rw [hstays]
    exact ⟨hended, hlength⟩
  · intro hdown
    refine hraises _ ?_
    rw [hdown]
    exact if_neg (by rw [hmanage]; exact Bool.false_ne_true)
  · intro exc hexc
    refine hraises _ ?_
    rw [hexc]
    rfl

/-- After a successful lookup of the container's PID, both executors consume
    the same number of results and end in the same outcome, when the session
    is not managed and not stopped and the interface and the route are the
    default ones. -/
theorem executors_agree (hinterface : config.univpn_interface = "cnem_vnic".py)
    (hroute : config.univpn_route_cidr = "172.26.0.0/15".py)
    (hmanage : config.manage_vpn_session = false) (hstop : config.stop_vpn_after_task = false)
    {inspect : CommandResult} (hfound : Found inspect) {n : Nat} (hn : 7 ≤ n) :
    let existing := (ExistingContainerExecutor.run I config (env.key_present config) task).run
      (fun k _ => followed inspect answers k) 0
    let namespaced := drive I config task vpn (env.answering answers) n
    ∃ outcome, namespaced.at_ = .inr outcome ∧ SameOutcome existing.1 outcome.result ∧
      existing.2.length = (commands namespaced.trace).length + 1 := by
  intro existing namespaced
  obtain ⟨checked, hcheck⟩ := is_connected_check config (answers 0) (answers 1)
  generalize hr : is_connected config (.ok (answers 0)) (.ok (answers 1)) = r at hcheck
  have hpreflight := preflight_run hinterface hroute (followed inspect answers) 1
    (PyStr.strip inspect.stdout) hcheck
  generalize hpre : (ExistingContainerExecutor.preflight config (PyStr.strip inspect.stdout)).run
    (fun k _ => followed inspect answers k) 1 = pre at hpreflight
  obtain ⟨ended, calls⟩ := pre
  obtain ⟨hlength, hended⟩ := hpreflight
  obtain ⟨hpassed, hfailed⟩ := existing_run I task hfound (env.key_present config) hpre
  obtain ⟨hup, hdown, hraised⟩ := namespaced_run I task vpn env hmanage hstop hcheck hr hn
  have hcalls : calls.length = checked := hlength
  -- connected, not connected, or a command of the check failed
  cases r with
  | ok up =>
    cases up with
    | true =>
      obtain ⟨houtcome, hcommands⟩ := hup rfl
      obtain ⟨hresult, hconsumed⟩ := hpassed hended
      have hsame := (connected_lockStep I config task (env.key_present config)
        (PyStr.strip inspect.stdout)).run (followed inspect answers) answers
        (1 + calls.length) checked (by
          intro k
          rw [hcalls, Nat.add_assoc, Nat.add_comm 1]
          rfl)
      refine ⟨_, houtcome, ?_, ?_⟩
      · rw [hresult]
        exact hsame.1.warn
      · rw [hcommands, hconsumed, hsame.2, hcalls]
        omega
    | false =>
      obtain ⟨houtcome, hcommands⟩ := hdown rfl
      obtain ⟨message, hmessage⟩ := hended
      obtain ⟨hresult, hconsumed⟩ := hfailed _ hmessage
      refine ⟨_, houtcome, ?_, ?_⟩
      · rw [hresult]
        exact rfl
      · rw [hcommands, hconsumed, hcalls]
        omega
  | error exc =>
    obtain ⟨houtcome, hcommands⟩ := hraised exc rfl
    obtain ⟨exc', hexc', hkind⟩ := hended
    obtain ⟨hresult, hconsumed⟩ := hfailed exc' hexc'
    refine ⟨_, houtcome, ?_, ?_⟩
    · rw [hresult]
      exact hkind
    · rw [hcommands, hconsumed, hcalls]
      omega

/-- A vehicle that answers on port 22 is found by both. -/
theorem executors_agree_sample :
    let existing := (ExistingContainerExecutor.run sampleInterp {} (.ok true)
      (sampleTask "vehicle_reachability" 5)).run
      (fun k _ => followed { returncode := 0, stdout := "4711".py } sampleAnswers k) 0
    let namespaced := drive sampleInterp {} (sampleTask "vehicle_reachability" 5) sampleCredentials
      (sampleEnvironment.answering sampleAnswers) 7
    existing.2.length = 4 ∧
    ∃ outcome, namespaced.at_ = .inr outcome ∧ SameOutcome existing.1 outcome.result ∧
      existing.2.length = (commands namespaced.trace).length + 1 :=
  ⟨rfl, executors_agree rfl rfl rfl rfl ⟨rfl, rfl, by decide⟩ (le_refl 7)⟩

end agreement

end BoVpnAgent

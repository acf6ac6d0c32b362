import Mathlib.Order.ConditionallyCompleteLattice.Basic
import Mathlib.Data.Int.ConditionallyCompleteOrder
import BoVpnAgent.Executors.Runs
import BoVpnAgent.Lib.Precedence

/-! # Connect before use

    The order of what one call of `ContainerNamespaceExecutor.run` does, on
    every trace: the vehicle is asked only right after a check that found
    interface and route, and the login lines are written only after one that
    found the session down.

    The proof goes through one invariant (`Phase`), which says for each place
    in `run` what the commands and the writes up to there look like.  One
    lemma carries it over one step, and `laws_drive` over a whole run.
-/

namespace BoVpnAgent.ContainerNamespaceExecutor

section laws

variable (config : RunnerDaemonConfig)

/-- A command that reaches for the vehicle. -/
def isVehicle : Command → Bool
  | .tcp_probe _ _ _ => true
  | .ssh _ _ _ _ _ => true
  | _ => false

/-- The last two commands were a check that succeeded and showed the configured
    interface and route. -/
def EndsUp (calls : List (Invocation × CommandResult)) : Prop :=
  ∃ before addr routes,
    calls = before ++ [(addr_check config, addr), (routes_check config, routes)] ∧
    shows_interface config addr = true ∧ shows_route config routes = true

/-- Some check succeeded. -/
def HasUp (calls : List (Invocation × CommandResult)) : Prop :=
  ∃ before later, calls = before ++ later ∧ EndsUp config before

/-- The commands are one check that found the session down: no interface, or
    no route. -/
def FoundDown (calls : List (Invocation × CommandResult)) : Prop :=
  (∃ addr, calls = [(addr_check config, addr)] ∧ addr.timed_out = false ∧
    shows_interface config addr = false) ∨
  ∃ addr routes, calls = [(addr_check config, addr), (routes_check config, routes)] ∧
    shows_interface config addr = true ∧ routes.timed_out = false ∧ routes.returncode = 0 ∧
    shows_route config routes = false

/-- A line of the login. -/
def Effect.isLogin : Effect → Prop
  | .write .login _ => True
  | _ => False

/-- The first lines of one login. -/
def LoginWrites (written : List (ControlBlock × PyStr)) : Prop :=
  ∃ username password k,
    written = ((loginLines config username password).take k).map (ControlBlock.login, ·)

/-- Nothing but the first lines of one login, and behind them at most one
    disconnect sequence. -/
def ControlWrites (written : List (ControlBlock × PyStr)) : Prop :=
  ∃ login, LoginWrites config login ∧
    (written = login ∨ config.stop_vpn_after_task = true ∧ written = login ++
      [(.disconnect, controlSequence (config.univpn_disconnect_sequence.getD []))])

/-- The first check showed interface and route. -/
def FirstUp (calls : List (Invocation × CommandResult)) : Prop :=
  ∃ addr routes later,
    calls = (addr_check config, addr) :: (routes_check config, routes) :: later ∧
    shows_interface config addr = true ∧ shows_route config routes = true

/-- The run raised a `RunnerFailure`. -/
def RaisesFailure (outcome : Outcome) : Prop :=
  ∃ error_code message, outcome = .raised (.runnerFailure error_code message)

/-- The laws of a trace. -/
structure Laws (p : Progress) : Prop where
  /-- A command for the vehicle comes directly after a successful check. -/
  vehicle : Trace.Preceded (fun c => isVehicle c.1.command = true) (EndsUp config)
    (commands p.trace)
  /-- Login lines come only with a managed session, after the one check that
      found it down. -/
  login : Trace.Preceded Effect.isLogin
    (fun before => config.manage_vpn_session = true ∧ FoundDown config (commands before)) p.trace
  /-- Each login line is written at most once. -/
  once : ControlWrites config (writes p.trace)
  /-- With the session up at the first check nothing is written but the
      disconnect sequence. -/
  first_up : FirstUp config (commands p.trace) → writes p.trace = [] ∨
    config.stop_vpn_after_task = true ∧ writes p.trace =
      [(.disconnect, controlSequence (config.univpn_disconnect_sequence.getD []))]
  /-- Without a successful check the vehicle is left alone and the run raises
      `RunnerFailure`. -/
  no_success : ¬HasUp config (commands p.trace) →
    (∀ c ∈ commands p.trace, isVehicle c.1.command = false) ∧
    ∀ outcome, p.at_ = .inr outcome → RaisesFailure outcome

end laws

/-! ### Texts that can be written -/

/-- Whatever a run writes can be encoded, and the secret file that it reads can
    be decoded. -/
structure Encodable (config : RunnerDaemonConfig) (vpn : VpnCredentials)
    (secret_file : Except Builtin (List PyStr)) : Prop where
  readable : config.manage_vpn_session = true → vpn.mode = "container_secret".py →
    config.univpn_login_mode = "container_secret".py →
    ∀ kind, secret_file = .error kind → kind = .osError
  login : config.manage_vpn_session = true → ∀ username password,
    credentials config vpn secret_file = .ok (username, password) →
    ∀ line ∈ loginLines config username password, PyStr.Scalar line
  disconnect : config.stop_vpn_after_task = true →
    config.univpn_disconnect_sequence.getD [] ≠ [] →
    (controlSequence (config.univpn_disconnect_sequence.getD [])).Scalar

/-- The session is managed, and there are credentials for a login. -/
def LogsIn (config : RunnerDaemonConfig) (vpn : VpnCredentials)
    (secret_file : Except Builtin (List PyStr)) : Prop :=
  config.manage_vpn_session = true ∧
    ∃ username password, credentials config vpn secret_file = .ok (username, password)

/-- Nothing but `RunnerFailure` stops a run that finds no connection: its texts
    can be encoded, the control path can be looked up, `time.sleep` accepts the
    delays that a login comes to, and its deadline can be computed. -/
structure Foreseen (config : RunnerDaemonConfig) (vpn : VpnCredentials)
    (secret_file : Except Builtin (List PyStr)) (control_path : Except Builtin Bool) : Prop where
  encodable : Encodable config vpn secret_file
  control_path : LogsIn config vpn secret_file → ∃ found, control_path = .ok found
  login_delays : LogsIn config vpn secret_file → ∀ k < 4, sleep (loginDelay config k) = .ok ()
  deadline : LogsIn config vpn secret_file → add_seconds config.univpn_login_timeout_sec = .ok ()
  poll_interval : LogsIn config vpn secret_file → 0 < config.univpn_login_timeout_sec →
    sleep config.univpn_connect_poll_interval_sec = .ok ()

theorem Foreseen.behindLine {config : RunnerDaemonConfig} {vpn : VpnCredentials}
    {secret_file : Except Builtin (List PyStr)} {control_path : Except Builtin Bool}
    (h : Foreseen config vpn secret_file control_path) (hlogs : LogsIn config vpn secret_file)
    {k : Nat} (hk : k < 4) : behindLine config k = .ok () :=
  (behindLine_ok_iff config k).mpr ⟨h.login_delays hlogs k hk, fun _ => h.deadline hlogs⟩

/-- `_credentials` raises `RunnerFailure` but for a file that cannot be
    decoded. -/
theorem credentials_raises {config : RunnerDaemonConfig} {vpn : VpnCredentials}
    {secret_file : Except Builtin (List PyStr)} {exc : PyExc}
    (h : credentials config vpn secret_file = .error exc) :
    RaisesFailure (.raised exc) ∨
      vpn.mode = "container_secret".py ∧ config.univpn_login_mode = "container_secret".py ∧
        ∃ kind, secret_file = .error kind ∧ kind ≠ .osError ∧ exc = .builtin kind [] := by
  unfold credentials raiseFailure at h
  by_cases hinline : vpn.mode = "inline_once".py
  · rw [if_pos hinline] at h
    split at h
    · exact .inl ⟨_, _, congrArg Outcome.raised (Except.error.inj h).symm⟩
    · cases h
  rw [if_neg hinline] at h
  by_cases hmode : vpn.mode ≠ "container_secret".py ∨
      config.univpn_login_mode ≠ "container_secret".py
  · rw [if_pos hmode] at h
    exact .inl ⟨_, _, congrArg Outcome.raised (Except.error.inj h).symm⟩
  rw [if_neg hmode] at h
  rw [not_or, not_not, not_not] at hmode
  cases secret_file with
  | error kind =>
    by_cases hkind : kind = .osError
    · subst hkind
      exact .inl ⟨_, _, congrArg Outcome.raised (Except.error.inj h).symm⟩
    · right
      refine ⟨hmode.1, hmode.2, kind, rfl, hkind, ?_⟩
      cases kind with
      | osError => exact absurd rfl hkind
      | _ => exact (Except.error.inj h).symm
  | ok lines =>
    simp only at h
    split at h
    · exact .inl ⟨_, _, congrArg Outcome.raised (Except.error.inj h).symm⟩
    · cases h

/-- A file that cannot be decoded fails with the exception of the decoder. -/
theorem credentials_undecodable {config : RunnerDaemonConfig} {vpn : VpnCredentials}
    {secret_file : Except Builtin (List PyStr)} {kind : Builtin}
    (hmode : vpn.mode = "container_secret".py)
    (hlogin : config.univpn_login_mode = "container_secret".py)
    (hsecret : secret_file = .error kind) (hkind : kind ≠ .osError) :
    credentials config vpn secret_file = .error (.builtin kind []) := by
  have hinline : ¬vpn.mode = "inline_once".py := by
    rw [hmode]
    decide
  have hboth : ¬(vpn.mode ≠ "container_secret".py ∨
      config.univpn_login_mode ≠ "container_secret".py) := by
    rw [not_or, not_not, not_not]
    exact ⟨hmode, hlogin⟩
  unfold credentials
  rw [if_neg hinline, if_neg hboth, hsecret]
  cases kind with
  | osError => exact absurd rfl hkind
  | _ => rfl

theorem Encodable.raises {config : RunnerDaemonConfig} {vpn : VpnCredentials}
    {secret_file : Except Builtin (List PyStr)} {exc : PyExc}
    (h : Encodable config vpn secret_file) (hmanage : config.manage_vpn_session = true)
    (herror : credentials config vpn secret_file = .error exc) : RaisesFailure (.raised exc) := by
  rcases credentials_raises herror with hfailure | ⟨hmode, hlogin, kind, hsecret, hkind, -⟩
  · exact hfailure
  · exact absurd (h.readable hmanage hmode hlogin kind hsecret) hkind

/-! ### The invariant -/

section phase

variable (config : RunnerDaemonConfig) (vpn : VpnCredentials) (env : Environment)

/-- The run had a connection, or it fails. -/
def Ended (calls : List (Invocation × CommandResult)) (outcome : Outcome) : Prop :=
  HasUp config calls ∨ RaisesFailure outcome ∨
    (∃ exc, outcome = .raised exc) ∧
      ¬(Monotone env.monotonic ∧ Foreseen config vpn env.secret_file (env.control_path config))

/-- What the commands and the writes look like at each place in `run`. -/
def Phase : Session ⊕ Outcome → List (Invocation × CommandResult) →
    List (ControlBlock × PyStr) → Prop
  | .inl .begun, calls, written => calls = [] ∧ written = []
  | .inl .preflight, calls, written => calls = [] ∧ written = []
  | .inl .login, calls, written =>
    config.manage_vpn_session = true ∧ FoundDown config calls ∧ written = []
  | .inl (.writing username password k), calls, written =>
    config.manage_vpn_session = true ∧ FoundDown config calls ∧
      credentials config vpn env.secret_file = .ok (username, password) ∧ k < 4 ∧
      written = ((loginLines config username password).take k).map (ControlBlock.login, ·)
  | .inl .polling, _, written => LogsIn config vpn env.secret_file ∧ LoginWrites config written
  | .inl (.cleanup outcome), calls, written =>
    LoginWrites config written ∧ Ended config vpn env calls outcome
  | .inl (.disconnecting outcome), calls, written =>
    config.stop_vpn_after_task = true ∧ config.univpn_disconnect_sequence.getD [] ≠ [] ∧
      LoginWrites config written ∧ Ended config vpn env calls outcome
  | .inl _, calls, written => EndsUp config calls ∧ LoginWrites config written
  | .inr outcome, calls, written =>
    ControlWrites config written ∧ Ended config vpn env calls outcome

end phase

/-- Without time for the login a poll finds its deadline passed. -/
def Due (config : RunnerDaemonConfig) (env : Environment) (p : Progress) : Prop :=
  Monotone env.monotonic → p.at_ = .inl .polling → config.univpn_login_timeout_sec ≤ 0 →
    p.deadline ≤ now env p.trace

/-! ### One check -/

section check

variable {config : RunnerDaemonConfig} {env : Environment} {trace : List Effect}

theorem up_of_probed (h : probed config env trace = .ok true)
    (calls : List (Invocation × CommandResult)) :
    EndsUp config (calls ++ commands (check_effects config env trace)) := by
  obtain ⟨n, hcheck⟩ := is_connected_check config (addr_result config env trace)
    (routes_result config env trace)
  have hvalue : is_connected config (.ok (addr_result config env trace))
      (.ok (routes_result config env trace)) = .ok true := h
  rw [hvalue] at hcheck
  cases hcheck with
  | up hinterface hroute =>
    rw [commands_check_effects, if_pos hinterface]
    exact ⟨calls, _, _, rfl, hinterface, hroute⟩

theorem down_of_probed (h : probed config env trace = .ok false) :
    FoundDown config (commands (check_effects config env trace)) := by
  obtain ⟨n, hcheck⟩ := is_connected_check config (addr_result config env trace)
    (routes_result config env trace)
  have hvalue : is_connected config (.ok (addr_result config env trace))
      (.ok (routes_result config env trace)) = .ok false := h
  rw [hvalue] at hcheck
  rw [commands_check_effects]
  cases hcheck with
  | no_interface htime hinterface =>
    rw [hinterface]
    exact .inl ⟨_, rfl, htime, hinterface⟩
  | no_route hinterface htime hcode hroute =>
    rw [if_pos hinterface]
    exact .inr ⟨_, _, rfl, hinterface, htime, hcode, hroute⟩

theorem failure_of_probed {exc : PyExc} (h : probed config env trace = .error exc) :
    RaisesFailure (.raised exc) := by
  obtain ⟨n, hcheck⟩ := is_connected_check config (addr_result config env trace)
    (routes_result config env trace)
  have hvalue : is_connected config (.ok (addr_result config env trace))
      (.ok (routes_result config env trace)) = .error exc := h
  rw [hvalue] at hcheck
  cases hcheck with
  | addr_timeout htime message => exact ⟨_, _, rfl⟩
  | routes_timeout hinterface htime message => exact ⟨_, _, rfl⟩
  | routes_failed hinterface htime hcode message => exact ⟨_, _, rfl⟩

/-- A check does not reach for the vehicle. -/
theorem check_not_vehicle :
    ∀ c ∈ commands (check_effects config env trace), ¬isVehicle c.1.command = true := by
  intro c hc
  rw [commands_check_effects] at hc
  rcases List.mem_cons.mp hc with hc | hc
  · rw [hc]
    exact Bool.noConfusion
  · split at hc
    · rw [List.mem_singleton.mp hc]
      exact Bool.noConfusion
    · cases hc

end check

/-! ### One step -/

section advance

variable {I : Interp} {config : RunnerDaemonConfig} {task : Task} {vpn : VpnCredentials}
  {env : Environment}

variable (I config task vpn env)

/-- The operation runs one command for the vehicle, or none. -/
theorem operated_calls (trace : List Effect) :
    (operated I config task env trace).2 = [] ∨
    ∃ c r, (operated I config task env trace).2 = [(c, r)] ∧ isVehicle c.command = true := by
  unfold operated operation
  by_cases hreach : task.operation = "vehicle_reachability".py
  · rw [if_pos hreach]
    unfold vehicle_reachability run_command
    cases hscript : tcp_probe_script I task.vehicle.ip TCP_PORTS
        (min config.nsenter_timeout_sec task.timeout_sec) with
    | error exc => exact .inl rfl
    | ok script =>
      right
      have hvehicle : isVehicle script = true := by
        unfold tcp_probe_script at hscript
        split at hscript
        · rw [← Except.ok.inj hscript]
          rfl
        · cases hscript
      exact ⟨_, _, rfl, hvehicle⟩
  · rw [if_neg hreach]
    unfold basic_status run_command ssh_command
    cases env.key_present config with
    | error kind => exact .inl rfl
    | ok found =>
      cases found with
      | false => exact .inl rfl
      | true =>
        split
        · exact .inr ⟨_, _, rfl, rfl⟩
        · exact .inl rfl

variable {I config task vpn env}

theorem HasUp.append {calls : List (Invocation × CommandResult)} (h : HasUp config calls)
    (later : List (Invocation × CommandResult)) : HasUp config (calls ++ later) := by
  obtain ⟨before, after, hcalls, hup⟩ := h
  exact ⟨before, after ++ later, by rw [hcalls, List.append_assoc], hup⟩

theorem EndsUp.hasUp {calls : List (Invocation × CommandResult)} (h : EndsUp config calls) :
    HasUp config calls := ⟨calls, [], (List.append_nil calls).symm, h⟩

theorem loginWrites_nil : LoginWrites config [] := ⟨[], [], 0, rfl⟩

/-- The warnings of the cleanup do not turn a failure into something else. -/
theorem Ended.warn {calls : List (Invocation × CommandResult)} {outcome : Outcome}
    (warning : Option String) (h : Ended config vpn env calls outcome) :
    Ended config vpn env calls (warn warning outcome) := by
  rcases h with h | ⟨error_code, message, h⟩ | ⟨⟨exc, h⟩, hbad⟩
  · exact .inl h
  · subst h
    exact .inr (.inl ⟨error_code, message, rfl⟩)
  · subst h
    exact .inr (.inr ⟨⟨exc, rfl⟩, hbad⟩)

/-- The invariant over a write of `_login`. -/
theorem phase_writing {p : Progress} {username password : PyStr} {k : Nat}
    (hat : p.at_ = .inl (.writing username password k))
    (h : Phase config vpn env (.inl (.writing username password k)) (commands p.trace)
      (writes p.trace)) :
    Phase config vpn env (advance I config task vpn env p).at_
      (commands (advance I config task vpn env p).trace)
      (writes (advance I config task vpn env p).trace) := by
  obtain ⟨hmanage, hdown, hcredentials, hk, hwritten⟩ := h
  have hlength : k < (loginLines config username password).length := hk
  have hline := List.getElem?_eq_getElem hlength
  have hlines : (loginLines config username password).take (k + 1) =
      (loginLines config username password).take k ++
        [(loginLines config username password)[k]] := (List.take_concat_get' _ k hlength).symm
  rcases advance_writing I config task vpn env hat hline with
    ⟨-, -, hnext, htrace⟩ | ⟨exc, hexc, hnext, htrace⟩
  · have hcalls' : commands (advance I config task vpn env p).trace = commands p.trace := by
      rw [htrace, List.append_cons, commands_append, commands_append, commands_login_records]
      simp [commands, Effect.command?]
    have hwritten' : writes (advance I config task vpn env p).trace =
        ((loginLines config username password).take (k + 1)).map (ControlBlock.login, ·) := by
      rw [htrace, List.append_cons, writes_append, writes_append, writes_login_records,
        List.append_nil, hwritten, hlines, List.map_append]
      rfl
    rw [hnext, hcalls', hwritten']
    rcases pausedThen_cases (behindLine config k) (if k + 1 < 4 then
      .writing username password (k + 1) else .polling) with ⟨-, hthen⟩ | ⟨kind, hpause, hthen⟩
    · rw [hthen]
      by_cases hlast : k + 1 < 4
      · rw [if_pos hlast]
        exact ⟨hmanage, hdown, hcredentials, hlast, rfl⟩
      · rw [if_neg hlast]
        exact ⟨⟨hmanage, username, password, hcredentials⟩, username, password, k + 1, rfl⟩
    · -- the delay behind the line is refused, or the deadline behind the last one
      rw [hthen]
      refine ⟨⟨username, password, k + 1, rfl⟩, .inr (.inr ⟨⟨_, rfl⟩, fun hall => ?_⟩)⟩
      rw [hall.2.behindLine ⟨hmanage, username, password, hcredentials⟩ hk] at hpause
      cases hpause
  · have hcalls' : commands (advance I config task vpn env p).trace = commands p.trace := by
      rw [htrace, commands_append]
      exact List.append_nil _
    have hwritten' : writes (advance I config task vpn env p).trace = writes p.trace := by
      rw [htrace, writes_append]
      exact List.append_nil _
    rw [hnext, hcalls', hwritten', hwritten]
    refine ⟨⟨username, password, k, rfl⟩, .inr ?_⟩
    rcases hexc with ⟨-, hexc⟩ | ⟨hscalar, hexc⟩
    · rw [hexc]
      exact .inl ⟨_, _, rfl⟩
    · refine .inr ⟨⟨exc, rfl⟩, fun hall => hscalar ?_⟩
      exact hall.2.encodable.login hmanage username password hcredentials _
        (List.getElem_mem hlength)

/-- The invariant over a poll of the connection. -/
theorem phase_polling {p : Progress} (hdue : Due config env p) (hat : p.at_ = .inl .polling)
    (h : Phase config vpn env (.inl .polling) (commands p.trace) (writes p.trace)) :
    Phase config vpn env (advance I config task vpn env p).at_
      (commands (advance I config task vpn env p).trace)
      (writes (advance I config task vpn env p).trace) := by
  obtain ⟨hlogs, hlines⟩ := h
  obtain ⟨hnext, -, htrace⟩ := advance_polling I config task vpn env hat
  have hcalls' : commands (advance I config task vpn env p).trace =
      commands p.trace ++ commands (check_effects config env p.trace) := by
    rw [htrace, commands_append, commands_append]
    split
    · simp [commands, Effect.command?]
    · simp [commands]
  have hwritten' : writes (advance I config task vpn env p).trace = writes p.trace := by
    rw [htrace, writes_append, writes_append, writes_check_effects]
    split
    · simp [writes, Effect.write?]
    · simp [writes]
  rw [hnext, hcalls', hwritten']
  cases hprobed : probed config env p.trace with
  | ok up =>
    cases up with
    | true => exact ⟨up_of_probed hprobed _, hlines⟩
    | false =>
      rcases afterPoll_cases config (p.deadline ≤ now env p.trace) with
        ⟨-, hthen⟩ | ⟨-, -, hthen⟩ | ⟨kind, hlate, hsleep, hthen⟩
      · rw [hthen]
        exact ⟨hlines, .inr (.inl ⟨_, _, rfl⟩)⟩
      · rw [hthen]
        exact ⟨hlogs, hlines⟩
      · -- `time.sleep` refuses the interval, so there was time left to sleep
        rw [hthen]
        refine ⟨hlines, .inr (.inr ⟨⟨_, rfl⟩, fun hall => ?_⟩)⟩
        have htime : 0 < config.univpn_login_timeout_sec :=
          not_le.mp fun hnone => hlate (hdue hall.1 hat hnone)
        rw [hall.2.poll_interval hlogs htime] at hsleep
        cases hsleep
  | error exc => exact ⟨hlines, .inr (.inl (failure_of_probed hprobed))⟩

/-- The invariant over the first look at the connection. -/
theorem phase_preflight {p : Progress} (hat : p.at_ = .inl .preflight)
    (h : Phase config vpn env (.inl .preflight) (commands p.trace) (writes p.trace)) :
    Phase config vpn env (advance I config task vpn env p).at_
      (commands (advance I config task vpn env p).trace)
      (writes (advance I config task vpn env p).trace) := by
  obtain ⟨hcalls, hwritten⟩ := h
  obtain ⟨hnext, htrace⟩ := advance_preflight I config task vpn env hat
  rw [hnext, htrace, commands_append, writes_append, writes_check_effects, hcalls, hwritten]
  -- up, down and managed, down and unmanaged, or no answer
  cases hprobed : probed config env p.trace with
  | ok up =>
    cases up with
    | true => exact ⟨up_of_probed hprobed [], loginWrites_nil⟩
    | false =>
      by_cases hmanage : config.manage_vpn_session = true
      · have hlogin : afterPreflight config (.ok false) = .login := if_pos hmanage
        rw [hlogin]
        exact ⟨hmanage, down_of_probed hprobed, rfl⟩
      · have hcleanup : afterPreflight config (.ok false) =
            .cleanup (.raised (unmanaged config)) := if_neg hmanage
        rw [hcleanup]
        exact ⟨loginWrites_nil, .inr (.inl ⟨_, _, rfl⟩)⟩
  | error exc => exact ⟨loginWrites_nil, .inr (.inl (failure_of_probed hprobed))⟩

/-- The invariant over the reading of the credentials. -/
theorem phase_login {p : Progress} (hat : p.at_ = .inl .login)
    (h : Phase config vpn env (.inl .login) (commands p.trace) (writes p.trace)) :
    Phase config vpn env (advance I config task vpn env p).at_
      (commands (advance I config task vpn env p).trace)
      (writes (advance I config task vpn env p).trace) := by
  obtain ⟨hmanage, hdown, hwritten⟩ := h
  obtain ⟨htrace, hok, herror⟩ := advance_login I config task vpn env hat
  rw [htrace, commands_append, writes_append, commands_credential_records,
    writes_credential_records, List.append_nil, List.append_nil]
  cases hcredentials : credentials config vpn env.secret_file with
  | ok pair =>
    obtain ⟨username, password⟩ := pair
    rw [hok username password hcredentials]
    cases hpath : env.control_path config with
    | ok found => exact ⟨hmanage, hdown, hcredentials, by decide, hwritten⟩
    | error kind =>
      refine ⟨hwritten ▸ loginWrites_nil, .inr (.inr ⟨⟨_, rfl⟩, fun hall => ?_⟩)⟩
      obtain ⟨found, hfound⟩ := hall.2.control_path ⟨hmanage, username, password, hcredentials⟩
      rw [hpath] at hfound
      cases hfound
  | error exc =>
    rw [herror exc hcredentials, hwritten]
    refine ⟨loginWrites_nil, .inr ?_⟩
    by_cases hfailure : RaisesFailure (.raised exc)
    · exact .inl hfailure
    · exact .inr ⟨⟨exc, rfl⟩, fun h => hfailure (h.2.encodable.raises hmanage hcredentials)⟩

/-- The invariant over the disconnect sequence. -/
theorem phase_disconnecting {p : Progress} {outcome : Outcome}
    (hat : p.at_ = .inl (.disconnecting outcome))
    (h : Phase config vpn env (.inl (.disconnecting outcome)) (commands p.trace)
      (writes p.trace)) :
    Phase config vpn env (advance I config task vpn env p).at_
      (commands (advance I config task vpn env p).trace)
      (writes (advance I config task vpn env p).trace) := by
  obtain ⟨hstop, hsequence, hwritten, hended⟩ := h
  obtain ⟨hcalls, hends, hwrites⟩ := advance_disconnecting I config task vpn env hat
  -- the disconnect sequence is written whole or not at all
  have hcontrol : ControlWrites config (writes (advance I config task vpn env p).trace) := by
    rcases hwrites with hwrites | hwrites
    · rw [hwrites]
      exact ⟨_, hwritten, .inl rfl⟩
    · rw [hwrites]
      exact ⟨_, hwritten, .inr ⟨hstop, rfl⟩⟩
  rw [hcalls]
  rcases hends with ⟨warning, hnext⟩ | ⟨-, hscalar, hnext⟩
  · rw [hnext]
    exact ⟨hcontrol, hended.warn warning⟩
  · rw [hnext]
    exact ⟨hcontrol, .inr (.inr ⟨⟨_, rfl⟩, fun hall =>
      hscalar (hall.2.encodable.disconnect hstop hsequence)⟩)⟩

/-- The invariant over one step. -/
theorem phase_advance {p : Progress} (hdue : Due config env p)
    (h : Phase config vpn env p.at_ (commands p.trace) (writes p.trace)) :
    Phase config vpn env (advance I config task vpn env p).at_
      (commands (advance I config task vpn env p).trace)
      (writes (advance I config task vpn env p).trace) := by
  rcases hat : p.at_ with s | outcome
  swap
  · rw [advance_ended hat]
    exact h
  rw [hat] at h
  cases s with
  -- a report runs no command and writes nothing
  | begun =>
    obtain ⟨hcalls, hwritten⟩ := h
    obtain ⟨hnext, htrace⟩ := advance_report I config task vpn env hat rfl fun _ => rfl
    rw [hnext, htrace, commands_append, writes_append, hcalls, hwritten]
    exact ⟨rfl, rfl⟩
  | preflight => exact phase_preflight hat h
  | login => exact phase_login hat h
  | writing username password k => exact phase_writing hat h
  | polling => exact phase_polling hdue hat h
  | connected =>
    obtain ⟨hup, hwritten⟩ := h
    obtain ⟨hnext, htrace⟩ := advance_report I config task vpn env hat rfl fun _ => rfl
    rw [hnext, htrace, commands_append, writes_append]
    exact ⟨(List.append_nil (commands p.trace)).symm ▸ hup,
      (List.append_nil (writes p.trace)).symm ▸ hwritten⟩
  | announced =>
    obtain ⟨hup, hwritten⟩ := h
    obtain ⟨hnext, hcalls, hwrites⟩ := advance_announced I config task vpn env hat
    rw [hnext, hcalls, hwrites]
    unfold afterAnnounced
    split
    · exact ⟨hup, hwritten⟩
    · split
      · exact ⟨hup, hwritten⟩
      · exact ⟨hwritten, .inl hup.hasUp⟩
  | checking =>
    obtain ⟨hup, hwritten⟩ := h
    obtain ⟨hnext, htrace⟩ := advance_report I config task vpn env hat rfl fun _ => rfl
    rw [hnext, htrace, commands_append, writes_append]
    exact ⟨(List.append_nil (commands p.trace)).symm ▸ hup,
      (List.append_nil (writes p.trace)).symm ▸ hwritten⟩
  | operating =>
    obtain ⟨hup, hwritten⟩ := h
    obtain ⟨hnext, htrace⟩ := advance_operating I config task vpn env hat
    have hwrites : writes ((operated I config task env p.trace).2.map
        fun c => Effect.command c.1 c.2) = [] := by
      rcases operated_calls I config task env p.trace with
        hcalls | ⟨c, r, hcalls, -⟩
      · rw [hcalls]
        rfl
      · rw [hcalls]
        rfl
    rw [hnext, htrace, commands_append, writes_append, hwrites, List.append_nil]
    exact ⟨hwritten, .inl (hup.hasUp.append _)⟩
  | cleanup outcome =>
    obtain ⟨hwritten, hended⟩ := h
    -- the sequence is disabled or does not apply, or it comes next
    rcases advance_cleanup I config task vpn env hat
      with ⟨warning, hnext, hcalls, hwrites⟩ | ⟨hstop, hsequence, hnext, hcalls, hwrites⟩
    · rw [hnext, hcalls, hwrites]
      exact ⟨⟨_, hwritten, .inl rfl⟩, hended.warn warning⟩
    · rw [hnext, hcalls, hwrites]
      exact ⟨hstop, hsequence, hwritten, hended⟩
  | disconnecting outcome => exact phase_disconnecting hat h

/-! ### The ways through `run` -/

/-- The operation is one that the executor knows. -/
def Known (task : Task) : Prop :=
  task.operation = "vehicle_reachability".py ∨ task.operation = "basic_status".py

variable (config task) in
/-- From one place in `run` to the next. -/
inductive Leads : Session → Session → Prop where
  | begin : Leads .begun .preflight
  | up : Leads .preflight .connected
  | down : Leads .preflight .login
  | log_in (username password : PyStr) : Leads .login (.writing username password 0)
  | line (username password : PyStr) (written : Nat) :
      Leads (.writing username password written) (.writing username password (written + 1))
  | wait (username password : PyStr) (hpause : behindLine config 3 = .ok ()) :
      Leads (.writing username password 3) .polling
  | poll : Leads .polling .polling
  | found : Leads .polling .connected
  | announce : Leads .connected .announced
  | reach (hreach : task.operation = "vehicle_reachability".py) : Leads .announced .operating
  | status (hstatus : task.operation = "basic_status".py) : Leads .announced .checking
  | check : Leads .checking .operating
  | clean_up (s : Session) (outcome : Outcome) : Leads s (.cleanup outcome)
  | disconnect (outcome : Outcome) : Leads (.cleanup outcome) (.disconnecting outcome)

theorem leads_pausedThen {s next : Session} {pause : Except Builtin Unit}
    (h : pause = .ok () → Leads config task s next) :
    Leads config task s (pausedThen pause next) := by
  rcases pausedThen_cases pause next with ⟨hpause, hthen⟩ | ⟨kind, -, hthen⟩
  · rw [hthen]
    exact h hpause
  · rw [hthen]
    exact .clean_up _ _

theorem leads_login_write {username password : PyStr} {written : Nat} {fault : Bool}
    {next : Session} {st : SessionStep}
    (h : login_write config username password written fault = some st)
    (hnext : st.next = .inl next) : Leads config task (.writing username password written) next := by
  unfold login_write at h
  split at h
  · cases h
  · next line hline =>
    have hwritten : written < 4 := (List.getElem?_eq_some_iff.mp hline).1
    split at h
    · cases h
      cases hnext
      apply leads_pausedThen
      intro hpause
      split
      · exact .line username password written
      · obtain rfl : written = 3 := by omega
        exact .wait username password hpause
    · cases h
      cases hnext
      exact .clean_up _ _
    · cases h
      cases hnext
      exact .clean_up _ _

theorem leads_of_step {s next : Session} {a : SessionAction} {st : SessionStep}
    (h : step config task vpn s a = some st) (hnext : st.next = .inl next) :
    Leads config task s next := by
  unfold step at h
  split at h
  · cases h
    cases hnext
    exact .begin
  · -- the preflight
    split at h
    · cases h
      cases hnext
      exact .up
    · split at h <;> cases h <;> cases hnext
      · exact .down
      · exact .clean_up _ _
    · cases h
      cases hnext
      exact .clean_up _ _
  · -- the credentials
    split at h
    · split at h <;> cases h <;> cases hnext
      · exact .log_in _ _
      · exact .clean_up _ _
    · cases h
      cases hnext
      exact .clean_up _ _
  · exact leads_login_write h hnext
  · -- a poll
    split at h
    · cases h
      cases hnext
      exact .found
    · split at h <;> cases h <;> cases hnext
      · exact .clean_up _ _
      · exact leads_pausedThen fun _ => .poll
    · cases h
      cases hnext
      exact .clean_up _ _
  · cases h
    cases hnext
    exact .announce
  · -- the branch on the operation
    split_ifs at h with hreach hstatus <;> cases h <;> cases hnext
    · exact .reach hreach
    · exact .status hstatus
    · exact .clean_up _ _
  · cases h
    cases hnext
    exact .check
  · cases h
    cases hnext
    exact .clean_up _ _
  · -- the `finally` clause
    split at h
    · cases h
      cases hnext
    · split at h <;> cases h <;> cases hnext
      exact .disconnect _
  · split at h <;> cases h <;> cases hnext
  · cases h

/-- The operation is known where a run comes to it. -/
theorem known_of_leads {s next : Session} (h : Leads config task s next)
    (hnext : next = .checking ∨ next = .operating) (hs : s = .checking → Known task) : Known task := by
  cases h with
  | reach hreach => exact .inl hreach
  | status hstatus => exact .inr hstatus
  | check => exact hs rfl
  | _ => rcases hnext with hnext | hnext <;> cases hnext

/-! ### The deadline -/

/-- The deadline over one step. -/
theorem due_advance {p : Progress} (h : Due config env p) :
    Due config env (advance I config task vpn env p) := by
  rcases hat : p.at_ with s | outcome
  swap
  · rw [advance_ended hat]
    exact h
  cases hstep : step config task vpn s (action I config task env p s) with
  | none =>
    rw [advance_none hat hstep]
    exact h
  | some st =>
    rw [advance_inl hat hstep]
    intro hclock hnext hnone
    have hlater : now env p.trace ≤ now env (p.trace ++ effects I config task vpn env p s st) :=
      hclock (by rw [List.countP_append]; exact Nat.le_add_right _ _)
    refine le_trans ?_ hlater
    cases leads_of_step hstep hnext with
    | poll => exact h hclock hat hnone
    | wait username password hpause =>
      have hdeadline : deadline config env p (.writing username password 3) =
          now env p.trace + config.univpn_login_timeout_sec * 1000000000 := by
        unfold deadline
        simp only [hpause]
      show deadline config env p (.writing username password 3) ≤ now env p.trace
      rw [hdeadline]
      omega

/-! ### The two orders -/

theorem not_login_of_writes {new : List Effect} (h : writes new = []) :
    ∀ e ∈ new, ¬Effect.isLogin e := by
  intro e he hlogin
  cases e with
  | write block text =>
    have hmem : (block, text) ∈ writes new := List.mem_filterMap.mpr ⟨_, he, rfl⟩
    rw [h] at hmem
    cases hmem
  | _ => exact hlogin

/-- What a step from `s` may add: a command for the vehicle only where the
    connection was just checked, and a login line only in `_login`. -/
def Adds (s : Session) (new : List Effect) : Prop :=
  ((∀ c ∈ commands new, ¬isVehicle c.1.command = true) ∨
    s = .operating ∧ ∃ c, commands new = [c]) ∧
  ((∀ e ∈ new, ¬Effect.isLogin e) ∨
    ∃ username password k line later, s = .writing username password k ∧
      new = .write .login line :: later ∧ ∀ e ∈ later, ¬Effect.isLogin e)

theorem Adds.quiet {s : Session} {new : List Effect}
    (hcalls : ∀ c ∈ commands new, ¬isVehicle c.1.command = true) (hwrites : writes new = []) :
    Adds s new := ⟨.inl hcalls, .inl (not_login_of_writes hwrites)⟩

theorem Adds.report {s : Session} (r : Option (TaskState × String)) :
    Adds s ((r.map fun r => Effect.set_state r.1 r.2).toList) := by
  cases r with
  | none => exact .quiet (List.forall_mem_nil _) rfl
  | some r => exact .quiet (List.forall_mem_nil _) rfl

variable (I config task vpn env) in
theorem effects_adds (p : Progress) (s : Session) (st : SessionStep) :
    Adds s (effects I config task vpn env p s st) := by
  generalize hnew : effects I config task vpn env p s st = new
  cases s with
  -- a report is no command and no write
  | begun => rw [← hnew]; exact .report st.report
  | connected => rw [← hnew]; exact .report st.report
  | announced => rw [← hnew]; exact .report st.report
  | checking => rw [← hnew]; exact .report st.report
  | cleanup outcome => rw [← hnew]; exact .report st.report
  | preflight => rw [← hnew]; exact .quiet check_not_vehicle (writes_check_effects env p.trace)
  | polling =>
    have hpoll : new = check_effects config env p.trace ++ _ := hnew.symm
    have hcalls : commands new = commands (check_effects config env p.trace) := by
      rw [hpoll, commands_append]
      split
      · exact List.append_nil _
      · exact List.append_nil _
    have hwrites : writes new = [] := by
      rw [hpoll, writes_append, writes_check_effects]
      split
      · rfl
      · rfl
    refine .quiet ?_ hwrites
    rw [hcalls]
    exact check_not_vehicle
  | login =>
    have hrecords : new = credential_records config vpn env := hnew.symm
    rw [hrecords]
    refine .quiet ?_ writes_credential_records
    rw [commands_credential_records]
    exact List.forall_mem_nil _
  | writing username password k =>
    have hwrite : new = write_effects .login st (login_records config env p.trace k) := hnew.symm
    unfold write_effects at hwrite
    split at hwrite
    · next text _ =>
      have hcalls : commands new = [] := by
        rw [hwrite, ← List.singleton_append, commands_append, commands_login_records]
        rfl
      refine ⟨.inl ?_, .inr ⟨username, password, k, text, _, rfl, hwrite, ?_⟩⟩
      · rw [hcalls]
        exact List.forall_mem_nil _
      · exact not_login_of_writes (writes_login_records p.trace k)
    · refine .quiet ?_ (by rw [hwrite]; rfl)
      rw [hwrite]
      exact List.forall_mem_nil _
  -- here alone commands reach the vehicle
  | operating =>
    have hrun : new = (operated I config task env p.trace).2.map fun c => .command c.1 c.2 :=
      hnew.symm
    rcases operated_calls I config task env p.trace with
      hcalls | ⟨c, r, hcalls, -⟩
    · rw [hcalls] at hrun
      refine .quiet ?_ (by rw [hrun]; rfl)
      rw [hrun]
      exact List.forall_mem_nil _
    · rw [hcalls] at hrun
      refine ⟨.inr ⟨rfl, (c, r), by rw [hrun]; rfl⟩, .inl (not_login_of_writes ?_)⟩
      rw [hrun]
      rfl
  | disconnecting outcome =>
    have hwrite : new = write_effects .disconnect st [] := hnew.symm
    unfold write_effects at hwrite
    have hcalls : commands new = [] := by
      rw [hwrite]
      split
      · rfl
      · rfl
    refine ⟨.inl ?_, .inl ?_⟩
    · rw [hcalls]
      exact List.forall_mem_nil _
    · rw [hwrite]
      intro e he
      split at he
      · rw [List.mem_singleton.mp he]
        exact id
      · rw [List.mem_singleton.mp he]
        exact id

/-- The orders of commands and of writes over one step. -/
theorem orders_advance {p : Progress}
    (h : Phase config vpn env p.at_ (commands p.trace) (writes p.trace))
    (hvehicle : Trace.Preceded (fun c => isVehicle c.1.command = true) (EndsUp config)
      (commands p.trace))
    (hlogin : Trace.Preceded Effect.isLogin
      (fun before => config.manage_vpn_session = true ∧ FoundDown config (commands before))
      p.trace) :
    Trace.Preceded (fun c => isVehicle c.1.command = true) (EndsUp config)
      (commands (advance I config task vpn env p).trace) ∧
    Trace.Preceded Effect.isLogin
      (fun before => config.manage_vpn_session = true ∧ FoundDown config (commands before))
      (advance I config task vpn env p).trace := by
  unfold advance
  rcases hat : p.at_ with s | outcome
  swap
  · exact ⟨hvehicle, hlogin⟩
  simp only
  rw [hat] at h
  split
  · exact ⟨hvehicle, hlogin⟩
  · next st _ =>
    obtain ⟨hcalls, hwrites⟩ := effects_adds I config task vpn env p s st
    constructor
    · rw [commands_append]
      rcases hcalls with hfree | ⟨hs, c, hc⟩
      · exact hvehicle.append hfree
      · subst hs
        rw [hc]
        exact hvehicle.snoc fun _ => h.1
    · rcases hwrites with hfree | ⟨username, password, k, line, later, hs, hnew, hfree⟩
      · exact hlogin.append hfree
      · subst hs
        rw [hnew]
        exact hlogin.cons_append (fun _ => ⟨h.1, h.2.1⟩) hfree

end advance

/-! ### Whole runs -/

section drive

variable {I : Interp} {config : RunnerDaemonConfig} {task : Task} {vpn : VpnCredentials}
  {env : Environment}

variable (I config task vpn env)

theorem due_drive (n : Nat) :
    Due config env (drive I config task vpn env n) := by
  induction n with
  | zero =>
    intro _ hat
    cases hat
  | succ n ih =>
    rw [drive_succ]
    exact due_advance ih

theorem phase_drive (n : Nat) :
    Phase config vpn env (drive I config task vpn env n).at_
      (commands (drive I config task vpn env n).trace)
      (writes (drive I config task vpn env n).trace) := by
  induction n with
  | zero => exact ⟨rfl, rfl⟩
  | succ n ih =>
    rw [drive_succ]
    exact phase_advance (due_drive I config task vpn env n) ih

theorem orders_drive (n : Nat) :
    Trace.Preceded (fun c => isVehicle c.1.command = true) (EndsUp config)
      (commands (drive I config task vpn env n).trace) ∧
    Trace.Preceded Effect.isLogin
      (fun before => config.manage_vpn_session = true ∧ FoundDown config (commands before))
      (drive I config task vpn env n).trace := by
  induction n with
  | zero => exact ⟨.nil _ _, .nil _ _⟩
  | succ n ih =>
    rw [drive_succ]
    exact orders_advance (phase_drive I config task vpn env n) ih.1 ih.2

variable {I config task vpn env}

/-- What is written at any point of a run. -/
theorem Phase.controlWrites {at_ : Session ⊕ Outcome} {calls : List (Invocation × CommandResult)}
    {written : List (ControlBlock × PyStr)}
    (h : Phase config vpn env at_ calls written) :
    ControlWrites config written := by
  have hlogin : LoginWrites config written → ControlWrites config written :=
    fun h => ⟨written, h, .inl rfl⟩
  rcases at_ with s | outcome
  · cases s with
    | begun => exact hlogin (h.2 ▸ loginWrites_nil)
    | preflight => exact hlogin (h.2 ▸ loginWrites_nil)
    | login => exact hlogin (h.2.2 ▸ loginWrites_nil)
    | writing username password k => exact hlogin ⟨username, password, k, h.2.2.2.2⟩
    | polling => exact hlogin h.2
    | connected => exact hlogin h.2
    | announced => exact hlogin h.2
    | checking => exact hlogin h.2
    | operating => exact hlogin h.2
    | cleanup outcome => exact hlogin h.1
    | disconnecting outcome => exact hlogin h.2.2.1
  · exact h.1

/-- After a first check that showed both, no login line is written. -/
theorem no_login_of_firstUp {trace : List Effect}
    (hlogin : Trace.Preceded Effect.isLogin
      (fun before => config.manage_vpn_session = true ∧ FoundDown config (commands before)) trace)
    (hup : FirstUp config (commands trace)) : ∀ w ∈ writes trace, w.1 ≠ .login := by
  intro w hw hblock
  obtain ⟨e, he, hwrite⟩ := List.mem_filterMap.mp hw
  have hise : Effect.isLogin e := by
    cases e with
    | write block text =>
      have hpair := Option.some.inj hwrite
      rw [← hpair] at hblock
      rw [show block = .login from hblock]
      trivial
    | _ => cases hwrite
  obtain ⟨before, later, htrace⟩ := List.append_of_mem he
  have hdown := (hlogin before e later htrace hise).2
  obtain ⟨addr, routes, calls, hcalls, hinterface, hroute⟩ := hup
  rw [htrace, commands_append] at hcalls
  rcases hdown with ⟨addr', hone, -, hlost⟩ | ⟨addr', routes', htwo, -, -, -, hlost⟩
  · rw [hone] at hcalls
    obtain ⟨hfirst, -⟩ := List.cons.inj hcalls
    rw [(Prod.mk.inj hfirst).2, hinterface] at hlost
    cases hlost
  · rw [htwo] at hcalls
    obtain ⟨-, hrest⟩ := List.cons.inj hcalls
    obtain ⟨hsecond, -⟩ := List.cons.inj hrest
    rw [(Prod.mk.inj hsecond).2, hroute] at hlost
    cases hlost

/-- Every trace obeys the laws when nothing unforeseen stops the run. -/
theorem laws_drive (hclock : Monotone env.monotonic)
    (hforeseen : Foreseen config vpn env.secret_file (env.control_path config)) (n : Nat) :
    Laws config (drive I config task vpn env n) := by
  have hphase := phase_drive I config task vpn env n
  obtain ⟨hvehicle, hlogin⟩ := orders_drive I config task vpn env n
  have honce := hphase.controlWrites
  refine
    { vehicle := hvehicle
      login := hlogin
      once := honce
      first_up := ?_
      no_success := ?_ }
  · intro hup
    have hnone := no_login_of_firstUp hlogin hup
    obtain ⟨login, ⟨username, password, k, hlines⟩, hwritten⟩ := honce
    -- a line of the login would come after the interface was seen to be up
    have hempty : login = [] := by
      rcases List.eq_nil_or_concat login with h | ⟨init, w, h⟩
      · exact h
      · have hw : w ∈ login := by rw [h, List.concat_eq_append]; simp
        have hmem : w ∈ writes (drive I config task vpn env n).trace := by
          rcases hwritten with hwritten | ⟨-, hwritten⟩
          · rw [hwritten]
            exact hw
          · rw [hwritten]
            exact List.mem_append_left _ hw
        rw [hlines] at hw
        obtain ⟨line, -, hline⟩ := List.mem_map.mp hw
        exact absurd (congrArg Prod.fst hline.symm) (hnone w hmem)
    rw [hempty] at hwritten
    exact hwritten
  · intro hdown
    constructor
    · intro c hc
      rw [Bool.eq_false_iff]
      intro hisvehicle
      obtain ⟨before, later, hcalls⟩ := List.append_of_mem hc
      exact hdown ⟨before, c :: later, hcalls, hvehicle before c later hcalls hisvehicle⟩
    · intro outcome hat
      rw [hat] at hphase
      rcases hphase.2 with hup | hfailure | ⟨-, hbad⟩
      · exact absurd hup hdown
      · exact hfailure
      · exact absurd ⟨hclock, hforeseen⟩ hbad

end drive

end BoVpnAgent.ContainerNamespaceExecutor

import BoVpnAgent.Executors.TraceLaws
import BoVpnAgent.Executors.LoginLines

/-! # Connect before use, on all runs

    A run comes to its end when its clock passes every bound: each step goes
    on to a later place in `run`, except a poll, and a poll reads the clock.

    The laws of a trace then hold on every run exactly when nothing stops the
    run that its handlers do not foresee.  The failure of an encoding and a
    delay that `time.sleep` refuses are no `OSError`, and `_login` looks up the
    control path outside its `try`.
-/

namespace BoVpnAgent.ContainerNamespaceExecutor

/-! ### Runs come to an end -/

section ends

variable {I : Interp} {config : RunnerDaemonConfig} {task : Task} {vpn : VpnCredentials}
  {env : Environment}

/-- How far a place is from the end of `run`. -/
def rank : Session ⊕ Outcome → Nat
  | .inr _ => 0
  | .inl (.disconnecting _) => 1
  | .inl (.cleanup _) => 2
  | .inl .operating => 3
  | .inl .checking => 4
  | .inl .announced => 5
  | .inl .connected => 6
  | .inl .polling => 7
  | .inl (.writing _ _ written) => 8 + (4 - written)
  | .inl .login => 13
  | .inl .preflight => 14
  | .inl .begun => 15

/-- The readings of the clock in a trace. -/
def readings (trace : List Effect) : Nat := trace.countP Effect.isReading

variable (config env) in
theorem readings_check_effects (trace : List Effect) :
    readings (check_effects config env trace) = 0 := by
  unfold check_effects
  simp only
  split
  · rfl
  · split
    · split
      · rfl
      · rfl
    · rfl

/-- A poll that finds the session down before the deadline. -/
structure PollsAgain (config : RunnerDaemonConfig) (env : Environment) (p p' : Progress) : Prop where
  at_ : p'.at_ = .inl .polling
  deadline : p'.deadline = p.deadline
  early : env.monotonic (readings p.trace) < p.deadline
  readings : readings p'.trace = readings p.trace + 1

variable (I config task vpn env)

/-- A poll polls again, or comes nearer to the end. -/
theorem polling_advance {p : Progress} (h : p.at_ = .inl .polling) :
    rank (advance I config task vpn env p).at_ < 7 ∨
      PollsAgain config env p (advance I config task vpn env p) := by
  obtain ⟨hnext, hdeadline, htrace⟩ := advance_polling I config task vpn env h
  cases hprobed : probed config env p.trace with
  | error exc =>
    left
    rw [hnext, hprobed]
    show 2 < 7
    decide
  | ok up =>
    rw [hprobed] at htrace
    cases up with
    | true =>
      left
      rw [hnext, hprobed]
      show 6 < 7
      decide
    | false =>
      rcases afterPoll_cases config (p.deadline ≤ now env p.trace) with
        ⟨-, hthen⟩ | ⟨hlate, -, hthen⟩ | ⟨kind, -, -, hthen⟩
      · left
        rw [hnext, hprobed, hthen]
        show 2 < 7
        decide
      · right
        refine ⟨?_, hdeadline, not_le.mp hlate, ?_⟩
        · rw [hnext, hprobed, hthen]
        · unfold readings
          rw [htrace, List.countP_append, List.countP_append]
          exact congrArg (p.trace.countP Effect.isReading + · + 1)
            (readings_check_effects config env p.trace)
      · left
        rw [hnext, hprobed, hthen]
        show 2 < 7
        decide

/-- Every other step comes nearer to the end. -/
theorem rank_advance {p : Progress} {s : Session}
    (h : Phase config vpn env p.at_ (commands p.trace) (writes p.trace))
    (hat : p.at_ = .inl s) (hs : s ≠ .polling) :
    rank (advance I config task vpn env p).at_ < rank p.at_ := by
  rw [hat] at h
  -- the ranks compared are those of the points before and after the step
  cases s with
  | begun =>
    have hnext := (advance_report I config task vpn env hat rfl fun _ => rfl).1
    rw [hnext, hat]
    show 14 < 15
    decide
  | preflight =>
    rw [(advance_preflight I config task vpn env hat).1, hat]
    unfold afterPreflight
    split
    · show 6 < 14
      decide
    · split
      · show 13 < 14
        decide
      · show 2 < 14
        decide
    · show 2 < 14
      decide
  | login =>
    obtain ⟨-, hok, herror⟩ := advance_login I config task vpn env hat
    cases hcredentials : credentials config vpn env.secret_file with
    | ok pair =>
      rw [hok pair.1 pair.2 hcredentials, hat]
      cases env.control_path config with
      | ok found =>
        show 12 < 13
        decide
      | error kind =>
        show 2 < 13
        decide
    | error exc =>
      rw [herror exc hcredentials, hat]
      show 2 < 13
      decide
  | writing username password k =>
    have hk : k < 4 := h.2.2.2.1
    have hlength : k < (loginLines config username password).length := hk
    -- one line less to write, the polls after the last one, or the cleanup
    rcases advance_writing I config task vpn env hat (List.getElem?_eq_getElem hlength) with
      ⟨-, -, hnext, -⟩ | ⟨exc, -, hnext, -⟩
    · rw [hnext, hat]
      rcases pausedThen_cases (behindLine config k) (if k + 1 < 4 then
        .writing username password (k + 1) else .polling) with ⟨-, hthen⟩ | ⟨kind, -, hthen⟩
      · rw [hthen]
        split
        · show 8 + (4 - (k + 1)) < 8 + (4 - k)
          omega
        · show 7 < 8 + (4 - k)
          omega
      · rw [hthen]
        show 2 < 8 + (4 - k)
        omega
    · rw [hnext, hat]
      show 2 < 8 + (4 - k)
      omega
  | polling => exact absurd rfl hs
  | connected =>
    have hnext := (advance_report I config task vpn env hat rfl fun _ => rfl).1
    rw [hnext, hat]
    show 5 < 6
    decide
  | announced =>
    rw [(advance_announced I config task vpn env hat).1, hat]
    unfold afterAnnounced
    split
    · show 3 < 5
      decide
    · split
      · show 4 < 5
        decide
      · show 2 < 5
        decide
  | checking =>
    have hnext := (advance_report I config task vpn env hat rfl fun _ => rfl).1
    rw [hnext, hat]
    show 3 < 4
    decide
  | operating =>
    rw [(advance_operating I config task vpn env hat).1, hat]
    show 2 < 3
    decide
  | cleanup outcome =>
    rw [hat]
    rcases advance_cleanup I config task vpn env hat with ⟨_, hnext, _⟩ | ⟨_, _, hnext, _⟩
    · rw [hnext]
      show 0 < 2
      decide
    · rw [hnext]
      show 1 < 2
      decide
  | disconnecting outcome =>
    rw [hat]
    rcases (advance_disconnecting I config task vpn env hat).2.1 with ⟨_, hnext⟩ | ⟨_, _, hnext⟩
    · rw [hnext]
      show 0 < 1
      decide
    · rw [hnext]
      show 0 < 1
      decide

/-- The loop is left once the clock has reached the deadline. -/
theorem polling_left {p : Progress} (h : p.at_ = .inl .polling) {left : Nat}
    (hleft : p.deadline ≤ env.monotonic (readings p.trace + left)) :
    ∃ n, rank ((advance I config task vpn env)^[n] p).at_ < 7 := by
  -- each poll uses up one of the readings that are left before the deadline
  induction left generalizing p with
  | zero =>
    rcases polling_advance I config task vpn env h with hdone | hagain
    · exact ⟨1, hdone⟩
    · exact absurd hleft (not_le.mpr hagain.early)
  | succ left ih =>
    rcases polling_advance I config task vpn env h with hdone | hagain
    · exact ⟨1, hdone⟩
    · obtain ⟨n, hn⟩ := ih hagain.at_ (by
        rw [hagain.deadline, hagain.readings, Nat.add_assoc, Nat.add_comm 1]
        exact hleft)
      exact ⟨n + 1, hn⟩

/-- A run comes to its end when its clock passes every bound. -/
theorem drive_ends (hclock : Monotone env.monotonic) (hpasses : ∀ b, ∃ k, b ≤ env.monotonic k) :
    ∃ n outcome, (drive I config task vpn env n).at_ = .inr outcome := by
  suffices hends : ∀ r n, rank (drive I config task vpn env n).at_ = r →
      ∃ m outcome, (drive I config task vpn env m).at_ = .inr outcome from hends _ 0 rfl
  intro r
  -- the rank falls in every step but a poll, and the polls come to an end together
  induction r using Nat.strong_induction_on with
  | h r ih =>
    intro n hr
    rcases hat : (drive I config task vpn env n).at_ with s | outcome
    · by_cases hs : s = .polling
      · subst hs
        have hseven : r = 7 := by rw [← hr, hat]; rfl
        obtain ⟨k, hk⟩ := hpasses (drive I config task vpn env n).deadline
        have hlate : (drive I config task vpn env n).deadline ≤
            env.monotonic (readings (drive I config task vpn env n).trace + k) :=
          le_trans hk (hclock (Nat.le_add_left _ _))
        obtain ⟨m, hm⟩ := polling_left I config task vpn env hat hlate
        rw [← drive_add] at hm
        exact ih _ (hseven ▸ hm) (m + n) rfl
      · have hless := rank_advance I config task vpn env
          (phase_drive I config task vpn env n) hat hs
        rw [← drive_succ, hr] at hless
        exact ih _ hless (n + 1) rfl
    · exact ⟨n, outcome, hat⟩

end ends

/-! ### Runs that need the condition -/

section converse

variable {I : Interp} {config : RunnerDaemonConfig} {task : Task} {vpn : VpnCredentials}
  {env : Environment}

variable (config) in
/-- The commands look for the interface alone. -/
def OnlyAddr (calls : List (Invocation × CommandResult)) : Prop :=
  ∀ c ∈ calls, c.1 = addr_check config

theorem OnlyAddr.append {calls calls' : List (Invocation × CommandResult)}
    (h : OnlyAddr config calls) (h' : OnlyAddr config calls') : OnlyAddr config (calls ++ calls') :=
  List.forall_mem_append.mpr ⟨h, h'⟩

/-- Without a look at the routes there is no connection. -/
theorem OnlyAddr.not_hasUp {calls : List (Invocation × CommandResult)}
    (h : OnlyAddr config calls) : ¬HasUp config calls := by
  rintro ⟨before, later, rfl, before', addr, routes, rfl, -, -⟩
  have hroutes : routes_check config = addr_check config := h (routes_check config, routes) (by simp)
  cases congrArg Invocation.command hroutes

variable (I config task vpn env) in
/-- A run that ends without a look at the routes has raised `RunnerFailure`. -/
def FailsDown : Prop :=
  ∀ n outcome, (drive I config task vpn env n).at_ = .inr outcome →
    OnlyAddr config (commands (drive I config task vpn env n).trace) → RaisesFailure outcome

/-- Such a run has had no successful check. -/
theorem failsDown_of_laws (hlaws : ∀ n, Laws config (drive I config task vpn env n)) :
    FailsDown I config task vpn env :=
  fun n outcome hended hcalls => ((hlaws n).no_success hcalls.not_hasUp).2 outcome hended

/-- The session is down at every check, every write passes, and the clock shows
    a nanosecond more at each reading. -/
structure Down (config : RunnerDaemonConfig) (env : Environment) : Prop where
  addr : ∀ k, env.command k (addr_check config) = { returncode := 1, stdout := [] }
  writes : ∀ k, env.write_fault k = false
  clock : ∀ k, env.monotonic k = k

/-- Every check runs into its timeout, and every write passes. -/
structure Silent (config : RunnerDaemonConfig) (env : Environment) : Prop where
  addr : ∀ k, env.command k (addr_check config) =
    { returncode := 124, stdout := [], timed_out := true }
  writes : ∀ k, env.write_fault k = false

variable (I config task vpn env)

/-- A run that cleans up without a look at the routes cleans up after a
    `RunnerFailure`. -/
theorem FailsDown.raises (h : FailsDown I config task vpn env) {n : Nat} {exc : PyExc}
    (hat : (drive I config task vpn env n).at_ = .inl (.cleanup (.raised exc)))
    (hcalls : OnlyAddr config (commands (drive I config task vpn env n).trace)) :
    RaisesFailure (.raised exc) := by
  rcases advance_cleanup I config task vpn env hat with
    ⟨warning, hnext, hsame, -⟩ | ⟨-, -, hnext, hsame, -⟩
  · rw [← drive_succ] at hnext hsame
    exact h _ _ hnext (hsame ▸ hcalls)
  · rw [← drive_succ] at hnext hsame
    obtain ⟨hsame', hends, -⟩ := advance_disconnecting I config task vpn env hnext
    rw [← drive_succ] at hsame' hends
    have hcalls' := hsame'.trans hsame ▸ hcalls
    rcases hends with ⟨warning, hended⟩ | ⟨-, -, hended⟩
    · exact h _ _ hended hcalls'
    · obtain ⟨error_code, message, hfailure⟩ := h _ _ hended hcalls'
      cases hfailure

/-- So it does not clean up after an exception of the interpreter. -/
theorem FailsDown.no_builtin (h : FailsDown I config task vpn env) {n : Nat} {kind : Builtin}
    {text : PyStr}
    (hcalls : OnlyAddr config (commands (drive I config task vpn env n).trace)) :
    (drive I config task vpn env n).at_ ≠ .inl (.cleanup (.raised (.builtin kind text))) := by
  intro hat
  obtain ⟨error_code, message, hfailure⟩ := FailsDown.raises I config task vpn env h hat hcalls
  cases hfailure

/-- The failure to encode the disconnect sequence leaves `run`. -/
theorem advance_unencodable {p : Progress} {outcome : Outcome}
    (h : p.at_ = .inl (.disconnecting outcome)) (hfault : fault env p.trace = false)
    (hscalar : ¬(controlSequence (config.univpn_disconnect_sequence.getD [])).Scalar) :
    (advance I config task vpn env p).at_ = .inr (.raised (.builtin .unicodeEncodeError [])) := by
  have hstep : step config task vpn (.disconnecting outcome)
      (action I config task env p (.disconnecting outcome)) =
      some { next := .inr (.raised (.builtin .unicodeEncodeError [])) } := by
    simp only [step, action, append, hfault, Bool.false_eq_true, if_false, if_neg hscalar]
  rw [advance_inl h hstep]

variable {env}

/-- A check that finds the session down takes one command. -/
theorem check_down (h : Down config env) (trace : List Effect) :
    probed config env trace = .ok false ∧
      OnlyAddr config (commands (check_effects config env trace)) := by
  have haddr : addr_result config env trace = { returncode := 1, stdout := [] } := h.addr _
  rw [commands_check_effects]
  unfold probed
  rw [haddr]
  exact ⟨rfl, List.forall_mem_singleton.mpr rfl⟩

/-- So does one that times out. -/
theorem check_silent (h : Silent config env) (trace : List Effect) :
    (∃ exc, probed config env trace = .error exc) ∧
      OnlyAddr config (commands (check_effects config env trace)) := by
  have haddr : addr_result config env trace =
      { returncode := 124, stdout := [], timed_out := true } := h.addr _
  rw [commands_check_effects]
  unfold probed
  rw [haddr]
  exact ⟨⟨_, rfl⟩, List.forall_mem_singleton.mpr rfl⟩

/-- A session that is down and managed comes to the login after one command. -/
theorem login_down (h : Down config env) (hmanage : config.manage_vpn_session = true) :
    (drive I config task vpn env 2).at_ = .inl .login ∧
      OnlyAddr config (commands (drive I config task vpn env 2).trace) := by
  have hstart : (drive I config task vpn env 1).at_ = .inl .preflight := rfl
  obtain ⟨hnext, htrace⟩ := advance_preflight I config task vpn env hstart
  obtain ⟨hprobed, hcalls⟩ := check_down config h (drive I config task vpn env 1).trace
  have hlogin : afterPreflight config (.ok false) = .login := if_pos hmanage
  rw [drive_succ, hnext, htrace, hprobed, hlogin, commands_append]
  exact ⟨rfl, hcalls⟩

variable {vpn}

/-- The control path is looked up before the first line. -/
theorem control_path_down (h : Down config env) (hfails : FailsDown I config task vpn env)
    (hmanage : config.manage_vpn_session = true) {username password : PyStr}
    (hcredentials : credentials config vpn env.secret_file = .ok (username, password)) :
    (∃ found, env.control_path config = .ok found) ∧
    (drive I config task vpn env 3).at_ = .inl (.writing username password 0) ∧
    OnlyAddr config (commands (drive I config task vpn env 3).trace) := by
  obtain ⟨hlogin, hcalls⟩ := login_down I config task vpn h hmanage
  obtain ⟨htrace, hok, -⟩ := advance_login I config task vpn env hlogin
  have hnext := hok username password hcredentials
  rw [← drive_succ] at htrace hnext
  have hcalls' : OnlyAddr config (commands (drive I config task vpn env 3).trace) := by
    rw [htrace, commands_append, commands_credential_records, List.append_nil]
    exact hcalls
  cases hpath : env.control_path config with
  | ok found =>
    rw [hpath] at hnext
    exact ⟨⟨found, rfl⟩, hnext, hcalls'⟩
  | error kind =>
    rw [hpath] at hnext
    exact absurd hnext (FailsDown.no_builtin I config task vpn env hfails hcalls')

/-- The login goes on as long as its lines can be encoded and what follows them
    does not raise. -/
theorem writing_down (h : Down config env) (hfails : FailsDown I config task vpn env)
    (hmanage : config.manage_vpn_session = true) {username password : PyStr}
    (hcredentials : credentials config vpn env.secret_file = .ok (username, password)) {k : Nat}
    (hk : k ≤ 4) :
    (∀ line ∈ (loginLines config username password).take k, PyStr.Scalar line) ∧
    (∀ j < k, behindLine config j = .ok ()) ∧
    (drive I config task vpn env (3 + k)).at_ =
      .inl (if k < 4 then .writing username password k else .polling) ∧
    OnlyAddr config (commands (drive I config task vpn env (3 + k)).trace) := by
  -- the run fails with `RunnerFailure` alone, so each line is written and each pause accepted
  induction k with
  | zero =>
    obtain ⟨-, hat, hcalls⟩ := control_path_down I config task h hfails hmanage hcredentials
    exact ⟨List.forall_mem_nil _, fun j hj => absurd hj (Nat.not_lt_zero j), hat, hcalls⟩
  | succ k ih =>
    obtain ⟨hlines, hpauses, hat, hcalls⟩ := ih (by omega)
    have hlength : k < (loginLines config username password).length := hk
    rw [if_pos (show k < 4 from hlength)] at hat
    rcases advance_writing I config task vpn env hat
      (List.getElem?_eq_getElem hlength) with ⟨-, hscalar, hnext, htrace⟩ | ⟨exc, hexc, hnext, htrace⟩
    · rw [← drive_succ, Nat.add_assoc] at hnext htrace
      have hcalls' : OnlyAddr config (commands (drive I config task vpn env (3 + (k + 1))).trace) := by
        rw [htrace, List.append_cons, commands_append, commands_append, commands_login_records,
          List.append_nil]
        exact hcalls.append (List.forall_mem_nil _)
      rcases pausedThen_cases (behindLine config k) (if k + 1 < 4 then
        .writing username password (k + 1) else .polling) with ⟨hpause, hthen⟩ | ⟨kind, -, hthen⟩
      · rw [hthen] at hnext
        refine ⟨?_, ?_, hnext, hcalls'⟩
        · intro line hline
          rw [← List.take_concat_get' _ k hlength] at hline
          rcases List.mem_append.mp hline with hline | hline
          · exact hlines line hline
          · rw [List.mem_singleton.mp hline]
            exact hscalar
        · intro j hj
          rcases Nat.lt_succ_iff_lt_or_eq.mp hj with hj | rfl
          · exact hpauses j hj
          · exact hpause
      · rw [hthen] at hnext
        exact absurd hnext (FailsDown.no_builtin I config task vpn env hfails hcalls')
    · rw [← drive_succ, Nat.add_assoc] at hnext htrace
      have hcalls' : OnlyAddr config (commands (drive I config task vpn env (3 + (k + 1))).trace) := by
        rw [htrace, commands_append]
        exact hcalls.append (List.forall_mem_nil _)
      rcases hexc with ⟨hfault, -⟩ | ⟨-, hexc⟩
      · have hpass : fault env (drive I config task vpn env (3 + k)).trace = false := h.writes _
        rw [hpass] at hfault
        cases hfault
      · rw [hexc] at hnext
        exact absurd hnext (FailsDown.no_builtin I config task vpn env hfails hcalls')

/-- The last line of the login starts the wait. -/
theorem wait_begins {p : Progress} {username password : PyStr}
    (hat : p.at_ = .inl (.writing username password 3))
    (hnext : (advance I config task vpn env p).at_ = .inl .polling) :
    (advance I config task vpn env p).deadline =
      now env p.trace + config.univpn_login_timeout_sec * 1000000000 ∧
    readings (advance I config task vpn env p).trace = readings p.trace + 1 := by
  rcases advance_writing I config task vpn env hat rfl with
    ⟨-, -, hat', htrace⟩ | ⟨exc, -, hat', -⟩
  -- the wait has begun, so neither the pause nor the sum for the deadline has raised
  · rw [hnext] at hat'
    rcases pausedThen_cases (behindLine config 3) .polling with ⟨hpause, -⟩ | ⟨kind, -, hthen⟩
    · obtain ⟨hdelay, hdeadline⟩ := (behindLine_ok_iff config 3).mp hpause
      constructor
      · cases hstep : step config task vpn (.writing username password 3)
            (action I config task env p (.writing username password 3)) with
        | none =>
          rw [advance_none hat hstep, hat] at hnext
          cases hnext
        | some st =>
          rw [advance_inl hat hstep]
          show deadline config env p (.writing username password 3) = _
          unfold deadline
          simp only [hpause]
      · have hsleep : sleep config.univpn_post_login_wait_sec = .ok () := hdelay
        unfold readings
        rw [htrace]
        unfold login_records
        simp only [hsleep, hdeadline le_rfl, List.countP_append]
        rfl
    · rw [if_neg (by decide), hthen] at hat'
      cases hat'
  · rw [hnext] at hat'
    cases hat'

/-- A secret file that cannot be decoded would raise a `UnicodeDecodeError`. -/
theorem readable_down (h : Down config env) (hfails : FailsDown I config task vpn env)
    (hmanage : config.manage_vpn_session = true) (hmode : vpn.mode = "container_secret".py)
    (hlogin : config.univpn_login_mode = "container_secret".py) {kind : Builtin}
    (hsecret : env.secret_file = .error kind) : kind = .osError := by
  by_contra hkind
  obtain ⟨hat, hcalls⟩ := login_down I config task vpn h hmanage
  obtain ⟨htrace, -, herror⟩ := advance_login I config task vpn env hat
  have hnext := herror _ (credentials_undecodable hmode hlogin hsecret hkind)
  rw [← drive_succ] at htrace hnext
  refine FailsDown.no_builtin I config task vpn env hfails ?_ hnext
  rw [htrace, commands_append, commands_credential_records, List.append_nil]
  exact hcalls

/-- A run whose first check times out comes to the disconnect sequence, which
    it can therefore encode. -/
theorem disconnect_silent (h : Silent config env) (hfails : FailsDown I config task vpn env)
    (hstop : config.stop_vpn_after_task = true)
    (hsequence : config.univpn_disconnect_sequence.getD [] ≠ []) :
    (controlSequence (config.univpn_disconnect_sequence.getD [])).Scalar := by
  by_contra hscalar
  -- begun, preflight, cleanup, disconnecting: four steps, and one command
  have hstart : (drive I config task vpn env 1).at_ = .inl .preflight := rfl
  obtain ⟨hat, htrace⟩ := advance_preflight I config task vpn env hstart
  obtain ⟨⟨exc, hprobed⟩, hcalls⟩ := check_silent config h (drive I config task vpn env 1).trace
  rw [hprobed] at hat
  rw [← drive_succ] at hat htrace
  have hcalls' : OnlyAddr config (commands (drive I config task vpn env 2).trace) := by
    rw [htrace, commands_append]
    exact hcalls
  obtain ⟨hnext, hsame, -⟩ := advance_stopping I config task vpn env hat hstop hsequence
  rw [← drive_succ] at hnext hsame
  have hended := advance_unencodable I config task vpn env hnext (h.writes _) hscalar
  have hsame' := (advance_disconnecting I config task vpn env hnext).1
  rw [← drive_succ] at hended hsame'
  obtain ⟨error_code, message, hfailure⟩ := hfails 4 _ hended (hsame'.trans hsame ▸ hcalls')
  cases hfailure

/-- With time for the login the session is polled again, behind a pause. -/
theorem poll_interval_down (h : Down config env) (hfails : FailsDown I config task vpn env)
    (hlogs : LogsIn config vpn env.secret_file) (htime : 0 < config.univpn_login_timeout_sec) :
    sleep config.univpn_connect_poll_interval_sec = .ok () := by
  obtain ⟨hmanage, username, password, hcredentials⟩ := hlogs
  obtain ⟨-, -, hlast, -⟩ :=
    writing_down I config task h hfails hmanage hcredentials (k := 3) (by decide)
  obtain ⟨-, -, hat, hcalls⟩ := writing_down I config task h hfails hmanage hcredentials (le_refl 4)
  -- the first poll comes a nanosecond after the wait began, and there is time left
  obtain ⟨hdeadline, hreadings⟩ := wait_begins I config task hlast hat
  obtain ⟨hnext, -, htrace⟩ := advance_polling I config task vpn env hat
  obtain ⟨hprobed, hchecked⟩ := check_down config h (drive I config task vpn env 7).trace
  have hearly : ¬(drive I config task vpn env 7).deadline ≤
      now env (drive I config task vpn env 7).trace := by
    have hnow : now env (drive I config task vpn env 7).trace =
        (readings (drive I config task vpn env 7).trace : Int) := h.clock _
    have hthen : now env (drive I config task vpn env 6).trace =
        (readings (drive I config task vpn env 6).trace : Int) := h.clock _
    rw [← drive_succ] at hdeadline hreadings
    have hlater : readings (drive I config task vpn env 7).trace =
        readings (drive I config task vpn env 6).trace + 1 := hreadings
    have hset : (drive I config task vpn env 7).deadline =
        now env (drive I config task vpn env 6).trace +
          config.univpn_login_timeout_sec * 1000000000 := hdeadline
    rw [hset, hnow, hlater, hthen]
    omega
  rw [hprobed] at hnext htrace
  rcases afterPoll_cases config ((drive I config task vpn env 7).deadline ≤
      now env (drive I config task vpn env 7).trace) with
    ⟨hlate, -⟩ | ⟨-, hsleep, -⟩ | ⟨kind, -, -, hthen⟩
  · exact absurd hlate hearly
  · exact hsleep
  · rw [hthen] at hnext
    rw [← drive_succ] at hnext htrace
    refine absurd hnext (FailsDown.no_builtin I config task vpn env hfails ?_)
    rw [htrace, commands_append, commands_append]
    exact hcalls.append (hchecked.append (List.forall_mem_nil _))

/-- When the runs fail with `RunnerFailure` both where the session is down and
    where the check times out, nothing unforeseen can stop them. -/
theorem foreseen_of_fails (down silent : Environment) (hdown : Down config down)
    (hsilent : Silent config silent) (hdownFails : FailsDown I config task vpn down)
    (hsilentFails : FailsDown I config task vpn silent) :
    Foreseen config vpn down.secret_file (down.control_path config) := by
  have hlines : config.manage_vpn_session = true → ∀ username password,
      credentials config vpn down.secret_file = .ok (username, password) →
      (∀ line ∈ loginLines config username password, PyStr.Scalar line) ∧
        ∀ k < 4, behindLine config k = .ok () := by
    intro hmanage username password hcredentials
    obtain ⟨hlines, hpauses, -⟩ :=
      writing_down I config task hdown hdownFails hmanage hcredentials (le_refl 4)
    exact ⟨hlines, hpauses⟩
  have hpauses : LogsIn config vpn down.secret_file → ∀ k < 4, behindLine config k = .ok () := by
    rintro ⟨hmanage, username, password, hcredentials⟩
    exact (hlines hmanage username password hcredentials).2
  refine ⟨⟨?_, ?_, ?_⟩, ?_, ?_, ?_, ?_⟩
  · intro hmanage hmode hlogin kind hsecret
    exact readable_down I config task hdown hdownFails hmanage hmode hlogin hsecret
  · intro hmanage username password hcredentials
    exact (hlines hmanage username password hcredentials).1
  · intro hstop hsequence
    exact disconnect_silent I config task hsilent hsilentFails hstop hsequence
  · rintro ⟨hmanage, username, password, hcredentials⟩
    exact (control_path_down I config task hdown hdownFails hmanage hcredentials).1
  · intro hlogs k hk
    exact ((behindLine_ok_iff config k).mp (hpauses hlogs k hk)).1
  · intro hlogs
    exact ((behindLine_ok_iff config 3).mp (hpauses hlogs 3 (by decide))).2 le_rfl
  · intro hlogs htime
    exact poll_interval_down I config task hdown hdownFails hlogs htime

/-- A session that is down, with this secret file and this control path. -/
def downWith (secret_file : Except Builtin (List PyStr)) (control_path : Except Builtin Bool) :
    Environment :=
  { downEnvironment with
    monotonic := fun k => k
    secret_file := secret_file
    path_exists := fun _ => control_path }

/-- The first command runs into its timeout. -/
def silentWith (secret_file : Except Builtin (List PyStr)) (control_path : Except Builtin Bool) :
    Environment :=
  { downWith secret_file control_path with
    command := fun _ _ => { returncode := 124, stdout := [], timed_out := true } }

theorem downWith_monotone (secret_file : Except Builtin (List PyStr))
    (control_path : Except Builtin Bool) : Monotone (downWith secret_file control_path).monotonic :=
  fun _ _ hab => Int.ofNat_le.mpr hab

theorem downWith_down (secret_file : Except Builtin (List PyStr))
    (control_path : Except Builtin Bool) : Down config (downWith secret_file control_path) :=
  ⟨fun _ => rfl, fun _ => rfl, fun _ => rfl⟩

variable {secret_file : Except Builtin (List PyStr)} {control_path : Except Builtin Bool}

/-- Nothing unforeseen stops runs that keep the laws. -/
theorem foreseen_of_laws
    (hlaws : ∀ env : Environment, Monotone env.monotonic → env.secret_file = secret_file →
      env.control_path config = control_path →
      ∀ n, Laws config (drive I config task vpn env n)) :
    Foreseen config vpn secret_file control_path := by
  have hdown := hlaws (downWith secret_file control_path)
    (downWith_monotone secret_file control_path) rfl rfl
  have hsilent := hlaws (silentWith secret_file control_path)
    (downWith_monotone secret_file control_path) rfl rfl
  exact foreseen_of_fails I config task (downWith secret_file control_path)
    (silentWith secret_file control_path) (downWith_down config _ _) ⟨fun _ => rfl, fun _ => rfl⟩
    (failsDown_of_laws hdown) (failsDown_of_laws hsilent)

end converse

/-- All traces of runs with one secret file and one control path obey the laws,
    and all runs whose clock passes every bound end, exactly when nothing but
    `RunnerFailure` can stop such a run without a connection: every text that
    it may write can be encoded, the secret file that it reads can be decoded,
    the control path can be looked up, `time.sleep` accepts its delays, and its
    deadline can be computed. -/
theorem connect_before_use_iff (I : Interp) (config : RunnerDaemonConfig) (task : Task)
    (vpn : VpnCredentials) (secret_file : Except Builtin (List PyStr))
    (control_path : Except Builtin Bool) :
    (∀ env : Environment, Monotone env.monotonic → env.secret_file = secret_file →
      env.control_path config = control_path →
      (∀ n, Laws config (drive I config task vpn env n)) ∧
      ((∀ b, ∃ k, b ≤ env.monotonic k) →
        ∃ n outcome, (drive I config task vpn env n).at_ = .inr outcome)) ↔
    Foreseen config vpn secret_file control_path := by
  constructor
  · intro hall
    exact foreseen_of_laws I config task fun env hclock hsecret hpath =>
      (hall env hclock hsecret hpath).1
  · intro hforeseen env hclock hsecret hpath
    subst hsecret
    subst hpath
    exact ⟨laws_drive hclock hforeseen, drive_ends I config task vpn env hclock⟩

/-! ### A password with a lone surrogate -/

/-- What the body `\x7b"mode": "inline_once", "username": "u", "password":
    "\ud800"\x7d` asks for. -/
def surrogateCredentials : VpnCredentials :=
  { mode := "inline_once".py, username := "u".py, password := [0xD800] }

theorem downEnvironment_monotone : Monotone downEnvironment.monotonic := by
  intro a b hab
  show (a : Int) * (60 * 1000000000) ≤ (b : Int) * (60 * 1000000000)
  omega

/-- The request is accepted, no check succeeds, and the run ends with
    `UnicodeEncodeError`. -/
theorem surrogate_escapes :
    let ended := drive sampleInterp sampleDaemonConfig (sampleTask "basic_status" 5)
      surrogateCredentials downEnvironment 8
    build_vpn [("mode".py, .str "inline_once".py), ("username".py, .str "u".py),
      ("password".py, .str [0xD800])] "" = .ok surrogateCredentials ∧
    Monotone downEnvironment.monotonic ∧
    ended.at_ = .inr (.raised (.builtin .unicodeEncodeError [])) ∧
    ¬Laws sampleDaemonConfig ended := by
  intro ended
  have hended : ended.at_ = .inr (.raised (.builtin .unicodeEncodeError [])) := rfl
  refine ⟨rfl, downEnvironment_monotone, hended, fun hlaws => ?_⟩
  have hcalls : OnlyAddr sampleDaemonConfig (commands ended.trace) :=
    List.forall_mem_singleton.mpr rfl
  obtain ⟨error_code, message, hfailure⟩ := (hlaws.no_success hcalls.not_hasUp).2 _ hended
  cases hfailure

end BoVpnAgent.ContainerNamespaceExecutor

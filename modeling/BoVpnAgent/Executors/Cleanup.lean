import BoVpnAgent.Executors.ConnectBeforeUse

/-! # Cleanup keeps the outcome

    The `finally` clause of `ContainerNamespaceExecutor.run` runs after the
    result has been built, so its warnings reach the result only through the
    list they share; and an exception that it raises takes the place of
    whatever the `try` body ended with.

    This file defines:
    - `BodyStep`: how a step of the `try` body can end
    - `OutcomeKept`: the result or the failure of the body comes out as it is,
      with the warnings of the cleanup behind those of the operation

    `_cleanup` handles `OSError` alone, so the outcome is kept on all runs
    exactly when the disconnect sequence can be encoded.
-/

namespace BoVpnAgent.ContainerNamespaceExecutor

/-! ### Steps of the `try` body -/

section body

variable (I : Interp) (config : RunnerDaemonConfig) (task : Task) (vpn : VpnCredentials)
  (env : Environment)

/-- Where a step of the `try` body leads. -/
inductive BodyStep (p : Progress) (s : Session) : Session ⊕ Outcome → Prop where
  | goes_on (next : Session) (hnext : ¬Closing (.inl next)) : BodyStep p s (.inl next)
  | fails (exc : PyExc) (hfailure : RaisesFailure (.raised exc)) :
      BodyStep p s (.inl (.cleanup (.raised exc)))
  /-- `_credentials` raises. -/
  | refused (exc : PyExc) (hs : s = .login)
      (herror : credentials config vpn env.secret_file = .error exc) :
      BodyStep p s (.inl (.cleanup (.raised exc)))
  /-- The control path cannot be looked up. -/
  | unfound (kind : Builtin) (hs : s = .login)
      (hcredentials : ∃ username password,
        credentials config vpn env.secret_file = .ok (username, password))
      (hpath : env.control_path config = .error kind) :
      BodyStep p s (.inl (.cleanup (.raised (.builtin kind []))))
  /-- The delay behind a line of the login is refused, or the deadline behind
      the last one. -/
  | no_pause (username password : PyStr) (written : Nat) (kind : Builtin)
      (hs : s = .writing username password written) (hpause : behindLine config written = .error kind) :
      BodyStep p s (.inl (.cleanup (.raised (.builtin kind []))))
  /-- `time.sleep` refuses the interval between two polls. -/
  | no_interval (kind : Builtin) (hs : s = .polling) (hearly : ¬p.deadline ≤ now env p.trace)
      (hsleep : sleep config.univpn_connect_poll_interval_sec = .error kind) :
      BodyStep p s (.inl (.cleanup (.raised (.builtin kind []))))
  /-- A line of the login cannot be encoded. -/
  | unencodable (username password line : PyStr) (written : Nat)
      (hs : s = .writing username password written)
      (hline : line ∈ loginLines config username password) (hscalar : ¬line.Scalar) :
      BodyStep p s (.inl (.cleanup (.raised (.builtin .unicodeEncodeError []))))
  | operated (hs : s = .operating) :
      BodyStep p s (.inl (.cleanup (outcomeOf (operated I config task env p.trace).1)))

/-- The body goes on, or it leaves for the `finally` clause with an exception
    or with the outcome of the operation. -/
theorem bodyStep_advance {p : Progress} {s : Session} (hat : p.at_ = .inl s)
    (hbody : ¬Closing (.inl s)) :
    BodyStep I config task vpn env p s (advance I config task vpn env p).at_ := by
  cases s with
  | begun =>
    rw [(advance_report I config task vpn env hat rfl fun _ => rfl).1]
    exact .goes_on _ id
  | preflight =>
    rw [(advance_preflight I config task vpn env hat).1]
    cases hprobed : probed config env p.trace with
    | error exc => exact .fails exc (failure_of_probed hprobed)
    | ok up =>
      cases up with
      | true => exact .goes_on _ id
      | false =>
        by_cases hmanage : config.manage_vpn_session = true
        · have hnext : afterPreflight config (.ok false) = .login := if_pos hmanage
          rw [hnext]
          exact .goes_on _ id
        · have hnext : afterPreflight config (.ok false) = .cleanup (.raised (unmanaged config)) :=
            if_neg hmanage
          rw [hnext]
          exact .fails _ ⟨_, _, rfl⟩
  | login =>
    obtain ⟨-, hok, herror⟩ := advance_login I config task vpn env hat
    cases hcredentials : credentials config vpn env.secret_file with
    | ok pair =>
      rw [hok pair.1 pair.2 hcredentials]
      cases hpath : env.control_path config with
      | ok found => exact .goes_on _ id
      | error kind => exact .unfound kind rfl ⟨pair.1, pair.2, hcredentials⟩ hpath
    | error exc =>
      rw [herror exc hcredentials]
      exact .refused exc rfl hcredentials
  | writing username password written =>
    cases hline : (loginLines config username password)[written]? with
    | none =>
      -- no such line: the machine has no step
      rw [advance_none hat (by simp only [step, action, login_write, hline]), hat]
      exact .goes_on _ hbody
    | some line =>
      rcases advance_writing I config task vpn env hat hline with
        ⟨-, -, hnext, -⟩ | ⟨exc, ⟨-, hexc⟩ | ⟨hscalar, hexc⟩, hnext, -⟩
      · rw [hnext]
        rcases pausedThen_cases (behindLine config written) (if written + 1 < 4 then
          .writing username password (written + 1) else .polling) with ⟨-, hthen⟩ | ⟨kind, hpause, hthen⟩
        · rw [hthen]
          split
          · exact .goes_on _ id
          · exact .goes_on _ id
        · rw [hthen]
          exact .no_pause username password written kind rfl hpause
      · rw [hnext, hexc]
        exact .fails _ ⟨_, _, rfl⟩
      · rw [hnext, hexc]
        exact .unencodable username password line written rfl (List.mem_of_getElem? hline) hscalar
  | polling =>
    rw [(advance_polling I config task vpn env hat).1]
    cases hprobed : probed config env p.trace with
    | error exc => exact .fails exc (failure_of_probed hprobed)
    | ok up =>
      cases up with
      | true => exact .goes_on _ id
      | false =>
        -- down: poll again, unless the deadline has passed
        rcases afterPoll_cases config (p.deadline ≤ now env p.trace) with
          ⟨-, hthen⟩ | ⟨-, -, hthen⟩ | ⟨kind, hlate, hsleep, hthen⟩
        · rw [hthen]
          exact .fails _ ⟨_, _, rfl⟩
        · rw [hthen]
          exact .goes_on _ id
        · rw [hthen]
          exact .no_interval kind rfl hlate hsleep
  | connected =>
    rw [(advance_report I config task vpn env hat rfl fun _ => rfl).1]
    exact .goes_on _ id
  | announced =>
    rw [(advance_announced I config task vpn env hat).1]
    unfold afterAnnounced
    split
    · exact .goes_on _ id
    · split
      · exact .goes_on _ id
      · exact .fails _ ⟨_, _, rfl⟩
  | checking =>
    rw [(advance_report I config task vpn env hat rfl fun _ => rfl).1]
    exact .goes_on _ id
  | operating =>
    rw [(advance_operating I config task vpn env hat).1]
    exact .operated rfl
  | cleanup outcome => exact absurd trivial hbody
  | disconnecting outcome => exact absurd trivial hbody

end body

/-! ### The `finally` clause -/

section closing

variable (config : RunnerDaemonConfig)

/-- `self.config.univpn_disconnect_sequence or ""` -/
def sequence : PyStr := config.univpn_disconnect_sequence.getD []

/-- A sequence that `_cleanup` writes has no lone surrogate. -/
def SequenceEncodes : Prop :=
  config.stop_vpn_after_task = true → sequence config ≠ [] → (sequence config).Scalar

/-- The warnings of `_cleanup`; `fault` says that writing raises `OSError`. -/
def cleanup_warning (fault : Bool) : Option String :=
  if config.stop_vpn_after_task = false then none
  else if sequence config = [] then
    some "UniVPN cleanup requested, but disconnect sequence is not configured"
  else if fault then some "UniVPN cleanup failed"
  else none

/-- Stopping is enabled, a sequence is configured, and its write succeeds. -/
def Stops (fault : Bool) : Prop :=
  config.stop_vpn_after_task = true ∧ sequence config ≠ [] ∧
    append (controlSequence (sequence config)) fault = .ok (controlSequence (sequence config))

instance (fault : Bool) : Decidable (Stops config fault) :=
  inferInstanceAs (Decidable (_ ∧ _ ∧ append _ _ = _))

/-- The warnings of an operation, as a list. -/
def operation_warnings (result : RunnerResult) : List Json :=
  (orEmptyList result.warnings).iter?.getD []

/-- What `_cleanup` does to a run whose `try` body has ended with `outcome`. -/
structure OutcomeKept (env : Environment) (before after : Progress) (outcome ended : Outcome) :
    Prop where
  /-- A result keeps its fields, and the warnings of the cleanup come behind
      its own. -/
  returned : ∀ result, outcome = .returned result →
    ended = .returned
      { summary := result.summary
        data := result.data
        artifacts := result.artifacts
        warnings := .arr (operation_warnings result ++
          ((cleanup_warning config (fault env before.trace)).map fun w => Json.str w.py).toList) }
  /-- A failure is raised as it is. -/
  raised : ∀ exc, outcome = .raised exc → ended = .raised exc
  /-- The disconnect sequence is written once when it can be, and never
      before. -/
  written : writes after.trace = writes before.trace ++
    if Stops config (fault env before.trace) then
      [(.disconnect, controlSequence (sequence config))] else []
  none_before : ∀ text, (ControlBlock.disconnect, text) ∉ writes before.trace
  /-- No other command follows. -/
  commands : commands after.trace = commands before.trace

variable {config}

/-- A line break is no surrogate. -/
theorem not_surrogate_of_lineBreak {c : CodePoint} (h : PyStr.isLineBreak c = true) :
    c.isSurrogate = false := by
  unfold PyStr.isLineBreak at h
  unfold CodePoint.isSurrogate
  simp only [List.contains_cons, List.contains_nil, Bool.or_eq_true, Bool.and_eq_true,
    decide_eq_true_eq, beq_iff_eq, Bool.or_false] at h
  rw [Bool.and_eq_false_iff, decide_eq_false_iff_not, decide_eq_false_iff_not]
  omega

/-- The pieces of a text hold what the text holds, but for its line breaks.  A
    carriage return has ended its line. -/
theorem scalar_splitlinesFrom (line : PyStr) (cr : Bool) (s : PyStr) (hcr : cr = true → line = []) :
    (∀ l ∈ PyStr.splitlinesFrom line cr s, PyStr.Scalar l) ↔ line.Scalar ∧ s.Scalar := by
  induction s generalizing line cr with
  | nil =>
    unfold PyStr.splitlinesFrom
    split
    · next hline => simp [hline]
    · simp
  | cons c s ih =>
    unfold PyStr.splitlinesFrom
    rw [PyStr.scalar_cons]
    split
    · next hfeed =>
      have hc : c.isSurrogate = false := by
        unfold CodePoint.isSurrogate
        rw [hfeed.2]
        rfl
      rw [ih [] false (fun h => absurd h Bool.false_ne_true), hcr hfeed.1]
      simp [hc]
    · split
      · next hbreak =>
        have hc := not_surrogate_of_lineBreak hbreak
        rw [List.forall_mem_cons, ih [] _ (fun _ => rfl)]
        simp [hc]
      · rw [ih (line ++ [c]) false (fun h => absurd h Bool.false_ne_true), PyStr.scalar_append,
          PyStr.scalar_cons]
        simp [and_assoc]

/-- The text that is written has a lone surrogate only if the sequence has. -/
theorem scalar_controlSequence (s : PyStr) : (controlSequence s).Scalar ↔ s.Scalar := by
  have hfeed : PyStr.Scalar [0x0A] := by decide
  have hpieces : (PyStr.join [0x0A] (PyStr.splitlines s)).Scalar ↔ s.Scalar := by
    rw [PyStr.scalar_join hfeed]
    unfold PyStr.splitlines
    rw [scalar_splitlinesFrom [] false s fun _ => rfl]
    simp
  have hends : ∀ t : PyStr, PyStr.Scalar (t.rdropWhile (· = 0x0A)) ↔ t.Scalar := by
    intro t
    induction t using List.reverseRecOn with
    | nil => rfl
    | append_singleton t c ih =>
      by_cases hc : c = 0x0A
      · have hdrop : (t ++ [c]).rdropWhile (· = 0x0A) = t.rdropWhile (· = 0x0A) :=
          List.rdropWhile_concat_pos _ _ _ (decide_eq_true hc)
        rw [hdrop, ih, PyStr.scalar_append, hc]
        simp [hfeed]
      · have hkeep : (t ++ [c]).rdropWhile (· = 0x0A) = t ++ [c] :=
          List.rdropWhile_concat_neg _ _ _ (by simpa using hc)
        rw [hkeep]
  unfold controlSequence
  rw [PyStr.scalar_append, hends, hpieces]
  simp [hfeed]

variable (I : Interp) (task : Task) (vpn : VpnCredentials) (env : Environment)

/-- A `finally` clause that has nothing to write ends in one step. -/
theorem finally_ends {p : Progress} {outcome : Outcome} {warning : Option String}
    {reported : Option (TaskState × String)} (h : p.at_ = .inl (.cleanup outcome))
    (hstep : step config task vpn (.cleanup outcome) (action I config task env p (.cleanup outcome)) =
      some { next := .inr (warn warning outcome), report := reported }) :
    let q := advance I config task vpn env (advance I config task vpn env p)
    q.at_ = .inr (warn warning outcome) ∧ commands q.trace = commands p.trace ∧
      writes q.trace = writes p.trace := by
  intro q
  have hnext := advance_inl h hstep
  have hq : q = advance I config task vpn env p := advance_ended (congrArg Progress.at_ hnext)
  rw [hq, hnext, commands_append, writes_append]
  cases reported with
  | none => exact ⟨rfl, List.append_nil _, List.append_nil _⟩
  | some r => exact ⟨rfl, List.append_nil _, List.append_nil _⟩

/-- A run in the `finally` clause is over after two steps, with the outcome of
    the `try` body. -/
theorem advance_finally {p : Progress} {outcome : Outcome}
    (h : p.at_ = .inl (.cleanup outcome)) (hencodes : SequenceEncodes config) :
    let q := advance I config task vpn env (advance I config task vpn env p)
    q.at_ = .inr (warn (cleanup_warning config (fault env p.trace)) outcome) ∧
      commands q.trace = commands p.trace ∧
      writes q.trace = writes p.trace ++ if Stops config (fault env p.trace) then
        [(.disconnect, controlSequence (sequence config))] else [] := by
  intro q
  by_cases hstop : config.stop_vpn_after_task = false
  · have hnone : ¬Stops config (fault env p.trace) := by
      intro hstops
      rw [hstops.1] at hstop
      cases hstop
    have hwarning : cleanup_warning config (fault env p.trace) = none := if_pos hstop
    rw [hwarning, if_neg hnone, List.append_nil]
    exact finally_ends I task vpn env h (if_pos hstop)
  by_cases hsequence : sequence config = []
  · have hnone : ¬Stops config (fault env p.trace) := fun hstops => hstops.2.1 hsequence
    have hwarning : cleanup_warning config (fault env p.trace) =
        some "UniVPN cleanup requested, but disconnect sequence is not configured" :=
      (if_neg hstop).trans (if_pos hsequence)
    rw [hwarning, if_neg hnone, List.append_nil]
    exact finally_ends I task vpn env h ((if_neg hstop).trans (if_pos hsequence))
  -- the state is reported first, and the write comes with the second step
  have hstop' : config.stop_vpn_after_task = true := Bool.not_eq_false _ ▸ hstop
  have hreport : step config task vpn (.cleanup outcome)
      (action I config task env p (.cleanup outcome)) =
      report .cleanup "Cleanup UniVPN session" (.disconnecting outcome) :=
    (if_neg hstop).trans (if_neg hsequence)
  obtain ⟨hat, htrace⟩ := advance_report I config task vpn env h hreport fun _ => rfl
  have hsame : fault env (advance I config task vpn env p).trace = fault env p.trace := by
    unfold fault
    rw [htrace, List.countP_append]
    rfl
  have hscalar : (controlSequence (sequence config)).Scalar :=
    (scalar_controlSequence _).mpr (hencodes hstop' hsequence)
  have hwarning : cleanup_warning config (fault env p.trace) =
      if fault env p.trace then some "UniVPN cleanup failed" else none :=
    (if_neg hstop).trans (if_neg hsequence)
  -- the write of the sequence may fail, which is a warning and no more
  by_cases hfault : fault env p.trace = true
  · have hstep : step config task vpn (.disconnecting outcome) (action I config task env
        (advance I config task vpn env p) (.disconnecting outcome)) =
        some { next := .inr (warn (some "UniVPN cleanup failed") outcome) } := by
      simp only [step, action, hsame, append, if_pos hfault]
    have hnone : ¬Stops config (fault env p.trace) := by
      intro hstops
      have hwritten := hstops.2.2
      rw [hfault] at hwritten
      cases hwritten
    have hq : q = _ := advance_inl hat hstep
    rw [hwarning, if_pos hfault, if_neg hnone, hq, commands_append, writes_append, htrace,
      commands_report, writes_report]
    exact ⟨rfl, List.append_nil _, rfl⟩
  · have hstep : step config task vpn (.disconnecting outcome) (action I config task env
        (advance I config task vpn env p) (.disconnecting outcome)) =
        some { next := .inr (warn none outcome)
               write := some (.disconnect, controlSequence (sequence config)) } := by
      have happend : append (controlSequence (config.univpn_disconnect_sequence.getD []))
          (fault env p.trace) = .ok (controlSequence (sequence config)) := by
        unfold append
        rw [if_neg hfault]
        exact if_pos hscalar
      simp only [step, action, hsame, happend]
    have hstops : Stops config (fault env p.trace) := by
      refine ⟨hstop', hsequence, ?_⟩
      unfold append
      rw [if_neg hfault, if_pos hscalar]
    have hq : q = _ := advance_inl hat hstep
    rw [hwarning, if_neg hfault, if_pos hstops, hq, commands_append, writes_append, htrace,
      commands_report, writes_report]
    exact ⟨rfl, List.append_nil _, rfl⟩

/-! ### Whole runs -/

/-- A run in the `finally` clause has come there from the `try` body. -/
theorem cleanup_reached {n : Nat} (h : Closing (drive I config task vpn env n).at_) :
    ∃ m outcome, m ≤ n ∧ (drive I config task vpn env m).at_ = .inl (.cleanup outcome) := by
  induction n with
  | zero => exact h.elim
  | succ n ih =>
    by_cases hclosing : Closing (drive I config task vpn env n).at_
    · obtain ⟨m, outcome, hm, hat⟩ := ih hclosing
      exact ⟨m, outcome, Nat.le_succ_of_le hm, hat⟩
    rcases hat : (drive I config task vpn env n).at_ with s | outcome
    · rw [hat] at hclosing
      have hstep := bodyStep_advance I config task vpn env hat hclosing
      rw [← drive_succ] at hstep
      generalize hnext : (drive I config task vpn env (n + 1)).at_ = next at h hstep
      cases hstep with
      | goes_on next hbody => exact absurd h hbody
      | _ => exact ⟨n + 1, _, le_refl _, hnext⟩
    · rw [hat] at hclosing
      exact absurd trivial hclosing

/-- The `finally` clause is entered once, from the body. -/
theorem not_closing_before {n : Nat} {outcome : Outcome}
    (h : (drive I config task vpn env (n + 1)).at_ = .inl (.cleanup outcome)) :
    ¬Closing (drive I config task vpn env n).at_ := by
  rw [drive_succ] at h
  intro hclosing
  rcases hat : (drive I config task vpn env n).at_ with s | ended
  · rw [hat] at hclosing
    cases s with
    | cleanup before =>
      rcases advance_cleanup I config task vpn env hat with ⟨_, hnext, _⟩ | ⟨_, _, hnext, _⟩
      · rw [h] at hnext
        cases hnext
      · rw [h] at hnext
        cases hnext
    | disconnecting before =>
      rcases (advance_disconnecting I config task vpn env hat).2.1 with ⟨_, hnext⟩ | ⟨_, _, hnext⟩
      · rw [h] at hnext
        cases hnext
      · rw [h] at hnext
        cases hnext
    | _ => exact hclosing
  · rw [advance_ended hat, hat] at h
    cases h

/-- A result at the `finally` clause is the one that the operation
    returned. -/
theorem returned_operated {n : Nat} {result : RunnerResult}
    (h : (drive I config task vpn env n).at_ = .inl (.cleanup (.returned result))) :
    ∃ k < n, (drive I config task vpn env k).at_ = .inl .operating ∧
      (operated I config task env (drive I config task vpn env k).trace).1 = .ok result := by
  cases n with
  | zero => cases h
  | succ n =>
    have hbody := not_closing_before I task vpn env h
    rcases hat : (drive I config task vpn env n).at_ with s | ended
    · rw [hat] at hbody
      have hstep := bodyStep_advance I config task vpn env hat hbody
      rw [← drive_succ, h] at hstep
      generalize hoperated : operated I config task env (drive I config task vpn env n).trace = r
      -- a result reaches the cleanup from `operating` and from nowhere else
      cases hnext : r.1 with
      | ok result' =>
        have hs : s = .operating ∧ result = result' := by
          generalize hout : Outcome.returned result = outcome at hstep
          cases hstep with
          | goes_on next hbody => exact absurd trivial hbody
          | operated hs =>
            rw [hoperated, hnext] at hout
            cases hout
            exact ⟨hs, rfl⟩
          | _ => cases hout
        rw [hs.1] at hat
        exact ⟨n, Nat.lt_succ_self n, hat, by rw [hoperated, hnext, hs.2]⟩
      | error exc =>
        generalize hout : Outcome.returned result = outcome at hstep
        cases hstep with
        | goes_on next hbody => exact absurd trivial hbody
        | operated hs =>
          rw [hoperated, hnext] at hout
          cases hout
        | _ => cases hout
    · rw [hat] at hbody
      exact absurd trivial hbody

/-- The writes of the `try` body are lines of the login. -/
theorem no_disconnect_before {m : Nat} {outcome : Outcome}
    (h : (drive I config task vpn env m).at_ = .inl (.cleanup outcome)) (text : PyStr) :
    (ControlBlock.disconnect, text) ∉ writes (drive I config task vpn env m).trace := by
  have hphase := phase_drive I config task vpn env m
  rw [h] at hphase
  obtain ⟨⟨username, password, k, hlogin⟩, -⟩ := hphase
  rw [hlogin]
  intro hmem
  obtain ⟨line, -, heq⟩ := List.mem_map.mp hmem
  cases heq

/-- With a sequence that can be encoded, a run that has ended went through the
    `finally` clause and kept its outcome. -/
theorem outcome_kept (hencodes : SequenceEncodes config) {n : Nat} {ended : Outcome}
    (hended : (drive I config task vpn env n).at_ = .inr ended) :
    ∃ m outcome, m < n ∧ (drive I config task vpn env m).at_ = .inl (.cleanup outcome) ∧
      OutcomeKept config env (drive I config task vpn env m) (drive I config task vpn env n)
        outcome ended := by
  have hclosing : Closing (drive I config task vpn env n).at_ := by
    rw [hended]
    trivial
  obtain ⟨m, outcome, hm, hat⟩ := cleanup_reached I task vpn env hclosing
  obtain ⟨hnext, hcalls, hwritten⟩ := advance_finally I task vpn env hat hencodes
  have htwo : drive I config task vpn env (m + 2) =
      advance I config task vpn env (advance I config task vpn env (drive I config task vpn env m)) := by
    rw [drive_succ, drive_succ]
  rw [← htwo] at hnext hcalls hwritten
  have hless : m < n := by
    by_contra hge
    obtain rfl : m = n := le_antisymm hm (not_lt.mp hge)
    rw [hended] at hat
    cases hat
  -- the run has ended after two steps at most
  have hsame : drive I config task vpn env n = drive I config task vpn env (m + 2) := by
    rcases Nat.lt_or_ge n (m + 2) with hlt | hge
    · exact (drive_ended hended (le_of_lt hlt)).symm
    · exact drive_ended hnext hge
  have hout : ended = warn (cleanup_warning config (fault env
      (drive I config task vpn env m).trace)) outcome := by
    rw [hsame, hnext] at hended
    exact (Sum.inr.inj hended).symm
  refine ⟨m, outcome, hless, hat, ?_⟩
  constructor
  · intro result hresult
    rw [hout, hresult]
    rfl
  · intro exc hexc
    rw [hout, hexc]
    rfl
  · rw [hsame]
    exact hwritten
  · exact no_disconnect_before I task vpn env hat
  · rw [hsame]
    exact hcalls

variable (config)

/-- Every run that ends returns the operation's result with the warnings of
    the cleanup added, or raises what the `try` body raised, and it writes the
    disconnect sequence once where it should, exactly when the sequence that
    `_cleanup` writes has no lone surrogate. -/
theorem outcome_kept_iff :
    (∀ env n ended, (drive I config task vpn env n).at_ = .inr ended →
      ∃ m outcome, m < n ∧ (drive I config task vpn env m).at_ = .inl (.cleanup outcome) ∧
        (∀ result, outcome = .returned result →
          ∃ k < m, (drive I config task vpn env k).at_ = .inl .operating ∧
            (operated I config task env (drive I config task vpn env k).trace).1 = .ok result) ∧
        OutcomeKept config env (drive I config task vpn env m) (drive I config task vpn env n)
          outcome ended) ↔
    SequenceEncodes config := by
  constructor
  · intro hall hstop hsequence
    by_contra hscalar
    have hscalar' : ¬(controlSequence (config.univpn_disconnect_sequence.getD [])).Scalar :=
      fun h => hscalar ((scalar_controlSequence _).mp h)
    -- the first command times out, and the cleanup raises something else
    let env := silentWith (.error .osError) (.ok true)
    have hat : (drive I config task vpn env 2).at_ = .inl (.cleanup
        (.raised (.runnerFailure "operation_timeout".py ("VPN preflight: проверка ".py ++
          config.univpn_interface ++ " превысила timeout".py)))) := rfl
    obtain ⟨hnext, -, -⟩ := advance_stopping I config task vpn env hat hstop hsequence
    rw [← drive_succ] at hnext
    have hended := advance_unencodable I config task vpn env hnext rfl hscalar'
    rw [← drive_succ] at hended
    obtain ⟨m, outcome, hm, hcleanup, -, hkept⟩ := hall env 4 _ hended
    have hbody : ∀ k, k < 2 → ¬Closing (drive I config task vpn env k).at_ := by
      intro k hk
      match k, hk with
      | 0, _ => exact id
      | 1, _ => exact id
    -- the cleanup is reached after two steps and at no other time
    obtain rfl : m = 2 := by
      have hlow : ¬m < 2 := fun hlt => hbody m hlt (by rw [hcleanup]; trivial)
      have hthree : m ≠ 3 := by
        rintro rfl
        rw [hnext] at hcleanup
        cases hcleanup
      omega
    rw [hat] at hcleanup
    cases hcleanup
    cases hkept.raised _ rfl
  · intro hencodes env n ended hended
    obtain ⟨m, outcome, hm, hat, hkept⟩ := outcome_kept I task vpn env hencodes hended
    refine ⟨m, outcome, hm, hat, ?_, hkept⟩
    intro result hresult
    rw [hresult] at hat
    exact returned_operated I task vpn env hat

end closing

/-! ### A sequence with a lone surrogate -/

/-- The configuration whose disconnect sequence came from an environment
    variable with the bytes 0x33 0xFF. -/
def surrogateConfig : RunnerDaemonConfig :=
  { sampleDaemonConfig with
    stop_vpn_after_task := true
    univpn_disconnect_sequence := some [0x33, 0xDCFF] }

/-- The vehicle answers, the operation has returned its result, and the run
    raises `UnicodeEncodeError`. -/
theorem result_lost :
    let run := drive sampleInterp surrogateConfig (sampleTask "basic_status" 5) sampleCredentials
      { sampleEnvironment with command := fun k _ =>
          if k = 2 then { returncode := 0, stdout := "host".py } else sampleAnswers k }
    (∃ result, (run 6).at_ = .inl (.cleanup (.returned result))) ∧
    (run 8).at_ = .inr (.raised (.builtin .unicodeEncodeError [])) ∧
    ¬SequenceEncodes surrogateConfig := by
  intro run
  refine ⟨⟨_, rfl⟩, rfl, ?_⟩
  intro hencodes
  exact absurd (hencodes rfl (by decide)) (by decide)

end BoVpnAgent.ContainerNamespaceExecutor

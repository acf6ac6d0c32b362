import BoVpnAgent.Executors.Runs
import BoVpnAgent.Lib.TwoRuns

/-! # Two runs with different credentials

    Two calls of `run` are given the same task and the same environment, and
    credentials of the mode `inline_once` that may differ.  What can be seen
    of the two is the same but for the third and the fourth line that
    `_login` writes, unless one of these lines cannot be encoded: then its
    run ends, with an exception that `_login` does not handle.

    The relation between the two machines is kept by one step of `step`; the
    jobs of the daemon are compared with the same lemma.
-/

namespace BoVpnAgent.ContainerNamespaceExecutor

open Lts

/-- Credentials that `_credentials` takes from the request. -/
structure InlineOnce (vpn : VpnCredentials) : Prop where
  mode : vpn.mode = "inline_once".py
  username : vpn.username ≠ []
  password : vpn.password ≠ []

theorem InlineOnce.credentials {vpn : VpnCredentials} (h : InlineOnce vpn)
    (config : RunnerDaemonConfig) (secret_file : Except Builtin (List PyStr)) :
    credentials config vpn secret_file = .ok (vpn.username, vpn.password) := by
  unfold ContainerNamespaceExecutor.credentials
  rw [if_pos h.mode, if_neg]
  intro hempty
  rcases hempty with husername | hpassword
  · exact h.username husername
  · exact h.password hpassword

/-- The line of the credentials that is about to be written can be encoded. -/
def Encodes (config : RunnerDaemonConfig) (vpn : VpnCredentials) : Session → SessionAction → Prop
  | .writing _ _ written, .write false =>
    2 ≤ written → ∀ line, (loginLines config vpn.username vpn.password)[written]? = some line →
      line.Scalar
  | _, _ => True

/-- Credentials without lone surrogates can be encoded wherever they are
    written. -/
theorem encodes_of_scalar {vpn : VpnCredentials} (husername : vpn.username.Scalar)
    (hpassword : vpn.password.Scalar) (config : RunnerDaemonConfig) (s : Session)
    (a : SessionAction) : Encodes config vpn s a := by
  have hline : ∀ text : PyStr, text.Scalar → (controlLine text).Scalar := by
    intro text htext
    exact PyStr.scalar_append.mpr ⟨htext, by decide⟩
  have hlines : ∀ written, 2 ≤ written → ∀ line,
      (loginLines config vpn.username vpn.password)[written]? = some line → line.Scalar := by
    intro written hwritten line hget
    rcases written with _ | _ | _ | _ | written
    · omega
    · omega
    · rw [← Option.some.inj hget]
      exact hline _ husername
    · rw [← Option.some.inj hget]
      exact hline _ hpassword
    · cases hget
  unfold Encodes
  split
  · exact hlines _
  · trivial

/-! ### What the two runs have in common -/

section same

variable (config : RunnerDaemonConfig) (vpn vpn' : VpnCredentials)

/-- The same place, or the same line of the two logins. -/
inductive SameSession : Session → Session → Prop where
  | same (s : Session) : SameSession s s
  | writing (written : Nat) :
    SameSession (.writing vpn.username vpn.password written)
      (.writing vpn'.username vpn'.password written)

/-- The same write, or the third or the fourth line of each login. -/
inductive SameWrite : ControlBlock × PyStr → ControlBlock × PyStr → Prop where
  | same (w : ControlBlock × PyStr) : SameWrite w w
  | line {k : Nat} {text text' : PyStr} (hk : 2 ≤ k)
      (h : (loginLines config vpn.username vpn.password)[k]? = some text)
      (h' : (loginLines config vpn'.username vpn'.password)[k]? = some text') :
      SameWrite (.login, text) (.login, text')

/-- Steps that go to the same place, report the same state and append the same
    write. -/
structure SameStep (st st' : SessionStep) : Prop where
  next : Sum.LiftRel (SameSession vpn vpn') Eq st.next st'.next
  report : st.report = st'.report
  write : Option.Rel (SameWrite config vpn vpn') st.write st'.write

/-- What can be seen, but for the lines of the credentials. -/
inductive SameEffect : Effect → Effect → Prop where
  | same (e : Effect) : SameEffect e e
  | write {w w' : ControlBlock × PyStr} (h : SameWrite config vpn vpn' w w') :
      SameEffect (.write w.1 w.2) (.write w'.1 w'.2)

/-- The two runs have come equally far. -/
structure SameProgress (p p' : Progress) : Prop where
  at_ : Sum.LiftRel (SameSession vpn vpn') Eq p.at_ p'.at_
  deadline : p.deadline = p'.deadline
  trace : List.Forall₂ (SameEffect config vpn vpn') p.trace p'.trace

end same

variable {config : RunnerDaemonConfig} {vpn vpn' : VpnCredentials}

theorem sameNext_refl (next : Session ⊕ Outcome) :
    Sum.LiftRel (SameSession vpn vpn') Eq next next := by
  cases next with
  | inl s => exact .inl (.same s)
  | inr outcome => exact .inr rfl

theorem SameStep.refl (st : SessionStep) : SameStep config vpn vpn' st st := by
  refine ⟨sameNext_refl st.next, rfl, ?_⟩
  cases st.write with
  | none => exact .none
  | some w => exact .some (.same w)

theorem sameStep_refl (o : Option SessionStep) : Option.Rel (SameStep config vpn vpn') o o := by
  cases o with
  | none => exact .none
  | some st => exact .some (SameStep.refl st)

/-! ### One step -/

/-- The lines of the two logins before the credentials are the same. -/
theorem loginLines_same {k : Nat} (hk : k < 2) :
    (loginLines config vpn.username vpn.password)[k]? =
      (loginLines config vpn'.username vpn'.password)[k]? := by
  have hcases : k = 0 ∨ k = 1 := by omega
  rcases hcases with hk | hk
  · rw [hk]
    rfl
  · rw [hk]
    rfl

theorem loginLines_some {k : Nat} {text : PyStr}
    (h : (loginLines config vpn.username vpn.password)[k]? = some text) :
    ∃ text', (loginLines config vpn'.username vpn'.password)[k]? = some text' := by
  obtain ⟨hk, -⟩ := List.getElem?_eq_some_iff.mp h
  have hk' : k < (loginLines config vpn'.username vpn'.password).length := hk
  exact ⟨_, List.getElem?_eq_getElem hk'⟩

/-- Where a write of `_login` leads. -/
theorem same_writing (written : Nat) :
    Sum.LiftRel (SameSession vpn vpn') (Eq (α := Outcome))
      (.inl (pausedThen (behindLine config written)
        (if written + 1 < 4 then .writing vpn.username vpn.password (written + 1) else .polling)))
      (.inl (pausedThen (behindLine config written)
        (if written + 1 < 4 then .writing vpn'.username vpn'.password (written + 1)
         else .polling))) := by
  unfold pausedThen
  cases behindLine config written with
  | error kind => exact .inl (.same _)
  | ok =>
    by_cases hmore : written + 1 < 4
    · rw [if_pos hmore, if_pos hmore]
      exact .inl (.writing (written + 1))
    · rw [if_neg hmore, if_neg hmore]
      exact .inl (.same .polling)

/-- A write of `_login`, with the lines that the two runs write. -/
theorem login_write_line {k : Nat} {text text' : PyStr} {fault : Bool}
    (h : (loginLines config vpn.username vpn.password)[k]? = some text)
    (h' : (loginLines config vpn'.username vpn'.password)[k]? = some text')
    (hsame : SameWrite config vpn vpn' (.login, text) (.login, text'))
    (hfailure : fault = false → (text.Scalar ∧ text'.Scalar) ∨ text = text') :
    Option.Rel (SameStep config vpn vpn')
      (login_write config vpn.username vpn.password k fault)
      (login_write config vpn'.username vpn'.password k fault) := by
  unfold login_write
  rw [h, h']
  cases fault with
  | true => exact .some (SameStep.refl _)
  | false =>
    unfold append
    rcases hfailure rfl with ⟨hscalar, hscalar'⟩ | htext
    · simp only [hscalar, hscalar', Bool.false_eq_true, if_false, if_true]
      exact .some ⟨same_writing k, rfl, .some hsame⟩
    · rw [← htext]
      by_cases hscalar : text.Scalar
      · simp only [hscalar, Bool.false_eq_true, if_false, if_true]
        exact .some ⟨same_writing k, rfl, .some (.same _)⟩
      · -- the profile index or `1`: neither holds a credential
        simp only [hscalar, Bool.false_eq_true, if_false]
        exact .some (SameStep.refl _)

theorem login_write_same {k : Nat} {fault : Bool}
    (h : Encodes config vpn (.writing vpn.username vpn.password k) (.write fault))
    (h' : Encodes config vpn' (.writing vpn'.username vpn'.password k) (.write fault)) :
    Option.Rel (SameStep config vpn vpn')
      (login_write config vpn.username vpn.password k fault)
      (login_write config vpn'.username vpn'.password k fault) := by
  cases hline : (loginLines config vpn.username vpn.password)[k]? with
  | none =>
    have hlong : (loginLines config vpn.username vpn.password).length ≤ k :=
      List.getElem?_eq_none_iff.mp hline
    have hline' : (loginLines config vpn'.username vpn'.password)[k]? = none :=
      List.getElem?_eq_none_iff.mpr hlong
    unfold login_write
    rw [hline, hline']
    exact .none
  | some text =>
    by_cases hk : k < 2
    · have hline' : (loginLines config vpn'.username vpn'.password)[k]? = some text :=
        (loginLines_same hk).symm.trans hline
      exact login_write_line hline hline' (.same _) fun _ => .inr rfl
    · obtain ⟨text', hline'⟩ : ∃ text', (loginLines config vpn'.username vpn'.password)[k]? =
          some text' := loginLines_some hline
      have hk : 2 ≤ k := by omega
      apply login_write_line hline hline' (.line hk hline hline')
      intro hfault
      rw [hfault] at h h'
      exact .inl ⟨h hk text hline, h' hk text' hline'⟩

/-- One step of the two machines. -/
theorem step_same (hvpn : InlineOnce vpn) (hvpn' : InlineOnce vpn') (task : Task) {s s' : Session}
    {a : SessionAction} (hs : SameSession vpn vpn' s s') (h : Encodes config vpn s a)
    (h' : Encodes config vpn' s' a) :
    Option.Rel (SameStep config vpn vpn') (step config task vpn s a)
      (step config task vpn' s' a) := by
  cases hs with
  | same s =>
    -- only the step that reads the credentials looks at them
    have hother : s ≠ .login → step config task vpn s a = step config task vpn' s a := by
      intro hlogin
      cases s with
      | login => exact absurd rfl hlogin
      | _ => cases a <;> rfl
    by_cases hlogin : s = .login
    · rw [hlogin]
      cases a with
      | read_credentials secret_file control_path =>
        unfold step
        simp only [hvpn.credentials, hvpn'.credentials]
        cases control_path with
        | ok found => exact .some ⟨.inl (.writing 0), rfl, .none⟩
        | error kind => exact sameStep_refl _
      | _ => exact .none
    · rw [hother hlogin]
      exact sameStep_refl _
  | writing written =>
    cases a with
    | write fault => exact login_write_same h h'
    | _ => exact .none

/-! ### What a run reads of its trace -/

section trace

variable {t t' : List Effect}

/-- What does not look at the text of a write is the same for both traces. -/
theorem sameEffect_congr {α : Type} {f : Effect → α}
    (hf : ∀ block text text', f (.write block text) = f (.write block text')) {e e' : Effect}
    (h : SameEffect config vpn vpn' e e') : f e = f e' := by
  cases h with
  | same e => rfl
  | write h =>
    cases h with
    | same w => rfl
    | line hk h h' => exact hf .login _ _

theorem same_commands (h : List.Forall₂ (SameEffect config vpn vpn') t t') :
    commands t = commands t' :=
  filterMap_eq_of_forall₂ (fun _ _ he => sameEffect_congr (fun _ _ _ => rfl) he) h

theorem same_countP {p : Effect → Bool}
    (hp : ∀ block text text', p (.write block text) = p (.write block text'))
    (h : List.Forall₂ (SameEffect config vpn vpn') t t') : t.countP p = t'.countP p :=
  countP_eq_of_forall₂ (fun _ _ he => sameEffect_congr hp he) h

theorem same_now (env : Environment) (h : List.Forall₂ (SameEffect config vpn vpn') t t') :
    now env t = now env t' := by
  unfold now
  rw [same_countP (fun _ _ _ => rfl) h]

theorem same_fault (env : Environment) (h : List.Forall₂ (SameEffect config vpn vpn') t t') :
    fault env t = fault env t' := by
  unfold fault
  rw [same_countP (fun _ _ _ => rfl) h]

theorem same_results (env : Environment) (h : List.Forall₂ (SameEffect config vpn vpn') t t') :
    addr_result config env t = addr_result config env t' ∧
      routes_result config env t = routes_result config env t' := by
  unfold addr_result routes_result
  rw [same_commands h]
  exact ⟨rfl, rfl⟩

theorem same_check_effects (env : Environment)
    (h : List.Forall₂ (SameEffect config vpn vpn') t t') :
    check_effects config env t = check_effects config env t' := by
  obtain ⟨haddr, hroutes⟩ := same_results env h
  unfold check_effects
  rw [haddr, hroutes, same_countP (fun _ _ _ => rfl) h]

end trace

/-! ### The two runs -/

section run

variable {I : Interp} {task : Task} {env : Environment} {p p' : Progress}

/-- The two runs take the same step. -/
theorem same_action (h : SameProgress config vpn vpn' p p') {s s' : Session}
    (hs : SameSession vpn vpn' s s') :
    action I config task env p s = action I config task env p' s' := by
  obtain ⟨haddr, hroutes⟩ := same_results env h.trace
  have hoperated : operated I config task env p.trace = operated I config task env p'.trace := by
    unfold operated
    rw [same_commands h.trace]
  cases hs with
  | writing written =>
    show SessionAction.write _ = .write _
    rw [same_fault env h.trace]
  | same s =>
    cases s with
    | preflight | polling =>
      show SessionAction.probe _ _ _ = .probe _ _ _
      rw [haddr, hroutes, h.deadline, same_now env h.trace]
    | writing username password written =>
      show SessionAction.write _ = .write _
      rw [same_fault env h.trace]
    | operating =>
      show SessionAction.operate _ = .operate _
      rw [hoperated]
    | disconnecting outcome =>
      show SessionAction.disconnect _ = .disconnect _
      rw [same_fault env h.trace]
    | _ => rfl

/-- What can be seen of the two writes of a line. -/
theorem same_write_effects {st st' : SessionStep} (hst : SameStep config vpn vpn' st st')
    (records : List Effect) :
    List.Forall₂ (SameEffect config vpn vpn') (write_effects .login st records)
      (write_effects .login st' records) := by
  obtain ⟨next, report, w⟩ := st
  obtain ⟨next', report', w'⟩ := st'
  have hwrite : Option.Rel (SameWrite config vpn vpn') w w' := hst.write
  unfold write_effects
  cases hwrite with
  | none => exact forall₂_refl .same _
  | some hwrite =>
    apply List.Forall₂.cons _ (forall₂_refl .same records)
    cases hwrite with
    | same w => exact .same _
    | line hk h h' => exact .write (.line hk h h')

/-- The records of `_credentials` do not tell the credentials. -/
theorem credential_records_inline (hvpn : InlineOnce vpn) :
    credential_records config vpn env = control_path_records config env := by
  unfold credential_records
  rw [hvpn.credentials]
  simp only [if_pos hvpn.mode, List.nil_append]

/-- What can be seen of a step. -/
theorem same_effects (hvpn : InlineOnce vpn) (hvpn' : InlineOnce vpn')
    (h : SameProgress config vpn vpn' p p') {s s' : Session} (hs : SameSession vpn vpn' s s')
    {st st' : SessionStep} (hst : SameStep config vpn vpn' st st')
    (hwrite : ∀ outcome, s = .disconnecting outcome → st = st') :
    List.Forall₂ (SameEffect config vpn vpn') (effects I config task vpn env p s st)
      (effects I config task vpn' env p' s' st') := by
  have hchecks := same_check_effects env h.trace
  have hnow := same_now env h.trace
  have hrecords : ∀ k, login_records config env p.trace k = login_records config env p'.trace k := by
    intro k
    unfold login_records
    rw [hnow]
  -- the credentials are read in `login` and `writing`; elsewhere the effects are the same
  cases hs with
  | writing written =>
    show List.Forall₂ _ (write_effects .login st _) (write_effects .login st' _)
    rw [hrecords]
    exact same_write_effects hst _
  | same s =>
    cases s with
    | begun | connected | announced | checking | cleanup =>
      show List.Forall₂ _ (st.report.map _).toList (st'.report.map _).toList
      rw [hst.report]
      exact forall₂_refl .same _
    | preflight =>
      show List.Forall₂ _ (check_effects config env p.trace) (check_effects config env p'.trace)
      rw [hchecks]
      exact forall₂_refl .same _
    | polling =>
      have hprobed : probed config env p.trace = probed config env p'.trace := by
        unfold probed
        rw [(same_results env h.trace).1, (same_results env h.trace).2]
      unfold effects
      rw [hchecks, hprobed, hnow]
      exact forall₂_refl .same _
    | login =>
      show List.Forall₂ _ (credential_records config vpn env) (credential_records config vpn' env)
      rw [credential_records_inline hvpn, credential_records_inline hvpn']
      exact forall₂_refl .same _
    | writing username password written =>
      show List.Forall₂ _ (write_effects .login st _) (write_effects .login st' _)
      rw [hrecords]
      exact same_write_effects hst _
    | operating =>
      have hoperated : operated I config task env p.trace = operated I config task env p'.trace := by
        unfold operated
        rw [same_commands h.trace]
      show List.Forall₂ _ ((operated I config task env p.trace).2.map _)
        ((operated I config task env p'.trace).2.map _)
      rw [hoperated]
      exact forall₂_refl .same _
    | disconnecting outcome =>
      rw [hwrite outcome rfl]
      exact forall₂_refl .same _

/-- The two logins end at the same time. -/
theorem same_deadline (h : SameProgress config vpn vpn' p p') {s s' : Session}
    (hs : SameSession vpn vpn' s s') : deadline config env p s = deadline config env p' s' := by
  unfold deadline
  rw [same_now env h.trace, h.deadline]
  cases hs with
  | same s => rfl
  | writing written => rcases written with _ | _ | _ | _ | written <;> rfl

/-- One step of the two runs. -/
theorem same_advance (hvpn : InlineOnce vpn) (hvpn' : InlineOnce vpn')
    (h : SameProgress config vpn vpn' p p')
    (hline : ∀ s, p.at_ = .inl s → Encodes config vpn s (action I config task env p s))
    (hline' : ∀ s, p'.at_ = .inl s → Encodes config vpn' s (action I config task env p' s)) :
    SameProgress config vpn vpn' (advance I config task vpn env p)
      (advance I config task vpn' env p') := by
  have hat := h.at_
  unfold advance
  cases hp : p.at_ with
  | inr outcome =>
    rw [hp] at hat
    cases hp' : p'.at_ with
    | inl s' =>
      rw [hp'] at hat
      cases hat
    | inr outcome' => exact h
  | inl s =>
    rw [hp] at hat
    cases hp' : p'.at_ with
    | inr outcome' =>
      rw [hp'] at hat
      cases hat
    | inl s' =>
      rw [hp'] at hat
      have hs : SameSession vpn vpn' s s' := Sum.liftRel_inl_inl.mp hat
      have haction : action I config task env p s = action I config task env p' s' :=
        same_action h hs
      have hstep := step_same hvpn hvpn' task hs (hline s hp) (haction ▸ hline' s' hp')
      have hdisconnect : ∀ outcome, s = .disconnecting outcome →
          step config task vpn s (action I config task env p s) =
            step config task vpn' s' (action I config task env p s) := by
        intro outcome hs'
        subst hs'
        cases hs
        rfl
      have hdeadline : deadline config env p s = deadline config env p' s' := same_deadline h hs
      simp only
      rw [← haction]
      generalize action I config task env p s = a at hstep hdisconnect
      generalize step config task vpn s a = o at hstep hdisconnect
      generalize step config task vpn' s' a = o' at hstep hdisconnect
      cases hstep with
      | none => exact h
      | some hstep =>
        refine ⟨hstep.next, hdeadline, List.rel_append h.trace ?_⟩
        apply same_effects hvpn hvpn' h hs hstep
        intro outcome hs'
        exact Option.some.inj (hdisconnect outcome hs')

/-- Every line of the credentials that the run writes can be encoded. -/
def EncodesRun (I : Interp) (config : RunnerDaemonConfig) (task : Task) (vpn : VpnCredentials)
    (env : Environment) : Prop :=
  ∀ n s, (drive I config task vpn env n).at_ = .inl s →
    Encodes config vpn s (action I config task env (drive I config task vpn env n) s)

/-- The two runs after equally many steps. -/
theorem same_drive (hvpn : InlineOnce vpn) (hvpn' : InlineOnce vpn')
    (h : EncodesRun I config task vpn env) (h' : EncodesRun I config task vpn' env) (n : Nat) :
    SameProgress config vpn vpn' (drive I config task vpn env n)
      (drive I config task vpn' env n) := by
  induction n with
  | zero => exact ⟨.inl (.same .begun), rfl, .nil⟩
  | succ n ih =>
    rw [drive_succ, drive_succ]
    exact same_advance hvpn hvpn' ih (h n) (h' n)

end run

/-! ### What can be told apart -/

/-- The state of an effect, with its message. -/
def Effect.set_state? : Effect → Option (TaskState × String)
  | set_state state message => some (state, message)
  | _ => none

/-- The record of an effect. -/
def Effect.log? : Effect → Option LogRecord
  | log record => some record
  | _ => none

/-- Only the third and the fourth line that `_login` writes tell the two runs
    apart. -/
structure Indistinguishable (config : RunnerDaemonConfig) (vpn vpn' : VpnCredentials)
    (p p' : Progress) : Prop where
  set_states : p.trace.filterMap Effect.set_state? = p'.trace.filterMap Effect.set_state?
  commands : commands p.trace = commands p'.trace
  logs : p.trace.filterMap Effect.log? = p'.trace.filterMap Effect.log?
  writes : List.Forall₂ (SameWrite config vpn vpn') (writes p.trace) (writes p'.trace)
  outcome : ∀ outcome, p.at_ = .inr outcome ↔ p'.at_ = .inr outcome

theorem same_writes {t t' : List Effect} (h : List.Forall₂ (SameEffect config vpn vpn') t t') :
    List.Forall₂ (SameWrite config vpn vpn') (writes t) (writes t') := by
  apply List.rel_filterMap _ h
  intro e e' he
  cases he with
  | same e =>
    cases e with
    | write block text => exact .some (.same (block, text))
    | _ => exact .none
  | write h => exact .some h

theorem SameProgress.indistinguishable {p p' : Progress} (h : SameProgress config vpn vpn' p p') :
    Indistinguishable config vpn vpn' p p' := by
  refine ⟨?_, same_commands h.trace, ?_, same_writes h.trace, ?_⟩
  · exact filterMap_eq_of_forall₂ (fun _ _ he => sameEffect_congr (fun _ _ _ => rfl) he) h.trace
  · exact filterMap_eq_of_forall₂ (fun _ _ he => sameEffect_congr (fun _ _ _ => rfl) he) h.trace
  · intro outcome
    have hat := h.at_
    generalize p.at_ = at_ at hat
    generalize p'.at_ = at_' at hat
    cases hat with
    | inl hs => exact iff_of_false (fun h => by cases h) fun h => by cases h
    | inr heq => rw [heq]

end BoVpnAgent.ContainerNamespaceExecutor

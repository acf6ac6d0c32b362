import BoVpnAgent.Worker.Runs

/-! # How a task is closed out

    Every exit of `_execute_task` passes its `finally` clause, which removes
    the credentials and writes the audit record.  Two things part from what
    the clause is for.  The record is not written when a text in it cannot be
    encoded, and the only text of it that no check has seen is the error code
    of a `RunnerFailure`.  And the credentials outlive the state that ends
    the task, because the two are changed in different critical sections.
-/

namespace BoVpnAgent.Worker

variable {I : Interp} {config : WorkerConfig}

/-! ### Credentials and states -/

/-- What holds of the credentials of a task. -/
structure Kept (x : Execution) : Prop where
  terminal : x.task.state.terminal = x.executor.done
  secret : x.secret.isSome = true ↔ x.executor ≠ .ended

theorem Kept.new {task : Task} (hnew : task.asCreated = task) (vpn : VpnCredentials) :
    Kept (newExecution task vpn) where
  terminal := by rw [newExecution, ← hnew]; rfl
  secret := by simp [newExecution]

theorem Kept.step {x x' : Execution} {a : Action} {written : List AuditRecord}
    (hp : progressOnly a = true) (hx : Kept x) (h : Advance I config x a x' written) :
    Kept x' := by
  refine ⟨terminal_iff_done hp hx.terminal h, ?_⟩
  cases ha : a.byRunner with
  | true =>
    obtain ⟨hpc, hsecret, -⟩ := runner_step h ha
    rw [hsecret, hpc]
    exact hx.secret
  | false =>
    obtain ⟨now, fault, -, -, hpc, -, hsecret, -⟩ | ⟨hopen, hpc, hsecret, -⟩ := executor_step h ha
    · simp [hsecret, hpc]
    · have hpc₀ : x.executor ≠ .ended := by
        intro hended
        rw [hended] at hopen
        cases hopen
      simp [hsecret, hpc, hx.secret, hpc₀]

/-- The runs in which no runner reports a terminal state. -/
def progressRuns (I : Interp) (config : WorkerConfig) : Lts.System State Label :=
  runs I config fun _ a => progressOnly a

/-- In every state of such a run, the stored credentials are those of the
    unfinished tasks exactly when no executor stands between the section that
    ended its task and its `finally` clause. -/
theorem secrets_of_unfinished_iff {s : State} (h : Lts.Reachable (progressRuns I config) s) :
    (∀ id, id ∈ s.service.secrets_by_task_id.keys ↔
      ∃ t, s.service.task? id = some t ∧ t.state.terminal = false) ↔
    ∀ id x, s.view id = some x → x.executor ≠ .closing := by
  have hwf := well_formed (reachable_worker h)
  have hkept : ∀ id x, s.view id = some x → Kept x := by
    intro id x hx
    exact task_invariant (P := fun x _ => Kept x)
      (fun _ _ _ _ vpn hacc => Kept.new hacc.asCreated vpn)
      (fun _ _ _ _ _ hp hx hadv => hx.step hp hadv) h hx
  have hkeys : ∀ id x, s.view id = some x →
      (id ∈ s.service.secrets_by_task_id.keys ↔ x.executor ≠ .ended) := by
    intro id x hx
    rw [Dict.mem_keys_iff, (view_eq_some.mp hx).2.2]
    exact (hkept id x hx).secret
  constructor
  · intro hsecrets id x hx hclosing
    have hmem := (hkeys id x hx).mpr (by simp [hclosing])
    obtain ⟨t, ht, hterm⟩ := (hsecrets id).mp hmem
    obtain rfl : x.task = t := Option.some.inj ((view_eq_some.mp hx).2.1.symm.trans ht)
    rw [(hkept id x hx).terminal, hclosing] at hterm
    cases hterm
  · intro hopen id
    constructor
    · intro hmem
      have hid := hwf.isSome_view.mpr (hwf.secrets id ((Dict.mem_keys_iff _ _).mp hmem))
      obtain ⟨x, hx⟩ := Option.isSome_iff_exists.mp hid
      refine ⟨x.task, (view_eq_some.mp hx).2.1, ?_⟩
      rw [(hkept id x hx).terminal]
      have hended := (hkeys id x hx).mp hmem
      have hclosing := hopen id x hx
      cases hpc : x.executor <;> simp_all [Executor.done]
    · rintro ⟨t, ht, hterm⟩
      obtain ⟨x, hx, rfl⟩ := hwf.view_of_task? ht
      refine (hkeys id x hx).mpr fun hended => ?_
      rw [(hkept id x hx).terminal, hended] at hterm
      cases hterm

set_option maxRecDepth 4000 in
/-- One task is closed and another one is on its way. -/
theorem secrets_of_unfinished_iff_sample :
    let s := (progressRuns sampleInterp sampleConfig).play (finishedTask ++ nextTask)
    ((s.service.task? "t1".py).map Task.state = some .finished ∧
      s.service.secrets_by_task_id.keys = ["t2".py]) ∧
    ((∀ id, id ∈ s.service.secrets_by_task_id.keys ↔
        ∃ t, s.service.task? id = some t ∧ t.state.terminal = false) ↔
      ∀ id x, s.view id = some x → x.executor ≠ .closing) :=
  ⟨by decide +kernel, secrets_of_unfinished_iff (Lts.reachable_play _)⟩

set_option maxRecDepth 4000 in
/-- Before the `finally` clause, `get_task` answers `finished` while the
    credentials are still stored. -/
theorem secrets_after_finish :
    ∃ s r, Lts.Reachable (worker sampleInterp sampleConfig) s ∧
      s.service.get_task "t1".py sampleLater = .ok r ∧ r.state = .finished ∧
      "t1".py ∈ s.service.secrets_by_task_id.keys := by
  refine ⟨_, _, Lts.reachable_play finishedTask, rfl, rfl, ?_⟩
  decide +kernel

/-! ### The audit record -/

/-- The audit file can be written, and the error code of a `RunnerFailure`
    has no lone surrogate. -/
def auditable (_ : Execution) : Action → Bool
  | .close _ fault => !fault
  | .leave (.raised (.runnerFailure error_code _)) => decide error_code.Scalar
  | _ => true

/-- The texts of an accepted task can be encoded, when the default of
    `runner_mode` can. -/
theorem encodable_of_accepts {s : Service} {payload : Json.Fields} {env : CreateEnv} {task : Task}
    {vpn : VpnCredentials} (hmode : config.runner_mode.Scalar)
    (h : s.Accepts I config payload env task vpn) : AuditLogger.Encodable I task := by
  have hrender := (Security.fingerprint_request_ok_iff I payload).mp ⟨_, h.fingerprint⟩
  have hclean := h.clean
  have htexts := h.requestTexts
  obtain ⟨checked, _, runner_mode, request_id, telegram_user_id, hchecked, hrunner, hreq, hint, _,
    htask⟩ := build_task_ok h.built
  obtain ⟨_, _, _, hrole⟩ := check_request_ok hchecked
  have hdefault : ∀ text : String, Json.Clean I (.str text.py) := fun text => PyStr.scalar_py text
  obtain ⟨role, hrole', hrole_scalar⟩ :=
    (hclean.getD "user_role".py (hclean.getD "role".py (hdefault "engineer"))).toStr
  have hmode_json : Json.Clean I (.str config.runner_mode) := hmode
  obtain ⟨mode, hmode', hmode_scalar⟩ := (hclean.getD "runner_mode".py hmode_json).toStr
  obtain rfl := Except.ok.inj (hrole.symm.trans hrole')
  obtain rfl := Except.ok.inj (hrunner.symm.trans hmode')
  rw [htask] at htexts ⊢
  exact
    { nesting := le_trans (by simp [Json.depth]) hrender.depth
      request_id := htexts.request_id
      task_id := htexts.task_id
      telegram_user_id := digitsWithin_require_int hclean hint
      user_role := hrole_scalar
      operation := htexts.operation
      vehicle_number := htexts.vehicle_number
      vehicle_ip := htexts.vehicle_ip
      error_code := by simp
      runner_mode := hmode_scalar
      risk := PyStr.scalar_py _ }

/-- What holds of a task and of the audit records about it. -/
structure Audited (I : Interp) (x : Execution) (records : List AuditRecord) : Prop where
  fixed : AuditLogger.Encodable I x.task.asCreated
  code : ∀ code ∈ x.task.error_code, PyStr.Scalar code
  held : ∀ code message, x.holds (.raised (.runnerFailure code message)) → PyStr.Scalar code
  pending : x.executor ≠ .ended → records = []
  closed : x.executor = .ended → x.task.state.terminal = true ∧ x.secret = none ∧
    ∃ r, records = [r] ∧ r.result_state = x.task.state ∧ r.error_code = x.task.error_code

/-- Of the texts of the record, the threads of a task write its error code. -/
theorem encodable_of_asCreated {t : Task} (h : AuditLogger.Encodable I t.asCreated)
    (hcode : ∀ code ∈ t.error_code, PyStr.Scalar code) : AuditLogger.Encodable I t :=
  { nesting := h.nesting
    request_id := h.request_id
    task_id := h.task_id
    telegram_user_id := h.telegram_user_id
    user_role := h.user_role
    operation := h.operation
    vehicle_number := h.vehicle_number
    vehicle_ip := h.vehicle_ip
    error_code := hcode
    runner_mode := h.runner_mode
    risk := h.risk }

theorem error_code_at_close (t : Task) (now : Time) : (at_close t now).error_code = t.error_code := by
  unfold at_close
  split <;> rfl

theorem error_code_report_state (t : Task) (state message : PyStr) (now : Time) :
    (report_state t state message now).error_code = t.error_code := by
  unfold report_state
  split
  · rfl
  · split <;> rfl

/-- The error codes of the model can be encoded. -/
theorem code_step {x x' : Execution} {a : Action} {written : List AuditRecord}
    (hcode : ∀ code ∈ x.task.error_code, PyStr.Scalar code)
    (hheld : ∀ code message, x.holds (.raised (.runnerFailure code message)) → PyStr.Scalar code)
    (h : Advance I config x a x' written) :
    ∀ code ∈ x'.task.error_code, PyStr.Scalar code := by
  cases h with
  | lapse now _ =>
    have hcode : (after_timeout x.task now).error_code = some "operation_timeout".py := rfl
    rw [hcode]
    simp
  | normalize exc now _ =>
    have hcode : (after_error x.task exc now).error_code = some "internal_error".py := rfl
    rw [hcode]
    simp
  | failed error_code message now hpc =>
    intro code hc
    obtain rfl := Option.some.inj hc
    exact hheld _ message (.inr (.inr hpc))
  | close now fault _ => rw [error_code_at_close]; exact hcode
  | report state message now _ => rw [error_code_report_state]; exact hcode
  | _ => exact hcode

theorem Audited.step {x x' : Execution} {a : Action} {written records : List AuditRecord}
    (ha : auditable x a = true) (hx : Audited I x records) (h : Advance I config x a x' written) :
    Audited I x' (records ++ written) := by
  have hfixed : AuditLogger.Encodable I x'.task.asCreated := advance_asCreated h ▸ hx.fixed
  have hcode := code_step hx.code hx.held h
  have hheld : ∀ code message, x'.holds (.raised (.runnerFailure code message)) →
      PyStr.Scalar code := by
    intro code message ho
    rcases holds_step h ho with hold | rfl
    · exact hx.held code message hold
    · simpa [auditable] using ha
  cases hby : a.byRunner with
  | true =>
    obtain ⟨hpc, hsecret, rfl, htask⟩ := runner_step h hby
    rw [List.append_nil]
    refine ⟨hfixed, hcode, hheld, fun hended => hx.pending (hpc ▸ hended), fun hended => ?_⟩
    have hclosed := hx.closed (hpc ▸ hended)
    rw [hsecret]
    obtain htask | ⟨state, message, now, htask⟩ := htask
    · rwa [htask]
    · rwa [htask, report_state_terminal hclosed.1]
  | false =>
    obtain ⟨now, fault, rfl, hpc, hpc', htask, hsecret, hw⟩ | ⟨hopen, hpc', hsecret, rfl⟩ :=
      executor_step h hby
    · obtain rfl : fault = false := by simpa [auditable] using ha
      rw [htask] at hfixed hcode
      have hencodable := encodable_of_asCreated hfixed hcode
      rw [AuditLogger.write_task_event_of_encodable hencodable] at hw
      refine ⟨htask ▸ hfixed, htask ▸ hcode, hheld, fun h => absurd hpc' h, fun _ => ?_⟩
      rw [htask, hsecret, hw, hx.pending (by rw [hpc]; nofun)]
      exact ⟨terminal_at_close x.task now, rfl, _, rfl, rfl, rfl⟩
    · rw [List.append_nil]
      refine ⟨hfixed, hcode, hheld, fun _ => hx.pending ?_, fun hended => absurd hended hpc'⟩
      intro hended
      rw [hended] at hopen
      cases hopen

theorem Audited.new {s : Service} {payload : Json.Fields} {env : CreateEnv} {task : Task}
    {vpn : VpnCredentials} (hmode : config.runner_mode.Scalar)
    (h : s.Accepts I config payload env task vpn) : Audited I (newExecution task vpn) [] where
  fixed := by
    rw [newExecution, h.asCreated]
    exact encodable_of_accepts hmode h
  code := (encodable_of_accepts hmode h).error_code
  held := fun code message ho => by rcases ho with h | h | h <;> cases h
  pending := fun _ => rfl
  closed := nofun

/-- The executor of `id` has ended. -/
def executorEnded (s : State) (id : PyStr) : Bool := (s.view id).any fun x => x.executor.isEnded

/-- The task `id` is closed out: it has a terminal state and no credentials,
    and its one audit record agrees with `get_task`. -/
structure ClosedOut (s : State) (id : PyStr) (record : AuditRecord) : Prop where
  secret : s.service.secrets_by_task_id.get? id = none
  one_record : s.records id = [record]
  agrees : ∀ now, ∃ response, s.service.get_task id now = .ok response ∧
    response.state.terminal = true ∧ response.state = record.result_state ∧
    response.error_code = record.error_code

/-- In every run in which the audit file can be written and the error codes
    of runner failures can be encoded, a task whose executor has ended is
    closed out by one audit record, for the rest of the run. -/
theorem task_closed_out {s : State} (hmode : config.runner_mode.Scalar)
    (h : Lts.Reachable (runs I config auditable) s) {id : PyStr} (hended : executorEnded s id = true) :
    ∃ record, ∀ s', Lts.Star (runs I config auditable) s s' → ClosedOut s' id record := by
  have haudited : ∀ s x, Lts.Reachable (runs I config auditable) s → s.view id = some x →
      Audited I x (s.records id) := by
    intro s x h hx
    exact task_invariant (fun _ _ _ _ _ hacc => Audited.new hmode hacc)
      (fun _ _ _ _ _ ha hx hadv => hx.step ha hadv) h hx
  obtain ⟨x, hx, hisEnded⟩ := (Option.any_eq_true _ _).mp hended
  have hpc := Executor.isEnded_iff.mp hisEnded
  obtain ⟨hterm, hsecret, record, hrecords, hstate, hcode⟩ := (haudited s x h hx).closed hpc
  refine ⟨record, fun s' hlater => ?_⟩
  have hstep : ∀ y a y' written records, auditable y a = true →
      (y.task = x.task ∧ y.executor = .ended ∧ y.secret = none) ∧ records = [record] →
      Advance I config y a y' written →
      (y'.task = x.task ∧ y'.executor = .ended ∧ y'.secret = none) ∧ records ++ written = [record] := by
    rintro y a y' written records - ⟨⟨htask, hpc, hsecret⟩, hrecords⟩ hadv
    obtain ⟨hpc', hsecret', rfl⟩ := ended_step hpc hadv
    have hfrozen := frozen_step htask hterm (by rw [hpc]; rfl) hadv
    exact ⟨⟨hfrozen.1, hpc', hsecret'.trans hsecret⟩, by rw [List.append_nil, hrecords]⟩
  obtain ⟨x', hx', ⟨htask, -, hsecret'⟩, hrecords'⟩ := task_stable
    (Q := fun y records => (y.task = x.task ∧ y.executor = .ended ∧ y.secret = none) ∧
      records = [record]) hstep h hlater hx ⟨⟨rfl, hpc, hsecret⟩, hrecords⟩
  obtain ⟨_, ht', hsec⟩ := view_eq_some.mp hx'
  refine ⟨hsec.trans hsecret', hrecords', fun now => ⟨x.task.to_response now, ?_, hterm, hstate.symm,
    hcode.symm⟩⟩
  simp only [Service.get_task, ht', htask]

/-- A diagnostic that fails with the error code `error_code`, up to the end
    of its executor. -/
def failedTask (error_code : PyStr) : List Label :=
  [.create_task (samplePayload "r1") (sampleEnv "t1"), .thread "t1".py .fetch,
    .thread "t1".py .launch, .thread "t1".py .enter,
    .thread "t1".py (.leave (.raised (.runnerFailure error_code "no VPN".py))),
    .thread "t1".py .die, .thread "t1".py .join_over, .thread "t1".py .check_alive,
    .thread "t1".py (.settle sampleLater),
    .thread "t1".py (.close sampleLater false)]

theorem task_closed_out_sample :
    let s := (runs sampleInterp sampleConfig auditable).play (failedTask "vpn_client_error".py)
    ∃ record, ∀ s', Lts.Star (runs sampleInterp sampleConfig auditable) s s' →
      ClosedOut s' "t1".py record :=
  task_closed_out (PyStr.scalar_py "dry_run") (Lts.reachable_play _) (by decide +kernel)

/-- Conversely, an executor whose task has an error code with a lone
    surrogate ends without a record, though the file can be written. -/
theorem close_without_record {s : State} {id : PyStr} {x : Execution} {code : PyStr} (now : Time)
    (hx : s.view id = some x) (hpc : x.executor = .closing) (hcode : x.task.error_code = some code)
    (hsurrogate : ¬ code.Scalar) :
    ∃ s', (worker I config).step s (.thread id (.close now false)) s' ∧
      executorEnded s' id = true ∧ s'.audit_log = s.audit_log := by
  have hw : (AuditLogger.write_task_event I (at_close x.task now) now false).toOption = none := by
    cases hwrite : AuditLogger.write_task_event I (at_close x.task now) now false with
    | error e => rfl
    | ok r =>
      refine absurd (AuditLogger.scalar_of_write_task_event hwrite code ?_) hsurrogate
      rw [error_code_at_close]
      exact hcode
  have hadv : advance I config x (.close now false) =
      some ({ x with executor := .ended, task := at_close x.task now, secret := none }, []) := by
    simp [advance, hpc, hw]
  refine ⟨s.put id { x with executor := .ended, task := at_close x.task now, secret := none } [],
    ?_, ?_, List.append_nil _⟩
  · simp only [Lts.System.step, worker, next, hx, hadv, Option.bind_eq_bind, Option.bind_some]
    rfl
  · rw [executorEnded, view_put_self hx]
    rfl

/-- A runner failure whose code is a lone surrogate: the executor ends, and
    the audit file stays empty. -/
theorem task_without_record :
    ∃ s, Lts.Reachable (worker sampleInterp sampleConfig) s ∧ executorEnded s "t1".py = true ∧
      s.audit_log.isEmpty = true :=
  ⟨(worker sampleInterp sampleConfig).play (failedTask [0xD800]), Lts.reachable_play _,
    by decide +kernel, by decide +kernel⟩

end BoVpnAgent.Worker

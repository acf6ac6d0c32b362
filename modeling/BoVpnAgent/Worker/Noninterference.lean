import BoVpnAgent.Lib.TwoRuns
import BoVpnAgent.Worker.Runs

/-! # Two workers with different credentials

    Two workers get the same requests but for the user names and passwords in
    them, and their threads and runners then do the same.  No answer of the
    two tells them apart, and neither does the audit log: a task does not hold
    the credentials, and the fingerprint that depends on them is compared with
    other fingerprints only.

    This file shows:
    - what `_build_task` makes of two such requests (`same_build_task`)
    - what a step of the threads makes of two such tasks (`same_advance`)
    - the two combined over a pair of runs (`credentials_not_shown`)
-/

namespace BoVpnAgent.Worker

variable {I : Interp} {config : WorkerConfig} {φ : PyStr → PyStr → Prop}

/-! ### Two requests -/

/-- The same field, or a text in both requests. -/
inductive SameSecret : Option Json → Option Json → Prop where
  | same (o : Option Json) : SameSecret o o
  | text {v v' : PyStr} (h : v ≠ []) (h' : v' ≠ []) : SameSecret (some (.str v)) (some (.str v'))

structure SameCredentials (vpn vpn' : Json.Fields) : Prop where
  others : ∀ key, key ≠ "username".py → key ≠ "password".py →
    Json.get? vpn key = Json.get? vpn' key
  username : SameSecret (Json.get? vpn "username".py) (Json.get? vpn' "username".py)
  password : SameSecret (Json.get? vpn "password".py) (Json.get? vpn' "password".py)

inductive SameVpn : Option Json → Option Json → Prop where
  | same (o : Option Json) : SameVpn o o
  | credentials {vpn vpn' : Json.Fields} (h : SameCredentials vpn vpn') :
    SameVpn (some (.obj vpn)) (some (.obj vpn'))

/-- The requests agree but for the texts of their credentials. -/
structure SameRequest (payload payload' : Json.Fields) : Prop where
  others : ∀ key, key ≠ "vpn".py → Json.get? payload key = Json.get? payload' key
  vpn : SameVpn (Json.get? payload "vpn".py) (Json.get? payload' "vpn".py)

/-- Both computations return related values, or raise the same exception. -/
inductive SameAnswer {α : Type} (R : α → α → Prop) : Except PyExc α → Except PyExc α → Prop where
  | ok {a a' : α} (h : R a a') : SameAnswer R (.ok a) (.ok a')
  | error (exc : PyExc) : SameAnswer R (.error exc) (.error exc)

section answers

variable {α β : Type} {R : α → α → Prop} {S : β → β → Prop}

theorem SameAnswer.refl (hR : ∀ a, R a a) (x : Except PyExc α) : SameAnswer R x x := by
  cases x with
  | ok a => exact .ok (hR a)
  | error exc => exact .error exc

theorem SameAnswer.bind {x x' : Except PyExc α} {f f' : α → Except PyExc β}
    (hx : SameAnswer R x x') (hf : ∀ a a', R a a' → SameAnswer S (f a) (f' a')) :
    SameAnswer S (x >>= f) (x' >>= f') := by
  cases hx with
  | ok h => exact hf _ _ h
  | error exc => exact .error exc

/-- The same first part. -/
theorem SameAnswer.bind_same (x : Except PyExc α) {f f' : α → Except PyExc β}
    (hf : ∀ a, SameAnswer S (f a) (f' a)) : SameAnswer S (x >>= f) (x >>= f') := by
  cases x with
  | ok a => exact hf a
  | error exc => exact .error exc

end answers

section requests

variable {payload payload' : Json.Fields}

theorem SameRequest.require_str (h : SameRequest payload payload') {key : String}
    (hkey : key.py ≠ "vpn".py) (label : String) :
    require_str payload key label = require_str payload' key label := by
  unfold BoVpnAgent.require_str
  rw [h.others key.py hkey]

theorem SameRequest.require_int (h : SameRequest payload payload') {key : String}
    (hkey : key.py ≠ "vpn".py) : require_int payload key = require_int payload' key := by
  unfold BoVpnAgent.require_int
  rw [h.others key.py hkey]

/-- A text that is required in both. -/
theorem SameSecret.require_str {vpn vpn' : Json.Fields} {key : String}
    (h : SameSecret (Json.get? vpn key.py) (Json.get? vpn' key.py)) (label : String) :
    SameAnswer (fun _ _ => True) (require_str vpn key label) (require_str vpn' key label) := by
  unfold BoVpnAgent.require_str
  generalize Json.get? vpn key.py = o at h
  generalize Json.get? vpn' key.py = o' at h
  cases h with
  | same o => exact .refl (fun _ => trivial) _
  | text h h' =>
    simp only [if_pos h, if_pos h']
    exact .ok trivial

theorem SameCredentials.build_vpn {vpn vpn' : Json.Fields} (h : SameCredentials vpn vpn')
    (unsupported : String) :
    SameAnswer (fun _ _ => True) (build_vpn vpn unsupported) (build_vpn vpn' unsupported) := by
  have hmode : BoVpnAgent.require_str vpn "mode" "vpn.mode" =
      BoVpnAgent.require_str vpn' "mode" "vpn.mode" := by
    unfold BoVpnAgent.require_str
    rw [h.others "mode".py (by decide) (by decide)]
  unfold BoVpnAgent.build_vpn
  rw [hmode]
  refine .bind_same _ fun mode => ?_
  split
  · refine (h.username.require_str _).bind fun _ _ _ => ?_
    exact (h.password.require_str _).bind fun _ _ _ => .ok trivial
  · exact .refl (fun _ => trivial) _

/-- What the two requests ask for is the same but for the credentials. -/
theorem same_check_request (h : SameRequest payload payload') (inventory : InventoryFile) :
    SameAnswer (fun c c' => c' = { c with vpn := c'.vpn })
      (check_request I config payload inventory) (check_request I config payload' inventory) := by
  have hvehicle : require_dict payload "vehicle" = require_dict payload' "vehicle" := by
    unfold require_dict
    rw [h.others "vehicle".py (by decide)]
  have hraw : SameAnswer (fun vpn vpn' => vpn = vpn' ∨ SameCredentials vpn vpn')
      (require_dict payload "vpn") (require_dict payload' "vpn") := by
    have hvpn := h.vpn
    unfold require_dict
    generalize Json.get? payload "vpn".py = o at hvpn
    generalize Json.get? payload' "vpn".py = o' at hvpn
    cases hvpn with
    | same o => exact .refl (fun _ => .inl rfl) _
    | credentials hcredentials => exact .ok (.inr hcredentials)
  unfold check_request
  have hoperation := h.require_str (show "operation".py ≠ "vpn".py by decide) "operation"
  rw [hvehicle, hoperation, h.others "user_role".py (by decide),
    h.others "role".py (by decide), h.others "params".py (by decide)]
  refine .bind_same _ fun vehicle_raw => .bind_same _ fun vehicle => ?_
  refine hraw.bind fun vpn_raw vpn_raw' hsame => ?_
  -- only the credentials themselves may differ
  have hbuild : ∀ unsupported, SameAnswer (fun _ _ => True) (build_vpn vpn_raw unsupported)
      (build_vpn vpn_raw' unsupported) := by
    intro unsupported
    rcases hsame with rfl | hcredentials
    · exact .refl (fun _ => trivial) _
    · exact hcredentials.build_vpn unsupported
  refine (hbuild _).bind fun vpn vpn' _ => ?_
  refine .bind_same _ fun operation_name => .bind_same _ fun operation => ?_
  refine .bind_same _ fun user_role => ?_
  split
  · exact .error _
  · split
    · exact .ok rfl
    · exact .error _

/-- The tasks of the two requests, with the one and with the other
    fingerprint. -/
theorem same_build_task (h : SameRequest payload payload') (fp fp' : PyStr) (env : CreateEnv) :
    SameAnswer (fun b b' => b'.1 = { b.1 with request_fingerprint := fp' } ∧
        b.1.request_fingerprint = fp)
      (build_task I config payload fp env) (build_task I config payload' fp' env) := by
  unfold build_task
  refine (same_check_request h env.inventory).bind fun checked checked' hchecked => ?_
  rw [hchecked, h.others "timeout_sec".py (by decide), h.others "runner_mode".py (by decide),
    h.require_str (show "request_id".py ≠ "vpn".py by decide) "request_id",
    h.require_int (show "telegram_user_id".py ≠ "vpn".py by decide)]
  refine .bind_same _ fun timeout_sec => ?_
  split
  · exact .error _
  · refine .bind_same _ fun runner_mode => .bind_same _ fun request_id => ?_
    exact .bind_same _ fun telegram_user_id => .ok ⟨rfl, rfl⟩

end requests

/-! ### Two tasks -/

/-- The same task with another fingerprint. -/
inductive SameTask (φ : PyStr → PyStr → Prop) (t : Task) : Task → Prop where
  | mk (fp : PyStr) (h : φ t.request_fingerprint fp) :
    SameTask φ t { t with request_fingerprint := fp }

theorem SameTask.request_fingerprint {t t' : Task} (h : SameTask φ t t') :
    φ t.request_fingerprint t'.request_fingerprint := by
  cases h with
  | mk fp h => exact h

theorem SameTask.symm {t t' : Task} (h : SameTask φ t t') : SameTask (Function.swap φ) t' t := by
  cases h with
  | mk fp h => exact .mk t.request_fingerprint h

/-- A section that does not look at the fingerprint. -/
theorem SameTask.map (f : Task → Task)
    (hf : ∀ (t : Task) fp, f { t with request_fingerprint := fp } =
      { f t with request_fingerprint := fp }) {t t' : Task} (h : SameTask φ t t') :
    SameTask φ (f t) (f t') := by
  cases h with
  | mk fp h =>
    rw [hf t fp]
    have hkept := congrArg Task.request_fingerprint (hf t t.request_fingerprint)
    refine .mk fp ?_
    rw [hkept]
    exact h

theorem SameTask.task_id {t t' : Task} (h : SameTask φ t t') : t.task_id = t'.task_id := by
  cases h; rfl

theorem SameTask.request_id {t t' : Task} (h : SameTask φ t t') :
    t.request_id = t'.request_id := by
  cases h; rfl

theorem SameTask.terminal {t t' : Task} (h : SameTask φ t t') :
    t.state.terminal = t'.state.terminal := by
  cases h; rfl

theorem SameTask.to_response {t t' : Task} (h : SameTask φ t t') (now : Time) :
    t.to_response now = t'.to_response now := by
  cases h; rfl

theorem SameTask.to_create_response {t t' : Task} (h : SameTask φ t t') :
    t.to_create_response = t'.to_create_response := by
  cases h; rfl

theorem SameTask.write_task_event {t t' : Task} (h : SameTask φ t t') (now : Time) (fault : Bool) :
    AuditLogger.write_task_event I t now fault = AuditLogger.write_task_event I t' now fault := by
  cases h; rfl

theorem SameTask.report_state {t t' : Task} (h : SameTask φ t t') (state message : PyStr)
    (now : Time) : SameTask φ (report_state t state message now)
      (report_state t' state message now) := by
  refine h.map (Worker.report_state · state message now) fun t fp => ?_
  unfold Worker.report_state
  by_cases hterm : t.state.terminal = true
  · simp only [hterm, if_true]
  · simp only [hterm]
    cases TaskState.ofName? state with
    | none => rfl
    | some st => rfl

theorem SameTask.at_close {t t' : Task} (h : SameTask φ t t') (now : Time) :
    SameTask φ (at_close t now) (at_close t' now) := by
  refine h.map (Worker.at_close · now) fun t fp => ?_
  unfold Worker.at_close
  by_cases hterm : t.state.terminal = true
  · simp only [hterm, if_true]
  · simp only [hterm]
    rfl

/-! ### Two executions -/

/-- The same place, with the one and with the other credentials in hand. -/
inductive SameExecutor : Executor → Executor → Prop where
  | same (pc : Executor) : SameExecutor pc pc
  | fetched (v v' : VpnCredentials) : SameExecutor (.fetched (some v)) (.fetched (some v'))

structure SameThreads (t t' : Threads) : Prop where
  executor : SameExecutor t.executor t'.executor
  runner : t.runner = t'.runner

structure SameExecution (φ : PyStr → PyStr → Prop) (x x' : Execution) : Prop where
  executor : SameExecutor x.executor x'.executor
  runner : x.runner = x'.runner
  task : SameTask φ x.task x'.task
  secret : x.secret.isSome = x'.secret.isSome

theorem SameExecutor.symm {pc pc' : Executor} (h : SameExecutor pc pc') : SameExecutor pc' pc := by
  cases h with
  | same pc => exact .same pc
  | fetched v v' => exact .fetched v' v

theorem SameExecutor.of_secret {v v' : Option VpnCredentials} (h : v.isSome = v'.isSome) :
    SameExecutor (.fetched v) (.fetched v') := by
  cases v with
  | none =>
    cases v' with
    | none => exact .same _
    | some => cases h
  | some v =>
    cases v' with
    | none => cases h
    | some v' => exact .fetched v v'

/-- Anywhere else the two executors stand at the same place. -/
theorem SameExecutor.eq {pc pc' : Executor} (h : SameExecutor pc pc')
    (hpc : ∀ v, pc ≠ .fetched (some v)) : pc' = pc := by
  cases h with
  | same pc => rfl
  | fetched v v' => exact absurd rfl (hpc v)

theorem SameExecution.symm {x x' : Execution} (h : SameExecution φ x x') :
    SameExecution (Function.swap φ) x' x where
  executor := h.executor.symm
  runner := h.runner.symm
  task := h.task.symm
  secret := h.secret.symm

/-- What a step leaves of two executions; it writes the same records. -/
def SameAdvanced (φ : PyStr → PyStr → Prop) (r r' : Execution × List AuditRecord) : Prop :=
  SameExecution φ r.1 r'.1 ∧ r.2 = r'.2

/-- Whether there are credentials decides whether the runner is started. -/
theorem same_launch {x x' : Execution} (h : SameExecution φ x x') {v v' : Option VpnCredentials}
    (hv : v.isSome = v'.isSome) : SameExecution φ (launch config x v) (launch config x' v') := by
  obtain ⟨pc, r, t, secret⟩ := x
  obtain ⟨pc', r', t', secret'⟩ := x'
  obtain ⟨-, hr, ht, hs⟩ := h
  cases ht with
  | mk fp hfp =>
    unfold launch
    cases v with
    | none =>
      cases v' with
      | none => exact ⟨.same _, hr, .mk fp hfp, hs⟩
      | some => cases hv
    | some v =>
      cases v' with
      | none => cases hv
      | some v' =>
        simp only
        cases create_runner t.runner_mode config.runner_url with
        | error exc => exact ⟨.same _, hr, .mk fp hfp, hs⟩
        | ok _ => exact ⟨.same _, rfl, .mk fp hfp, hs⟩

theorem SameExecutor.launch_eq {v : Option VpnCredentials} {pc' : Executor}
    (h : SameExecutor (.fetched v) pc') : ∃ v', pc' = .fetched v' ∧ v.isSome = v'.isSome := by
  cases h with
  | same => exact ⟨v, rfl, rfl⟩
  | fetched v v' => exact ⟨some v', rfl, rfl⟩

/-- The steps of one execution are the steps of the other. -/
theorem same_step {x x' y : Execution} {a : Action} {written : List AuditRecord}
    (h : SameExecution φ x x') (hstep : advance I config x a = some (y, written)) :
    ∃ y', advance I config x' a = some (y', written) ∧ SameExecution φ y y' := by
  have hadv := advance_cases hstep
  have hsame := h
  obtain ⟨pc, r, t, secret⟩ := x
  obtain ⟨pc', r', t', secret'⟩ := x'
  obtain ⟨hpc, hr, ht, hs⟩ := h
  obtain rfl : r = r' := hr
  have hat {pc₀ : Executor} (h : pc = pc₀) (hne : ∀ v, pc₀ ≠ .fetched (some v)) : pc' = pc₀ :=
    h ▸ hpc.eq (h ▸ hne)
  cases hadv with
  | fetch h =>
    obtain rfl := hat h (by simp)
    exact ⟨_, rfl, .of_secret hs, rfl, ht, hs⟩
  | launch_failed vpn _ hfetched | launched vpn hfetched =>
    obtain rfl : pc = .fetched _ := hfetched
    obtain ⟨v', rfl, hv⟩ := hpc.launch_eq
    obtain ⟨heq, -⟩ := Prod.mk.inj (Option.some.inj hstep)
    exact ⟨_, rfl, heq ▸ same_launch hsame hv⟩
  | join_over h htime =>
    obtain rfl := hat h (by simp)
    cases ht with
    | mk fp hfp => exact ⟨_, if_pos htime, .same _, rfl, .mk fp hfp, hs⟩
  | join_raise text h htime =>
    obtain rfl := hat h (by simp)
    cases ht with
    | mk fp hfp => exact ⟨_, if_neg htime, .same _, rfl, .mk fp hfp, hs⟩
  | found_dead outcome h hr =>
    obtain rfl := hat h (by simp)
    obtain rfl : r = .ended outcome := hr
    exact ⟨_, rfl, .same _, rfl, ht, hs⟩
  | found_alive h hr =>
    obtain rfl := hat h (by simp)
    refine ⟨⟨.lapsed, r, t', secret'⟩, ?_, .same _, rfl, ht, hs⟩
    cases r with
    | ended outcome => exact absurd rfl (hr outcome)
    | _ => rfl
  | lapse now h =>
    obtain rfl := hat h (by simp)
    exact ⟨_, rfl, .same _, rfl, ht.map (after_timeout · now) fun _ _ => rfl, hs⟩
  | failed error_code message now h =>
    obtain rfl := hat h (by simp)
    exact ⟨_, rfl, .same _, rfl, ht.map (after_failure · error_code message now) fun _ _ => rfl, hs⟩
  | error exc now h hne =>
    obtain rfl := hat h (by simp)
    refine ⟨⟨.crashed exc, r, t', secret'⟩, ?_, .same _, rfl, ht, hs⟩
    cases exc with
    | runnerFailure error_code message => exact absurd rfl (hne error_code message)
    | _ => rfl
  | unreadable result now h hw =>
    obtain rfl := hat h (by simp)
    refine ⟨⟨.crashed (.builtin .typeError []), r, copy_result t' result, secret'⟩, ?_, .same _, rfl,
      ht.map (copy_result · result) fun _ _ => rfl, hs⟩
    simp only [advance, settle, hw]
  | finished result warnings now h hw =>
    obtain rfl := hat h (by simp)
    refine ⟨⟨.closing, r, after_result t' result warnings now, secret'⟩, ?_, .same _, rfl,
      ht.map (after_result · result warnings now) fun _ _ => rfl, hs⟩
    simp only [advance, settle, hw]
  | normalize exc now h =>
    obtain rfl := hat h (by simp)
    exact ⟨_, rfl, .same _, rfl, ht.map (after_error · exc now) fun _ _ => rfl, hs⟩
  | close now fault h =>
    obtain rfl := hat h (by simp)
    have hclosed := ht.at_close now
    rw [hclosed.write_task_event]
    exact ⟨_, rfl, .same _, rfl, hclosed, rfl⟩
  | enter hr =>
    obtain rfl : r = .started := hr
    exact ⟨⟨pc', .in_run, t', secret'⟩, rfl, hpc, rfl, ht, hs⟩
  | report state message now hr =>
    obtain rfl : r = .in_run := hr
    exact ⟨_, rfl, hpc, rfl, ht.report_state state message now, hs⟩
  | leave outcome hr =>
    obtain rfl : r = .in_run := hr
    exact ⟨⟨pc', .leaving outcome, t', secret'⟩, rfl, hpc, rfl, ht, hs⟩
  | die outcome hr =>
    obtain rfl : r = .leaving outcome := hr
    exact ⟨⟨pc', .ended outcome, t', secret'⟩, rfl, hpc, rfl, ht, hs⟩

theorem same_advance {x x' : Execution} (h : SameExecution φ x x') (a : Action) :
    Option.Rel (SameAdvanced φ) (advance I config x a) (advance I config x' a) := by
  cases hx : advance I config x a with
  | some r =>
    obtain ⟨y', hy', hsame⟩ := same_step h hx
    rw [hy']
    exact .some ⟨hsame, rfl⟩
  | none =>
    cases hx' : advance I config x' a with
    | none => exact .none
    | some r =>
      -- what the second execution can do, the first can do
      obtain ⟨y, hy, -⟩ := same_step h.symm hx'
      rw [hx] at hy
      cases hy

/-! ### Two services -/

structure SameService (φ : PyStr → PyStr → Prop) (s s' : Service) : Prop where
  rate_limiter : s.rate_limiter = s'.rate_limiter
  heap : List.Forall₂ (SameTask φ) s.heap.cells s'.heap.cells
  tasks_by_id : s.tasks_by_id = s'.tasks_by_id
  tasks_by_request_id : s.tasks_by_request_id = s'.tasks_by_request_id
  secrets_by_task_id : ∀ id, (s.secrets_by_task_id.get? id).isSome =
    (s'.secrets_by_task_id.get? id).isSome

section services

variable {s s' : Service}

theorem SameService.read (h : SameService φ s s') (r : Ref) :
    Option.Rel (SameTask φ) (s.heap.read r) (s'.heap.read r) := Lts.getElem?_of_forall₂ h.heap r

theorem SameService.task? (h : SameService φ s s') (id : PyStr) :
    Option.Rel (SameTask φ) (s.task? id) (s'.task? id) := by
  unfold Service.task?
  rw [← h.tasks_by_id]
  cases s.tasks_by_id.get? id with
  | none => exact .none
  | some r => exact h.read r

theorem SameService.request? (h : SameService φ s s') (request_id : PyStr) :
    Option.Rel (SameTask φ) (s.request? request_id) (s'.request? request_id) := by
  unfold Service.request?
  rw [← h.tasks_by_request_id]
  cases s.tasks_by_request_id.get? request_id with
  | none => exact .none
  | some r => exact h.read r

/-- An active task in the one is an active task in the other. -/
theorem SameService.active_task (h : SameService φ s s') :
    s.active_task.isSome = s'.active_task.isSome := by
  unfold Service.active_task
  rw [← h.tasks_by_id]
  have htasks : List.Forall₂ (SameTask φ) (s.tasks_by_id.values.filterMap s.heap.read)
      (s.tasks_by_id.values.filterMap s'.heap.read) := by
    refine List.rel_filterMap ?_ (List.forall₂_eq_eq_eq ▸ rfl)
    rintro r r rfl
    exact h.read r
  exact Lts.isSome_find?_of_forall₂ (fun t t' ht => congrArg not ht.terminal) htasks

/-- `get_task` answers the same. -/
theorem SameService.get_task (h : SameService φ s s') (id : PyStr) (now : Time) :
    s.get_task id now = s'.get_task id now := by
  unfold Service.get_task
  have ht := h.task? id
  generalize s.task? id = o at ht
  generalize s'.task? id = o' at ht
  cases ht with
  | none => rfl
  | some hsame => exact congrArg Except.ok (hsame.to_response now)

/-- A new task is filed at the same place. -/
theorem SameService.register (h : SameService φ s s') {t t' : Task} (ht : SameTask φ t t')
    (vpn vpn' : VpnCredentials) : SameService φ (s.register t vpn) (s'.register t' vpn') := by
  have hnext : s.heap.next = s'.heap.next := h.heap.length_eq
  constructor
  · exact h.rate_limiter
  · exact Lts.snoc_of_forall₂ h.heap ht
  · show s.tasks_by_id.set _ _ = s'.tasks_by_id.set _ _
    rw [ht.task_id, hnext, h.tasks_by_id]
  · show s.tasks_by_request_id.set _ _ = s'.tasks_by_request_id.set _ _
    rw [ht.request_id, hnext, h.tasks_by_request_id]
  · intro id
    show ((s.secrets_by_task_id.set _ _).get? id).isSome =
      ((s'.secrets_by_task_id.set _ _).get? id).isSome
    rw [ht.task_id, Dict.get?_set, Dict.get?_set]
    split
    · rfl
    · exact h.secrets_by_task_id id

/-- The fingerprints of the two requests: the same exception, or a pair. -/
abbrev SameFingerprint (I : Interp) (φ : PyStr → PyStr → Prop) (payload payload' : Json.Fields) :
    Prop :=
  SameAnswer φ (Security.fingerprint_request I payload) (Security.fingerprint_request I payload')

/-- What a call of `create_task` leaves of the two services, and its answer. -/
structure SameCall (φ : PyStr → PyStr → Prop) {α : Type} (r r' : Service × α) : Prop where
  service : SameService φ r.1 r'.1
  answer : r.2 = r'.2

theorem same_create_new (h : SameService φ s s') {payload payload' : Json.Fields}
    (hreq : SameRequest payload payload') {fp fp' : PyStr} (hfp : φ fp fp') (env : CreateEnv) :
    SameCall φ (s.create_new I config payload fp env) (s'.create_new I config payload' fp' env) := by
  unfold Service.create_new
  rw [hreq.require_int (show "telegram_user_id".py ≠ "vpn".py by decide)]
  cases require_int payload' "telegram_user_id" with
  | error e => exact ⟨h, rfl⟩
  | ok telegram_user_id =>
    simp only [h.rate_limiter]
    have hlimited (limiter : RateLimiter) : SameService φ { s with rate_limiter := limiter }
        { s' with rate_limiter := limiter } :=
      ⟨rfl, h.heap, h.tasks_by_id, h.tasks_by_request_id, h.secrets_by_task_id⟩
    generalize s'.rate_limiter.check telegram_user_id.val env.monotonic = checked
    obtain ⟨limiter, allowed⟩ := checked
    have hactive := (hlimited limiter).active_task
    simp only [hactive]
    split
    · exact ⟨hlimited limiter, rfl⟩
    · split
      · exact ⟨hlimited limiter, rfl⟩
      · have hbuild := @same_build_task I config payload payload' hreq fp fp' env
        generalize build_task I config payload fp env = built at hbuild
        generalize build_task I config payload' fp' env = built' at hbuild
        cases hbuild with
        | error e => exact ⟨hlimited limiter, rfl⟩
        | @ok b b' hbuilt =>
          obtain ⟨task, vpn⟩ := b
          obtain ⟨_, vpn'⟩ := b'
          obtain ⟨rfl, rfl⟩ := hbuilt
          exact ⟨(hlimited limiter).register (.mk fp' hfp) vpn vpn', rfl⟩

/-- A call of `create_task`. -/
theorem same_create_task (hφ : Relator.BiUnique φ) (h : SameService φ s s')
    {payload payload' : Json.Fields} (hreq : SameRequest payload payload')
    (hfp : SameFingerprint I φ payload payload') (env : CreateEnv) :
    SameCall φ (s.create_task I config payload env) (s'.create_task I config payload' env) := by
  unfold Service.create_task
  rw [hreq.require_str (show "request_id".py ≠ "vpn".py by decide)]
  cases require_str payload' "request_id" with
  | error e => exact ⟨h, rfl⟩
  | ok request_id =>
    unfold SameFingerprint at hfp
    generalize Security.fingerprint_request I payload = o at hfp
    generalize Security.fingerprint_request I payload' = o' at hfp
    cases hfp with
    | error e => exact ⟨h, rfl⟩
    | @ok fp fp' hfp =>
      simp only
      have hknown := h.request? request_id
      generalize s.request? request_id = known at hknown
      generalize s'.request? request_id = known' at hknown
      cases hknown with
      | none => exact same_create_new h hreq hfp env
      | @some existing existing' hsame =>
        -- the fingerprints are paired one to one
        have hiff : existing.request_fingerprint = fp ↔ existing'.request_fingerprint = fp' :=
          Relator.rel_eq hφ hsame.request_fingerprint hfp
        simp only [hsame.to_create_response, ne_eq, hiff]
        split
        · exact ⟨h, rfl⟩
        · exact ⟨h, rfl⟩

end services

/-! ### Two workers -/

structure SameState (φ : PyStr → PyStr → Prop) (s s' : State) : Prop where
  service : SameService φ s.service s'.service
  threads : ∀ id, Option.Rel SameThreads (s.threads.get? id) (s'.threads.get? id)
  audit_log : s.audit_log = s'.audit_log

/-- The same step, or two calls of `create_task` that agree but for the
    credentials. -/
inductive SameLabel (I : Interp) (φ : PyStr → PyStr → Prop) : Label → Label → Prop where
  | create_task {payload payload' : Json.Fields} (env : CreateEnv)
      (hreq : SameRequest payload payload') (hfp : SameFingerprint I φ payload payload') :
    SameLabel I φ (.create_task payload env) (.create_task payload' env)
  | thread (id : PyStr) (a : Action) : SameLabel I φ (.thread id a) (.thread id a)

section workers

variable {s s' : State}

theorem SameState.init : SameState φ (worker I config).init (worker I config).init where
  service := ⟨rfl, .nil, rfl, rfl, fun _ => rfl⟩
  threads := fun _ => .none
  audit_log := rfl

theorem SameState.view (h : SameState φ s s') (id : PyStr) :
    Option.Rel (SameExecution φ) (s.view id) (s'.view id) := by
  have hthreads := h.threads id
  have htask := h.service.task? id
  unfold State.view
  generalize s.threads.get? id = o at hthreads
  generalize s'.threads.get? id = o' at hthreads
  cases hthreads with
  | none => exact .none
  | some ht =>
    generalize s.service.task? id = o at htask
    generalize s'.service.task? id = o' at htask
    cases htask with
    | none => exact .none
    | some hsame =>
      exact .some ⟨ht.executor, ht.runner, hsame, h.service.secrets_by_task_id id⟩

theorem SameState.put (h : SameState φ s s') (id : PyStr) {x x' : Execution}
    (hx : SameExecution φ x x') (written : List AuditRecord) :
    SameState φ (s.put id x written) (s'.put id x' written) := by
  have hservice := h.service
  refine ⟨⟨hservice.rate_limiter, ?_, hservice.tasks_by_id, hservice.tasks_by_request_id,
    fun k => ?_⟩, fun k => ?_, congrArg (· ++ written) h.audit_log⟩
  · have hcell := hservice.tasks_by_id
    cases hr : s.service.tasks_by_id.get? id with
    | none =>
      simp only [State.put, hr, ← hcell]
      exact hservice.heap
    | some r =>
      simp only [State.put, hr, ← hcell]
      exact Lts.set_of_forall₂ hservice.heap r hx.task
  · have hsecret := hx.secret
    have hothers := hservice.secrets_by_task_id k
    unfold State.put
    simp only
    generalize x.secret = o at hsecret
    generalize x'.secret = o' at hsecret
    cases o with
    | none =>
      cases o' with
      | some => cases hsecret
      | none =>
        simp only [Dict.get?_pop]
        split
        · rfl
        · exact hothers
    | some vpn =>
      cases o' with
      | none => cases hsecret
      | some vpn' =>
        simp only [Dict.get?_set]
        split
        · rfl
        · exact hothers
  · show Option.Rel SameThreads ((s.threads.set id _).get? k) ((s'.threads.set id _).get? k)
    rw [Dict.get?_set, Dict.get?_set]
    split
    · exact .some ⟨hx.executor, hx.runner⟩
    · exact h.threads k

theorem same_next (hφ : Relator.BiUnique φ) (h : SameState φ s s') {l l' : Label}
    (hl : SameLabel I φ l l') :
    Option.Rel (SameState φ) ((worker I config).next s l) ((worker I config).next s' l') := by
  cases hl with
  | create_task env hreq hfp =>
    have hcall := @same_create_task I config φ _ _ hφ h.service _ _ hreq hfp env
    simp only [worker, next, ← h.service.tasks_by_id]
    split
    · exact .none
    · generalize s.service.create_task I config _ env = r at hcall
      generalize s'.service.create_task I config _ env = r' at hcall
      obtain ⟨service, answer⟩ := r
      obtain ⟨service', answer'⟩ := r'
      obtain ⟨hservice, rfl⟩ := hcall
      split
      · next service₁ response heq =>
        obtain ⟨rfl, rfl⟩ := Prod.mk.inj heq
        refine .some ⟨hservice, fun k => ?_, h.audit_log⟩
        show Option.Rel SameThreads ((s.threads.set _ _).get? k) ((s'.threads.set _ _).get? k)
        rw [Dict.get?_set, Dict.get?_set]
        split
        · exact .some ⟨.same _, rfl⟩
        · exact h.threads k
      · next service₁ answer₁ hother heq =>
        obtain ⟨rfl, rfl⟩ := Prod.mk.inj heq
        split
        · next service₂ response heq =>
          obtain ⟨-, rfl⟩ := Prod.mk.inj heq
          exact absurd rfl (hother response)
        · next heq =>
          obtain ⟨rfl, rfl⟩ := Prod.mk.inj heq
          exact .some ⟨hservice, h.threads, h.audit_log⟩
  | thread id a =>
    have hview := h.view id
    simp only [worker, next]
    generalize s.view id = o at hview
    generalize s'.view id = o' at hview
    cases hview with
    | none => exact .none
    | @some x x' hx =>
      have hadv := @same_advance I config φ x x' hx a
      simp only [Option.bind_eq_bind, Option.bind_some]
      generalize advance I config x a = o at hadv
      generalize advance I config x' a = o' at hadv
      cases hadv with
      | none => exact .none
      | @some r r' hr =>
        obtain ⟨y, written⟩ := r
        obtain ⟨y', written'⟩ := r'
        obtain ⟨hy, hw⟩ := hr
        obtain rfl : written = written' := hw
        exact .some (h.put id hy written)

end workers

/-- Two workers that get the same requests but for their credentials, and
    whose threads and runners then do the same, give the same answers to every
    later call, and write the same audit log. -/
theorem credentials_not_shown (hφ : Relator.BiUnique φ) {ls ls' : List Label}
    (hls : List.Forall₂ (SameLabel I φ) ls ls') :
    let s := (worker I config).play ls
    let s' := (worker I config).play ls'
    (∀ payload payload' env, SameRequest payload payload' → SameFingerprint I φ payload payload' →
      (s.service.create_task I config payload env).2 =
        (s'.service.create_task I config payload' env).2) ∧
    (∀ id now, s.service.get_task id now = s'.service.get_task id now) ∧
    s.service.active_task.isSome = s'.service.active_task.isSome ∧
    s.audit_log = s'.audit_log := by
  intro s s'
  have hsame : SameState φ s s' := Lts.playFrom_related₂
    (fun _ _ _ _ h hl => same_next hφ h hl) .init hls
  refine ⟨fun payload payload' env hreq hfp => ?_, fun id now => ?_, ?_, hsame.audit_log⟩
  · exact (same_create_task hφ hsame.service hreq hfp env).answer
  · exact hsame.service.get_task id now
  · exact hsame.service.active_task

/-- The sample request with another password. -/
def otherPayload : Json.Fields :=
  [("request_id".py, .str "r".py), ("telegram_user_id".py, .int 7),
    ("vehicle".py, .obj [("number".py, .str "1".py), ("ip".py, .str "10.0.0.1".py)]),
    ("vpn".py, .obj [("mode".py, .str "inline_once".py), ("username".py, .str "u".py),
      ("password".py, .str "q".py)]),
    ("operation".py, .str "basic_status".py), ("timeout_sec".py, .int 5)]

theorem same_samplePayload : SameRequest (samplePayload "r") otherPayload where
  others := by
    intro key hkey
    simp [samplePayload, otherPayload, Json.get?, Dict.lookup, hkey.symm]
  vpn := .credentials
    { others := by
        intro key _ hpassword
        simp [Json.get?, Dict.lookup, hpassword.symm]
      username := .same _
      password := .text (by decide) (by decide) }

theorem exists_ok {ε α : Type} {x : Except ε α} (h : x.isOk = true) : ∃ a, x = .ok a := by
  cases x with
  | ok a => exact ⟨a, rfl⟩
  | error e => cases h

/-- A diagnostic up to its audit record. -/
def closedTask : List Action :=
  [.fetch, .launch, .enter, .leave (.returned { summary := .str "ok".py, data := .obj [] }), .die,
    .join_over, .check_alive, .settle sampleLater, .close sampleLatest false]

theorem sameLabel_threads (φ : PyStr → PyStr → Prop) (id : PyStr) (acts : List Action) :
    List.Forall₂ (SameLabel sampleInterp φ) (acts.map (.thread id)) (acts.map (.thread id)) := by
  refine List.forall₂_same.mpr fun l hl => ?_
  obtain ⟨a, -, rfl⟩ := List.mem_map.mp hl
  exact .thread id a

theorem credentials_not_shown_sample :
    let s := (worker sampleInterp sampleConfig).play
      (.create_task (samplePayload "r") (sampleEnv "t") :: closedTask.map (.thread "t".py))
    let s' := (worker sampleInterp sampleConfig).play
      (.create_task otherPayload (sampleEnv "t") :: closedTask.map (.thread "t".py))
    s.audit_log.length = 1 ∧ s.audit_log = s'.audit_log ∧
      s.service.get_task "t".py sampleNow = s'.service.get_task "t".py sampleNow := by
  obtain ⟨fingerprint, hfp⟩ := exists_ok (show
    (Security.fingerprint_request sampleInterp (samplePayload "r")).isOk = true by decide +kernel)
  obtain ⟨fingerprint', hfp'⟩ := exists_ok (show
    (Security.fingerprint_request sampleInterp otherPayload).isOk = true by decide +kernel)
  have hsame := @credentials_not_shown sampleInterp sampleConfig
    (fun fp fp' => fp = fingerprint ∧ fp' = fingerprint') ⟨?_, ?_⟩ _ _
    (.cons (.create_task (sampleEnv "t") same_samplePayload ?_)
      (sameLabel_threads _ "t".py closedTask))
  · exact ⟨by decide +kernel, hsame.2.2.2, hsame.2.1 _ _⟩
  · rintro a b c ⟨rfl, -⟩ ⟨rfl, -⟩
    rfl
  · rintro a b c ⟨-, rfl⟩ ⟨-, rfl⟩
    rfl
  · unfold SameFingerprint
    rw [hfp, hfp']
    exact .ok ⟨rfl, rfl⟩

end BoVpnAgent.Worker

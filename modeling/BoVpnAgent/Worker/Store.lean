import BoVpnAgent.Worker.System

/-! # The store of the worker

    The two dictionaries of tasks, the secrets and the threads agree in every
    reachable state, and at most one task is unfinished.

    The proof is in three parts: what a step of a task's threads can do to
    the task (`advance_*`), that filing and rewriting tasks keeps the
    dictionaries in agreement (`Filed`), and the two combined over a run
    (`well_formed`).
-/

namespace BoVpnAgent.Worker

variable {I : Interp} {config : WorkerConfig}

/-! ### What a step of a task's threads leaves alone -/

section advance

variable {x x' : Execution} {a : Action} {written : List AuditRecord}

theorem asCreated_report_state (t : Task) (state message : PyStr) (now : Time) :
    (report_state t state message now).asCreated = t.asCreated := by
  unfold report_state
  split
  · rfl
  · split <;> rfl

theorem asCreated_at_close (t : Task) (now : Time) : (at_close t now).asCreated = t.asCreated := by
  unfold at_close
  split <;> rfl

/-- The fields of the request never change. -/
theorem advance_asCreated (h : Advance I config x a x' written) :
    x'.task.asCreated = x.task.asCreated := by
  cases h with
  | close now fault _ => exact asCreated_at_close x.task now
  | report state message now _ => exact asCreated_report_state x.task state message now
  | _ => rfl

theorem advance_keys (h : Advance I config x a x' written) :
    x'.task.task_id = x.task.task_id ∧ x'.task.request_id = x.task.request_id ∧
      x'.task.request_fingerprint = x.task.request_fingerprint := by
  have heq := advance_asCreated h
  have hid := congrArg Task.task_id heq
  have hreq := congrArg Task.request_id heq
  have hfp := congrArg Task.request_fingerprint heq
  exact ⟨hid, hreq, hfp⟩

theorem report_state_terminal {t : Task} (ht : t.state.terminal = true) (state message : PyStr)
    (now : Time) : report_state t state message now = t := by
  simp [report_state, ht]

theorem at_close_terminal {t : Task} (ht : t.state.terminal = true) (now : Time) :
    at_close t now = t := by
  simp [at_close, ht]

theorem terminal_at_close (t : Task) (now : Time) : (at_close t now).state.terminal = true := by
  unfold at_close
  split
  · assumption
  · rfl

/-- A finished task stays finished at every release of the lock. -/
theorem advance_terminal (h : Advance I config x a x' written)
    (ht : x.task.state.terminal = true) : x'.task.state.terminal = true := by
  cases h with
  | lapse => rfl
  | failed => rfl
  | finished => rfl
  | normalize => rfl
  | close => exact terminal_at_close _ _
  | report => rw [report_state_terminal ht]; exact ht
  | _ => exact ht

/-- The audit records of a task's threads are about the task. -/
theorem advance_written (h : Advance I config x a x' written) :
    ∀ r ∈ written, r.task_id = x.task.task_id := by
  cases h with
  | close now fault _ =>
    intro r hr
    cases hw : AuditLogger.write_task_event I (at_close x.task now) now fault with
    | error e => simp [hw, Except.toOption] at hr
    | ok r' =>
      obtain rfl : r = r' := by simpa [hw, Except.toOption] using hr
      rw [AuditLogger.write_task_event_record hw]
      have hid := congrArg Task.task_id (asCreated_at_close x.task now)
      exact hid
  | _ => simp

end advance

/-! ### Tasks filed under their own keys -/

/-- Every task is filed under its own `task_id` and its own `request_id`, and
    both dictionaries point to the same object. -/
structure Filed (s : Service) : Prop where
  by_id : ∀ id r, s.tasks_by_id.get? id = some r →
    ∃ t, s.heap.read r = some t ∧ t.task_id = id ∧ s.tasks_by_request_id.get? t.request_id = some r
  by_request : ∀ q r, s.tasks_by_request_id.get? q = some r →
    ∃ t, s.heap.read r = some t ∧ t.request_id = q ∧ s.tasks_by_id.get? t.task_id = some r

namespace Filed

variable {s : Service}

theorem task? (h : Filed s) {id : PyStr} {t : Task} (ht : s.task? id = some t) :
    t.task_id = id := by
  obtain ⟨r, hr, hread⟩ := Option.bind_eq_some_iff.mp ht
  obtain ⟨t', ht', hid, _⟩ := h.by_id id r hr
  rw [hread] at ht'
  rw [Option.some.inj ht']
  exact hid

theorem isSome_task? (h : Filed s) (id : PyStr) :
    (s.task? id).isSome ↔ (s.tasks_by_id.get? id).isSome := by
  unfold Service.task?
  cases hr : s.tasks_by_id.get? id with
  | none => simp
  | some r =>
    obtain ⟨t, ht, _⟩ := h.by_id id r hr
    simp [ht]

/-- A task found by its request is the task found by its id. -/
theorem request? (h : Filed s) {q : PyStr} {t : Task} :
    s.request? q = some t ↔ t.request_id = q ∧ s.task? t.task_id = some t := by
  unfold Service.request? Service.task?
  simp only [Option.bind_eq_some_iff]
  constructor
  · rintro ⟨r, hr, hread⟩
    obtain ⟨t', ht', hq, hid⟩ := h.by_request q r hr
    obtain rfl : t = t' := Option.some.inj (hread.symm.trans ht')
    exact ⟨hq, r, hid, hread⟩
  · rintro ⟨rfl, r, hr, hread⟩
    obtain ⟨t', ht', _, hq⟩ := h.by_id _ r hr
    obtain rfl : t = t' := Option.some.inj (hread.symm.trans ht')
    exact ⟨r, hq, hread⟩

theorem ref_inj (h : Filed s) {id id' : PyStr} {r : Ref} (hr : s.tasks_by_id.get? id = some r)
    (hr' : s.tasks_by_id.get? id' = some r) : id = id' := by
  obtain ⟨t, ht, hid, _⟩ := h.by_id id r hr
  obtain ⟨t', ht', hid', _⟩ := h.by_id id' r hr'
  rw [ht] at ht'
  rw [← hid, ← hid', Option.some.inj ht']

/-- Both dictionaries hold the same objects. -/
theorem same_tasks (h : Filed s) (r : Ref) :
    r ∈ s.tasks_by_id.values ↔ r ∈ s.tasks_by_request_id.values := by
  simp only [Dict.mem_values_iff]
  constructor
  · rintro ⟨id, hr⟩
    obtain ⟨t, _, _, hq⟩ := h.by_id id r hr
    exact ⟨_, hq⟩
  · rintro ⟨q, hr⟩
    obtain ⟨t, _, _, hid⟩ := h.by_request q r hr
    exact ⟨_, hid⟩

theorem init : Filed (Service.init config) where
  by_id := fun _ _ h => by cases h
  by_request := fun _ _ h => by cases h

/-- Filing a new task under new keys. -/
theorem register (h : Filed s) {task : Task} {vpn : VpnCredentials}
    (hid : s.tasks_by_id.get? task.task_id = none)
    (hreq : s.request? task.request_id = none) : Filed (s.register task vpn) := by
  have hq : s.tasks_by_request_id.get? task.request_id = none := by
    cases hr : s.tasks_by_request_id.get? task.request_id with
    | none => rfl
    | some r =>
      obtain ⟨t, ht, _⟩ := h.by_request _ r hr
      simp [Service.request?, hr, ht] at hreq
  constructor
  · intro id r hr
    simp only [Service.register, Dict.get?_set] at hr ⊢
    split at hr
    · next heq =>
      obtain rfl := Option.some.inj hr
      exact ⟨task, Heap.read_alloc_next _ _, heq, by simp⟩
    · obtain ⟨t, ht, htid, htq⟩ := h.by_id id r hr
      refine ⟨t, Heap.read_alloc_of_some ht _, htid, ?_⟩
      rw [if_neg]
      · exact htq
      · intro heq
        rw [heq, htq] at hq
        cases hq
  · intro q r hr
    simp only [Service.register, Dict.get?_set] at hr ⊢
    split at hr
    · next heq =>
      obtain rfl := Option.some.inj hr
      exact ⟨task, Heap.read_alloc_next _ _, heq, by simp⟩
    · obtain ⟨t, ht, htq, htid⟩ := h.by_request q r hr
      refine ⟨t, Heap.read_alloc_of_some ht _, htq, ?_⟩
      rw [if_neg]
      · exact htid
      · intro heq
        rw [heq, htid] at hid
        cases hid

/-- Rewriting a task that keeps its keys. -/
theorem write (h : Filed s) {r : Ref} {t t' : Task} (ht : s.heap.read r = some t)
    (hid : t'.task_id = t.task_id) (hreq : t'.request_id = t.request_id)
    (secrets : Dict PyStr VpnCredentials) :
    Filed { s with heap := s.heap.write r t', secrets_by_task_id := secrets } := by
  have hread : ∀ {r₁ t₁}, s.heap.read r₁ = some t₁ →
      ∃ t₂, (s.heap.write r t').read r₁ = some t₂ ∧ t₂.task_id = t₁.task_id ∧
        t₂.request_id = t₁.request_id := by
    intro r₁ t₁ h₁
    by_cases heq : r = r₁
    · subst heq
      obtain rfl := Option.some.inj (ht.symm.trans h₁)
      exact ⟨t', Heap.read_write_self ht t', hid, hreq⟩
    · exact ⟨t₁, by rw [Heap.read_write_ne _ _ heq, h₁], rfl, rfl⟩
  constructor
  · intro id₁ r₁ hr₁
    obtain ⟨t₁, ht₁, hid₁, hq₁⟩ := h.by_id id₁ r₁ hr₁
    obtain ⟨t₂, ht₂, hid₂, hq₂⟩ := hread ht₁
    exact ⟨t₂, ht₂, hid₂.trans hid₁, hq₂ ▸ hq₁⟩
  · intro q₁ r₁ hr₁
    obtain ⟨t₁, ht₁, hq₁, hid₁⟩ := h.by_request q₁ r₁ hr₁
    obtain ⟨t₂, ht₂, hid₂, hq₂⟩ := hread ht₁
    exact ⟨t₂, ht₂, hq₂.trans hq₁, hid₂ ▸ hid₁⟩

end Filed

/-! ### What one task's threads see of the steps of others -/

section view

variable {s : State} {id id' : PyStr} {x x' : Execution} {written : List AuditRecord}

theorem view_eq_some : s.view id = some x ↔
    s.threads.get? id = some { executor := x.executor, runner := x.runner } ∧
      s.service.task? id = some x.task ∧ s.service.secrets_by_task_id.get? id = x.secret := by
  simp only [State.view, Option.bind_eq_bind, Option.bind_eq_some_iff, Option.pure_def,
    Option.some.injEq]
  constructor
  · rintro ⟨threads, hth, t, ht, rfl⟩
    exact ⟨hth, ht, rfl⟩
  · rintro ⟨hth, ht, hsec⟩
    exact ⟨_, hth, _, ht, by rw [hsec]⟩

/-- A task's own step is what its threads see next. -/
theorem view_put_self (hx : s.view id = some x) : (s.put id x' written).view id = some x' := by
  obtain ⟨_, ht, _⟩ := view_eq_some.mp hx
  obtain ⟨r, hr, hread⟩ := Option.bind_eq_some_iff.mp ht
  refine view_eq_some.mpr ⟨by simp [State.put], ?_, ?_⟩
  · simp [Service.task?, State.put, hr, Heap.read_write_self hread]
  · cases hsec : x'.secret with
    | none => simp [State.put, hsec]
    | some vpn => simp [State.put, hsec]

/-- The step of another task changes nothing that a task's threads see. -/
theorem view_put_ne (hf : Filed s.service) (hne : id ≠ id') :
    (s.put id x' written).view id' = s.view id' := by
  have hth : (s.put id x' written).threads.get? id' = s.threads.get? id' := by
    simp [State.put, hne]
  have hsec : (s.put id x' written).service.secrets_by_task_id.get? id' =
      s.service.secrets_by_task_id.get? id' := by
    cases hs : x'.secret <;> simp [State.put, hs, hne]
  have htask : (s.put id x' written).service.task? id' = s.service.task? id' := by
    unfold Service.task?
    cases hr' : s.service.tasks_by_id.get? id' with
    | none => simp [State.put, hr']
    | some r' =>
      cases hr : s.service.tasks_by_id.get? id with
      | none => simp [State.put, hr, hr']
      | some r =>
        have hrr : r ≠ r' := by
          rintro rfl
          exact hne (hf.ref_inj hr hr')
        simp [State.put, hr, hr', hrr]
  simp only [State.view, hth, htask, hsec]

variable {limiter : RateLimiter} {task : Task} {vpn : VpnCredentials}

/-- What the threads of a new task see. -/
theorem view_start_self :
    (s.start limiter task vpn).view task.task_id =
      some { executor := .begun, runner := .unborn, task := task, secret := some vpn } := by
  refine view_eq_some.mpr ⟨by simp [State.start], ?_, by simp [State.start, Service.register]⟩
  have hread : (s.service.heap.alloc task).read s.service.heap.next = some task := by simp
  simp [Service.task?, State.start, Service.register, hread]

theorem view_start_ne (hf : Filed s.service) (hne : task.task_id ≠ id') :
    (s.start limiter task vpn).view id' = s.view id' := by
  have hth : (s.start limiter task vpn).threads.get? id' = s.threads.get? id' := by
    simp [State.start, hne]
  have hsec : (s.start limiter task vpn).service.secrets_by_task_id.get? id' =
      s.service.secrets_by_task_id.get? id' := by
    simp [State.start, Service.register, hne]
  have htask : (s.start limiter task vpn).service.task? id' = s.service.task? id' := by
    unfold Service.task?
    cases hr' : s.service.tasks_by_id.get? id' with
    | none => simp [State.start, Service.register, hne, hr']
    | some r' =>
      obtain ⟨t, ht, _⟩ := hf.by_id id' r' hr'
      simp [State.start, Service.register, hne, hr', ht, Heap.read_alloc_of_some ht]
  simp only [State.view, hth, htask, hsec]

end view

/-! ### The invariant of a run -/

/-- No task is filed twice, every secret and every thread belongs to a filed
    task, and at most one task is unfinished. -/
structure WellFormed (s : State) : Prop where
  filed : Filed s.service
  threads : ∀ id, (s.threads.get? id).isSome ↔ (s.service.tasks_by_id.get? id).isSome
  secrets : ∀ id, (s.service.secrets_by_task_id.get? id).isSome →
    (s.service.tasks_by_id.get? id).isSome
  records : ∀ r ∈ s.audit_log, (s.service.tasks_by_id.get? r.task_id).isSome
  active : ∀ id id' x x', s.view id = some x → s.view id' = some x' →
    x.task.state.terminal = false → x'.task.state.terminal = false → id = id'

namespace WellFormed

variable {s : State} {id : PyStr}

theorem view_of_task? (h : WellFormed s) {t : Task} (ht : s.service.task? id = some t) :
    ∃ x, s.view id = some x ∧ x.task = t := by
  have hid : (s.service.tasks_by_id.get? id).isSome := by
    rw [← h.filed.isSome_task?, ht]
    rfl
  obtain ⟨threads, hth⟩ := Option.isSome_iff_exists.mp ((h.threads id).mpr hid)
  exact ⟨{ executor := threads.executor, runner := threads.runner, task := t,
           secret := s.service.secrets_by_task_id.get? id }, view_eq_some.mpr ⟨hth, ht, rfl⟩, rfl⟩

theorem isSome_view (h : WellFormed s) :
    (s.view id).isSome ↔ (s.service.tasks_by_id.get? id).isSome := by
  constructor
  · intro hx
    obtain ⟨x, hx⟩ := Option.isSome_iff_exists.mp hx
    rw [← h.threads, (view_eq_some.mp hx).1]
    rfl
  · intro hid
    obtain ⟨t, ht⟩ := Option.isSome_iff_exists.mp ((h.filed.isSome_task? id).mpr hid)
    obtain ⟨x, hx, _⟩ := h.view_of_task? ht
    rw [hx]
    rfl

theorem task_id (h : WellFormed s) {x : Execution} (hx : s.view id = some x) :
    x.task.task_id = id := h.filed.task? (view_eq_some.mp hx).2.1

theorem init : WellFormed (worker I config).init where
  filed := Filed.init
  threads := fun id => by simp [worker, Service.init]
  secrets := fun id => by simp [worker, Service.init]
  records := fun r hr => by simp [worker] at hr
  active := fun id id' x x' hx => by simp [worker, State.view] at hx

end WellFormed

/-- An idle service has no unfinished task. -/
theorem terminal_of_active_task {s : Service} (hidle : s.active_task = none) {id : PyStr} {t : Task}
    (ht : s.task? id = some t) : t.state.terminal = true := by
  obtain ⟨r, hr, hread⟩ := Option.bind_eq_some_iff.mp ht
  have hmem : t ∈ s.tasks_by_id.values.filterMap s.heap.read :=
    List.mem_filterMap.mpr ⟨r, (Dict.mem_values_iff _ _).mpr ⟨id, hr⟩, hread⟩
  have := List.find?_eq_none.mp hidle t hmem
  simpa using this

/-- Starting an accepted task. -/
theorem WellFormed.start {s : State} (h : WellFormed s) {payload : Json.Fields} {env : CreateEnv}
    {limiter : RateLimiter} {task : Task} {vpn : VpnCredentials}
    (hfresh : s.service.tasks_by_id.get? task.task_id = none)
    (hacc : s.service.Accepts I config payload env task vpn) :
    WellFormed (s.start limiter task vpn) where
  filed := by
    have hlimited : Filed { s.service with rate_limiter := limiter } :=
      ⟨h.filed.by_id, h.filed.by_request⟩
    exact hlimited.register hfresh hacc.new
  threads := by
    intro id
    simp only [State.start, Service.register, Dict.get?_set]
    split
    · simp
    · exact h.threads id
  secrets := by
    intro id
    simp only [State.start, Service.register, Dict.get?_set]
    split
    · simp
    · exact h.secrets id
  records := by
    intro r hr
    simp only [State.start, Service.register, Dict.get?_set]
    split
    · simp
    · exact h.records r hr
  active := by
    -- every older task is finished
    have hold : ∀ id x, (s.start limiter task vpn).view id = some x →
        x.task.state.terminal = false → task.task_id = id := by
      intro id x hx hx'
      by_contra hne
      rw [view_start_ne h.filed hne] at hx
      rw [terminal_of_active_task hacc.idle (view_eq_some.mp hx).2.1] at hx'
      cases hx'
    intro id id' x x' hx hx' ht ht'
    rw [← hold id x hx ht, ← hold id' x' hx' ht']

/-- A step of one task's threads. -/
theorem WellFormed.put {s : State} (h : WellFormed s) {id : PyStr} {a : Action} {x x' : Execution}
    {written : List AuditRecord} (hx : s.view id = some x)
    (hadv : Advance I config x a x' written) : WellFormed (s.put id x' written) := by
  obtain ⟨hth, ht, hsec⟩ := view_eq_some.mp hx
  obtain ⟨r, hr, hread⟩ := Option.bind_eq_some_iff.mp ht
  -- no step changes the keys under which its task is filed
  obtain ⟨hid, hreq, -⟩ := advance_keys hadv
  refine ⟨?_, ?_, ?_, ?_, ?_⟩
  · simp only [State.put, hr]
    exact h.filed.write hread hid hreq _
  -- the threads and the secrets of the other tasks are left alone
  · intro id'
    simp only [State.put, Dict.get?_set]
    split
    · next heq => simp [← heq, hr]
    · exact h.threads id'
  · intro id' hid'
    by_cases heq : id = id'
    · simp [State.put, ← heq, hr]
    · refine h.secrets id' ?_
      cases hs : x'.secret <;> simpa [State.put, hs, heq] using hid'
  · intro rec hrec
    rcases List.mem_append.mp hrec with hold | hnew
    · exact h.records rec hold
    · rw [advance_written hadv rec hnew, h.task_id hx]
      simp [State.put, hr]
  · -- an unfinished task was unfinished before the step
    have hbefore : ∀ id' y', (s.put id x' written).view id' = some y' →
        y'.task.state.terminal = false →
        ∃ y, s.view id' = some y ∧ y.task.state.terminal = false := by
      intro id' y' hy' ht'
      by_cases heq : id = id'
      · subst heq
        rw [view_put_self hx] at hy'
        obtain rfl := Option.some.inj hy'
        refine ⟨x, hx, ?_⟩
        by_contra hterm
        rw [Bool.not_eq_false] at hterm
        rw [advance_terminal hadv hterm] at ht'
        cases ht'
      · rw [view_put_ne h.filed heq] at hy'
        exact ⟨y', hy', ht'⟩
    intro id₁ id₂ y₁ y₂ hy₁ hy₂ ht₁ ht₂
    obtain ⟨z₁, hz₁, hterm₁⟩ := hbefore id₁ y₁ hy₁ ht₁
    obtain ⟨z₂, hz₂, hterm₂⟩ := hbefore id₂ y₂ hy₂ ht₂
    exact h.active id₁ id₂ z₁ z₂ hz₁ hz₂ hterm₁ hterm₂

theorem WellFormed.step {s s' : State} {l : Label} (h : WellFormed s)
    (hstep : (worker I config).step s l s') : WellFormed s' := by
  obtain ⟨payload, env, limiter, -, rfl⟩ | ⟨payload, env, limiter, task, vpn, -, hfresh, hacc, rfl⟩ |
    ⟨id, a, x, x', written, -, hx, hadv, rfl⟩ := step_cases hstep
  · exact ⟨⟨h.filed.by_id, h.filed.by_request⟩, h.threads, h.secrets, h.records, h.active⟩
  · exact h.start hfresh hacc
  · exact h.put hx (advance_cases hadv)

theorem well_formed {s : State} (h : Lts.Reachable (worker I config) s) : WellFormed s :=
  h.invariant WellFormed.init fun _ _ _ _ hwf hstep => hwf.step hstep

/-! ### The store invariant -/

/-- What holds of the store of `WorkerService` whenever the lock is free. -/
structure StoreInvariant (s : Service) : Prop where
  by_id : ∀ id r, s.tasks_by_id.get? id = some r →
    ∃ t, s.heap.read r = some t ∧ t.task_id = id ∧ s.tasks_by_request_id.get? t.request_id = some r
  by_request_id : ∀ q r, s.tasks_by_request_id.get? q = some r →
    ∃ t, s.heap.read r = some t ∧ t.request_id = q ∧ s.tasks_by_id.get? t.task_id = some r
  same_tasks : ∀ r, r ∈ s.tasks_by_id.values ↔ r ∈ s.tasks_by_request_id.values
  secrets : ∀ id ∈ s.secrets_by_task_id.keys, (s.task? id).isSome
  one_active : ∀ id id' t t', s.task? id = some t → s.task? id' = some t' →
    t.state.terminal = false → t'.state.terminal = false → id = id'

/-- In every reachable state, both dictionaries hold the same tasks, each
    under its own keys, every secret belongs to a stored task, and at most
    one task is unfinished. -/
theorem store_invariant {s : State} (h : Lts.Reachable (worker I config) s) :
    StoreInvariant s.service := by
  have hwf := well_formed h
  refine ⟨hwf.filed.by_id, hwf.filed.by_request, hwf.filed.same_tasks, ?_, ?_⟩
  · intro id hid
    rw [hwf.filed.isSome_task?]
    exact hwf.secrets id ((Dict.mem_keys_iff _ _).mp hid)
  · intro id id' t t' ht ht' hterm hterm'
    obtain ⟨x, hx, rfl⟩ := hwf.view_of_task? ht
    obtain ⟨x', hx', rfl⟩ := hwf.view_of_task? ht'
    exact hwf.active id id' x x' hx hx' hterm hterm'

def sampleLater : Time := ⟨1000000, by decide⟩

def sampleLatest : Time := ⟨2000000, by decide⟩

/-- A diagnostic up to the section that finishes its task. -/
def finishedTask : List Label :=
  [.create_task (samplePayload "r1") (sampleEnv "t1"), .thread "t1".py .fetch,
    .thread "t1".py .launch, .thread "t1".py .enter,
    .thread "t1".py (.leave (.returned { summary := .str "ok".py, data := .obj [] })),
    .thread "t1".py .die, .thread "t1".py .join_over, .thread "t1".py .check_alive,
    .thread "t1".py (.settle sampleLater)]

/-- The end of its executor, and another diagnostic. -/
def nextTask : List Label :=
  [.thread "t1".py (.close sampleLatest false),
    .create_task (samplePayload "r2") (sampleEnv "t2"), .thread "t2".py .fetch]

set_option maxRecDepth 4000 in
theorem store_invariant_sample :
    let s := ((worker sampleInterp sampleConfig).play (finishedTask ++ nextTask)).service
    ((s.task? "t1".py).map Task.state = some .finished ∧ s.active_task.isSome = true) ∧
      StoreInvariant s :=
  ⟨by decide +kernel, store_invariant (Lts.reachable_play _)⟩

end BoVpnAgent.Worker

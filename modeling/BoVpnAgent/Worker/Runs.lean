import BoVpnAgent.Lib.Components
import BoVpnAgent.Worker.Store

/-! # Properties of one task over a run

    The threads of a task see only their own `Execution`, and nothing but
    their own steps changes it.  So a property of an execution and of the
    audit records about it holds in every reachable state when it holds of a
    new task and every step of the task's own threads keeps it.
-/

namespace BoVpnAgent.Worker

variable {I : Interp} {config : WorkerConfig} {D : Execution → Action → Bool}

/-- The execution of an accepted task before its first step. -/
def newExecution (task : Task) (vpn : VpnCredentials) : Execution :=
  { executor := .begun, runner := .unborn, task := task, secret := some vpn }

theorem reachable_worker {s : State} (h : Lts.Reachable (runs I config D) s) :
    Lts.Reachable (worker I config) s := h.of_restrict

/-- Without a condition the restricted runs are all runs. -/
theorem star_runs {s s' : State} (h : Lts.Star (worker I config) s s') :
    Lts.Star (runs I config fun _ _ => true) s s' := by
  refine h.restrict fun s l => ?_
  cases l with
  | create_task => rfl
  | thread id a => cases hx : s.view id <;> simp [perTask, hx]

/-- The cases of a step of a restricted run. -/
theorem runs_step_cases {s s' : State} {l : Label} (h : (runs I config D).step s l s') :
    (∃ limiter, s' = { s with service := { s.service with rate_limiter := limiter } }) ∨
    (∃ payload env limiter task vpn, s.service.tasks_by_id.get? task.task_id = none ∧
      s.service.Accepts I config payload env task vpn ∧ s' = s.start limiter task vpn) ∨
    (∃ id a x x' written, s.view id = some x ∧ D x a = true ∧ Advance I config x a x' written ∧
      s' = s.put id x' written) := by
  obtain ⟨hD, hstep⟩ := Lts.restrict_step.mp h
  obtain ⟨_, _, limiter, _, rfl⟩ | ⟨payload, env, limiter, task, vpn, _, hfresh, hacc, rfl⟩ |
    ⟨id, a, x, x', written, rfl, hx, hadv, rfl⟩ := step_cases hstep
  · exact .inl ⟨limiter, rfl⟩
  · exact .inr (.inl ⟨payload, env, limiter, task, vpn, hfresh, hacc, rfl⟩)
  · refine .inr (.inr ⟨id, a, x, x', written, hx, ?_, advance_cases hadv, rfl⟩)
    simpa [perTask, hx] using hD

/-! ### The records of one task -/

theorem records_start {s : State} (h : WellFormed s) {limiter : RateLimiter} {task : Task}
    {vpn : VpnCredentials} (hfresh : s.service.tasks_by_id.get? task.task_id = none) :
    (s.start limiter task vpn).records task.task_id = [] := by
  refine List.filter_eq_nil_iff.mpr fun r hr hid => ?_
  have hsome := h.records r hr
  rw [of_decide_eq_true hid, hfresh] at hsome
  cases hsome

theorem records_put {s : State} {id : PyStr} {x' : Execution} {written : List AuditRecord}
    (hw : ∀ r ∈ written, r.task_id = id) :
    (s.put id x' written).records id = s.records id ++ written := by
  have hfilter : written.filter (fun r => r.task_id = id) = written :=
    List.filter_eq_self.mpr fun r hr => decide_eq_true (hw r hr)
  simp only [State.records, State.put, List.filter_append, hfilter]

theorem records_put_ne {s : State} {id id' : PyStr} {x' : Execution} {written : List AuditRecord}
    (hw : ∀ r ∈ written, r.task_id = id) (hne : id ≠ id') :
    (s.put id x' written).records id' = s.records id' := by
  have hfilter : written.filter (fun r => r.task_id = id') = [] := by
    refine List.filter_eq_nil_iff.mpr fun r hr hid => hne ?_
    rw [← hw r hr, of_decide_eq_true hid]
  simp only [State.records, State.put, List.filter_append, hfilter, List.append_nil]

/-! ### The tasks as components -/

/-- An accepted task, with no audit record. -/
def Fresh (I : Interp) (config : WorkerConfig) (p : Execution × List AuditRecord) : Prop :=
  ∃ s payload env task vpn, Service.Accepts I config s payload env task vpn ∧
    p = (newExecution task vpn, [])

/-- A step of a task's threads that meets `D`, with the records it adds. -/
def Move (I : Interp) (config : WorkerConfig) (D : Execution → Action → Bool)
    (p p' : Execution × List AuditRecord) : Prop :=
  ∃ a written, D p.1 a = true ∧ Advance I config p.1 a p'.1 written ∧ p'.2 = p.2 ++ written

/-- The tasks of the worker are components of its runs. -/
def tasks (I : Interp) (config : WorkerConfig) (D : Execution → Action → Bool) :
    Lts.Components (runs I config D) PyStr (Execution × List AuditRecord) where
  view := fun s id => (s.view id).map fun x => (x, s.records id)
  New := Fresh I config
  Move := Move I config D
  view_init := fun id => by simp [runs, Lts.System.restrict, worker, State.view]
  view_step := by
    intro s l s' hr hs id
    have hwf := well_formed (reachable_worker hr)
    obtain ⟨limiter, rfl⟩ | ⟨payload, env, limiter, task, vpn, hfresh, hacc, rfl⟩ |
      ⟨id₁, a, x₁, x', written, hx₁, hD, hadv, rfl⟩ := runs_step_cases hs
    · exact .inl rfl
    · by_cases heq : task.task_id = id
      · subst heq
        refine .inr (.inl ⟨(newExecution task vpn, []), ?_, ?_, ⟨_, _, _, _, _, hacc, rfl⟩⟩)
        · have hnone := mt hwf.isSome_view.mp (by rw [hfresh]; simp)
          simp [Option.not_isSome_iff_eq_none.mp hnone]
        · rw [view_start_self, records_start hwf hfresh]
          rfl
      · exact .inl (by rw [view_start_ne hwf.filed heq]; rfl)
    · have hw : ∀ r ∈ written, r.task_id = id₁ := by
        intro r hr
        rw [advance_written hadv r hr, hwf.task_id hx₁]
      by_cases heq : id₁ = id
      · subst heq
        refine .inr (.inr ⟨(x₁, s.records id₁), (x', s.records id₁ ++ written), ?_, ?_,
          ⟨a, written, hD, hadv, rfl⟩⟩)
        · simp [hx₁]
        · simp [view_put_self hx₁, records_put hw]
      · exact .inl (by rw [view_put_ne hwf.filed heq, records_put_ne hw heq])

/-- The invariant rule for one task. -/
theorem task_invariant {P : Execution → List AuditRecord → Prop}
    (hnew : ∀ s payload env task vpn, Service.Accepts I config s payload env task vpn →
      P (newExecution task vpn) [])
    (hstep : ∀ x a x' written records, D x a = true → P x records →
      Advance I config x a x' written → P x' (records ++ written))
    {s : State} (h : Lts.Reachable (runs I config D) s) {id : PyStr} {x : Execution}
    (hx : s.view id = some x) : P x (s.records id) := by
  refine (tasks I config D).invariant (P := fun p => P p.1 p.2) ?_ ?_ h (k := id)
    (a := (x, s.records id)) (by simp [tasks, hx])
  · rintro p ⟨_, _, _, _, _, hacc, rfl⟩
    exact hnew _ _ _ _ _ hacc
  · rintro ⟨x, records⟩ ⟨x', _⟩ hP ⟨a, written, hD, hadv, rfl⟩
    exact hstep x a x' written records hD hP hadv

/-- A property of one task and its audit records that every step of its
    threads keeps stays true. -/
theorem task_stable {Q : Execution → List AuditRecord → Prop}
    (hstep : ∀ x a x' written records, D x a = true → Q x records →
      Advance I config x a x' written → Q x' (records ++ written))
    {s s' : State} (h : Lts.Reachable (runs I config D) s) (hlater : Lts.Star (runs I config D) s s')
    {id : PyStr} {x : Execution} (hx : s.view id = some x) (hQ : Q x (s.records id)) :
    ∃ x', s'.view id = some x' ∧ Q x' (s'.records id) := by
  have hmove : ∀ p p', Q p.1 p.2 → Move I config D p p' → Q p'.1 p'.2 := by
    rintro ⟨x, records⟩ ⟨x', _⟩ hQ ⟨a, written, hD, hadv, rfl⟩
    exact hstep x a x' written records hD hQ hadv
  obtain ⟨p, hp, hQ'⟩ := (tasks I config D).stable (Q := fun p => Q p.1 p.2) hmove h hlater (k := id)
    (a := (x, s.records id)) (by simp [tasks, hx]) hQ
  obtain ⟨x', hx', rfl⟩ := Option.map_eq_some_iff.mp hp
  exact ⟨x', hx', hQ'⟩

/-! ### Unfinished tasks and their executors -/

/-- The executor is past the section that ended its task. -/
def Executor.done : Executor → Bool
  | closing | ended => true
  | _ => false

def Executor.isEnded : Executor → Bool
  | ended => true
  | _ => false

theorem Executor.isEnded_iff {pc : Executor} : pc.isEnded = true ↔ pc = .ended := by
  cases pc <;> simp [isEnded]

/-- The runner does not report a terminal state: `report` is no step that
    ends the task. -/
def progressOnly : Action → Bool
  | .report state _ _ => match TaskState.ofName? state with
    | some st => !st.terminal
    | none => true
  | _ => true

theorem report_state_progress {state message : PyStr} {now : Time}
    (hp : progressOnly (.report state message now) = true) (t : Task) :
    (report_state t state message now).state.terminal = t.state.terminal := by
  unfold report_state
  split
  · rfl
  · next hterm =>
    cases hst : TaskState.ofName? state with
    | none => rfl
    | some st =>
      have hprogress : st.terminal = false := by simpa [progressOnly, hst] using hp
      simp [hprogress, hterm]

/-- Without reports of a terminal state, a task is unfinished until the
    section of its executor that ends it. -/
theorem terminal_iff_done {x x' : Execution} {a : Action} {written : List AuditRecord}
    (hp : progressOnly a = true) (hterm : x.task.state.terminal = x.executor.done)
    (h : Advance I config x a x' written) : x'.task.state.terminal = x'.executor.done := by
  cases h with
  | report state message now _ => rw [← hterm]; exact report_state_progress hp x.task
  | close now fault hpc =>
    have hclosed : x.task.state.terminal = true := by rw [hterm, hpc]; rfl
    rw [at_close_terminal hclosed, hclosed]
    rfl
  | lapse | failed | finished | normalize => rfl
  | fetch hpc | join_over hpc | join_raise _ hpc | found_alive hpc | launched _ hpc =>
    rw [hterm, hpc]
    rfl
  | launch_failed _ _ hpc | found_dead _ hpc | error _ _ hpc =>
    rw [hterm, hpc]
    rfl
  | unreadable result now hpc _ =>
    have hsame : (copy_result x.task result).state = x.task.state := rfl
    rw [hsame, hterm, hpc]
    rfl
  | enter | leave | die => exact hterm

/-! ### Steps of the runner thread and of the executor -/

/-- The step is one of the runner thread. -/
def Action.byRunner : Action → Bool
  | enter | report _ _ _ | leave _ | die => true
  | _ => false

/-- A step of the runner thread changes the task only by a report. -/
theorem runner_step {x x' : Execution} {a : Action} {written : List AuditRecord}
    (h : Advance I config x a x' written) (ha : a.byRunner = true) :
    x'.executor = x.executor ∧ x'.secret = x.secret ∧ written = [] ∧
      (x'.task = x.task ∨ ∃ state message now, x'.task = report_state x.task state message now) := by
  cases h with
  | enter | leave | die => exact ⟨rfl, rfl, rfl, .inl rfl⟩
  | report state message now _ => exact ⟨rfl, rfl, rfl, .inr ⟨state, message, now, rfl⟩⟩
  | _ => cases ha

/-- A step of the executor is its `finally` clause, or it comes before the
    clause and leaves the credentials alone. -/
theorem executor_step {x x' : Execution} {a : Action} {written : List AuditRecord}
    (h : Advance I config x a x' written) (ha : a.byRunner = false) :
    (∃ now fault, a = .close now fault ∧ x.executor = .closing ∧ x'.executor = .ended ∧
      x'.task = at_close x.task now ∧ x'.secret = none ∧ written =
        (AuditLogger.write_task_event I (at_close x.task now) now fault).toOption.toList) ∨
    (x.executor.done = false ∧ x'.executor ≠ .ended ∧ x'.secret = x.secret ∧ written = []) := by
  cases h with
  | close now fault hpc => exact .inl ⟨now, fault, rfl, hpc, rfl, rfl, rfl, rfl⟩
  | enter | leave | die | report => cases ha
  -- every other step belongs to the `try` body or to the `except` clause
  | fetch hpc | join_over hpc | join_raise _ hpc | found_alive hpc | launched _ hpc =>
    exact .inr ⟨by rw [hpc]; rfl, nofun, rfl, rfl⟩
  | launch_failed _ _ hpc | found_dead _ hpc | lapse _ hpc | normalize _ _ hpc =>
    exact .inr ⟨by rw [hpc]; rfl, nofun, rfl, rfl⟩
  | failed _ _ _ hpc | error _ _ hpc | unreadable _ _ hpc | finished _ _ _ hpc =>
    exact .inr ⟨by rw [hpc]; rfl, nofun, rfl, rfl⟩

/-- A task that is finished and whose executor is past its sections never
    changes again. -/
theorem frozen_step {t : Task} {x x' : Execution} {a : Action} {written : List AuditRecord}
    (htask : x.task = t) (hterm : t.state.terminal = true) (hdone : x.executor.done = true)
    (h : Advance I config x a x' written) : x'.task = t ∧ x'.executor.done = true := by
  subst htask
  cases ha : a.byRunner with
  | true =>
    obtain ⟨hpc, -, -, htask | ⟨state, message, now, htask⟩⟩ := runner_step h ha
    · exact ⟨htask, hpc ▸ hdone⟩
    · exact ⟨htask.trans (report_state_terminal hterm state message now), hpc ▸ hdone⟩
  | false =>
    obtain ⟨now, fault, -, -, hpc, htask, -⟩ | ⟨hopen, -⟩ := executor_step h ha
    · exact ⟨htask.trans (at_close_terminal hterm now), hpc ▸ rfl⟩
    · rw [hopen] at hdone
      cases hdone

/-- After the end of the executor, only the runner thread takes steps. -/
theorem ended_step {x x' : Execution} {a : Action} {written : List AuditRecord}
    (hpc : x.executor = .ended) (h : Advance I config x a x' written) :
    x'.executor = .ended ∧ x'.secret = x.secret ∧ written = [] := by
  cases ha : a.byRunner with
  | true =>
    obtain ⟨hpc', hsecret, hw, -⟩ := runner_step h ha
    exact ⟨hpc'.trans hpc, hsecret, hw⟩
  | false =>
    obtain ⟨now, fault, -, hclosing, -⟩ | ⟨hopen, -⟩ := executor_step h ha
    · rw [hpc] at hclosing
      cases hclosing
    · rw [hpc] at hopen
      cases hopen

/-! ### How a runner ended -/

/-- `outcome` is in the holders of the runner thread. -/
def Execution.holds (x : Execution) (outcome : Outcome) : Prop :=
  x.runner = .leaving outcome ∨ x.runner = .ended outcome ∨ x.executor = .settled outcome

/-- Only the end of `runner.run` puts an outcome there. -/
theorem holds_step {x x' : Execution} {a : Action} {written : List AuditRecord} {outcome : Outcome}
    (h : Advance I config x a x' written) (hx' : x'.holds outcome) :
    x.holds outcome ∨ a = .leave outcome := by
  cases h with
  | found_dead o hpc hr =>
    rcases hx' with h | h | h
    · exact .inl (.inl h)
    · exact .inl (.inr (.inl h))
    · cases h
      exact .inl (.inr (.inl hr))
  | leave o hr =>
    rcases hx' with h | h | h
    · cases h
      exact .inr rfl
    · cases h
    · exact .inl (.inr (.inr h))
  | die o hr =>
    rcases hx' with h | h | h
    · cases h
    · cases h
      exact .inl (.inl hr)
    · exact .inl (.inr (.inr h))
  | launched | enter =>
    rcases hx' with h | h | h
    · cases h
    · cases h
    · first
      | cases h
      | exact .inl (.inr (.inr h))
  | report => exact .inl hx'
  | _ =>
    rcases hx' with h | h | h
    · exact .inl (.inl h)
    · exact .inl (.inr (.inl h))
    · cases h

end BoVpnAgent.Worker

import BoVpnAgent.Daemon.System

/-! # The life of a job

    A job that has a terminal state keeps everything a response shows: every
    write to it is guarded by a look at its state.  So a finished job stays as
    it is, and a cancelled one stays cancelled, whatever its runner does
    afterwards.
-/

namespace BoVpnAgent.Daemon

open ContainerNamespaceExecutor (Session SessionAction SessionStep)

variable {I : Interp} {config : RunnerDaemonConfig}

/-! ### The cases of a step -/

/-- The cases of `advance`, with what each one needs. -/
inductive Advance (I : Interp) (config : RunnerDaemonConfig) (x : Execution) :
    Action → Execution → List ControlWrite → Prop where
  | selected (hpc : x.executor = .begun)
      (hmode : select_runner x.job.task.runner_mode = .ok ()) :
      Advance I config x .select { x with executor := .joining, runner := .started } []
  | unselected (exc : PyExc) (hpc : x.executor = .begun)
      (hmode : select_runner x.job.task.runner_mode = .error exc) :
      Advance I config x .select { x with executor := .ended } []
  | join_over (hpc : x.executor = .joining) (htime : x.job.task.timeout_sec ≤ I.timeout_max) :
      Advance I config x .join_over { x with executor := .joined } []
  | join_raise (hpc : x.executor = .joining) (htime : ¬ x.job.task.timeout_sec ≤ I.timeout_max) :
      Advance I config x .join_raise { x with executor := .closing } []
  | conclude (hpc : x.executor = .joined) :
      Advance I config x .conclude
        { x with executor := .closing, job := conclude x.job x.runner } []
  | wipe (hpc : x.executor = .closing) :
      Advance I config x .wipe
        { x with executor := .ended, job := { x.job with vpn := RunnerJob.wipedVpn } } []
  | enter_session (hr : x.runner = .started)
      (hmode : x.job.task.runner_mode = "container_namespace".py) :
      Advance I config x .enter { x with runner := .session x.job.vpn .begun } []
  | enter_run (hr : x.runner = .started)
      (hmode : x.job.task.runner_mode ≠ "container_namespace".py) :
      Advance I config x .enter { x with runner := .in_run } []
  | report (state message : PyStr) (hr : x.runner = .in_run) :
      Advance I config x (.report state message)
        { x with job := report_state x.job state message } []
  | session (a : SessionAction) (vpn : VpnCredentials) (at_ : Session) (st : SessionStep)
      (hr : x.runner = .session vpn at_)
      (hst : ContainerNamespaceExecutor.step config x.job.task vpn at_ a = some st) :
      Advance I config x (.session a) (take x vpn st).1 (take x vpn st).2
  | leave (outcome : Outcome) (hr : x.runner = .in_run) :
      Advance I config x (.leave outcome) { x with runner := .leaving outcome } []
  | die (outcome : Outcome) (hr : x.runner = .leaving outcome) :
      Advance I config x .die { x with runner := .ended outcome } []
  | cancel : Advance I config x .cancel { x with job := RunnerDaemon.cancelled x.job } []

theorem advance_cases {x x' : Execution} {a : Action} {written : List ControlWrite}
    (h : advance I config x a = some (x', written)) : Advance I config x a x' written := by
  unfold advance at h
  split at h
  · next hpc =>
    split at h
    · next hmode => cases h; exact .selected hpc hmode
    · next exc hmode => cases h; exact .unselected exc hpc hmode
  · next hpc =>
    split at h
    · next htime => cases h; exact .join_over hpc htime
    · cases h
  · next hpc =>
    split at h
    · cases h
    · next htime => cases h; exact .join_raise hpc htime
  · next hpc => cases h; exact .conclude hpc
  · next hpc => cases h; exact .wipe hpc
  · next hr =>
    split at h
    · next hmode => cases h; exact .enter_session hr hmode
    · next hmode => cases h; exact .enter_run hr hmode
  · next hr => cases h; exact .report _ _ hr
  · next a vpn at_ hr =>
    obtain ⟨st, hst, heq⟩ := Option.map_eq_some_iff.mp h
    cases heq
    exact .session a vpn at_ st hr hst
  · next hr => cases h; exact .leave _ hr
  · next hr => cases h; exact .die _ hr
  · cases h; exact .cancel
  · cases h

section advance

variable {x x' : Execution} {a : Action} {written : List ControlWrite}

/-- A write to a job that is finished changes nothing. -/
theorem report_state_terminal {j : RunnerJob} (hj : j.state.terminal = true)
    (state message : PyStr) : report_state j state message = j := by
  simp [report_state, hj]

theorem conclude_terminal {j : RunnerJob} (hj : j.state.terminal = true) (runner : RunnerThread) :
    conclude j runner = j := by
  simp [conclude, hj]

theorem cancelled_terminal {j : RunnerJob} (hj : j.state.terminal = true) :
    RunnerDaemon.cancelled j = j := by
  simp [RunnerDaemon.cancelled, hj]

theorem take_job (vpn : VpnCredentials) (st : SessionStep) :
    (take x vpn st).1.job = x.job ∨
      ∃ state message, (take x vpn st).1.job = report_state x.job state message := by
  unfold take
  cases st.report with
  | none => exact .inl rfl
  | some r => exact .inr ⟨_, _, rfl⟩

/-- A finished job keeps all that a response shows. -/
theorem advance_shown (h : Advance I config x a x' written) (hj : x.job.state.terminal = true) :
    x'.job.shown = x.job.shown := by
  cases h with
  | conclude => exact congrArg RunnerJob.shown (conclude_terminal hj x.runner)
  | report state message => exact congrArg RunnerJob.shown (report_state_terminal hj state message)
  | session a vpn at_ st hr hst =>
    obtain heq | ⟨state, message, heq⟩ := take_job (x := x) vpn st
    · rw [heq]
    · rw [heq, report_state_terminal hj]
  | cancel => exact congrArg RunnerJob.shown (cancelled_terminal hj)
  | _ => rfl

theorem advance_terminal (h : Advance I config x a x' written)
    (hj : x.job.state.terminal = true) : x'.job.state.terminal = true := by
  have hstate := congrArg RunnerJob.state (advance_shown h hj)
  rw [show x'.job.state = x.job.state from hstate]
  exact hj

/-- The part of a job that no step changes. -/
def SameRequest (j j' : RunnerJob) : Prop :=
  j'.job_id = j.job_id ∧ j'.request_id = j.request_id ∧ j'.task = j.task

theorem sameRequest_report_state (j : RunnerJob) (state message : PyStr) :
    SameRequest j (report_state j state message) ∧ (report_state j state message).vpn = j.vpn := by
  unfold report_state
  split
  · exact ⟨⟨rfl, rfl, rfl⟩, rfl⟩
  · split <;> exact ⟨⟨rfl, rfl, rfl⟩, rfl⟩

theorem sameRequest_conclude (j : RunnerJob) (runner : RunnerThread) :
    SameRequest j (conclude j runner) := by
  unfold conclude
  split
  · exact ⟨rfl, rfl, rfl⟩
  · split <;> exact ⟨rfl, rfl, rfl⟩

theorem sameRequest_cancelled (j : RunnerJob) : SameRequest j (RunnerDaemon.cancelled j) := by
  unfold RunnerDaemon.cancelled
  split <;> exact ⟨rfl, rfl, rfl⟩

theorem advance_request (h : Advance I config x a x' written) : SameRequest x.job x'.job := by
  cases h with
  | conclude => exact sameRequest_conclude x.job x.runner
  | report state message => exact (sameRequest_report_state x.job state message).1
  | session a vpn at_ st =>
    obtain heq | ⟨state, message, heq⟩ := take_job (x := x) vpn st
    · exact heq ▸ ⟨rfl, rfl, rfl⟩
    · exact heq ▸ (sameRequest_report_state x.job state message).1
  | cancel => exact sameRequest_cancelled x.job
  | _ => exact ⟨rfl, rfl, rfl⟩

/-- The writes of a job's runner are filed under the job. -/
theorem advance_written (h : Advance I config x a x' written) :
    ∀ w ∈ written, w.job_id = x.job.job_id := by
  cases h with
  | session a vpn at_ st =>
    intro w hw
    unfold take at hw
    cases hst : st.write with
    | none => simp [hst] at hw
    | some b =>
      obtain rfl : w = _ := by simpa [hst] using hw
      rfl
  | _ => simp

end advance

/-! ### Jobs as components -/

theorem step_cases {s s' : State} {l : Label} (h : (daemon I config).step s l s') :
    s' = s ∨
    (∃ payload env job, RunnerDaemon.build_job I payload env = .ok job ∧
      s.jobs.get? job.job_id = none ∧ s' = s.start job) ∨
    (∃ id a x x' written, l = .job id a ∧ s.view id = some x ∧
      Advance I config x a x' written ∧ s' = s.put id x' written) := by
  cases l with
  | create_job payload env =>
    simp only [Lts.System.step, daemon, next] at h
    split at h
    · cases h
    · next hfresh =>
      split at h
      · next job hjob =>
        refine .inr (.inl ⟨payload, env, job, hjob, ?_, (Option.some.inj h).symm⟩)
        obtain ⟨_, _, _, _, _, rfl⟩ := RunnerDaemon.build_job_ok hjob
        exact Option.not_isSome_iff_eq_none.mp hfresh
      · exact .inl (Option.some.inj h).symm
  | job id a =>
    simp only [Lts.System.step, daemon, next, Option.bind_eq_bind, Option.bind_eq_some_iff] at h
    obtain ⟨x, hx, ⟨x', written⟩, hadv, heq⟩ := h
    exact .inr (.inr ⟨id, a, x, x', written, rfl, hx, advance_cases hadv, (Option.some.inj heq).symm⟩)

section view

variable {s : State} {id id' : PyStr} {x x' : Execution} {written : List ControlWrite}

theorem view_eq_some : s.view id = some x ↔
    s.threads.get? id = some { executor := x.executor, runner := x.runner } ∧
      s.jobs.get? id = some x.job := by
  simp only [State.view, Option.bind_eq_bind, Option.bind_eq_some_iff, Option.pure_def,
    Option.some.injEq]
  constructor
  · rintro ⟨threads, hth, job, hjob, rfl⟩
    exact ⟨hth, hjob⟩
  · rintro ⟨hth, hjob⟩
    exact ⟨_, hth, _, hjob, rfl⟩

theorem view_put_self : (s.put id x' written).view id = some x' :=
  view_eq_some.mpr ⟨by simp [State.put], by simp [State.put]⟩

theorem view_put_ne (hne : id ≠ id') : (s.put id x' written).view id' = s.view id' := by
  simp [State.view, State.put, hne]

/-- The execution of an accepted job before its first step. -/
def newExecution (job : RunnerJob) : Execution :=
  { executor := .begun, runner := .unborn, job := job }

theorem view_start_self {job : RunnerJob} :
    (s.start job).view job.job_id = some (newExecution job) :=
  view_eq_some.mpr ⟨by simp [State.start, newExecution], by simp [State.start, newExecution]⟩

theorem view_start_ne {job : RunnerJob} (hne : job.job_id ≠ id') :
    (s.start job).view id' = s.view id' := by
  simp [State.view, State.start, hne]

end view

/-- Every job is filed under its own id, and every thread and every write
    belongs to a job. -/
structure WellFormed (s : State) : Prop where
  ids : ∀ id j, s.jobs.get? id = some j → j.job_id = id
  threads : ∀ id, (s.threads.get? id).isSome ↔ (s.jobs.get? id).isSome
  writes : ∀ w ∈ s.control_log, (s.jobs.get? w.job_id).isSome

theorem WellFormed.view_of_job {s : State} (h : WellFormed s) {id : PyStr} {j : RunnerJob}
    (hj : s.jobs.get? id = some j) : ∃ x, s.view id = some x ∧ x.job = j := by
  obtain ⟨threads, hth⟩ := Option.isSome_iff_exists.mp ((h.threads id).mpr (by rw [hj]; rfl))
  exact ⟨{ executor := threads.executor, runner := threads.runner, job := j },
    view_eq_some.mpr ⟨hth, hj⟩, rfl⟩

theorem WellFormed.step {s s' : State} {l : Label} (h : WellFormed s)
    (hstep : (daemon I config).step s l s') : WellFormed s' := by
  -- a refused request, a new job, or a step on a job
  obtain rfl | ⟨payload, env, job, _, hfresh, rfl⟩ | ⟨id, a, x, x', written, _, hx, hadv, rfl⟩ :=
    step_cases hstep
  · exact h
  · refine ⟨?_, ?_, ?_⟩
    · intro id j hj
      simp only [State.start, Dict.get?_set] at hj
      split at hj
      · next heq => rw [← Option.some.inj hj, heq]
      · exact h.ids id j hj
    · intro id
      simp only [State.start, Dict.get?_set]
      split
      · simp
      · exact h.threads id
    · intro w hw
      simp only [State.start, Dict.get?_set]
      split
      · simp
      · exact h.writes w hw
  · obtain ⟨hth, hjob⟩ := view_eq_some.mp hx
    have hid := (advance_request hadv).1.trans (h.ids id _ hjob)
    refine ⟨?_, ?_, ?_⟩
    · intro id' j hj
      simp only [State.put, Dict.get?_set] at hj
      split at hj
      · next heq => rw [← Option.some.inj hj, ← heq, hid]
      · exact h.ids id' j hj
    · intro id'
      simp only [State.put, Dict.get?_set]
      split
      · simp
      · exact h.threads id'
    · intro w hw
      simp only [State.put, Dict.get?_set]
      split
      · simp
      · next hne =>
        rcases List.mem_append.mp hw with hold | hnew
        · exact h.writes w hold
        · exact absurd ((advance_written hadv w hnew).trans (h.ids id _ hjob)).symm hne

theorem well_formed {s : State} (h : Lts.Reachable (daemon I config) s) : WellFormed s := by
  refine h.invariant ⟨?_, ?_, ?_⟩ fun _ _ _ _ hwf hstep => hwf.step hstep
  · intro id j hj
    simp [daemon] at hj
  · intro id
    simp [daemon]
  · intro w hw
    simp [daemon] at hw

theorem writes_put {s : State} {id : PyStr} {x' : Execution} {written : List ControlWrite}
    (hw : ∀ w ∈ written, w.job_id = id) :
    (s.put id x' written).writes id = s.writes id ++ written := by
  have hfilter : written.filter (fun w => w.job_id = id) = written :=
    List.filter_eq_self.mpr fun w hmem => decide_eq_true (hw w hmem)
  simp only [State.writes, State.put, List.filter_append, hfilter]

theorem writes_put_ne {s : State} {id id' : PyStr} {x' : Execution} {written : List ControlWrite}
    (hw : ∀ w ∈ written, w.job_id = id) (hne : id ≠ id') :
    (s.put id x' written).writes id' = s.writes id' := by
  have hfilter : written.filter (fun w => w.job_id = id') = [] := by
    refine List.filter_eq_nil_iff.mpr fun w hmem hid => hne ?_
    rw [← hw w hmem, of_decide_eq_true hid]
  simp only [State.writes, State.put, List.filter_append, hfilter, List.append_nil]

theorem writes_start {s : State} (h : WellFormed s) {job : RunnerJob}
    (hfresh : s.jobs.get? job.job_id = none) : (s.start job).writes job.job_id = [] := by
  refine List.filter_eq_nil_iff.mpr fun w hw hid => ?_
  have hsome := h.writes w hw
  rw [of_decide_eq_true hid, hfresh] at hsome
  cases hsome

/-! ### Restricted runs -/

variable {D : Execution → Action → Bool}

/-- Without a condition the restricted runs are all runs. -/
theorem star_runs {s s' : State} (h : Lts.Star (daemon I config) s s') :
    Lts.Star (runs I config fun _ _ => true) s s' := by
  refine h.restrict fun s l => ?_
  cases l with
  | create_job => rfl
  | job id a => cases hx : s.view id <;> simp [perJob, hx]

/-- The cases of a step of a restricted run. -/
theorem runs_step_cases {s s' : State} {l : Label} (h : (runs I config D).step s l s') :
    s' = s ∨
    (∃ payload env job, RunnerDaemon.build_job I payload env = .ok job ∧
      s.jobs.get? job.job_id = none ∧ s' = s.start job) ∨
    (∃ id a x x' written, s.view id = some x ∧ D x a = true ∧
      Advance I config x a x' written ∧ s' = s.put id x' written) := by
  obtain ⟨hD, hstep⟩ := Lts.restrict_step.mp h
  obtain rfl | hcreate | ⟨id, a, x, x', written, rfl, hx, hadv, rfl⟩ := step_cases hstep
  · exact .inl rfl
  · exact .inr (.inl hcreate)
  · refine .inr (.inr ⟨id, a, x, x', written, hx, ?_, hadv, rfl⟩)
    simpa [perJob, hx] using hD

/-- The jobs of the daemon, each with its writes to the control file, are
    components of its runs. -/
def jobs (I : Interp) (config : RunnerDaemonConfig) (D : Execution → Action → Bool) :
    Lts.Components (runs I config D) PyStr (Execution × List ControlWrite) where
  view := fun s id => (s.view id).map fun x => (x, s.writes id)
  New := fun p => ∃ payload env job, RunnerDaemon.build_job I payload env = .ok job ∧
    p = (newExecution job, [])
  Move := fun p p' => ∃ a written, D p.1 a = true ∧ Advance I config p.1 a p'.1 written ∧
    p'.2 = p.2 ++ written
  view_init := fun id => by simp [runs, Lts.System.restrict, daemon, State.view]
  view_step := by
    intro s l s' hr hs id
    have hwf := well_formed hr.of_restrict
    obtain rfl | ⟨payload, env, job, hjob, hfresh, rfl⟩ |
      ⟨id₁, a, x, x', written, hx, hD, hadv, rfl⟩ := runs_step_cases hs
    · exact .inl rfl
    · by_cases heq : job.job_id = id
      · subst heq
        refine .inr (.inl ⟨(newExecution job, []), ?_, ?_, payload, env, job, hjob, rfl⟩)
        · simp [State.view, hfresh]
        · rw [view_start_self, writes_start hwf hfresh]
          rfl
      · exact .inl (by rw [view_start_ne heq]; rfl)
    · have hw : ∀ w ∈ written, w.job_id = id₁ := fun w hmem =>
        (advance_written hadv w hmem).trans (hwf.ids id₁ _ (view_eq_some.mp hx).2)
      by_cases heq : id₁ = id
      · subst heq
        refine .inr (.inr ⟨(x, s.writes id₁), (x', s.writes id₁ ++ written), ?_, ?_,
          a, written, hD, hadv, rfl⟩)
        · simp [hx]
        · simp [view_put_self, writes_put hw]
      · exact .inl (by rw [view_put_ne heq, writes_put_ne hw heq])

/-- The invariant rule for one job. -/
theorem job_invariant {P : Execution → List ControlWrite → Prop}
    (hnew : ∀ payload env job, RunnerDaemon.build_job I payload env = .ok job →
      P (newExecution job) [])
    (hstep : ∀ x a x' written writes, D x a = true → P x writes →
      Advance I config x a x' written → P x' (writes ++ written))
    {s : State} (h : Lts.Reachable (runs I config D) s) {id : PyStr} {x : Execution}
    (hx : s.view id = some x) : P x (s.writes id) := by
  refine (jobs I config D).invariant (P := fun p => P p.1 p.2) ?_ ?_ h (k := id)
    (a := (x, s.writes id)) (by simp [jobs, hx])
  · rintro p ⟨payload, env, job, hjob, rfl⟩
    exact hnew payload env job hjob
  · rintro ⟨x, writes⟩ ⟨x', _⟩ hP ⟨a, written, hD, hadv, rfl⟩
    exact hstep x a x' written writes hD hP hadv

/-- A property of one job that every step on it keeps stays true. -/
theorem job_stable {Q : Execution → Prop}
    (hstep : ∀ x a x' written, Q x → Advance I config x a x' written → Q x')
    {s s' : State} (h : Lts.Reachable (daemon I config) s) (hlater : Lts.Star (daemon I config) s s')
    {id : PyStr} {x : Execution} (hx : s.view id = some x) (hQ : Q x) :
    ∃ x', s'.view id = some x' ∧ Q x' := by
  let c := jobs I config fun _ _ => true
  have hmove : ∀ p p', Q p.1 → c.Move p p' → Q p'.1 := by
    rintro ⟨x, writes⟩ ⟨x', _⟩ hQ ⟨a, written, -, hadv, rfl⟩
    exact hstep x a x' written hQ hadv
  obtain ⟨p, hp, hQ'⟩ := c.stable (Q := fun p => Q p.1) hmove (star_runs h) (star_runs hlater)
    (k := id) (a := (x, s.writes id)) (by simp [c, jobs, hx]) hQ
  obtain ⟨x', hx', rfl⟩ := Option.map_eq_some_iff.mp hp
  exact ⟨x', hx', hQ'⟩

/-! ### Finished jobs -/

theorem state_of_shown {j j' : RunnerJob} (h : j'.shown = j.shown) : j'.state = j.state := by
  have hstate := congrArg RunnerJob.state h
  exact hstate

theorem shown_stable {s s' : State} (h : Lts.Reachable (daemon I config) s)
    (hlater : Lts.Star (daemon I config) s s') {id : PyStr} {j : RunnerJob}
    (hj : s.jobs.get? id = some j) (hterm : j.state.terminal = true) :
    ∃ j', s'.jobs.get? id = some j' ∧ j'.shown = j.shown := by
  obtain ⟨x, hx, rfl⟩ := (well_formed h).view_of_job hj
  have hstep : ∀ y a y' written, y.job.shown = x.job.shown → Advance I config y a y' written →
      y'.job.shown = x.job.shown := by
    intro y a y' written hshown hadv
    have hstate := state_of_shown hshown
    exact (advance_shown hadv (hstate ▸ hterm)).trans hshown
  obtain ⟨x', hx', hshown⟩ := job_stable hstep h hlater hx rfl
  exact ⟨x'.job, (view_eq_some.mp hx').2, hshown⟩

/-- The job `id` is and answers as the finished job `j`. -/
structure Frozen (s : State) (id : PyStr) (j : RunnerJob) : Prop where
  shown : ∃ j', s.jobs.get? id = some j' ∧ j'.shown = j.shown
  get_job : RunnerDaemon.get_job s.jobs id = j.to_response
  cancel_job : RunnerDaemon.cancel_job s.jobs id = (s.jobs, j.to_response)

theorem Frozen.of_shown {s : State} {id : PyStr} {j j' : RunnerJob}
    (hj' : s.jobs.get? id = some j') (hshown : j'.shown = j.shown)
    (hterm : j.state.terminal = true) : Frozen s id j := by
  have hterm' : j'.state.terminal = true := state_of_shown hshown ▸ hterm
  have hresponse : j'.to_response = j.to_response := by
    rw [← RunnerJob.to_response_shown, hshown, RunnerJob.to_response_shown]
  refine ⟨⟨j', hj', hshown⟩, ?_, ?_⟩
  · simp only [RunnerDaemon.get_job, hj', hresponse]
  · simp only [RunnerDaemon.cancel_job, hj', cancelled_terminal hterm', Dict.set_of_get? hj',
      hresponse]

/-- The step `cancel` is the call of `cancel_job`. -/
theorem cancel_step {s s' : State} {id : PyStr} {j : RunnerJob} (hj : s.jobs.get? id = some j)
    (hstep : (daemon I config).step s (.job id .cancel) s') :
    s'.jobs = (RunnerDaemon.cancel_job s.jobs id).1 ∧
      s'.jobs.get? id = some (RunnerDaemon.cancelled j) := by
  simp only [Lts.System.step, daemon, next, Option.bind_eq_bind, Option.bind_eq_some_iff] at hstep
  obtain ⟨x, hx, ⟨x', written⟩, hadv, heq⟩ := hstep
  obtain rfl := Option.some.inj heq
  obtain rfl : x.job = j := Option.some.inj ((view_eq_some.mp hx).2.symm.trans hj)
  cases advance_cases hadv
  exact ⟨by simp only [RunnerDaemon.cancel_job, hj]; rfl, Dict.get?_set_self _ _ _⟩

theorem cancelled_is_terminal (j : RunnerJob) : (RunnerDaemon.cancelled j).state.terminal = true := by
  unfold RunnerDaemon.cancelled
  split
  · assumption
  · rfl

/-- A finished job is frozen for the rest of the run, and a job that is not
    finished when `cancel_job` is called stays failed with
    `operation_cancelled`. -/
theorem jobs_frozen {s : State} (h : Lts.Reachable (daemon I config) s) {id : PyStr} {j : RunnerJob}
    (hj : s.jobs.get? id = some j) :
    (j.state.terminal = true → ∀ s', Lts.Star (daemon I config) s s' → Frozen s' id j) ∧
    (j.state.terminal = false → ∀ s₁ s', (daemon I config).step s (.job id .cancel) s₁ →
      Lts.Star (daemon I config) s₁ s' →
      s₁.jobs = (RunnerDaemon.cancel_job s.jobs id).1 ∧
      Frozen s' id (j.fail "operation_cancelled".py "Job отменён".py .failed)) := by
  constructor
  · intro hterm s' hlater
    obtain ⟨j', hj', hshown⟩ := shown_stable h hlater hj hterm
    exact Frozen.of_shown hj' hshown hterm
  · intro hterm s₁ s' hstep hlater
    obtain ⟨hjobs, hj₁⟩ := cancel_step hj hstep
    have hcancelled : RunnerDaemon.cancelled j =
        j.fail "operation_cancelled".py "Job отменён".py .failed := by
      simp [RunnerDaemon.cancelled, hterm]
    have hterm₁ := cancelled_is_terminal j
    obtain ⟨j', hj', hshown⟩ := shown_stable (h.step hstep) hlater hj₁ hterm₁
    rw [hcancelled] at hshown hterm₁
    exact ⟨hjobs, Frozen.of_shown hj' hshown hterm₁⟩

/-- A dry run that is waiting for its runner. -/
def waitingJob : List Label :=
  [.create_job (sampleJobPayload "dry_run" 5) (sampleJobEnv "j1"), .job "j1".py .select,
    .job "j1".py .enter]

theorem jobs_frozen_sample :
    ∃ j, ((daemon sampleInterp sampleDaemonConfig).play waitingJob).jobs.get? "j1".py = some j ∧
      j.state.terminal = false ∧
      ∀ s₁ s', (daemon sampleInterp sampleDaemonConfig).step
          ((daemon sampleInterp sampleDaemonConfig).play waitingJob) (.job "j1".py .cancel) s₁ →
        Lts.Star (daemon sampleInterp sampleDaemonConfig) s₁ s' →
        Frozen s' "j1".py (j.fail "operation_cancelled".py "Job отменён".py .failed) := by
  refine ⟨_, rfl, rfl, fun s₁ s' hstep hlater => ?_⟩
  exact ((jobs_frozen (Lts.reachable_play _) rfl).2 rfl s₁ s' hstep hlater).2

end BoVpnAgent.Daemon

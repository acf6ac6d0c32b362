import BoVpnAgent.Daemon.Settling

/-! # Snapshots of a job

    `get_job` and `cancel_job` make their response under the lock.  The first
    response, that of `create_job`, is made without it: each field is read at
    a moment of its own, and the executor thread may be in the middle of a
    section that writes the job.  So the writes of a section are listed one
    by one here, and a response is one that saw a later and later one of
    them.

    Every section writes what it has found before it writes the state.  A
    response that shows a terminal state therefore shows the verdict that the
    job keeps from then on.
-/

namespace BoVpnAgent

/-- What `RunnerJob.to_response` returns when its `i`-th look at a field that
    changes finds the job as `v i`. -/
def RunnerJob.read_response (v : Nat → RunnerJob) : Except PyExc JobResponse :=
  match (v 3).warnings.iter? with
  | none => raiseBuiltin .typeError
  | some warnings =>
    -- a field that is sent under a condition is looked at twice
    .ok { ok := (v 0).state = .task .finished
          job_id := (v 0).job_id
          request_id := (v 0).request_id
          state := (v 1).state
          phase_message := (v 2).phase_message
          operation := (v 2).task.operation
          warnings := warnings
          summary := (v 4).summary.unlessNull.map fun _ => (v 5).summary
          data := if (v 6).data.truthy then some (v 7).data else none
          artifacts := if (v 8).artifacts.truthy then some (v 9).artifacts else none
          error_code := if (v 10).error_code.isSome then (v 11).error_code else none
          message := if (v 12).message.isSome then (v 13).message else none }

/-- Under the lock all looks find the same job. -/
theorem RunnerJob.read_response_const (j : RunnerJob) :
    RunnerJob.read_response (fun _ => j) = j.to_response := by
  have hoption : ∀ x : Option PyStr, (if x.isSome then x else none) = x := by
    intro x
    cases x <;> rfl
  have hsummary : j.summary.unlessNull.map (fun _ => j.summary) = j.summary.unlessNull := by
    cases j.summary <;> rfl
  unfold read_response to_response
  simp only [hoption, hsummary]
  rfl

/-- What is left of a job without its credentials and its phase message. -/
def RunnerJob.verdict (j : RunnerJob) : RunnerJob :=
  { j with vpn := wipedVpn, phase_message := [] }

namespace Daemon

variable {I : Interp} {config : RunnerDaemonConfig}

/-! ### The writes of a section -/

/-- The writes of `RunnerJob.set_state`. -/
def set_state_writes (j : RunnerJob) (state : JobState) (message : PyStr) : List RunnerJob :=
  [{ j with state := state }, j.set_state state message]

/-- The writes of an error and the state that goes with it. -/
def fail_writes (j : RunnerJob) (error_code message : PyStr) (state : TaskState) :
    List RunnerJob :=
  { j with error_code := some error_code } ::
    { j with error_code := some error_code, message := some message } ::
      set_state_writes { j with error_code := some error_code, message := some message }
        (.task state) message

/-- The writes of a result. -/
def finish_writes (j : RunnerJob) (result : RunnerResult) : List RunnerJob :=
  let j₁ := { j with summary := result.summary }
  let j₂ := { j₁ with data := result.data }
  let j₃ := { j₂ with artifacts := orEmptyList result.artifacts }
  let j₄ := { j₃ with warnings := orEmptyList result.warnings }
  j₁ :: j₂ :: j₃ :: j₄ :: set_state_writes j₄ (.task .finished) "Runner job завершён".py

/-- The writes of the `set_state` callback. -/
def report_writes (j : RunnerJob) (state message : PyStr) : List RunnerJob :=
  if j.state.terminal then []
  else
    match JobState.ofName? state with
    | some st => set_state_writes j st message
    | none => []

/-- The writes of the section after `join`. -/
def conclude_writes (j : RunnerJob) (runner : RunnerThread) : List RunnerJob :=
  if j.state.terminal then []
  else
    match runner with
    | .ended (.raised (.runnerFailure error_code message)) =>
      fail_writes j error_code message .failed
    | .ended (.raised exc) => fail_writes j "runner_internal_error".py exc.str .failed
    | .ended (.returned result) => finish_writes j result
    | _ => fail_writes j "operation_timeout".py "Runner job превысил timeout".py .timeout

/-- The writes of `cancel_job`. -/
def cancel_writes (j : RunnerJob) : List RunnerJob :=
  if j.state.terminal then []
  else fail_writes j "operation_cancelled".py "Job отменён".py .failed

/-- The values that a step gives to its job, one after the other. -/
def job_writes (config : RunnerDaemonConfig) (x : Execution) : Action → List RunnerJob
  | .conclude => conclude_writes x.job x.runner
  | .wipe => [{ x.job with vpn := RunnerJob.wipedVpn }]
  | .report state message => report_writes x.job state message
  | .session a =>
    match x.runner with
    | .session vpn at_ =>
      match (ContainerNamespaceExecutor.step config x.job.task vpn at_ a).bind (·.report) with
      | some (state, message) => report_writes x.job state.name.py message.py
      | none => []
    | _ => []
  | .cancel => cancel_writes x.job
  | _ => []

/-! ### What a section keeps -/

/-- `j'` is a later value of the job `j`: a terminal job has its verdict
    still, and the warnings are written at most once. -/
structure Keeps (j j' : RunnerJob) : Prop where
  request : SameRequest j j'
  verdict : j.state.terminal = true → j'.verdict = j.verdict
  warnings : j.warnings = .arr [] ∨ j'.warnings = j.warnings

theorem state_of_verdict {j j' : RunnerJob} (h : j'.verdict = j.verdict) : j'.state = j.state :=
  (congrArg RunnerJob.state h : j'.verdict.state = j.verdict.state)

theorem Keeps.refl (j : RunnerJob) : Keeps j j := ⟨⟨rfl, rfl, rfl⟩, fun _ => rfl, .inr rfl⟩

theorem Keeps.trans {j₁ j₂ j₃ : RunnerJob} (h₁ : Keeps j₁ j₂) (h₂ : Keeps j₂ j₃) :
    Keeps j₁ j₃ := by
  obtain ⟨⟨hid, hrequest, htask⟩, hverdict, hwarnings⟩ := h₁
  obtain ⟨⟨hid', hrequest', htask'⟩, hverdict', hwarnings'⟩ := h₂
  refine ⟨⟨hid'.trans hid, hrequest'.trans hrequest, htask'.trans htask⟩, fun hterm => ?_, ?_⟩
  · have hsame := hverdict hterm
    exact (hverdict' (state_of_verdict hsame ▸ hterm)).trans hsame
  · rcases hwarnings with hempty | hsame
    · exact .inl hempty
    · rcases hwarnings' with hempty | hsame'
      · exact .inl (hsame.symm.trans hempty)
      · exact .inr (hsame'.trans hsame)

/-- A write to a job that is still open. -/
theorem Keeps.of_open {j j' : RunnerJob} (hopen : j.state.terminal = false)
    (hrequest : SameRequest j j') (hwarnings : j.warnings = .arr [] ∨ j'.warnings = j.warnings) :
    Keeps j j' :=
  ⟨hrequest, fun hterm => absurd (hopen.symm.trans hterm) Bool.false_ne_true, hwarnings⟩

/-- A write that leaves verdict and warnings alone. -/
theorem Keeps.of_verdict {j j' : RunnerJob} (h : j'.verdict = j.verdict) : Keeps j j' := by
  have hfield : ∀ {α : Type} (f : RunnerJob → α), f j'.verdict = f j.verdict :=
    fun f => congrArg f h
  exact ⟨⟨hfield (·.job_id), hfield (·.request_id), hfield (·.task)⟩, fun _ => h,
    .inr (hfield (·.warnings))⟩

/-- The writes of a section that leads from one job to another, each of them
    to a later value. -/
inductive Section : RunnerJob → List RunnerJob → RunnerJob → Prop where
  | nil (j : RunnerJob) : Section j [] j
  | cons {j j₁ j' : RunnerJob} {writes : List RunnerJob} (h : Keeps j j₁)
      (hrest : Section j₁ writes j') : Section j (j₁ :: writes) j'

/-- The order of the writes matters here: the state comes last, and after it
    only the phase message. -/
theorem section_set_state {j : RunnerJob} (hopen : j.state.terminal = false) (state : JobState)
    (message : PyStr) :
    Section j (set_state_writes j state message) (j.set_state state message) :=
  .cons (.of_open hopen ⟨rfl, rfl, rfl⟩ (.inr rfl)) (.cons (.of_verdict rfl) (.nil _))

theorem section_fail {j : RunnerJob} (hopen : j.state.terminal = false)
    (error_code message : PyStr) (state : TaskState) :
    Section j (fail_writes j error_code message state) (j.fail error_code message state) := by
  refine .cons (.of_open hopen ⟨rfl, rfl, rfl⟩ (.inr rfl)) ?_
  refine .cons (.of_open hopen ⟨rfl, rfl, rfl⟩ (.inr rfl)) ?_
  exact section_set_state (by exact hopen) _ _

theorem section_finish {j : RunnerJob} (hopen : j.state.terminal = false)
    (hwarnings : j.warnings = .arr []) (result : RunnerResult) :
    Section j (finish_writes j result) (conclude j (.ended (.returned result))) := by
  unfold conclude
  rw [hopen]
  -- only the fourth write touches the warnings, and they are empty before it
  refine .cons (.of_open hopen ⟨rfl, rfl, rfl⟩ (.inr rfl)) ?_
  refine .cons (.of_open hopen ⟨rfl, rfl, rfl⟩ (.inr rfl)) ?_
  refine .cons (.of_open hopen ⟨rfl, rfl, rfl⟩ (.inr rfl)) ?_
  refine .cons (.of_open hopen ⟨rfl, rfl, rfl⟩ (.inl hwarnings)) ?_
  exact section_set_state (by exact hopen) _ _

theorem section_report (j : RunnerJob) (state message : PyStr) :
    Section j (report_writes j state message) (report_state j state message) := by
  unfold report_writes report_state
  cases hterm : j.state.terminal with
  | true => exact .nil j
  | false =>
    cases JobState.ofName? state with
    | some st => exact section_set_state hterm st message
    | none => exact .nil j

theorem section_conclude {j : RunnerJob}
    (hwarnings : j.state.terminal = false → j.warnings = .arr []) (runner : RunnerThread) :
    Section j (conclude_writes j runner) (conclude j runner) := by
  cases hterm : j.state.terminal with
  | true =>
    rw [conclude_terminal hterm]
    simp only [conclude_writes, hterm, if_true]
    exact .nil j
  | false =>
    have hfail := section_fail hterm
    cases runner with
    | ended outcome =>
      cases outcome with
      | returned result =>
        simp only [conclude_writes, hterm, Bool.false_eq_true, if_false]
        exact section_finish hterm (hwarnings hterm) result
      | raised exc =>
        cases exc <;> simp only [conclude_writes, conclude, hterm] <;> exact hfail _ _ _
    | _ => simp only [conclude_writes, conclude, hterm]; exact hfail _ _ _

theorem section_cancel (j : RunnerJob) :
    Section j (cancel_writes j) (RunnerDaemon.cancelled j) := by
  unfold cancel_writes RunnerDaemon.cancelled
  cases hterm : j.state.terminal with
  | true => exact .nil j
  | false => exact section_fail hterm _ _ _

/-- The writes of a step lead to the job that the step leaves. -/
theorem section_advance {x x' : Execution} {a : Action} {written : List ControlWrite}
    (hfresh : x.job.state.terminal = false → x.job.warnings = .arr [])
    (h : Advance I config x a x' written) : Section x.job (job_writes config x a) x'.job := by
  cases h with
  | conclude => exact section_conclude hfresh x.runner
  | wipe => exact .cons (.of_verdict rfl) (.nil _)
  | report state message => exact section_report x.job state message
  | session a vpn at_ st hr hst =>
    simp only [job_writes, hr, hst, Option.bind_some, take]
    cases st.report with
    | none => exact .nil _
    | some r => exact section_report x.job _ _
  | cancel => exact section_cancel x.job
  | _ => exact .nil _

/-- An open job has no warnings yet. -/
def Fresh (x : Execution) : Prop := x.job.state.terminal = false → x.job.warnings = .arr []

theorem warnings_report_state (j : RunnerJob) (state message : PyStr) :
    (report_state j state message).warnings = j.warnings := by
  unfold report_state
  split
  · rfl
  · split <;> rfl

theorem state_report_state {j : RunnerJob} {state message : PyStr}
    (h : (report_state j state message).state.terminal = false) : j.state.terminal = false := by
  by_contra hterm
  rw [report_state_terminal (Bool.eq_true_of_not_eq_false hterm)] at h
  exact hterm h

theorem Fresh.step {x x' : Execution} {a : Action} {written : List ControlWrite} (hx : Fresh x)
    (h : Advance I config x a x' written) : Fresh x' := by
  intro hopen
  cases h with
  | conclude =>
    rw [conclude_is_terminal] at hopen
    cases hopen
  | report state message =>
    exact (warnings_report_state _ _ _).trans (hx (state_report_state hopen))
  | session a vpn at_ st hr hst =>
    obtain heq | ⟨state, message, heq⟩ := take_job (x := x) vpn st
    · rw [heq] at hopen ⊢
      exact hx hopen
    · rw [heq] at hopen ⊢
      exact (warnings_report_state _ _ _).trans (hx (state_report_state hopen))
  | cancel =>
    rw [cancelled_is_terminal] at hopen
    cases hopen
  | _ => exact hx hopen

theorem fresh {s : State} (h : Lts.Reachable (daemon I config) s) {id : PyStr} {x : Execution}
    (hx : s.view id = some x) : Fresh x := by
  refine job_invariant (P := fun x _ => Fresh x) ?_ ?_ (star_runs h) hx
  · intro payload env job hjob _
    obtain ⟨_, _, _, _, _, rfl⟩ := RunnerDaemon.build_job_ok hjob
    rfl
  · intro x a x' written _ _ hx hadv
    exact hx.step hadv

/-! ### Reading along a run -/

/-- The values that a step gives to the job `id`. -/
def written_jobs (config : RunnerDaemonConfig) (id : PyStr) (s : State) : Label → List RunnerJob
  | .create_job _ _ => []
  | .job id' a =>
    if id' = id then (s.view id).elim [] fun x => job_writes config x a else []

/-- A run from `s` on, with the values that the job `id` has in it. -/
inductive Watched (I : Interp) (config : RunnerDaemonConfig) (id : PyStr) (s : State) :
    List RunnerJob → State → Prop where
  | here {x : Execution} (hx : s.view id = some x) : Watched I config id s [x.job] s
  | step {js : List RunnerJob} {s₁ s₂ : State} {l : Label} (h : Watched I config id s js s₁)
      (hstep : (daemon I config).step s₁ l s₂) :
      Watched I config id s (js ++ written_jobs config id s₁ l) s₂

theorem section_step {s s' : State} {l : Label} (hr : Lts.Reachable (daemon I config) s)
    (hstep : (daemon I config).step s l s') {id : PyStr} {x : Execution}
    (hx : s.view id = some x) :
    ∃ x', s'.view id = some x' ∧ Section x.job (written_jobs config id s l) x'.job := by
  cases l with
  | create_job payload env =>
    obtain rfl | ⟨_, _, job, _, hfresh, rfl⟩ | ⟨_, _, _, _, _, hl, _⟩ := step_cases hstep
    · exact ⟨x, hx, .nil _⟩
    · have hne : job.job_id ≠ id := by
        rintro rfl
        rw [(view_eq_some.mp hx).2] at hfresh
        cases hfresh
      exact ⟨x, (view_start_ne hne).trans hx, .nil _⟩
    · cases hl
  | job id' a =>
    simp only [Lts.System.step, daemon, next, Option.bind_eq_bind, Option.bind_eq_some_iff] at hstep
    obtain ⟨y, hy, ⟨y', written⟩, hadv, heq⟩ := hstep
    obtain rfl := Option.some.inj heq
    by_cases hid : id' = id
    · subst hid
      obtain rfl := Option.some.inj (hx.symm.trans hy)
      simp only [written_jobs, if_true, hx, Option.elim_some]
      exact ⟨y', view_put_self, section_advance (fresh hr hx) (advance_cases hadv)⟩
    · simp only [written_jobs, if_neg hid]
      exact ⟨x, (view_put_ne hid).trans hx, .nil _⟩

/-- Every write of a section is a later value of what was there before, and
    the job it leads to a later value of each. -/
theorem Section.keeps {j j' : RunnerJob} {writes : List RunnerJob} (h : Section j writes j') :
    Keeps j j' ∧ (∀ w ∈ writes, Keeps j w ∧ Keeps w j') ∧ writes.Pairwise Keeps := by
  induction h with
  | nil j => exact ⟨Keeps.refl j, fun _ hw => (nomatch hw), .nil⟩
  | cons h hrest ih =>
    obtain ⟨hlast, hall, hpair⟩ := ih
    refine ⟨h.trans hlast, ?_, List.pairwise_cons.mpr ⟨fun w hw => (hall w hw).1, hpair⟩⟩
    refine List.forall_mem_cons.mpr ⟨⟨h, hlast⟩, fun w hw => ?_⟩
    exact ⟨h.trans (hall w hw).1, (hall w hw).2⟩

theorem Watched.star {s s' : State} {id : PyStr} {js : List RunnerJob}
    (h : Watched I config id s js s') : Lts.Star (daemon I config) s s' := by
  induction h with
  | here hx => exact .refl _
  | step h hstep ih => exact ih.tail hstep

/-- Along a run the values of a job become later. -/
theorem Watched.keeps {s s' : State} {id : PyStr} {js : List RunnerJob}
    (hr : Lts.Reachable (daemon I config) s) (h : Watched I config id s js s') :
    ∃ x, s'.view id = some x ∧ js.Pairwise Keeps ∧ ∀ j ∈ js, Keeps j x.job := by
  induction h with
  | @here x hx =>
    exact ⟨x, hx, List.pairwise_singleton _ _, by simp [Keeps.refl]⟩
  | @step js s₁ s₂ l h hstep ih =>
    obtain ⟨x, hx, hpair, hall⟩ := ih
    obtain ⟨x', hx', hsection⟩ := section_step (hr.star h.star) hstep hx
    obtain ⟨hlast, hwrites, hwpair⟩ := hsection.keeps
    refine ⟨x', hx', List.pairwise_append.mpr ⟨hpair, hwpair, ?_⟩, ?_⟩
    · intro j hj w hw
      exact (hall j hj).trans (hwrites w hw).1
    · intro j hj
      obtain hold | hnew := List.mem_append.mp hj
      · exact (hall j hold).trans hlast
      · exact (hwrites j hnew).2

theorem star_keeps {s s' : State} {id : PyStr} {x : Execution}
    (hr : Lts.Reachable (daemon I config) s) (h : Lts.Star (daemon I config) s s')
    (hx : s.view id = some x) : ∃ x', s'.view id = some x' ∧ Keeps x.job x'.job := by
  refine h.stable (P := fun s => ∃ y, s.view id = some y ∧ Keeps x.job y.job) ?_ hr
    ⟨x, hx, Keeps.refl _⟩
  rintro s l s' hr ⟨y, hy, hkeeps⟩ hstep
  obtain ⟨y', hy', hsection⟩ := section_step hr hstep hy
  exact ⟨y', hy', hkeeps.trans hsection.keeps.1⟩

/-- The looks at the job `id` in a run from `s` to `s'`: the `i`-th one finds
    the value `v i`, and none of them comes before an earlier one. -/
def Looks (I : Interp) (config : RunnerDaemonConfig) (id : PyStr) (s : State)
    (v : Nat → RunnerJob) (s' : State) : Prop :=
  ∃ (js : List RunnerJob) (n : Nat → Nat), Watched I config id s js s' ∧ Monotone n ∧
    ∀ i, js[n i]? = some (v i)

/-- A later look finds a later value, and the job has at the end a later value
    than all of them. -/
theorem Looks.keeps {s s' : State} {id : PyStr} {v : Nat → RunnerJob}
    (hr : Lts.Reachable (daemon I config) s) (h : Looks I config id s v s') :
    ∃ x, s'.view id = some x ∧ (∀ i k, i ≤ k → Keeps (v i) (v k)) ∧ ∀ i, Keeps (v i) x.job := by
  obtain ⟨js, n, hwatched, hmono, hlooks⟩ := h
  obtain ⟨x, hx, hpair, hall⟩ := hwatched.keeps hr
  refine ⟨x, hx, fun i k hik => ?_, fun i => hall (v i) (List.mem_of_getElem? (hlooks i))⟩
  obtain ⟨hi, hvi⟩ := List.getElem?_eq_some_iff.mp (hlooks i)
  obtain ⟨hk, hvk⟩ := List.getElem?_eq_some_iff.mp (hlooks k)
  rcases Nat.lt_or_eq_of_le (hmono hik) with hlt | heq
  · rw [← hvi, ← hvk]
    exact List.pairwise_iff_getElem.mp hpair _ _ hi hk hlt
  · have hsame : v i = v k := by
      rw [← hvi, ← hvk]
      simp only [heq]
    exact hsame ▸ Keeps.refl _

theorem Looks.star {s s' : State} {id : PyStr} {v : Nat → RunnerJob}
    (h : Looks I config id s v s') : Lts.Star (daemon I config) s s' := by
  obtain ⟨js, n, hwatched, -⟩ := h
  exact hwatched.star

end Daemon

/-! ### Responses -/

/-- What is left of a response without the fields that the client reads only
    while the job is open, or not at all. -/
def JobResponse.verdict (r : JobResponse) : JobResponse := { r with ok := false, phase_message := [] }

namespace Daemon

/-- Looks that find one verdict, which the job `j` has too, make the response
    of `j`, up to its phase message and its `ok`. -/
theorem read_response_verdict {v : Nat → RunnerJob} {j : RunnerJob} {r : JobResponse}
    (hrequest : SameRequest (v 0) j) (hverdict : ∀ i, 1 ≤ i → j.verdict = (v i).verdict)
    (h : RunnerJob.read_response v = .ok r) :
    ∃ r', j.to_response = .ok r' ∧ r'.verdict = r.verdict := by
  have hfield : ∀ {α : Type} (f : RunnerJob → α) (i : Nat), 1 ≤ i →
      f (v i).verdict = f j.verdict := fun f i hi => congrArg f (hverdict i hi).symm
  have hstate : (v 1).state = j.state := hfield (·.state) 1 (by decide)
  have htask : (v 2).task = j.task := hfield (·.task) 2 (by decide)
  have hwarnings : (v 3).warnings = j.warnings := hfield (·.warnings) 3 (by decide)
  have hsummary : ∀ i, 1 ≤ i → (v i).summary = j.summary := hfield (·.summary)
  have hdata : ∀ i, 1 ≤ i → (v i).data = j.data := hfield (·.data)
  have hartifacts : ∀ i, 1 ≤ i → (v i).artifacts = j.artifacts := hfield (·.artifacts)
  have hcode : ∀ i, 1 ≤ i → (v i).error_code = j.error_code := hfield (·.error_code)
  have hmessage : ∀ i, 1 ≤ i → (v i).message = j.message := hfield (·.message)
  rw [← RunnerJob.read_response_const]
  unfold RunnerJob.read_response at h ⊢
  rw [hwarnings] at h
  cases hlist : j.warnings.iter? with
  | none =>
    rw [hlist] at h
    cases h
  | some warnings =>
    rw [hlist] at h
    obtain rfl := Except.ok.inj h
    refine ⟨_, rfl, ?_⟩
    simp [JobResponse.verdict, hstate, htask, hsummary, hdata, hartifacts, hcode, hmessage,
      hrequest.1, hrequest.2.1]

theorem to_response_verdict {j j' : RunnerJob} (h : j'.verdict = j.verdict) {r : JobResponse}
    (hr : j.to_response = .ok r) : ∃ r', j'.to_response = .ok r' ∧ r'.verdict = r.verdict :=
  read_response_verdict (Keeps.of_verdict h).request (fun _ _ => h)
    (j.read_response_const.trans hr)

/-- A response that shows a terminal state shows the verdict that the job has
    ever after. -/
theorem Looks.settled {s s' : State} {id : PyStr} {v : Nat → RunnerJob} {r : JobResponse}
    {x : Execution} {j : RunnerJob} (hr : Lts.Reachable (daemon I config) s)
    (h : Looks I config id s v s') (hread : RunnerJob.read_response v = .ok r)
    (hx : s'.view id = some x) (hj : Keeps x.job j) (hterm : r.state.terminal = true) :
    ∃ r', j.to_response = .ok r' ∧ r'.verdict = r.verdict := by
  obtain ⟨y, hy, hlater, hlast⟩ := h.keeps hr
  obtain rfl := Option.some.inj (hx.symm.trans hy)
  have hstate : (v 1).state.terminal = true := by
    unfold RunnerJob.read_response at hread
    split at hread
    · cases hread
    · obtain rfl := Except.ok.inj hread
      exact hterm
  -- the state is the second look, and the results are looked at after it
  have hverdict : ∀ i, 1 ≤ i → (v i).verdict = (v 1).verdict := fun i hi =>
    (hlater 1 i hi).verdict hstate
  refine read_response_verdict ((hlast 0).trans hj).request (fun i hi => ?_) hread
  exact (((hlast 1).trans hj).verdict hstate).trans (hverdict i hi).symm

/-- `list(self.warnings)` does not raise if it does not for what the job has
    in the end. -/
theorem Looks.answered {s s' : State} {id : PyStr} {v : Nat → RunnerJob} {x : Execution}
    {j : RunnerJob} {xs : List Json} (hr : Lts.Reachable (daemon I config) s)
    (h : Looks I config id s v s') (hx : s'.view id = some x) (hj : Keeps x.job j)
    (hwarnings : j.warnings = .arr xs) : ∃ r, RunnerJob.read_response v = .ok r := by
  obtain ⟨y, hy, -, hlast⟩ := h.keeps hr
  obtain rfl := Option.some.inj (hx.symm.trans hy)
  have hlist : ∃ ys, (v 3).warnings = .arr ys := by
    rcases ((hlast 3).trans hj).warnings with hempty | hsame
    · exact ⟨[], hempty⟩
    · exact ⟨xs, hsame.symm.trans hwarnings⟩
  obtain ⟨ys, hys⟩ := hlist
  unfold RunnerJob.read_response
  rw [hys]
  exact ⟨_, rfl⟩

theorem read_response_job_id {v : Nat → RunnerJob} {r : JobResponse}
    (h : RunnerJob.read_response v = .ok r) : r.job_id = (v 0).job_id := by
  unfold RunnerJob.read_response at h
  split at h
  · cases h
  · obtain rfl := Except.ok.inj h
    rfl

/-- The looks of `get_job` under the lock. -/
theorem looks_locked (I : Interp) (config : RunnerDaemonConfig) {s : State} {id : PyStr}
    {x : Execution} (hx : s.view id = some x) : Looks I config id s (fun _ => x.job) s :=
  ⟨[x.job], fun _ => 0, .here hx, fun _ _ _ => le_rfl, fun _ => rfl⟩

end Daemon

end BoVpnAgent

import BoVpnAgent.Worker.Runs

/-! # What `get_task` reports

    The fields of a task are written on the exit paths of its executor, each
    path in one critical section with the state that ends the task.  So a
    report never shows a result without the state `finished` or an error
    without `failed` or `timeout`, and after the end of the task it never
    changes: a late runner's reports are ignored.

    The runner must keep to progress: nothing in `_set_state` stops it from
    reporting `finished` before there is a result.
-/

namespace BoVpnAgent.Worker

variable {I : Interp} {config : WorkerConfig}

/-! ### Coherent responses -/

/-- The fields of a response agree with its state. -/
structure Coherent (r : TaskResponse) : Prop where
  ok : r.ok = true ↔ r.state = .finished
  finished : r.state = .finished → r.summary.isSome ∧ r.error_code = none ∧ r.message = none
  failed : r.state = .failed ∨ r.state = .timeout → r.error_code.isSome ∧ r.message.isSome ∧
    r.summary = none ∧ r.data = none ∧ r.artifacts = none
  unfinished : r.state.terminal = false → r.summary = none ∧ r.data = none ∧
    r.artifacts = none ∧ r.error_code = none ∧ r.message = none
  finished_at : r.finished_at.isSome ↔ r.state.terminal = true

/-- No result and no error is filed yet. -/
structure Unreported (t : Task) : Prop where
  summary : t.summary = .null
  data : t.data = .obj []
  artifacts : t.artifacts = .arr []
  error_code : t.error_code = none
  message : t.message = none
  finished_at : t.finished_at = none

/-- A result or an error is filed, with the state that goes with it. -/
inductive Reported (t : Task) : Prop where
  | finished (hstate : t.state = .finished) (hsummary : t.summary.isStr = true)
      (hcode : t.error_code = none) (hmessage : t.message = none)
      (hat : t.finished_at.isSome = true)
  | failed (hstate : t.state = .failed ∨ t.state = .timeout) (hcode : t.error_code.isSome = true)
      (hmessage : t.message.isSome = true) (hsummary : t.summary = .null)
      (hdata : t.data = .obj []) (hartifacts : t.artifacts = .arr [])
      (hat : t.finished_at.isSome = true)

theorem Unreported.coherent {t : Task} (h : Unreported t) (hstate : t.state.terminal = false)
    (now : Time) : Coherent (t.to_response now) where
  ok := by simp [Task.to_response]
  finished := by intro hf; rw [show t.state = .finished from hf] at hstate; cases hstate
  failed := by
    intro hf
    rcases hf with hf | hf <;>
    · rw [show t.state = _ from hf] at hstate
      cases hstate
  unfinished := by
    intro _
    simp [Task.to_response, h.summary, h.data, h.artifacts, h.error_code, h.message,
      Json.unlessNull, Json.ifTruthy, Json.truthy]
  finished_at := by simp [Task.to_response, h.finished_at, hstate]

theorem Reported.terminal {t : Task} (h : Reported t) : t.state.terminal = true := by
  cases h with
  | finished hstate => rw [hstate]; rfl
  | failed hstate => rcases hstate with hs | hs <;> rw [hs] <;> rfl

theorem Reported.coherent {t : Task} (h : Reported t) (now : Time) :
    Coherent (t.to_response now) := by
  have hterm := h.terminal
  cases h with
  | finished hstate hsummary hcode hmessage hat =>
    have hsome : t.summary.unlessNull.isSome = true := by
      cases hs : t.summary <;> simp_all [Json.isStr, Json.unlessNull]
    constructor <;> simp [Task.to_response, hstate, hcode, hmessage, hat, hsome, TaskState.terminal]
  | failed hstate hcode hmessage hsummary hdata hartifacts hat =>
    have hne : t.state ≠ .finished := by rcases hstate with hs | hs <;> rw [hs] <;> decide
    constructor <;>
      simp [Task.to_response, hne, hcode, hmessage, hsummary, hdata, hartifacts, hat, hterm,
        Json.unlessNull, Json.ifTruthy, Json.truthy]

/-- The response of a reported task does not depend on the clock. -/
theorem Reported.response_eq {t : Task} (h : Reported t) (now now' : Time) :
    t.to_response now = t.to_response now' := by
  have hat : t.finished_at.isSome = true := by cases h <;> assumption
  obtain ⟨end_, hend⟩ := Option.isSome_iff_exists.mp hat
  simp only [Task.to_response, Task.duration_sec, hend, Option.getD_some]

/-! ### The exit paths -/

section exits

variable {t : Task} (h : Unreported t) (now : Time)
include h

theorem Unreported.after_timeout : Reported (after_timeout t now) :=
  .failed (.inr rfl) rfl rfl h.summary h.data h.artifacts
    (Task.isSome_finished_at_set_state _ _ now rfl)

theorem Unreported.after_failure (error_code message : PyStr) :
    Reported (after_failure t error_code message now) :=
  .failed (.inl rfl) rfl rfl h.summary h.data h.artifacts
    (Task.isSome_finished_at_set_state _ message now rfl)

theorem Unreported.after_error (exc : PyExc) : Reported (after_error t exc now) :=
  .failed (.inl rfl) rfl rfl h.summary h.data h.artifacts
    (Task.isSome_finished_at_set_state _ _ now rfl)

theorem Unreported.after_result {result : RunnerResult} (hresult : result.wellTyped = true)
    (warnings : List Json) : Reported (after_result t result warnings now) := by
  have hsummary : result.summary.isStr = true := by
    simp only [RunnerResult.wellTyped, Bool.and_eq_true] at hresult
    exact hresult.1.1.1
  exact .finished rfl hsummary h.error_code h.message
    (Task.isSome_finished_at_set_state _ _ now rfl)

end exits

/-- A report of progress files nothing. -/
theorem Unreported.report_state {t : Task} (h : Unreported t) {state message : PyStr} {now : Time}
    (hp : progressOnly (.report state message now) = true) :
    Unreported (report_state t state message now) := by
  unfold Worker.report_state
  split
  · exact h
  · cases hst : TaskState.ofName? state with
    | none => exact h
    | some st =>
      have hprogress : st.terminal = false := by simpa [progressOnly, hst] using hp
      exact ⟨h.summary, h.data, h.artifacts, h.error_code, h.message,
        (Task.finished_at_set_state t message now hprogress).trans h.finished_at⟩

/-! ### Over a run -/

/-- The runner reports progress only, and a result that it returns has the
    declared types. -/
def wellBehaved (_ : Execution) (a : Action) : Bool :=
  progressOnly a && match a with
    | .leave outcome => outcome.wellTyped
    | _ => true

/-- What holds of a task with a well-behaved runner. -/
structure Reporting (x : Execution) : Prop where
  terminal : x.task.state.terminal = x.executor.done
  unfinished : x.executor.done = false → Unreported x.task
  finished : x.executor.done = true → Reported x.task
  held : ∀ outcome, x.holds outcome → outcome.wellTyped = true

theorem Reporting.new {task : Task} (hnew : task.asCreated = task) (vpn : VpnCredentials) :
    Reporting (newExecution task vpn) where
  terminal := by rw [newExecution, ← hnew]; rfl
  unfinished := fun _ => by
    rw [newExecution, ← hnew]
    exact ⟨rfl, rfl, rfl, rfl, rfl, rfl⟩
  finished := fun h => by cases h
  held := fun outcome h => by rcases h with h | h | h <;> cases h

/-- The warnings of a well-typed result are a list. -/
theorem isSome_iter_warnings {result : RunnerResult} (h : result.wellTyped = true) :
    (orEmptyList result.warnings).iter? ≠ none := by
  simp only [RunnerResult.wellTyped, Bool.and_eq_true] at h
  have hw := h.2
  unfold optionalList at hw
  split at hw
  · next hnull => simp [hnull, orEmptyList, Json.truthy, Json.iter?]
  · next xs harr =>
    rw [harr, orEmptyList]
    split <;> simp [Json.iter?]
  · cases hw

theorem Reporting.step {x x' : Execution} {a : Action} {written : List AuditRecord}
    (hb : wellBehaved x a = true) (hx : Reporting x) (h : Advance I config x a x' written) :
    Reporting x' := by
  obtain ⟨hp, hresult⟩ := Bool.and_eq_true_iff.mp hb
  have hterm := terminal_iff_done hp hx.terminal h
  have hheld : ∀ outcome, x'.holds outcome → outcome.wellTyped = true := by
    intro outcome ho
    rcases holds_step h ho with hold | rfl
    · exact hx.held outcome hold
    · exact hresult
  -- a step of the executor before its task has ended
  have hopen : ∀ {pc}, x.executor = pc → pc.done = false → Unreported x.task :=
    fun hpc hdone => hx.unfinished (hpc ▸ hdone)
  cases h with
  | fetch hpc | join_over hpc | join_raise _ hpc | found_alive hpc | launched _ hpc =>
    exact ⟨hterm, fun _ => hopen hpc rfl, nofun, hheld⟩
  | launch_failed _ _ hpc | found_dead _ hpc | error _ _ hpc =>
    exact ⟨hterm, fun _ => hopen hpc rfl, nofun, hheld⟩
  | unreadable result now hpc hw =>
    exact absurd hw (isSome_iter_warnings (hx.held _ (.inr (.inr hpc))))
  | lapse now hpc => exact ⟨hterm, nofun, fun _ => (hopen hpc rfl).after_timeout now, hheld⟩
  | failed code message now hpc =>
    exact ⟨hterm, nofun, fun _ => (hopen hpc rfl).after_failure now code message, hheld⟩
  | finished result warnings now hpc hw =>
    have htyped := hx.held _ (.inr (.inr hpc))
    exact ⟨hterm, nofun, fun _ => (hopen hpc rfl).after_result now htyped warnings, hheld⟩
  | normalize exc now hpc =>
    exact ⟨hterm, nofun, fun _ => (hopen hpc rfl).after_error now exc, hheld⟩
  -- the clause finds the task as its section left it
  | close now fault hpc =>
    have hreported := hx.finished (by rw [hpc]; rfl)
    have hsame := at_close_terminal hreported.terminal now
    exact ⟨hterm, nofun, fun _ => by rw [hsame]; exact hreported, hheld⟩
  | enter | leave | die => exact ⟨hterm, hx.unfinished, hx.finished, hheld⟩
  | report state message now hr =>
    refine ⟨hterm, fun hdone => (hx.unfinished hdone).report_state hp, fun hdone => ?_, hheld⟩
    have hreported := hx.finished hdone
    rw [report_state_terminal hreported.terminal]
    exact hreported

/-- In every state of a run with well-behaved runners, what holds of a task
    that `get_task` finds. -/
theorem reporting {s : State} (h : Lts.Reachable (runs I config wellBehaved) s) {id : PyStr}
    {x : Execution} (hx : s.view id = some x) : Reporting x :=
  task_invariant (P := fun x _ => Reporting x)
    (fun _ _ _ _ vpn hacc => Reporting.new hacc.asCreated vpn)
    (fun _ _ _ _ _ hb hx hadv => hx.step hb hadv) h hx

/-- In every run with well-behaved runners, every response of `get_task` is
    coherent, and a terminal response is the response from then on. -/
theorem reports_coherent {s : State} (h : Lts.Reachable (runs I config wellBehaved) s)
    {id : PyStr} {now : Time} {r : TaskResponse} (hr : s.service.get_task id now = .ok r) :
    Coherent r ∧ (r.state.terminal = true → ∀ s' now',
      Lts.Star (runs I config wellBehaved) s s' → s'.service.get_task id now' = .ok r) := by
  have hwf := well_formed (reachable_worker h)
  unfold Service.get_task at hr
  cases ht : s.service.task? id with
  | none => simp [ht, raiseWorker] at hr
  | some t =>
    obtain rfl : t.to_response now = r := by simpa [ht] using hr
    obtain ⟨x, hx, rfl⟩ := hwf.view_of_task? ht
    have hrep := reporting h hx
    cases hdone : x.executor.done with
    | false =>
      have hterm := hrep.terminal.trans hdone
      refine ⟨(hrep.unfinished hdone).coherent hterm now, fun hterm' => ?_⟩
      rw [show x.task.state.terminal = true from hterm'] at hterm
      cases hterm
    | true =>
      have hreported := hrep.finished hdone
      refine ⟨hreported.coherent now, fun hterm s' now' hlater => ?_⟩
      obtain ⟨x', hx', htask, -⟩ := task_stable
        (Q := fun y _ => y.task = x.task ∧ y.executor.done = true)
        (fun _ _ _ _ _ _ hQ hadv => frozen_step hQ.1 hterm hQ.2 hadv) h hlater hx ⟨rfl, hdone⟩
      have ht' := (view_eq_some.mp hx').2.1
      simp only [Service.get_task, ht', htask, hreported.response_eq now' now]

set_option maxRecDepth 4000 in
theorem reports_coherent_sample :
    let s := (runs sampleInterp sampleConfig wellBehaved).play finishedTask
    let s' := (runs sampleInterp sampleConfig wellBehaved).play (finishedTask ++ nextTask)
    s'.service.active_task.isSome = true ∧
      ∃ r, s.service.get_task "t1".py sampleLater = .ok r ∧ r.state = .finished ∧
        Coherent r ∧ s'.service.get_task "t1".py sampleLatest = .ok r := by
  intro s s'
  have hreports := @reports_coherent sampleInterp sampleConfig s (Lts.reachable_play _) "t1".py
    sampleLater _ rfl
  exact ⟨by decide +kernel, _, rfl, rfl, hreports.1, hreports.2 rfl s' _ (Lts.star_play _ _)⟩

/-- Every result that a runner returns has the declared types. -/
def wellTypedResults (_ : Execution) : Action → Bool
  | .leave outcome => outcome.wellTyped
  | _ => true

/-- A runner that reports the end of its task before it returns. -/
def earlyReport : List Label :=
  [.create_task (samplePayload "r1") (sampleEnv "t1"), .thread "t1".py .fetch,
    .thread "t1".py .launch, .thread "t1".py .enter,
    .thread "t1".py (.report "finished".py "done".py ⟨1, by decide⟩)]

set_option maxRecDepth 4000 in
/-- A runner whose result would be well typed can report `finished` while
    there is no result yet. -/
theorem reports_not_coherent :
    ∃ s r, Lts.Reachable (runs sampleInterp sampleConfig wellTypedResults) s ∧
      s.service.get_task "t1".py ⟨1, by decide⟩ = .ok r ∧ r.state = .finished ∧
      r.summary = none ∧ ¬ Coherent r := by
  refine ⟨_, _, Lts.reachable_play earlyReport, rfl, rfl, rfl, fun h => ?_⟩
  have hsummary := (h.finished rfl).1
  cases hsummary

end BoVpnAgent.Worker

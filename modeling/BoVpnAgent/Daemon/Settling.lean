import BoVpnAgent.Daemon.Jobs

/-! # How a job is settled

    The executor of a job gives it a terminal state in the section after
    `join`, and its `finally` clause wipes the credentials.  Two exits avoid
    these: for an unknown mode the selection of a runner raises before the
    `try`, and `join` raises for a timeout that it cannot take.  `_build_job`
    checks neither, so which jobs are settled is a matter of the request.
-/

namespace BoVpnAgent.Daemon

open ContainerNamespaceExecutor (Session SessionAction SessionStep)

variable {I : Interp} {config : RunnerDaemonConfig}

/-! ### The requests that are settled -/

/-- The modes that `_execute_job` or `create_runner` knows. -/
def runnerModes : List PyStr :=
  ["existing_container".py, "container_namespace".py, "dry_run".py, "job_container".py]

/-- The runner mode is known, and `join` takes the timeout. -/
structure Supported (I : Interp) (task : Task) : Prop where
  mode : task.runner_mode ∈ runnerModes
  timeout : task.timeout_sec ≤ I.timeout_max

theorem select_runner_ok_iff {mode : PyStr} :
    select_runner mode = .ok () ↔ mode ∈ runnerModes := by
  have hcreate : (create_runner mode none).map (fun _ => ()) = .ok () ↔
      ∃ runner, create_runner mode none = .ok runner := by
    cases create_runner mode none <;> simp [Except.map]
  unfold select_runner
  simp only [runnerModes, List.mem_cons, List.not_mem_nil, or_false]
  by_cases h₁ : mode = "existing_container".py
  · rw [if_pos h₁]
    exact iff_of_true rfl (.inl h₁)
  by_cases h₂ : mode = "container_namespace".py
  · rw [if_neg h₁, if_pos h₂]
    exact iff_of_true rfl (.inr (.inl h₂))
  rw [if_neg h₁, if_neg h₂, hcreate, create_runner_ok_iff]
  simp only [h₁, h₂, false_or]

/-- The executor of `id` has ended. -/
def executorEnded (s : State) (id : PyStr) : Bool := (s.view id).any fun x => x.executor = .ended

/-- The job `id` has a terminal state and empty credentials. -/
def Settled (s : State) (id : PyStr) : Prop :=
  ∃ j, s.jobs.get? id = some j ∧ j.state.terminal = true ∧ j.vpn.username = [] ∧
    j.vpn.password = []

/-! ### What the executor keeps -/

theorem conclude_is_terminal (j : RunnerJob) (runner : RunnerThread) :
    (conclude j runner).state.terminal = true := by
  unfold conclude
  split
  · assumption
  · split <;> rfl

/-- The executor has given the job its terminal state, and then wiped the
    credentials. -/
structure Settling (x : Execution) : Prop where
  terminal : x.executor = .closing ∨ x.executor = .ended → x.job.state.terminal = true
  vpn : x.executor = .ended → x.job.vpn = RunnerJob.wipedVpn

theorem Settling.step {x x' : Execution} {a : Action} {written : List ControlWrite}
    (hs : Supported I x.job.task) (hx : Settling x) (h : Advance I config x a x' written) :
    Settling x' := by
  have hkeep := advance_terminal h
  cases h with
  | selected hpc hmode => exact ⟨by simp, by simp⟩
  | unselected exc hpc hmode =>
    rw [select_runner_ok_iff.mpr hs.mode] at hmode
    cases hmode
  | join_over hpc htime => exact ⟨by simp, by simp⟩
  | join_raise hpc htime => exact absurd hs.timeout htime
  | conclude hpc => exact ⟨fun _ => conclude_is_terminal x.job x.runner, by simp⟩
  | wipe hpc => exact ⟨fun _ => hx.terminal (.inl hpc), fun _ => rfl⟩
  | report state message hr =>
    have hvpn := (sameRequest_report_state x.job state message).2
    exact ⟨fun hpc => hkeep (hx.terminal hpc), fun hpc => hvpn.trans (hx.vpn hpc)⟩
  | session a vpn at_ st hr hst =>
    refine ⟨fun hpc => hkeep (hx.terminal hpc), fun hpc => ?_⟩
    obtain heq | ⟨state, message, heq⟩ := take_job (x := x) vpn st
    · rw [heq]
      exact hx.vpn hpc
    · rw [heq, (sameRequest_report_state x.job state message).2]
      exact hx.vpn hpc
  | cancel =>
    refine ⟨fun _ => cancelled_is_terminal x.job, fun hpc => ?_⟩
    have hfinished := cancelled_terminal (hx.terminal (.inr hpc))
    rw [hfinished]
    exact hx.vpn hpc
  | _ => exact ⟨hx.terminal, hx.vpn⟩

/-! ### The two exits that settle nothing -/

theorem step_job {s : State} {id : PyStr} {x x' : Execution} {a : Action}
    {written : List ControlWrite} (hx : s.view id = some x)
    (h : advance I config x a = some (x', written)) :
    (daemon I config).step s (.job id a) (s.put id x' written) := by
  simp only [Lts.System.step, daemon, next, hx, h, Option.bind_eq_bind, Option.bind_some]
  rfl

theorem not_settled {s : State} {id : PyStr} {x : Execution} (hx : s.view id = some x)
    (hstate : x.job.state.terminal = false) : ¬ Settled s id := by
  rintro ⟨j, hj, hterm, -⟩
  obtain rfl : x.job = j := Option.some.inj ((view_eq_some.mp hx).2.symm.trans hj)
  rw [hstate] at hterm
  cases hterm

theorem executorEnded_of_view {s : State} {id : PyStr} {x : Execution} (hx : s.view id = some x) :
    executorEnded s id = decide (x.executor = .ended) := by
  simp [executorEnded, hx]

/-- The executor of a job that is not supported can end and leave it as it
    was created. -/
theorem unsettled_of_not_supported (config : RunnerDaemonConfig) {s : State} {id : PyStr} {job : RunnerJob}
    (hx : s.view id = some (newExecution job)) (hnew : job.state.terminal = false)
    (h : ¬ Supported I job.task) :
    ∃ s', Lts.Star (daemon I config) s s' ∧ executorEnded s' id = true ∧ ¬ Settled s' id := by
  cases hmode : select_runner job.task.runner_mode with
  | error exc =>
    have hselect : advance I config (newExecution job) .select =
        some ({ newExecution job with executor := .ended }, []) := by
      simp [advance, newExecution, hmode]
    refine ⟨_, (Lts.Star.refl s).tail (step_job hx hselect), ?_, ?_⟩
    · rw [executorEnded_of_view view_put_self]
      rfl
    · exact not_settled view_put_self hnew
  | ok runner =>
    have htime : ¬ job.task.timeout_sec ≤ I.timeout_max := fun htime =>
      h ⟨select_runner_ok_iff.mp hmode, htime⟩
    have hselect : advance I config (newExecution job) .select =
        some ({ newExecution job with executor := .joining, runner := .started }, []) := by
      simp [advance, newExecution, hmode]
    have hraise : advance I config
        { newExecution job with executor := .joining, runner := .started } .join_raise =
        some ({ newExecution job with executor := .closing, runner := .started }, []) := by
      simp [advance, newExecution, htime]
    have hwipe : advance I config
        { newExecution job with executor := .closing, runner := .started } .wipe =
        some ({ executor := .ended, runner := .started,
                job := { job with vpn := RunnerJob.wipedVpn } }, []) := by
      simp [advance, newExecution]
    refine ⟨_, (((Lts.Star.refl s).tail (step_job hx hselect)).tail
      (step_job view_put_self hraise)).tail (step_job view_put_self hwipe), ?_, ?_⟩
    · rw [executorEnded_of_view view_put_self]
      rfl
    · exact not_settled view_put_self hnew

/-! ### The result -/

theorem create_step {s s' : State} {payload : Json.Fields} {env : JobEnv} {job : RunnerJob}
    (hjob : RunnerDaemon.build_job I payload env = .ok job)
    (h : (daemon I config).step s (.create_job payload env) s') : s' = s.start job := by
  simp only [Lts.System.step, daemon, next, hjob] at h
  split at h
  · cases h
  · exact (Option.some.inj h).symm

/-- The jobs that an accepted request starts are settled in all runs, whatever
    the runner does and whenever the job is cancelled, exactly when the
    request names a known runner mode and a timeout that `join` takes. -/
theorem job_settled_iff {payload : Json.Fields} {env : JobEnv} {job : RunnerJob}
    (hjob : RunnerDaemon.build_job I payload env = .ok job) :
    (∀ s s₁ s', Lts.Reachable (daemon I config) s →
      (daemon I config).step s (.create_job payload env) s₁ →
      Lts.Star (daemon I config) s₁ s' → executorEnded s' job.job_id = true →
      Settled s' job.job_id) ↔ Supported I job.task := by
  have hnew : job.state.terminal = false := by
    obtain ⟨_, _, _, _, _, rfl⟩ := RunnerDaemon.build_job_ok hjob
    rfl
  constructor
  · intro hsettled
    by_contra hunsupported
    have hfirst : (daemon I config).step (daemon I config).init (.create_job payload env)
        ((daemon I config).init.start job) := by
      simp [Lts.System.step, daemon, next, hjob]
    obtain ⟨s', hlater, hended, hnot⟩ := unsettled_of_not_supported config
      (view_start_self (s := (daemon I config).init)) hnew hunsupported
    exact hnot (hsettled _ _ s' Lts.Reachable.init hfirst hlater hended)
  · intro hsupported s s₁ s' h hcreate hlater hended
    obtain rfl := create_step hjob hcreate
    have hstep : ∀ x a x' written, (x.job.task = job.task ∧ Settling x) →
        Advance I config x a x' written → x'.job.task = job.task ∧ Settling x' := by
      rintro x a x' written ⟨htask, hx⟩ hadv
      refine ⟨(advance_request hadv).2.2.trans htask, hx.step ?_ hadv⟩
      rw [htask]
      exact hsupported
    have hbegin : Settling (newExecution job) := ⟨by simp [newExecution], by simp [newExecution]⟩
    obtain ⟨x', hx', -, hsettling⟩ := job_stable hstep (h.step hcreate) hlater view_start_self
      ⟨rfl, hbegin⟩
    have hpc : x'.executor = .ended := by
      rw [executorEnded_of_view hx'] at hended
      exact of_decide_eq_true hended
    have hvpn := hsettling.vpn hpc
    exact ⟨x'.job, (view_eq_some.mp hx').2, hsettling.terminal (.inr hpc), by rw [hvpn]; rfl,
      by rw [hvpn]; rfl⟩

theorem job_settled_iff_sample :
    ∃ job, RunnerDaemon.build_job sampleInterp (sampleJobPayload "dry_run" 5) (sampleJobEnv "j1") =
        .ok job ∧
      ((∀ s s₁ s', Lts.Reachable (daemon sampleInterp sampleDaemonConfig) s →
        (daemon sampleInterp sampleDaemonConfig).step s
          (.create_job (sampleJobPayload "dry_run" 5) (sampleJobEnv "j1")) s₁ →
        Lts.Star (daemon sampleInterp sampleDaemonConfig) s₁ s' →
        executorEnded s' job.job_id = true → Settled s' job.job_id) ↔
      Supported sampleInterp job.task) :=
  ⟨_, rfl, job_settled_iff rfl⟩

/-- A job whose mode no runner has: its executor has ended, and the job waits
    on with its credentials. -/
theorem job_not_settled :
    ∃ s, Lts.Reachable (daemon sampleInterp sampleDaemonConfig) s ∧
      executorEnded s "j1".py = true ∧
      ((s.jobs.get? "j1".py).any fun j => !j.state.terminal && j.vpn.password = "p".py) = true :=
  ⟨(daemon sampleInterp sampleDaemonConfig).play
      [.create_job (sampleJobPayload "existing-container" 5) (sampleJobEnv "j1"),
        .job "j1".py .select],
    Lts.reachable_play _, by decide +kernel, by decide +kernel⟩

end BoVpnAgent.Daemon

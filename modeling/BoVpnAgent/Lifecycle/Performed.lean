import BoVpnAgent.Executors.Agreement
import BoVpnAgent.Lifecycle.RunningDaemon

/-! # What a finished job has done

    The steps that the sessions of the jobs take are written down along a
    run.  A job of the mode `container_namespace` that is finished has found
    the VPN connected and then carried out its operation, and the result that
    it shows is the one of the operation.

    This file shows:
    - what has been done where a session stands (`Passed`), by induction over
      its steps
    - what a job's threads make of it (`did_advance`)
-/

namespace BoVpnAgent

namespace ContainerNamespaceExecutor

variable (I : Interp) (config : RunnerDaemonConfig) (task : Task) (vpn : VpnCredentials)

/-- The operation of the task, on some results of its commands, ends with
    `outcome`. -/
def Operates (outcome : Outcome) (calls : List (Invocation × CommandResult)) : Prop :=
  ∃ key_present answer, (operation I config key_present task).run answer 0 = (outcome.result, calls)

/-- The session takes the steps `acts` from its start on, and then stands at
    the place. -/
inductive Performs : List SessionAction → Session ⊕ Outcome → Prop where
  | begun : Performs [] (.inl .begun)
  | step {acts : List SessionAction} {at_ : Session} {a : SessionAction} {st : SessionStep}
      (h : Performs acts (.inl at_)) (hstep : step config task vpn at_ a = some st)
      (hoperates : ∀ outcome, a = .operate outcome → ∃ calls, Operates I config task outcome calls) :
    Performs (acts ++ [a]) st.next

/-- A check of the interface and the route has found the VPN connected. -/
def FoundUp (acts : List SessionAction) : Prop :=
  ∃ before addr routes expired after, acts = before ++ .probe addr routes expired :: after ∧
    is_connected config addr routes = .ok true

/-- Behind such a check, the operation was carried out, and `result` shows what
    it returned. -/
def Carried (acts : List SessionAction) (result : RunnerResult) : Prop :=
  ∃ before operated calls after, acts = before ++ .operate (.returned operated) :: after ∧
    FoundUp config before ∧ Operates I config task (.returned operated) calls ∧
    result.summary = operated.summary ∧ result.data = operated.data

/-- What has been done where a session stands. -/
def Passed (acts : List SessionAction) : Session ⊕ Outcome → Prop
  | .inl .connected | .inl .announced | .inl .checking | .inl .operating => FoundUp config acts
  | .inl (.cleanup (.returned result)) | .inl (.disconnecting (.returned result)) =>
    Carried I config task acts result
  | .inr (.returned result) => Carried I config task acts result
  | _ => True

variable {I config task vpn} {acts : List SessionAction} {a : SessionAction}

theorem FoundUp.snoc (h : FoundUp config acts) : FoundUp config (acts ++ [a]) := by
  obtain ⟨before, addr, routes, expired, after, rfl, hup⟩ := h
  exact ⟨before, addr, routes, expired, after ++ [a], by simp, hup⟩

theorem foundUp_probe {addr routes : Except PyExc CommandResult} {expired : Bool}
    (h : is_connected config addr routes = .ok true) :
    FoundUp config (acts ++ [.probe addr routes expired]) :=
  ⟨acts, addr, routes, expired, [], rfl, h⟩

theorem Carried.snoc {result : RunnerResult} (h : Carried I config task acts result) :
    Carried I config task (acts ++ [a]) result := by
  obtain ⟨before, operated, calls, after, rfl, hrest⟩ := h
  exact ⟨before, operated, calls, after ++ [a], by simp, hrest⟩

/-- The warnings of the cleanup are not part of what the operation returned. -/
theorem passed_warn {warning : Option String} {outcome : Outcome}
    (h : Passed I config task acts (.inl (.cleanup outcome))) :
    Passed I config task (acts ++ [a]) (.inr (warn warning outcome)) := by
  cases outcome with
  | returned result =>
    have hcarried : Carried I config task acts result := h
    obtain ⟨before, operated, calls, after, rfl, hup, hop, hsummary, hdata⟩ := hcarried
    exact ⟨before, operated, calls, after ++ [a], by simp, hup, hop, hsummary, hdata⟩
  | raised exc => trivial

theorem passed_raised {exc : PyExc} {st : SessionStep} (h : raised exc = some st) :
    Passed I config task acts st.next := by
  obtain rfl := Option.some.inj h
  trivial

/-- A pause that is refused leaves nothing to show. -/
theorem passed_pausedThen {pause : Except Builtin Unit} {next : Session}
    (h : Passed I config task acts (.inl next)) :
    Passed I config task acts (.inl (pausedThen pause next)) := by
  rcases pausedThen_cases pause next with ⟨_, hthen⟩ | ⟨kind, _, hthen⟩
  · rw [hthen]
    exact h
  · rw [hthen]
    trivial

theorem passed_step {at_ : Session} {st : SessionStep} (h : Passed I config task acts (.inl at_))
    (hstep : step config task vpn at_ a = some st)
    (hoperates : ∀ outcome, a = .operate outcome → ∃ calls, Operates I config task outcome calls) :
    Passed I config task (acts ++ [a]) st.next := by
  unfold step at hstep
  split at hstep
  · -- `set_state`, before the preflight
    obtain rfl := Option.some.inj hstep
    trivial
  · -- the preflight
    split at hstep
    · next hup =>
      obtain rfl := Option.some.inj hstep
      exact foundUp_probe hup
    · split at hstep
      · obtain rfl := Option.some.inj hstep
        trivial
      · exact passed_raised hstep
    · exact passed_raised hstep
  · -- the credentials of a login, and its control path
    split at hstep
    · split at hstep
      · obtain rfl := Option.some.inj hstep
        trivial
      · exact passed_raised hstep
    · exact passed_raised hstep
  · -- a write of a login
    unfold login_write at hstep
    split at hstep
    · cases hstep
    · split at hstep
      · obtain rfl := Option.some.inj hstep
        refine passed_pausedThen ?_
        split <;> trivial
      · exact passed_raised hstep
      · exact passed_raised hstep
  · -- a poll
    split at hstep
    · next hup =>
      obtain rfl := Option.some.inj hstep
      exact foundUp_probe hup
    · split at hstep
      · exact passed_raised hstep
      · obtain rfl := Option.some.inj hstep
        exact passed_pausedThen trivial
    · exact passed_raised hstep
  · -- connected
    obtain rfl := Option.some.inj hstep
    exact FoundUp.snoc h
  · -- the branch on the operation
    split at hstep
    · obtain rfl := Option.some.inj hstep
      exact FoundUp.snoc h
    · split at hstep
      · obtain rfl := Option.some.inj hstep
        exact FoundUp.snoc h
      · exact passed_raised hstep
  · -- the check of the vehicle
    obtain rfl := Option.some.inj hstep
    exact FoundUp.snoc h
  · -- the operation
    next outcome =>
    obtain rfl := Option.some.inj hstep
    cases outcome with
    | raised exc => trivial
    | returned result =>
      obtain ⟨calls, hop⟩ := hoperates _ rfl
      exact ⟨acts, result, calls, [], rfl, h, hop, rfl, rfl⟩
  · -- the `finally` clause
    next outcome =>
    split at hstep
    · obtain rfl := Option.some.inj hstep
      exact passed_warn h
    · split at hstep
      · obtain rfl := Option.some.inj hstep
        exact passed_warn h
      · obtain rfl := Option.some.inj hstep
        cases outcome with
        | raised exc => trivial
        | returned result => exact Carried.snoc h
  · -- the disconnect sequence
    next outcome =>
    have hcleanup : Passed I config task acts (.inl (.cleanup outcome)) := by
      cases outcome <;> exact h
    split at hstep
    · obtain rfl := Option.some.inj hstep
      exact passed_warn hcleanup
    · obtain rfl := Option.some.inj hstep
      exact passed_warn hcleanup
    · obtain rfl := Option.some.inj hstep
      trivial
  · cases hstep

/-- The TCP probe of the task's vehicle found port 22 or port 443 open. -/
def Reached (I : Interp) (task : Task) (calls : List (Invocation × CommandResult)) : Prop :=
  ∃ timeout result probe, calls = [({ command := .tcp_probe task.vehicle.ip TCP_PORTS timeout
                                      timeout_sec := task.timeout_sec }, result)] ∧
    result.timed_out = false ∧ result.returncode = 0 ∧ Json.loads I result.stdout = .ok probe ∧
    (probe_port I probe 22 = .ok "open".py ∨ probe_port I probe 443 = .ok "open".py)

theorem read_probe_ok {timeout failed summary : String} {result : CommandResult}
    {r : RunnerResult} (h : read_probe I timeout failed summary result = .ok r) :
    result.timed_out = false ∧ result.returncode = 0 ∧ ∃ probe,
      Json.loads I result.stdout = .ok probe ∧
      (probe_port I probe 22 = .ok "open".py ∨ probe_port I probe 443 = .ok "open".py) := by
  unfold read_probe at h
  split at h
  · cases h
  · next htime =>
    split at h
    · cases h
    · next hcode =>
      refine ⟨Bool.eq_false_iff.mpr htime, not_not.mp hcode, ?_⟩
      split at h
      · cases h
      · cases h
      · next probe hprobe =>
        obtain ⟨tcp_22, h22, h⟩ := bind_ok.mp h
        obtain ⟨tcp_443, h443, h⟩ := bind_ok.mp h
        obtain ⟨tcp_80, -, h⟩ := bind_ok.mp h
        refine ⟨probe, hprobe, ?_⟩
        split at h
        · cases h
        · next hopen =>
          rcases not_and_or.mp hopen with h | h
          · exact .inl (not_not.mp h ▸ h22)
          · exact .inr (not_not.mp h ▸ h443)

/-- A vehicle that is shown as reachable has answered. -/
theorem reached_of_operates {result : RunnerResult} {calls : List (Invocation × CommandResult)}
    (hoperation : task.operation = "vehicle_reachability".py)
    (h : Operates I config task (.returned result) calls) : Reached I task calls := by
  obtain ⟨key_present, answer, hrun⟩ := h
  rw [operation, if_pos hoperation] at hrun
  unfold vehicle_reachability at hrun
  have hscript : tcp_probe_script I task.vehicle.ip TCP_PORTS
      (min config.nsenter_timeout_sec task.timeout_sec) = .ok (.tcp_probe task.vehicle.ip TCP_PORTS
        (min config.nsenter_timeout_sec task.timeout_sec)) ∨
      ∃ exc, tcp_probe_script I task.vehicle.ip TCP_PORTS
        (min config.nsenter_timeout_sec task.timeout_sec) = .error exc := by
    unfold tcp_probe_script
    split
    · exact .inl rfl
    · exact .inr ⟨_, rfl⟩
  rcases hscript with hscript | ⟨exc, hscript⟩
  · rw [hscript] at hrun
    obtain ⟨hread, rfl⟩ := Prod.mk.inj hrun
    obtain ⟨htime, hcode, probe, hprobe, hopen⟩ := read_probe_ok hread
    exact ⟨_, _, probe, rfl, htime, hcode, hprobe, hopen⟩
  · rw [hscript] at hrun
    cases (Prod.mk.inj hrun).1

/-- Behind a check that found the VPN connected, the vehicle has answered: the
    commands of the operation have been run, and whatever the probe has printed,
    it leads to this result only with an open port. -/
def Answered (I : Interp) (config : RunnerDaemonConfig) (task : Task) (acts : List SessionAction) :
    Prop :=
  ∃ before operated after, acts = before ++ .operate (.returned operated) :: after ∧
    FoundUp config before ∧ (∃ calls, Operates I config task (.returned operated) calls) ∧
    ∀ calls, Operates I config task (.returned operated) calls → Reached I task calls

theorem Carried.answered {result : RunnerResult} (h : Carried I config task acts result)
    (hoperation : task.operation = "vehicle_reachability".py) : Answered I config task acts := by
  obtain ⟨before, operated, calls, after, hacts, hup, hop, -⟩ := h
  exact ⟨before, operated, after, hacts, hup, ⟨calls, hop⟩,
    fun _ hop => reached_of_operates hoperation hop⟩

theorem Performs.passed {at_ : Session ⊕ Outcome} (h : Performs I config task vpn acts at_) :
    Passed I config task acts at_ := by
  induction h with
  | begun => trivial
  | step h hstep hoperates ih => exact passed_step ih hstep hoperates

end ContainerNamespaceExecutor

namespace Daemon

open ContainerNamespaceExecutor

variable {I : Interp} {config : RunnerDaemonConfig}

/-! ### The threads of one job -/

/-- The step of a session that a step of a job's threads is. -/
def Action.performs : Action → List SessionAction
  | .session a => [a]
  | _ => []

/-- What a session's operation gives is what the code makes of the results of
    its commands. -/
def Action.Operates (I : Interp) (config : RunnerDaemonConfig) (task : Task) : Action → Prop
  | .session (.operate outcome) =>
    ∃ calls, ContainerNamespaceExecutor.Operates I config task outcome calls
  | _ => True

/-- The mode of the jobs that have a session. -/
def HasSession (j : RunnerJob) : Prop := j.task.runner_mode = "container_namespace".py

/-- What the runner thread of a job has done where it stands. -/
def RunnerDid (I : Interp) (config : RunnerDaemonConfig) (j : RunnerJob)
    (acts : List SessionAction) : RunnerThread → Prop
  | .unborn | .started => acts = []
  | .in_run => ¬HasSession j
  | .session vpn at_ => Performs I config j.task vpn acts (.inl at_)
  | .leaving outcome | .ended outcome =>
    HasSession j → ∃ vpn, Performs I config j.task vpn acts (.inr outcome)

/-- What is known of a job whose session has taken the steps `acts`. -/
structure Did (I : Interp) (config : RunnerDaemonConfig) (x : Execution)
    (acts : List SessionAction) : Prop where
  unselected : x.executor = .begun → x.runner = .unborn
  runner : RunnerDid I config x.job acts x.runner
  finished : x.job.state = .task .finished → HasSession x.job → ∃ result : RunnerResult,
    x.runner = .ended (.returned result) ∧ x.job.summary = result.summary ∧
      x.job.data = result.data

section did

variable {x x' : Execution} {a : Action} {acts : List SessionAction} {written : List ControlWrite}

theorem RunnerDid.congr {j j' : RunnerJob} {r : RunnerThread} (h : RunnerDid I config j acts r)
    (htask : j'.task = j.task) : RunnerDid I config j' acts r := by
  unfold RunnerDid HasSession at *
  rw [htask]
  exact h

theorem did_new {job : RunnerJob} (hcreated : job.state = .task .created) :
    Did I config (newExecution job) [] where
  unselected := fun _ => rfl
  runner := rfl
  finished := by
    intro hstate
    rw [show (newExecution job).job.state = .task .created from hcreated] at hstate
    cases hstate

/-- A session reports no end. -/
theorem take_finished {vpn : VpnCredentials} {at_ : Session} {act : SessionAction}
    {st : SessionStep} (hst : step config x.job.task vpn at_ act = some st)
    (h : (take x vpn st).1.job.state = .task .finished) : x.job.state = .task .finished := by
  have hascends := RunningDaemon.ascends_step hst
  unfold take at h
  simp only at h
  cases hreport : st.report with
  | none =>
    rw [hreport] at h
    exact h
  | some r =>
    simp only [hreport] at h
    cases hopen : x.job.state.terminal with
    | true =>
      rw [report_state_terminal hopen] at h
      exact h
    | false =>
      rw [RunningDaemon.state_report_state hopen] at h
      have hphase := (hascends.reports r hreport).1
      rw [JobState.task.inj h] at hphase
      cases hphase

/-- The section that settles a job finishes it with what its runner
    returned. -/
theorem conclude_finished {j : RunnerJob} {r : RunnerThread}
    (h : (conclude j r).state = .task .finished) : conclude j r = j ∨
      ∃ result : RunnerResult, r = .ended (.returned result) ∧
        (conclude j r).summary = result.summary ∧ (conclude j r).data = result.data := by
  unfold conclude at *
  split at h
  · next hterm => exact .inl (if_pos hterm)
  · next hopen =>
    rw [if_neg hopen]
    split at h
    · cases h
    · cases h
    · next result => exact .inr ⟨result, rfl, rfl, rfl⟩
    · cases h

theorem cancelled_finished {j : RunnerJob}
    (h : (RunnerDaemon.cancelled j).state = .task .finished) : RunnerDaemon.cancelled j = j := by
  unfold RunnerDaemon.cancelled at *
  split at h
  · next hterm => exact if_pos hterm
  · cases h

/-- A finished job has a runner that has ended. -/
theorem Did.not_finished (h : Did I config x acts)
    (hrunner : ∀ result, x.runner ≠ .ended (.returned result)) (hsession : HasSession x.job) :
    x.job.state ≠ .task .finished := by
  intro hstate
  obtain ⟨result, hended, -⟩ := h.finished hstate hsession
  exact hrunner result hended

theorem Did.not_begun (h : Did I config x acts) (hr : x.runner ≠ .unborn) : x.executor ≠ .begun :=
  fun hpc => hr (h.unselected hpc)

theorem did_advance (h : Did I config x acts) (hadv : Advance I config x a x' written)
    (hoperates : a.Operates I config x.job.task) : Did I config x' (acts ++ a.performs) := by
  obtain ⟨-, -, htask⟩ := advance_request hadv
  have hrunner := h.runner
  cases hadv with
  | selected hpc hmode =>
    have hunborn := h.unselected hpc
    rw [hunborn] at hrunner
    refine ⟨(fun hpc => by cases hpc), (List.append_nil acts).trans hrunner, fun hstate hsession => ?_⟩
    exact absurd hstate (h.not_finished (by simp [hunborn]) hsession)
  | unselected exc hpc hmode =>
    simp only [Action.performs, List.append_nil]
    exact ⟨(fun hpc => by cases hpc), hrunner, h.finished⟩
  | join_over | join_raise =>
    simp only [Action.performs, List.append_nil]
    exact ⟨(fun hpc => by cases hpc), hrunner, h.finished⟩
  | conclude hpc =>
    simp only [Action.performs, List.append_nil]
    refine ⟨(fun hpc => by cases hpc), hrunner.congr htask, fun hstate hsession => ?_⟩
    obtain hsame | ⟨result, hended, hshown⟩ := conclude_finished hstate
    · simp only [hsame] at hstate hsession ⊢
      exact h.finished hstate hsession
    · exact ⟨result, hended, hshown⟩
  | wipe hpc =>
    simp only [Action.performs, List.append_nil]
    exact ⟨(fun hpc => by cases hpc), hrunner.congr rfl, h.finished⟩
  | enter_session hr hmode =>
    rw [hr] at hrunner
    obtain rfl : acts = [] := hrunner
    refine ⟨?_, .begun, fun hstate hsession => ?_⟩
    · exact fun hpc => absurd hpc (h.not_begun (by simp [hr]))
    · exact absurd hstate (h.not_finished (by simp [hr]) hsession)
  | enter_run hr hmode =>
    simp only [Action.performs, List.append_nil]
    refine ⟨?_, hmode, fun _ hsession => absurd hsession hmode⟩
    exact fun hpc => absurd hpc (h.not_begun (by simp [hr]))
  | report state message hr =>
    simp only [Action.performs, List.append_nil]
    rw [hr] at hrunner
    have hother : ¬HasSession (report_state x.job state message) := by
      unfold HasSession
      rw [show (report_state x.job state message).task = x.job.task from htask]
      exact hrunner
    refine ⟨h.unselected, ?_, fun _ hsession => absurd hsession hother⟩
    show RunnerDid I config _ acts x.runner
    rw [hr]
    exact hother
  | session act vpn at_ st hr hst =>
    rw [hr] at hrunner
    have hperforms : Performs I config x.job.task vpn (acts ++ [act]) st.next := by
      refine .step hrunner hst fun outcome hact => ?_
      subst hact
      exact hoperates
    refine ⟨?_, ?_, fun hstate hsession => ?_⟩
    · exact fun hpc => absurd hpc (h.not_begun (by simp [hr]))
    · refine RunnerDid.congr (j := x.job) ?_ htask
      cases hnext : st.next with
      | inl at' =>
        rw [hnext] at hperforms
        simp only [take, hnext]
        exact hperforms
      | inr outcome =>
        rw [hnext] at hperforms
        simp only [take, hnext]
        exact fun _ => ⟨vpn, hperforms⟩
    · have hmode : HasSession x.job := by
        unfold HasSession at *
        rwa [htask] at hsession
      exact absurd (take_finished hst hstate) (h.not_finished (by simp [hr]) hmode)
  | leave outcome hr =>
    simp only [Action.performs, List.append_nil]
    rw [hr] at hrunner
    have hother : ¬HasSession x.job := hrunner
    refine ⟨?_, fun hsession => absurd hsession hother, fun _ hsession => absurd hsession hother⟩
    exact fun hpc => absurd hpc (h.not_begun (by simp [hr]))
  | die outcome hr =>
    simp only [Action.performs, List.append_nil]
    rw [hr] at hrunner
    refine ⟨?_, hrunner, fun hstate hsession => ?_⟩
    · exact fun hpc => absurd hpc (h.not_begun (by simp [hr]))
    · exact absurd hstate (h.not_finished (by simp [hr]) hsession)
  | cancel =>
    simp only [Action.performs, List.append_nil]
    refine ⟨h.unselected, hrunner.congr htask, fun hstate hsession => ?_⟩
    have hsame := cancelled_finished hstate
    simp only [hsame] at hstate hsession ⊢
    exact h.finished hstate hsession

end did

/-! ### A step of the daemon -/

/-- The steps of the session of the job `id` in a step of the daemon. -/
def Label.performs (id : PyStr) : Label → List SessionAction
  | .create_job _ _ => []
  | .job id' a => if id' = id then a.performs else []

def Label.Operates (I : Interp) (config : RunnerDaemonConfig) (s : State) : Label → Prop
  | .create_job _ _ => True
  | .job id a => ∀ x, s.view id = some x → a.Operates I config x.job.task

/-- What the sessions of all jobs have done. -/
structure AllDid (I : Interp) (config : RunnerDaemonConfig) (s : State)
    (acts : PyStr → List SessionAction) : Prop where
  did : ∀ id x, s.view id = some x → Did I config x (acts id)
  fresh : ∀ id, s.view id = none → acts id = []

theorem allDid_init (I : Interp) (config : RunnerDaemonConfig) :
    AllDid I config (daemon I config).init fun _ => [] where
  did := by
    intro id x hx
    cases hx
  fresh := fun _ _ => rfl

theorem AllDid.congr {s : State} {acts acts' : PyStr → List SessionAction}
    (h : AllDid I config s acts) (hacts : ∀ id, acts' id = acts id) : AllDid I config s acts' where
  did := fun id x hx => (hacts id).symm ▸ h.did id x hx
  fresh := fun id hx => (hacts id).trans (h.fresh id hx)

theorem allDid_step {s s' : State} {l : Label} {acts : PyStr → List SessionAction}
    (h : AllDid I config s acts) (hstep : (daemon I config).step s l s')
    (hoperates : l.Operates I config s) :
    AllDid I config s' fun id => acts id ++ l.performs id := by
  cases l with
  | create_job payload env =>
    suffices hsame : AllDid I config s' acts from hsame.congr fun id => List.append_nil _
    obtain rfl | ⟨_, _, job, hjob, hfresh, rfl⟩ | ⟨_, _, _, _, _, hl, -⟩ := step_cases hstep
    · exact h
    · have hnone : s.view job.job_id = none := by
        simp [State.view, hfresh]
      constructor
      · intro id x hx
        by_cases heq : job.job_id = id
        · subst heq
          obtain rfl := Option.some.inj (view_start_self.symm.trans hx)
          rw [h.fresh _ hnone]
          refine did_new ?_
          obtain ⟨_, _, _, _, _, rfl⟩ := RunnerDaemon.build_job_ok hjob
          rfl
        · exact h.did id x ((view_start_ne heq).symm.trans hx)
      · intro id hx
        by_cases heq : job.job_id = id
        · subst heq
          exact h.fresh _ hnone
        · exact h.fresh id ((view_start_ne heq).symm.trans hx)
    · cases hl
  | job k a =>
    simp only [Lts.System.step, daemon, next, Option.bind_eq_bind, Option.bind_eq_some_iff] at hstep
    obtain ⟨x₁, hx₁, ⟨x', written⟩, hadv, heq⟩ := hstep
    obtain rfl := Option.some.inj heq
    constructor
    · intro id x hx
      by_cases heq : k = id
      · subst heq
        obtain rfl := Option.some.inj (view_put_self.symm.trans hx)
        simp only [Label.performs, if_true]
        exact did_advance (h.did k x₁ hx₁) (advance_cases hadv) (hoperates x₁ hx₁)
      · simp only [Label.performs, if_neg heq, List.append_nil]
        exact h.did id x ((view_put_ne heq).symm.trans hx)
    · intro id hx
      by_cases heq : k = id
      · subst heq
        rw [view_put_self] at hx
        cases hx
      · simp only [Label.performs, if_neg heq, List.append_nil]
        exact h.fresh id ((view_put_ne heq).symm.trans hx)

end Daemon

namespace RunningDaemon

open ContainerNamespaceExecutor (SessionAction)

variable {I : Interp} {config : RunnerDaemonConfig}

def Label.performs (id : PyStr) : Label → List SessionAction
  | .daemon l => l.performs id
  | .program _ _ => []

def Label.Operates (I : Interp) (config : RunnerDaemonConfig) (s : State) : Label → Prop
  | .daemon l => l.Operates I config s.daemon
  | .program _ _ => True

/-- The programs of the other modes have no session. -/
theorem allDid_step {s s' : State} {l : Label} {acts : PyStr → List SessionAction}
    (h : Daemon.AllDid I config s.daemon acts) (hstep : (system I config).step s l s')
    (hoperates : l.Operates I config s) :
    Daemon.AllDid I config s'.daemon fun id => acts id ++ l.performs id := by
  cases l with
  | daemon l =>
    simp only [Lts.System.step, system, next] at hstep
    split at hstep
    · cases hstep
    · obtain ⟨t, ht, rfl⟩ := Option.map_eq_some_iff.mp hstep
      have hmove := move_step ht
      exact Daemon.allDid_step h hmove hoperates
  | program k answer =>
    have hquiet : ∀ {l : Daemon.Label} {t : State}, move I config s l = some t →
        (∀ id, l.performs id = []) → l.Operates I config s.daemon →
        Daemon.AllDid I config t.daemon fun id => acts id ++ [] := by
      intro l t ht hperforms hop
      exact (Daemon.allDid_step h (move_step ht) hop).congr fun id => by rw [hperforms]
    simp only [Lts.System.step, system, next, Option.bind_eq_bind, Option.bind_eq_some_iff] at hstep
    obtain ⟨p, -, hstep⟩ := hstep
    split at hstep
    · obtain rfl := Option.some.inj hstep
      exact h.congr fun id => List.append_nil _
    · obtain ⟨t, ht, hstep⟩ := Option.bind_eq_some_iff.mp hstep
      obtain rfl := Option.some.inj hstep
      have hmove := hquiet ht (fun id => by simp [Daemon.Label.performs, Daemon.Action.performs])
        fun x hx => trivial
      exact hmove
    · refine hquiet hstep (fun id => ?_) fun x hx => trivial
      simp [Daemon.Label.performs, Daemon.Action.performs]

end RunningDaemon

end BoVpnAgent

import BoVpnAgent.Executors.Noninterference
import BoVpnAgent.Daemon.Jobs
import BoVpnAgent.Executors.LoginLines

/-! # Two daemons with different credentials

    Two daemons accept the same jobs but for the credentials of one request of
    the mode `inline_once`, and then take the same steps.  No answer of
    `get_job` tells them apart: a response holds no credentials, and neither do
    the states, results and failures that the threads of the job store.
-/

namespace BoVpnAgent.Daemon

open ContainerNamespaceExecutor

/-! ### What the two daemons have in common -/

section same

variable (config : RunnerDaemonConfig) (vpn vpn' : VpnCredentials)

/-- The same job, or the job with the one and with the other credentials. -/
inductive SameJob : RunnerJob → RunnerJob → Prop where
  | same (j : RunnerJob) : SameJob j j
  | secret (j : RunnerJob) : SameJob { j with vpn := vpn } { j with vpn := vpn' }

/-- The same place of a runner thread. -/
inductive SameRunner : RunnerThread → RunnerThread → Prop where
  | same (r : RunnerThread) : SameRunner r r
  | session {s s' : Session} (h : SameSession vpn vpn' s s') :
    SameRunner (.session vpn s) (.session vpn' s')

structure SameExecution (x x' : Execution) : Prop where
  executor : x.executor = x'.executor
  runner : SameRunner vpn vpn' x.runner x'.runner
  job : SameJob vpn vpn' x.job x'.job

/-- The same write of the same job, but for the lines of the credentials. -/
structure SameControlWrite (w w' : ControlWrite) : Prop where
  job_id : w.job_id = w'.job_id
  write : SameWrite config vpn vpn' (w.block, w.text) (w'.block, w'.text)

/-- What a step leaves of two executions, and the writes that it appends. -/
structure SameAdvanced (r r' : Execution × List ControlWrite) : Prop where
  execution : SameExecution vpn vpn' r.1 r'.1
  written : List.Forall₂ (SameControlWrite config vpn vpn') r.2 r'.2

structure SameThreads (t t' : Threads) : Prop where
  executor : t.executor = t'.executor
  runner : SameRunner vpn vpn' t.runner t'.runner

structure SameState (s s' : State) : Prop where
  jobs : ∀ id, Option.Rel (SameJob vpn vpn') (s.jobs.get? id) (s'.jobs.get? id)
  threads : ∀ id, Option.Rel (SameThreads vpn vpn') (s.threads.get? id) (s'.threads.get? id)
  control_log : List.Forall₂ (SameControlWrite config vpn vpn') s.control_log s'.control_log

end same

variable {I : Interp} {config : RunnerDaemonConfig} {vpn vpn' : VpnCredentials}

/-! ### Jobs -/

theorem SameJob.response {j j' : RunnerJob} (h : SameJob vpn vpn' j j') :
    j.to_response = j'.to_response := by
  cases h with
  | same j => rfl
  | secret j => rfl

theorem SameJob.task {j j' : RunnerJob} (h : SameJob vpn vpn' j j') : j.task = j'.task := by
  cases h with
  | same j => rfl
  | secret j => rfl

theorem SameJob.job_id {j j' : RunnerJob} (h : SameJob vpn vpn' j j') : j.job_id = j'.job_id := by
  cases h with
  | same j => rfl
  | secret j => rfl

/-- A section that does not look at the credentials. -/
theorem SameJob.map (f : RunnerJob → RunnerJob)
    (hf : ∀ (j : RunnerJob) v, f { j with vpn := v } = { f j with vpn := v }) {j j' : RunnerJob}
    (h : SameJob vpn vpn' j j') : SameJob vpn vpn' (f j) (f j') := by
  cases h with
  | same j => exact .same (f j)
  | secret j =>
    rw [hf j vpn, hf j vpn']
    exact .secret (f j)

theorem report_state_vpn (j : RunnerJob) (v : VpnCredentials) (state message : PyStr) :
    report_state { j with vpn := v } state message = { report_state j state message with vpn := v } := by
  unfold report_state
  by_cases hterminal : j.state.terminal = true
  · simp only [hterminal, if_true]
  · simp only [hterminal]
    cases JobState.ofName? state with
    | none => rfl
    | some st => rfl

theorem conclude_vpn (j : RunnerJob) (v : VpnCredentials) (runner : RunnerThread) :
    conclude { j with vpn := v } runner = { conclude j runner with vpn := v } := by
  unfold conclude
  by_cases hterminal : j.state.terminal = true
  · simp only [hterminal, if_true]
  · simp only [hterminal]
    cases runner with
    | ended outcome =>
      cases outcome with
      | returned result => rfl
      | raised exc => cases exc <;> rfl
    | _ => rfl

theorem cancelled_vpn (j : RunnerJob) (v : VpnCredentials) :
    RunnerDaemon.cancelled { j with vpn := v } = { RunnerDaemon.cancelled j with vpn := v } := by
  unfold RunnerDaemon.cancelled
  by_cases hterminal : j.state.terminal = true
  · simp only [hterminal, if_true]
  · simp only [hterminal]
    rfl

/-- A runner that is still at work is the same timeout wherever it is. -/
theorem conclude_same {r r' : RunnerThread} (h : SameRunner vpn vpn' r r') (j : RunnerJob) :
    conclude j r = conclude j r' := by
  cases h with
  | same r => rfl
  | session h => rfl

/-! ### One step of a job's threads -/

/-- What a step of `run` does to the job and to the control file. -/
theorem take_same (x x' : Execution) (hjob : SameJob vpn vpn' x.job x'.job) (v v' : VpnCredentials)
    {st st' : SessionStep} (h : SameStep config vpn vpn' st st') :
    SameJob vpn vpn' (take x v st).1.job (take x' v' st').1.job ∧
      List.Forall₂ (SameControlWrite config vpn vpn') (take x v st).2 (take x' v' st').2 := by
  obtain ⟨next, report, w⟩ := st
  obtain ⟨next', report', w'⟩ := st'
  obtain ⟨-, hreport, hwrite⟩ := h
  simp only at hreport hwrite
  constructor
  · unfold take
    rw [hreport]
    cases report' with
    | none => exact hjob
    | some r =>
      exact hjob.map (report_state · r.1.name.py r.2.py) fun j v => report_state_vpn j v _ _
  · unfold take
    cases hwrite with
    | none => exact .nil
    | some hwrite => exact .cons ⟨hjob.job_id, hwrite⟩ .nil

/-- Where it leads the two threads. -/
theorem take_runner (x x' : Execution) {st st' : SessionStep} (h : SameStep config vpn vpn' st st') :
    SameRunner vpn vpn' (take x vpn st).1.runner (take x' vpn' st').1.runner := by
  obtain ⟨next, report, w⟩ := st
  obtain ⟨next', report', w'⟩ := st'
  have hnext : Sum.LiftRel (SameSession vpn vpn') Eq next next' := h.next
  unfold take
  cases hnext with
  | inl hs => exact .session hs
  | inr heq =>
    rw [heq]
    exact .same _

/-- A runner thread reads the credentials of its job. -/
theorem enter_same {e : Executor} {r r' : RunnerThread} {j j' : RunnerJob}
    (hrunner : SameRunner vpn vpn' r r') (hjob : SameJob vpn vpn' j j') :
    Option.Rel (SameAdvanced config vpn vpn') (advance I config ⟨e, r, j⟩ .enter)
      (advance I config ⟨e, r', j'⟩ .enter) := by
  cases hrunner with
  | session hs => exact .none
  | same r =>
    cases r with
    | started =>
      simp only [advance]
      rw [hjob.task]
      by_cases hmode : j'.task.runner_mode = "container_namespace".py
      · rw [if_pos hmode, if_pos hmode]
        have hentered : SameRunner vpn vpn' (.session j.vpn .begun) (.session j'.vpn .begun) := by
          cases hjob with
          | same j => exact .same _
          | secret j => exact .session (.same .begun)
        exact .some ⟨⟨rfl, hentered, hjob⟩, .nil⟩
      · rw [if_neg hmode, if_neg hmode]
        exact .some ⟨⟨rfl, .same _, hjob⟩, .nil⟩
    | _ => exact .none

/-- A step of `run`. -/
theorem session_same (hvpn : InlineOnce vpn) (hvpn' : InlineOnce vpn') {e : Executor}
    {r r' : RunnerThread} {j j' : RunnerJob} {act : SessionAction}
    (hrunner : SameRunner vpn vpn' r r') (hjob : SameJob vpn vpn' j j')
    (h : ∀ s, r = .session vpn s → Encodes config vpn s act)
    (h' : ∀ s, r' = .session vpn' s → Encodes config vpn' s act) :
    Option.Rel (SameAdvanced config vpn vpn') (advance I config ⟨e, r, j⟩ (.session act))
      (advance I config ⟨e, r', j'⟩ (.session act)) := by
  cases hrunner with
  | same r =>
    cases r with
    | session v s =>
      -- the two threads hold the same credentials, whosever they are
      simp only [advance]
      rw [hjob.task]
      cases hst : ContainerNamespaceExecutor.step config j'.task v s act with
      | none => exact .none
      | some st =>
        have hsame : SameStep config vpn vpn' st st := SameStep.refl st
        obtain ⟨hjobs, hwrites⟩ := take_same ⟨e, .session v s, j⟩ ⟨e, .session v s, j'⟩ hjob v v hsame
        exact .some ⟨⟨rfl, .same _, hjobs⟩, hwrites⟩
    | _ => exact .none
  | @session s s' hs =>
    have hstep := step_same hvpn hvpn' j'.task hs (h s rfl) (h' s' rfl)
    simp only [advance]
    rw [hjob.task]
    generalize ContainerNamespaceExecutor.step config j'.task vpn s act = o at hstep
    generalize ContainerNamespaceExecutor.step config j'.task vpn' s' act = o' at hstep
    cases hstep with
    | none => exact .none
    | some hstep =>
      obtain ⟨hjobs, hwrites⟩ := take_same ⟨e, .session vpn s, j⟩ ⟨e, .session vpn' s', j'⟩ hjob
        vpn vpn' hstep
      exact .some ⟨⟨rfl, take_runner _ _ hstep, hjobs⟩, hwrites⟩

/-- One step of two executions. -/
theorem advance_same (hvpn : InlineOnce vpn) (hvpn' : InlineOnce vpn') {x x' : Execution}
    (hx : SameExecution vpn vpn' x x') {a : Action}
    (h : ∀ s act, a = .session act → x.runner = .session vpn s → Encodes config vpn s act)
    (h' : ∀ s act, a = .session act → x'.runner = .session vpn' s → Encodes config vpn' s act) :
    Option.Rel (SameAdvanced config vpn vpn') (advance I config x a) (advance I config x' a) := by
  obtain ⟨e, r, j⟩ := x
  obtain ⟨e', r', j'⟩ := x'
  obtain ⟨hexecutor, hrunner, hjob⟩ := hx
  simp only at hexecutor hrunner hjob h h'
  subst hexecutor
  -- only a step of a session reads the credentials; all others take both jobs the same way
  cases a with
  | select =>
    cases e with
    | begun =>
      simp only [advance]
      rw [hjob.task]
      cases select_runner j'.task.runner_mode with
      | ok u => exact .some ⟨⟨rfl, .same _, hjob⟩, .nil⟩
      | error exc => exact .some ⟨⟨rfl, hrunner, hjob⟩, .nil⟩
    | _ => exact .none
  | join_over =>
    cases e with
    | joining =>
      simp only [advance]
      rw [hjob.task]
      by_cases htime : j'.task.timeout_sec ≤ I.timeout_max
      · rw [if_pos htime, if_pos htime]
        exact .some ⟨⟨rfl, hrunner, hjob⟩, .nil⟩
      · rw [if_neg htime, if_neg htime]
        exact .none
    | _ => exact .none
  | join_raise =>
    cases e with
    | joining =>
      simp only [advance]
      rw [hjob.task]
      by_cases htime : j'.task.timeout_sec ≤ I.timeout_max
      · rw [if_pos htime, if_pos htime]
        exact .none
      · rw [if_neg htime, if_neg htime]
        exact .some ⟨⟨rfl, hrunner, hjob⟩, .nil⟩
    | _ => exact .none
  | conclude =>
    cases e with
    | joined =>
      simp only [advance]
      rw [conclude_same hrunner]
      have hconcluded : SameJob vpn vpn' (conclude j r') (conclude j' r') :=
        hjob.map (conclude · r') fun j v => conclude_vpn j v r'
      exact .some ⟨⟨rfl, hrunner, hconcluded⟩, .nil⟩
    | _ => exact .none
  | wipe =>
    cases e with
    | closing =>
      simp only [advance]
      -- from here on the two jobs are the same
      have hwiped : SameJob vpn vpn' { j with vpn := RunnerJob.wipedVpn }
          { j' with vpn := RunnerJob.wipedVpn } := by
        cases hjob with
        | same j => exact .same _
        | secret j => exact .same _
      exact .some ⟨⟨rfl, hrunner, hwiped⟩, .nil⟩
    | _ => exact .none
  | enter => exact enter_same hrunner hjob
  | report state message =>
    cases hrunner with
    | session hs => exact .none
    | same r =>
      cases r with
      | in_run =>
        simp only [advance]
        have hreported : SameJob vpn vpn' (report_state j state message)
            (report_state j' state message) :=
          hjob.map (report_state · state message) fun j v => report_state_vpn j v state message
        exact .some ⟨⟨rfl, .same _, hreported⟩, .nil⟩
      | _ => exact .none
  | session act => exact session_same hvpn hvpn' hrunner hjob (h · act rfl) (h' · act rfl)
  | leave outcome =>
    cases hrunner with
    | session hs => exact .none
    | same r =>
      cases r with
      | in_run => exact .some ⟨⟨rfl, .same _, hjob⟩, .nil⟩
      | _ => exact .none
  | die =>
    cases hrunner with
    | session hs => exact .none
    | same r =>
      cases r with
      | leaving outcome => exact .some ⟨⟨rfl, .same _, hjob⟩, .nil⟩
      | _ => exact .none
  | cancel => exact .some ⟨⟨rfl, hrunner, hjob.map RunnerDaemon.cancelled cancelled_vpn⟩, .nil⟩

/-! ### One step of the two daemons -/

theorem rel_set {α : Type} {R : α → α → Prop} {d d' : Dict PyStr α}
    (h : ∀ id, Option.Rel R (d.get? id) (d'.get? id)) {v v' : α} (hv : R v v') (key : PyStr) :
    ∀ id, Option.Rel R ((d.set key v).get? id) ((d'.set key v').get? id) := by
  intro id
  rw [Dict.get?_set, Dict.get?_set]
  by_cases hid : key = id
  · rw [if_pos hid, if_pos hid]
    exact .some hv
  · rw [if_neg hid, if_neg hid]
    exact h id

/-- What the threads of a job see in the two daemons. -/
theorem view_same {s s' : State} (h : SameState config vpn vpn' s s') (id : PyStr) :
    Option.Rel (SameExecution vpn vpn') (s.view id) (s'.view id) := by
  have hthreads := h.threads id
  have hjobs := h.jobs id
  unfold State.view
  generalize s.threads.get? id = o at hthreads
  generalize s'.threads.get? id = o' at hthreads
  cases hthreads with
  | none => exact .none
  | some hthreads =>
    generalize s.jobs.get? id = o at hjobs
    generalize s'.jobs.get? id = o' at hjobs
    cases hjobs with
    | none => exact .none
    | some hjob => exact .some ⟨hthreads.executor, hthreads.runner, hjob⟩

theorem put_same {s s' : State} (h : SameState config vpn vpn' s s') (id : PyStr)
    {r r' : Execution × List ControlWrite} (hr : SameAdvanced config vpn vpn' r r') :
    SameState config vpn vpn' (s.put id r.1 r.2) (s'.put id r'.1 r'.2) where
  jobs := rel_set h.jobs hr.execution.job id
  threads := rel_set h.threads ⟨hr.execution.executor, hr.execution.runner⟩ id
  control_log := List.rel_append h.control_log hr.written

theorem start_same {s s' : State} (h : SameState config vpn vpn' s s') {j j' : RunnerJob}
    (hj : SameJob vpn vpn' j j') : SameState config vpn vpn' (s.start j) (s'.start j') := by
  have hid : j.job_id = j'.job_id := hj.job_id
  refine ⟨?_, ?_, h.control_log⟩
  · show ∀ id, Option.Rel _ ((s.jobs.set j.job_id j).get? id) ((s'.jobs.set j'.job_id j').get? id)
    rw [hid]
    exact rel_set h.jobs hj _
  · show ∀ id, Option.Rel _ ((s.threads.set j.job_id _).get? id) ((s'.threads.set j'.job_id _).get? id)
    rw [hid]
    exact rel_set h.threads ⟨rfl, .same _⟩ _

/-- A step of a runner thread that writes a line of the credentials `vpn` can
    encode it. -/
def EncodesStep (config : RunnerDaemonConfig) (vpn : VpnCredentials) (s : State) (l : Label) : Prop :=
  ∀ id act x at_, l = .job id (.session act) → s.view id = some x → x.runner = .session vpn at_ →
    Encodes config vpn at_ act

/-- One step of the two daemons. -/
theorem next_same (hvpn : InlineOnce vpn) (hvpn' : InlineOnce vpn') {s s' : State} {l : Label}
    (hs : SameState config vpn vpn' s s') (h : EncodesStep config vpn s l)
    (h' : EncodesStep config vpn' s' l) :
    Option.Rel (SameState config vpn vpn') (next I config s l) (next I config s' l) := by
  cases l with
  | create_job payload env =>
    -- the same ids are taken in both states
    have htaken : (s.jobs.get? env.job_id.val).isSome = (s'.jobs.get? env.job_id.val).isSome := by
      have hjob := hs.jobs env.job_id.val
      generalize s.jobs.get? env.job_id.val = o at hjob
      generalize s'.jobs.get? env.job_id.val = o' at hjob
      cases hjob with
      | none => rfl
      | some hjob => rfl
    unfold next
    simp only
    rw [htaken]
    by_cases hsome : (s'.jobs.get? env.job_id.val).isSome = true
    · rw [if_pos hsome, if_pos hsome]
      exact .none
    · rw [if_neg hsome, if_neg hsome]
      cases RunnerDaemon.build_job I payload env with
      | ok job => exact .some (start_same hs (.same job))
      | error exc => exact .some hs
  | job id a =>
    -- a label of a job is enabled in both states or in neither
    have hview := view_same hs id
    unfold next
    simp only [bind]
    cases hx : s.view id with
    | none =>
      rw [hx] at hview
      cases hx' : s'.view id with
      | none => exact .none
      | some x' =>
        rw [hx'] at hview
        cases hview
    | some x =>
      rw [hx] at hview
      cases hx' : s'.view id with
      | none =>
        rw [hx'] at hview
        cases hview
      | some x' =>
        rw [hx'] at hview
        cases hview with
        | some hview =>
          have hadvance : Option.Rel (SameAdvanced config vpn vpn') (advance I config x a)
              (advance I config x' a) := by
            apply advance_same hvpn hvpn' hview
            · intro at_ act ha hr
              exact h id act x at_ (ha ▸ rfl) hx hr
            · intro at_ act ha hr
              exact h' id act x' at_ (ha ▸ rfl) hx' hr
          simp only [Option.bind_some]
          generalize advance I config x a = o at hadvance
          generalize advance I config x' a = o' at hadvance
          cases hadvance with
          | none => exact .none
          | some hadvance => exact .some (put_same hs id hadvance)

/-! ### Two requests -/

/-- The requests agree but for the field `vpn`. -/
def SameButVpn (payload payload' : Json.Fields) : Prop :=
  ∀ key, key ≠ "vpn".py → Json.get? payload key = Json.get? payload' key

theorem SameButVpn.require_str {payload payload' : Json.Fields} (h : SameButVpn payload payload')
    {key : String} (hkey : key.py ≠ "vpn".py) (label : String) :
    require_str payload key label = require_str payload' key label := by
  unfold BoVpnAgent.require_str
  rw [h key.py hkey]

/-- What the two requests ask for differs in the credentials alone. -/
theorem check_job_same {payload payload' : Json.Fields} (h : SameButVpn payload payload')
    {checked checked' : CheckedJob} (hchecked : RunnerDaemon.check_job payload = .ok checked)
    (hchecked' : RunnerDaemon.check_job payload' = .ok checked') :
    checked' = { checked with vpn := checked'.vpn } := by
  have hvehicle : require_dict payload "vehicle" = require_dict payload' "vehicle" := by
    unfold require_dict
    rw [h "vehicle".py (by decide)]
  have hstr : ∀ key : String, key.py ≠ "vpn".py → ∀ label,
      require_str payload' key label = require_str payload key label := by
    intro key hkey label
    exact (h.require_str hkey label).symm
  unfold RunnerDaemon.check_job at hchecked hchecked'
  rw [hstr "request_id" (by decide), hstr "runner_mode" (by decide), hstr "operation" (by decide),
    ← hvehicle] at hchecked'
  obtain ⟨request_id, hrequest, hchecked⟩ := bind_ok.mp hchecked
  obtain ⟨runner_mode, hmode, hchecked⟩ := bind_ok.mp hchecked
  obtain ⟨vehicle_raw, hraw, hchecked⟩ := bind_ok.mp hchecked
  obtain ⟨vpn_raw, -, hchecked⟩ := bind_ok.mp hchecked
  obtain ⟨number, hnumber, hchecked⟩ := bind_ok.mp hchecked
  obtain ⟨ip, hip, hchecked⟩ := bind_ok.mp hchecked
  obtain ⟨vpn, -, hchecked⟩ := bind_ok.mp hchecked
  obtain ⟨operation, hoperation, hchecked⟩ := bind_ok.mp hchecked
  rw [hrequest, hmode, hraw] at hchecked'
  simp only [bind, Except.bind] at hchecked'
  obtain ⟨vpn_raw', -, hchecked'⟩ := bind_ok.mp hchecked'
  rw [hnumber, hip] at hchecked'
  simp only at hchecked'
  obtain ⟨vpn', -, hchecked'⟩ := bind_ok.mp hchecked'
  rw [hoperation] at hchecked'
  rw [← Except.ok.inj hchecked, ← Except.ok.inj hchecked']

/-- The two requests make the same job but for the credentials. -/
theorem build_job_same {payload payload' : Json.Fields} (h : SameButVpn payload payload')
    {env : JobEnv} {job job' : RunnerJob} (hjob : RunnerDaemon.build_job I payload env = .ok job)
    (hjob' : RunnerDaemon.build_job I payload' env = .ok job') :
    SameJob job.vpn job'.vpn job job' := by
  obtain ⟨checked, hchecked, hjob⟩ := bind_ok.mp hjob
  obtain ⟨checked', hchecked', hjob'⟩ := bind_ok.mp hjob'
  rw [check_job_same h hchecked hchecked', ← h "params".py (by decide),
    ← h "timeout_sec".py (by decide)] at hjob'
  obtain ⟨timeout_sec, htimeout, hjob⟩ := bind_ok.mp hjob
  rw [htimeout] at hjob'
  have hother : job' = { job with vpn := job'.vpn } := by
    rw [← Except.ok.inj hjob, ← Except.ok.inj hjob']
  have hsame : SameJob job.vpn job'.vpn job { job with vpn := job'.vpn } := .secret job
  exact hother ▸ hsame

/-! ### The two runs -/

theorem same_refl (s : State) : SameState config vpn vpn' s s := by
  have hrel : ∀ {α : Type} {R : α → α → Prop}, (∀ a, R a a) → ∀ o : Option α, Option.Rel R o o := by
    intro α R hR o
    cases o with
    | none => exact .none
    | some a => exact .some (hR a)
  refine ⟨fun id => hrel .same _, fun id => hrel (fun t => ⟨rfl, .same _⟩) _, ?_⟩
  exact Lts.forall₂_refl (fun w => ⟨rfl, .same _⟩) _

/-- The answers of `get_job` are the same. -/
theorem SameState.get_job {s s' : State} (h : SameState config vpn vpn' s s') (id : PyStr) :
    RunnerDaemon.get_job s.jobs id = RunnerDaemon.get_job s'.jobs id := by
  have hjob := h.jobs id
  unfold RunnerDaemon.get_job
  generalize s.jobs.get? id = o at hjob
  generalize s'.jobs.get? id = o' at hjob
  cases hjob with
  | none => rfl
  | some hjob => exact hjob.response

/-- The credentials of a request are those of its field `vpn`, and not empty in
    the mode `inline_once`. -/
theorem inlineOnce_of_build {payload : Json.Fields} {env : JobEnv} {job : RunnerJob}
    (h : RunnerDaemon.build_job I payload env = .ok job) (hmode : job.vpn.mode = "inline_once".py) :
    InlineOnce job.vpn := by
  obtain ⟨checked, hchecked, h⟩ := bind_ok.mp h
  obtain ⟨timeout_sec, -, h⟩ := bind_ok.mp h
  have hvpn : job.vpn = checked.vpn := by
    rw [← Except.ok.inj h]
  rw [hvpn] at hmode ⊢
  unfold RunnerDaemon.check_job at hchecked
  obtain ⟨request_id, -, hchecked⟩ := bind_ok.mp hchecked
  obtain ⟨runner_mode, -, hchecked⟩ := bind_ok.mp hchecked
  obtain ⟨vehicle_raw, -, hchecked⟩ := bind_ok.mp hchecked
  obtain ⟨vpn_raw, -, hchecked⟩ := bind_ok.mp hchecked
  obtain ⟨number, -, hchecked⟩ := bind_ok.mp hchecked
  obtain ⟨ip, -, hchecked⟩ := bind_ok.mp hchecked
  obtain ⟨vpn, hbuild, hchecked⟩ := bind_ok.mp hchecked
  obtain ⟨operation, -, hchecked⟩ := bind_ok.mp hchecked
  have hvpn : checked.vpn = vpn := by
    rw [← Except.ok.inj hchecked]
  rw [hvpn] at hmode ⊢
  unfold build_vpn at hbuild
  obtain ⟨mode, -, hbuild⟩ := bind_ok.mp hbuild
  by_cases hinline : mode = "inline_once".py
  · rw [if_pos hinline] at hbuild
    obtain ⟨username, husername, hbuild⟩ := bind_ok.mp hbuild
    obtain ⟨password, hpassword, hbuild⟩ := bind_ok.mp hbuild
    rw [← Except.ok.inj hbuild]
    exact ⟨hinline, (require_str_ok husername).2, (require_str_ok hpassword).2⟩
  · rw [if_neg hinline] at hbuild
    by_cases hsecret : mode = "container_secret".py
    · rw [if_pos hsecret] at hbuild
      rw [← Except.ok.inj hbuild] at hmode
      exact absurd hmode hinline
    · rw [if_neg hsecret] at hbuild
      cases hbuild

/-- Two requests that differ in the credentials of the mode `inline_once` make
    two jobs that only the third and the fourth line of `_login` tell apart, as
    long as these lines can be encoded: neither what a run of the executor does
    nor what the daemon answers shows the credentials. -/
theorem credentials_noninterference {payload payload' : Json.Fields} {created : JobEnv}
    {job job' : RunnerJob} (hpayload : SameButVpn payload payload')
    (hjob : RunnerDaemon.build_job I payload created = .ok job)
    (hjob' : RunnerDaemon.build_job I payload' created = .ok job')
    (hmode : job.vpn.mode = "inline_once".py) (hmode' : job'.vpn.mode = "inline_once".py) :
    (∀ env, EncodesRun I config job.task job.vpn env → EncodesRun I config job'.task job'.vpn env →
      ∀ n, Indistinguishable config job.vpn job'.vpn (drive I config job.task job.vpn env n)
        (drive I config job'.task job'.vpn env n)) ∧
    ∀ (s : State) (ls : List Label),
      (daemon I config).Along (EncodesStep config job.vpn) (s.start job) ls →
      (daemon I config).Along (EncodesStep config job'.vpn) (s.start job') ls →
      (∀ id, RunnerDaemon.get_job ((daemon I config).playFrom (s.start job) ls).jobs id =
        RunnerDaemon.get_job ((daemon I config).playFrom (s.start job') ls).jobs id) ∧
      List.Forall₂ (SameControlWrite config job.vpn job'.vpn)
        ((daemon I config).playFrom (s.start job) ls).control_log
        ((daemon I config).playFrom (s.start job') ls).control_log := by
  have hvpn : InlineOnce job.vpn := inlineOnce_of_build hjob hmode
  have hvpn' : InlineOnce job'.vpn := inlineOnce_of_build hjob' hmode'
  have hsame : SameJob job.vpn job'.vpn job job' := build_job_same hpayload hjob hjob'
  constructor
  · intro env h h' n
    rw [← hsame.task] at h' ⊢
    exact (same_drive hvpn hvpn' h h' n).indistinguishable
  · intro s ls h h'
    have hstep : ∀ a a' l, SameState config job.vpn job'.vpn a a' →
        EncodesStep config job.vpn a l → EncodesStep config job'.vpn a' l →
        Option.Rel (SameState config job.vpn job'.vpn) ((daemon I config).next a l)
          ((daemon I config).next a' l) := by
      intro a a' l ha hl hl'
      exact next_same hvpn hvpn' ha hl hl'
    have hrefl : SameState config job.vpn job'.vpn s s := same_refl s
    have hstart := start_same hrefl hsame
    have hend := Lts.playFrom_related hstep hstart h h'
    exact ⟨hend.get_job, hend.control_log⟩

/-! ### Requests with different passwords -/

/-- A request with the password `password`. -/
def secretPayload (password : PyStr) : Json.Fields :=
  [("request_id".py, .str "r1".py), ("runner_mode".py, .str "container_namespace".py),
    ("vehicle".py, .obj [("number".py, .str "1".py), ("ip".py, .str "10.0.0.1".py)]),
    ("vpn".py, .obj [("mode".py, .str "inline_once".py), ("username".py, .str "u".py),
      ("password".py, .str password)]),
    ("operation".py, .str "basic_status".py), ("timeout_sec".py, .int 5)]

/-- The job that it makes. -/
def secretJob (password : PyStr) : RunnerJob where
  job_id := "j1".py
  request_id := "r1".py
  task :=
    { task_id := "task-j1".py, request_id := "r1".py, telegram_user_id := .int 0,
      user_role := "runner-daemon".py, vehicle := { number := "1".py, ip := "10.0.0.1".py },
      operation := "basic_status".py, params := [], timeout_sec := 5,
      request_fingerprint := "runner-daemon".py, runner_mode := "container_namespace".py,
      risk := "read_only".py, created_at := sampleNow, updated_at := sampleNow }
  vpn := { mode := "inline_once".py, username := "u".py, password := password }

theorem secretPayload_same (password password' : PyStr) :
    SameButVpn (secretPayload password) (secretPayload password') := by
  intro key hkey
  have hvpn : ¬ "vpn".py = key := fun h => hkey h.symm
  simp only [secretPayload, Json.get?, Dict.lookup, if_neg hvpn]

theorem build_secretJob {password : PyStr} (h : password ≠ []) :
    RunnerDaemon.build_job sampleInterp (secretPayload password) (sampleJobEnv "j1") =
      .ok (secretJob password) := by
  cases password with
  | nil => exact absurd rfl h
  | cons c password => rfl

/-- The threads of the job, as long as no check succeeds and until its time is
    up. -/
def secretLabels : List Label :=
  let down := .ok { returncode := 1, stdout := [] }
  ([.select, .enter, .session .set_state, .session (.probe down down false),
    .session (.read_credentials (.ok []) (.ok true)), .session (.write false), .session (.write false),
    .session (.write false), .session (.write false), .session .cleanup, .die, .join_over,
    .conclude] : List Action).map (.job "j1".py)

/-- What `get_job` answers then. -/
def secretAnswer (password : PyStr) : Except PyExc JobResponse :=
  RunnerDaemon.get_job ((daemon sampleInterp sampleDaemonConfig).playFrom
    ((daemon sampleInterp sampleDaemonConfig).init.start (secretJob password)) secretLabels).jobs
    "j1".py

/-- Two passwords without lone surrogates. -/
theorem credentials_noninterference_sample :
    Indistinguishable sampleDaemonConfig (secretJob "p".py).vpn (secretJob "s3cret".py).vpn
      (drive sampleInterp sampleDaemonConfig (secretJob "p".py).task (secretJob "p".py).vpn
        downEnvironment 8)
      (drive sampleInterp sampleDaemonConfig (secretJob "s3cret".py).task
        (secretJob "s3cret".py).vpn downEnvironment 8) ∧
    secretAnswer "p".py = secretAnswer "s3cret".py := by
  have hsame := secretPayload_same "p".py "s3cret".py
  have hjob : RunnerDaemon.build_job sampleInterp (secretPayload "p".py) (sampleJobEnv "j1") =
      .ok (secretJob "p".py) := build_secretJob (by decide)
  have hjob' : RunnerDaemon.build_job sampleInterp (secretPayload "s3cret".py) (sampleJobEnv "j1") =
      .ok (secretJob "s3cret".py) := build_secretJob (by decide)
  have hencodes : ∀ s a, Encodes sampleDaemonConfig (secretJob "p".py).vpn s a :=
    encodes_of_scalar (by decide) (by decide) sampleDaemonConfig
  have hencodes' : ∀ s a, Encodes sampleDaemonConfig (secretJob "s3cret".py).vpn s a :=
    encodes_of_scalar (by decide) (by decide) sampleDaemonConfig
  constructor
  · exact (credentials_noninterference hsame hjob hjob' rfl rfl).1 downEnvironment
      (fun n s _ => hencodes s _) (fun n s _ => hencodes' s _) 8
  · refine ((credentials_noninterference hsame hjob hjob' rfl rfl).2 _ secretLabels ?_ ?_).1 "j1".py
    · exact Lts.along_of_forall (fun s l id act x at_ _ _ _ => hencodes at_ act) _ _
    · exact Lts.along_of_forall (fun s l id act x at_ _ _ _ => hencodes' at_ act) _ _

/-- A password with a lone surrogate ends the run that writes it, and the
    answer of `get_job` says so. -/
theorem surrogate_tells_apart :
    RunnerDaemon.build_job sampleInterp (secretPayload "p".py) (sampleJobEnv "j1") =
      .ok (secretJob "p".py) ∧
    RunnerDaemon.build_job sampleInterp (secretPayload [0xD800]) (sampleJobEnv "j1") =
      .ok (secretJob [0xD800]) ∧
    SameButVpn (secretPayload "p".py) (secretPayload [0xD800]) ∧
    (secretAnswer "p".py).toOption.bind JobResponse.error_code = some "operation_timeout".py ∧
    (secretAnswer [0xD800]).toOption.bind JobResponse.error_code =
      some "runner_internal_error".py ∧
    ¬ Indistinguishable sampleDaemonConfig (secretJob "p".py).vpn (secretJob [0xD800]).vpn
      (drive sampleInterp sampleDaemonConfig (secretJob "p".py).task (secretJob "p".py).vpn
        downEnvironment 8)
      (drive sampleInterp sampleDaemonConfig (secretJob [0xD800]).task (secretJob [0xD800]).vpn
        downEnvironment 8) := by
  refine ⟨build_secretJob (by decide), build_secretJob (by decide), secretPayload_same _ _,
    by decide +kernel, by decide +kernel, ?_⟩
  intro h
  have hended := (h.outcome (.raised (.builtin .unicodeEncodeError []))).mpr rfl
  cases hended

end BoVpnAgent.Daemon

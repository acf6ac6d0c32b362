import BoVpnAgent.Daemon.Snapshots
import BoVpnAgent.Lifecycle.Order

/-! # The daemon with its runners

    The daemon of `Daemon.System` leaves open what a runner thread does
    inside `run` unless its mode is `container_namespace`.  Here it follows
    its program: the two steps that belong to the inside of `run` are taken
    by programs only.

    The states of a job rise along the order, whatever its mode is and
    whoever cancels it, and `values` keeps all values that a job has had, for
    the answer of `create_job` is read while the job is written.
-/

namespace BoVpnAgent.RunningDaemon

open Daemon (Execution Action)

/-! ### The system -/

/-- The step is one of the inside of `run`. -/
def inside_run : Action → Bool
  | .report _ _ | .leave _ => true
  | _ => false

def inside : Daemon.Label → Bool
  | .create_job _ _ => false
  | .job _ a => inside_run a

/-- What `run_runner` runs in the modes other than `container_namespace`. -/
def job_program (task : Task) : Option RunnerProgram :=
  if task.runner_mode = "existing_container".py then some .existing_container
  else (create_runner task.runner_mode none).toOption.bind (RunnerProgram.start task)

/-- The daemon, the programs of its jobs, and the values that each job has
    had so far. -/
structure State where
  daemon : Daemon.State
  programs : Dict PyStr RunnerProgram
  values : Dict PyStr (List RunnerJob)

/-- A step of the daemon outside the programs, or an answer to a program. -/
inductive Label where
  | daemon (l : Daemon.Label)
  | program (job_id : PyStr) (answer : (q : RunnerQuery) → q.Answer)

section system

variable (I : Interp) (config : RunnerDaemonConfig)

/-- The values after a step that leads from `s` to `s'`. -/
def record (values : Dict PyStr (List RunnerJob)) (s s' : Daemon.State) :
    Daemon.Label → Dict PyStr (List RunnerJob)
  | .create_job _ env =>
    match s'.jobs.get? env.job_id.val with
    | some job => values.set env.job_id.val [job]
    | none => values
  | .job id a =>
    match s.view id with
    | some x => values.set id ((values.get? id).getD [] ++ Daemon.job_writes config x a)
    | none => values

/-- A step of the daemon, recorded. -/
def move (s : State) (l : Daemon.Label) : Option State := do
  let daemon ← Daemon.next I config s.daemon l
  return { s with daemon := daemon, values := record config s.values s.daemon daemon l }

/-- A runner that enters `run` begins its program. -/
def begin_run (programs : Dict PyStr RunnerProgram) (s : Daemon.State) :
    Daemon.Label → Dict PyStr RunnerProgram
  | .job id .enter =>
    match (s.view id).bind fun x => job_program x.job.task with
    | some p => programs.set id p
    | none => programs.pop id
  | _ => programs

def next (s : State) : Label → Option State
  | .daemon l =>
    if inside l then none
    else (move I config s l).map fun s' =>
      { s' with programs := begin_run s.programs s.daemon l }
  | .program id answer => do
    let p ← s.programs.get? id
    match RunnerProgram.step answer p with
    | .asked none p' => return { s with programs := s.programs.set id p' }
    | .asked (some (state, message)) p' => do
      let s' ← move I config s (.job id (.report state.name.py message))
      return { s' with programs := s.programs.set id p' }
    | .ended outcome => move I config s (.job id (.leave outcome))

def system : Lts.System State Label where
  init := { daemon := (Daemon.daemon I config).init, programs := Dict.empty, values := Dict.empty }
  next := next I config

end system

/-! ### One job -/

/-- The values that the job `id` has had. -/
def State.job_values (s : State) (id : PyStr) : List RunnerJob := (s.values.get? id).getD []

/-- A job with the program of its runner and its values. -/
structure Component where
  x : Execution
  program : Option RunnerProgram
  values : List RunnerJob

def State.component (s : State) (id : PyStr) : Option Component :=
  (s.daemon.view id).map fun x =>
    { x := x, program := s.programs.get? id, values := s.job_values id }

/-- What a step of the system does to one job. -/
inductive Move (I : Interp) (config : RunnerDaemonConfig) (c : Component) : Component → Prop where
  | outside {a : Action} {x' : Execution} {written : List ControlWrite}
      (h : Daemon.Advance I config c.x a x' written) (ha : inside_run a = false) (hne : a ≠ .enter) :
      Move I config c { c with x := x', values := c.values ++ Daemon.job_writes config c.x a }
  | enter {x' : Execution} {written : List ControlWrite}
      (h : Daemon.Advance I config c.x .enter x' written) :
      Move I config c { c with x := x', program := job_program c.x.job.task }
  | answered {p p' : RunnerProgram} {answer : (q : RunnerQuery) → q.Answer}
      (hp : c.program = some p) (hstep : RunnerProgram.step answer p = .asked none p') :
      Move I config c { c with program := some p' }
  | reported {p p' : RunnerProgram} {answer : (q : RunnerQuery) → q.Answer} {st : TaskState}
      {message : PyStr} {x' : Execution} {written : List ControlWrite} (hp : c.program = some p)
      (hstep : RunnerProgram.step answer p = .asked (some (st, message)) p')
      (h : Daemon.Advance I config c.x (.report st.name.py message) x' written) :
      Move I config c
        { x := x', program := some p'
          values := c.values ++ Daemon.job_writes config c.x (.report st.name.py message) }
  | ended {outcome : Outcome} {x' : Execution} {written : List ControlWrite}
      (h : Daemon.Advance I config c.x (.leave outcome) x' written) :
      Move I config c { c with x := x' }

section steps

variable {I : Interp} {config : RunnerDaemonConfig} {s s' : State}

theorem move_create {payload : Json.Fields} {env : JobEnv}
    (h : move I config s (.create_job payload env) = some s') :
    s' = s ∨ ∃ job, RunnerDaemon.build_job I payload env = .ok job ∧
      s.daemon.jobs.get? job.job_id = none ∧
      s' = { s with daemon := s.daemon.start job, values := s.values.set job.job_id [job] } := by
  simp only [move, Daemon.next, Option.bind_eq_bind] at h
  split at h
  · cases h
  · next hfresh =>
    have hnone := Option.not_isSome_iff_eq_none.mp hfresh
    cases hjob : RunnerDaemon.build_job I payload env with
    | error exc =>
      simp only [hjob, Option.bind_some, record, hnone] at h
      exact .inl (Option.some.inj h).symm
    | ok job =>
      have hid : job.job_id = env.job_id.val := by
        obtain ⟨_, _, _, _, _, rfl⟩ := RunnerDaemon.build_job_ok hjob
        rfl
      have hget : (s.daemon.start job).jobs.get? env.job_id.val = some job := by
        rw [← hid]
        simp [Daemon.State.start]
      simp only [hjob, Option.bind_some, record, hget] at h
      refine .inr ⟨job, rfl, hid ▸ hnone, ?_⟩
      rw [hid]
      exact (Option.some.inj h).symm

theorem move_job {id : PyStr} {a : Action} (h : move I config s (.job id a) = some s') :
    ∃ x x' written, s.daemon.view id = some x ∧ Daemon.Advance I config x a x' written ∧
      s' = { s with daemon := s.daemon.put id x' written
                    values := s.values.set id (s.job_values id ++ Daemon.job_writes config x a) } := by
  simp only [move, Daemon.next, Option.bind_eq_bind, Option.bind_eq_some_iff] at h
  obtain ⟨daemon, ⟨x, hx, ⟨x', written⟩, hadv, heq⟩, h⟩ := h
  obtain rfl := Option.some.inj heq
  refine ⟨x, x', written, hx, Daemon.advance_cases hadv, ?_⟩
  simp only [record, hx] at h
  exact (Option.some.inj h).symm

/-- A step on the job `id` leaves the other jobs alone. -/
theorem component_of_ne {id k : PyStr} {x' : Execution} {written : List ControlWrite}
    {values : List RunnerJob} {programs : Dict PyStr RunnerProgram} (hne : id ≠ k)
    (hprograms : programs.get? k = s.programs.get? k) :
    State.component { daemon := s.daemon.put id x' written, programs := programs
                      values := s.values.set id values } k = s.component k := by
  simp [State.component, State.job_values, Daemon.view_put_ne hne, hprograms, hne]

theorem component_self {id : PyStr} {x' : Execution} {written : List ControlWrite}
    {values : List RunnerJob} {programs : Dict PyStr RunnerProgram} :
    State.component { daemon := s.daemon.put id x' written, programs := programs
                      values := s.values.set id values } id =
      some { x := x', program := programs.get? id, values := values } := by
  simp [State.component, State.job_values, Daemon.view_put_self]

theorem component_eq_some {k : PyStr} {c : Component} (h : s.component k = some c) :
    s.daemon.view k = some c.x ∧ c.program = s.programs.get? k ∧ c.values = s.job_values k := by
  obtain ⟨x, hx, rfl⟩ := Option.map_eq_some_iff.mp h
  exact ⟨hx, rfl, rfl⟩

/-- A step on the job `id`, seen from the job `k`. -/
theorem component_put {id k : PyStr} {x x' : Execution} {written : List ControlWrite}
    {values : List RunnerJob} {programs : Dict PyStr RunnerProgram}
    (hx : s.daemon.view id = some x) (hprograms : id ≠ k → programs.get? k = s.programs.get? k)
    (hmove : Move I config { x := x, program := s.programs.get? id, values := s.job_values id }
      { x := x', program := programs.get? id, values := values }) :
    State.component { daemon := s.daemon.put id x' written, programs := programs
                      values := s.values.set id values } k = s.component k ∨
    ∃ c c', s.component k = some c ∧
      State.component { daemon := s.daemon.put id x' written, programs := programs
                        values := s.values.set id values } k = some c' ∧ Move I config c c' := by
  by_cases heq : id = k
  · subst heq
    exact .inr ⟨_, _, by rw [State.component, hx]; rfl, component_self, hmove⟩
  · exact .inl (component_of_ne heq (hprograms heq))

theorem daemon_step {l : Daemon.Label} {k : PyStr}
    (h : (system I config).step s (.daemon l) s') :
    s'.component k = s.component k ∨
    (∃ c, s.component k = none ∧ s'.component k = some c ∧ ∃ payload env,
      RunnerDaemon.build_job I payload env = .ok c.x.job ∧ c.x = Daemon.newExecution c.x.job ∧
      c.values = [c.x.job]) ∨
    ∃ c c', s.component k = some c ∧ s'.component k = some c' ∧ Move I config c c' := by
  simp only [Lts.System.step, system, next] at h
  split at h
  · cases h
  · next hinside =>
    obtain ⟨t, ht, rfl⟩ := Option.map_eq_some_iff.mp h
    cases l with
    | create_job payload env =>
      obtain rfl | ⟨job, hjob, hfresh, rfl⟩ := move_create ht
      · exact .inl rfl
      · by_cases heq : job.job_id = k
        · subst heq
          refine .inr (.inl ⟨{ x := Daemon.newExecution job, program := s.programs.get? job.job_id
                               values := [job] }, ?_, ?_, payload, env, hjob, rfl, rfl⟩)
          · simp [State.component, Daemon.State.view, hfresh]
          · simp [State.component, State.job_values, Daemon.view_start_self, begin_run]
        · refine .inl ?_
          simp [State.component, State.job_values, Daemon.view_start_ne heq, begin_run, heq]
    | job id a =>
      obtain ⟨x, x', written, hx, hadv, rfl⟩ := move_job ht
      have ha : inside_run a = false := Bool.eq_false_iff.mpr hinside
      refine (component_put hx ?_ ?_).imp_right .inr
      · intro hne
        cases a with
        | enter =>
          simp only [begin_run]
          split <;> simp [hne]
        | _ => rfl
      · cases a with
        | enter =>
          have hmove : Move I config
              { x := x, program := s.programs.get? id, values := s.job_values id } _ := .enter hadv
          simp only [begin_run, hx, Option.bind_some]
          cases hprogram : job_program x.job.task <;> simpa [hprogram, Daemon.job_writes] using hmove
        | _ => exact Move.outside hadv ha fun hne => by cases hne

theorem program_step {id k : PyStr} {answer : (q : RunnerQuery) → q.Answer}
    (h : (system I config).step s (.program id answer) s') :
    s'.component k = s.component k ∨
    ∃ c c', s.component k = some c ∧ s'.component k = some c' ∧ Move I config c c' := by
  simp only [Lts.System.step, system, next, Option.bind_eq_bind, Option.bind_eq_some_iff] at h
  obtain ⟨p, hp, h⟩ := h
  split at h
  · next p' hstep =>
    obtain rfl := Option.some.inj h
    by_cases heq : id = k
    · subst heq
      cases hx : s.daemon.view id with
      | none => simp [State.component, hx]
      | some x =>
        refine .inr ⟨{ x := x, program := s.programs.get? id, values := s.job_values id }, _, ?_, ?_,
          .answered hp hstep⟩
        · rw [State.component, hx]
          rfl
        · simp [State.component, State.job_values, hx]
    · simp [State.component, State.job_values, heq]
  · next st message p' hstep =>
    obtain ⟨t, ht, h⟩ := Option.bind_eq_some_iff.mp h
    obtain rfl := Option.some.inj h
    obtain ⟨x, x', written, hx, hadv, rfl⟩ := move_job ht
    refine component_put hx (fun hne => Dict.get?_set_ne _ _ hne) ?_
    rw [Dict.get?_set_self]
    exact .reported hp hstep hadv
  · next outcome hstep =>
    obtain ⟨x, x', written, hx, hadv, rfl⟩ := move_job h
    refine component_put hx (fun _ => rfl) ?_
    have hmove : Move I config
        { x := x, program := s.programs.get? id, values := s.job_values id } _ := .ended hadv
    simpa [Daemon.job_writes] using hmove

end steps

/-- The jobs are the components of the system. -/
def components (I : Interp) (config : RunnerDaemonConfig) :
    Lts.Components (system I config) PyStr Component where
  view := State.component
  New := fun c => ∃ payload env, RunnerDaemon.build_job I payload env = .ok c.x.job ∧
    c.x = Daemon.newExecution c.x.job ∧ c.values = [c.x.job]
  Move := Move I config
  view_init := fun id => by simp [system, Daemon.daemon, State.component, Daemon.State.view]
  view_step := by
    intro s l s' _ hstep k
    cases l with
    | daemon l => exact daemon_step hstep
    | program id answer => exact (program_step hstep).imp_right .inr

/-! ### The order -/

end BoVpnAgent.RunningDaemon

namespace BoVpnAgent.JobState

/-- The place of a state in the life of a job. -/
def rank : JobState → Nat
  | task state => state.rank
  | cancelled => 0

/-- The states that the order speaks about. -/
def Listed (s : JobState) : Prop := ∃ state, s = .task state ∧ state ≠ .queued

theorem listed_of_terminal {s : JobState} (h : s.terminal = true) : s.Listed ∧ s.rank = 7 := by
  cases s with
  | cancelled => cases h
  | task state =>
    refine ⟨⟨state, rfl, ?_⟩, TaskState.rank_of_terminal h⟩
    rintro rfl
    cases h

theorem rank_le (s : JobState) : s.rank ≤ 7 := by
  cases s with
  | task state => exact state.rank_le
  | cancelled => exact Nat.zero_le 7

end BoVpnAgent.JobState

namespace BoVpnAgent.RunningDaemon

open Daemon (Execution Action)
open ContainerNamespaceExecutor (Session SessionAction SessionStep)

/-- The latest state that a session has reported where it stands. -/
def floor : Session → Nat
  | .begun => 0
  | .preflight | .login | .writing _ _ _ | .polling | .connected => TaskState.starting_vpn.rank
  | .announced => TaskState.vpn_connected.rank
  | .checking => TaskState.checking_vehicle.rank
  | .operating | .cleanup _ => TaskState.running_operation.rank
  | .disconnecting _ => TaskState.cleanup.rank

/-- The step reports no state before the one of rank `n`, and goes on to where
    what it reports is not exceeded. -/
structure Ascends (n : Nat) (st : SessionStep) : Prop where
  reports : ∀ r ∈ st.report, r.1.phase = true ∧ n ≤ r.1.rank
  goes : ∀ next, st.next = .inl next → n ≤ floor next ∧ ∀ r ∈ st.report, r.1.rank ≤ floor next

section ascends

variable {n : Nat} {st : SessionStep}

theorem ascends_go {next : Session} (h : ContainerNamespaceExecutor.go next = some st)
    (hn : n ≤ floor next) : Ascends n st := by
  obtain rfl := Option.some.inj h
  refine ⟨nofun, fun next' hnext => ?_⟩
  obtain rfl := Sum.inl.inj hnext
  exact ⟨hn, nofun⟩

theorem ascends_raised {exc : PyExc} (h : ContainerNamespaceExecutor.raised exc = some st)
    (hn : n ≤ TaskState.running_operation.rank) : Ascends n st := ascends_go h hn

theorem ascends_report {state : TaskState} {message : String} {next : Session}
    (h : ContainerNamespaceExecutor.report state message next = some st)
    (hphase : state.phase = true) (hn : n ≤ state.rank) (hnext : state.rank ≤ floor next) :
    Ascends n st := by
  obtain rfl := Option.some.inj h
  refine ⟨fun r hr => ?_, fun next' hnext' => ?_⟩
  · obtain rfl := Option.some.inj hr
    exact ⟨hphase, hn⟩
  · obtain rfl := Sum.inl.inj hnext'
    refine ⟨Nat.le_trans hn hnext, fun r hr => ?_⟩
    obtain rfl := Option.some.inj hr
    exact hnext

/-- The last step of `run`. -/
theorem ascends_end (hreport : ∀ r ∈ st.report, r.1.phase = true ∧ n ≤ r.1.rank)
    {outcome : Outcome} (hend : st.next = .inr outcome) : Ascends n st :=
  ⟨hreport, fun _ hnext => nomatch hend.symm.trans hnext⟩

/-- A pause leads on or, when it is refused, to the `finally` clause. -/
theorem le_floor_pausedThen (pause : Except Builtin Unit) {next : Session} (hnext : n ≤ floor next)
    (hn : n ≤ TaskState.running_operation.rank) :
    n ≤ floor (ContainerNamespaceExecutor.pausedThen pause next) := by
  rcases ContainerNamespaceExecutor.pausedThen_cases pause next with
    ⟨_, hthen⟩ | ⟨kind, _, hthen⟩
  · rw [hthen]
    exact hnext
  · rw [hthen]
    exact hn

theorem ascends_login_write {config : RunnerDaemonConfig} {username password : PyStr}
    {written : Nat} {fault : Bool}
    (h : ContainerNamespaceExecutor.login_write config username password written fault = some st) :
    Ascends TaskState.starting_vpn.rank st := by
  unfold ContainerNamespaceExecutor.login_write at h
  split at h
  · cases h
  · split at h
    · obtain rfl := Option.some.inj h
      refine ⟨nofun, fun next hnext => ?_⟩
      obtain rfl := Sum.inl.inj hnext
      refine ⟨le_floor_pausedThen _ ?_ (by decide), nofun⟩
      split <;> exact Nat.le_refl _
    · exact ascends_raised h (by decide)
    · exact ascends_raised h (by decide)

theorem ascends_step {config : RunnerDaemonConfig} {task : Task} {vpn : VpnCredentials}
    {at_ : Session} {a : SessionAction}
    (h : ContainerNamespaceExecutor.step config task vpn at_ a = some st) :
    Ascends (floor at_) st := by
  have hlate : TaskState.running_operation.rank ≤ TaskState.cleanup.rank := by decide
  unfold ContainerNamespaceExecutor.step at h
  split at h
  · -- `set_state`, before the preflight
    exact ascends_report h rfl (by decide) (by decide)
  · -- the preflight
    split at h
    · exact ascends_go h (by decide)
    · split at h
      · exact ascends_go h (by decide)
      · exact ascends_raised h (by decide)
    · exact ascends_raised h (by decide)
  · -- the credentials of a login, and its control path
    split at h
    · split at h
      · exact ascends_go h (Nat.le_refl _)
      · exact ascends_raised h (by decide)
    · exact ascends_raised h (by decide)
  · -- a write of a login
    exact ascends_login_write h
  · -- a poll
    split at h
    · exact ascends_go h (by decide)
    · split at h
      · exact ascends_raised h (by decide)
      · exact ascends_go h (le_floor_pausedThen _ (Nat.le_refl _) (by decide))
    · exact ascends_raised h (by decide)
  · -- connected
    exact ascends_report h rfl (by decide) (by decide)
  · -- the branch on the operation
    split at h
    · exact ascends_report h rfl (by decide) (by decide)
    · split at h
      · exact ascends_report h rfl (by decide) (by decide)
      · exact ascends_raised h (by decide)
  · -- the check of the vehicle
    exact ascends_report h rfl (by decide) (by decide)
  · -- the operation
    exact ascends_go h (Nat.le_refl _)
  · -- the `finally` clause
    split at h
    · obtain rfl := Option.some.inj h
      exact ascends_end nofun rfl
    · split at h
      · obtain rfl := Option.some.inj h
        refine ascends_end (fun r hr => ?_) rfl
        obtain rfl := Option.some.inj hr
        exact ⟨rfl, hlate⟩
      · exact ascends_report h rfl hlate (Nat.le_refl _)
  · -- the disconnect sequence
    split at h
    · obtain rfl := Option.some.inj h
      exact ascends_end nofun rfl
    · obtain rfl := Option.some.inj h
      exact ascends_end nofun rfl
    · obtain rfl := Option.some.inj h
      exact ascends_end nofun rfl
  · cases h

end ascends

/-- What holds of a job, its program and its values. -/
structure InOrder (c : Component) : Prop where
  listed : c.x.job.state.Listed
  unselected : c.x.executor = .begun → c.x.runner = .unborn
  unentered : c.x.runner = .unborn ∨ c.x.runner = .started → c.x.job.state.terminal = false →
    c.x.job.state = .task .created
  program : c.x.runner = .in_run → ∀ st, c.x.job.state = .task st → st.terminal = false →
    ∀ p ∈ c.program, p.Continues st
  session : ∀ vpn at_, c.x.runner = .session vpn at_ → c.x.job.state.terminal = false →
    c.x.job.state.rank ≤ floor at_
  values : ∀ j ∈ c.values, j.job_id = c.x.job.job_id ∧ j.state.Listed ∧
    j.state.rank ≤ c.x.job.state.rank

/-- The state of a job rises from `s` to `s'`. -/
def Rises (s s' : JobState) : Prop := s'.Listed ∧ s.rank ≤ s'.rank

theorem rises_terminal (s : JobState) {s' : JobState} (h : s'.terminal = true) : Rises s s' := by
  obtain ⟨hlisted, hrank⟩ := JobState.listed_of_terminal h
  exact ⟨hlisted, hrank ▸ s.rank_le⟩

theorem state_report_state {j : RunnerJob} (hopen : j.state.terminal = false) (st : TaskState)
    (message : PyStr) : (Daemon.report_state j st.name.py message).state = .task st := by
  have hname : JobState.ofName? st.name.py = some (.task st) := by
    cases st <;> decide
  simp [Daemon.report_state, hopen, hname, RunnerJob.set_state]

theorem rises_report {j : RunnerJob} (hlisted : j.state.Listed) {st : TaskState}
    (hst : j.state.terminal = false → st.phase = true ∧ j.state.rank ≤ st.rank) (message : PyStr) :
    Rises j.state (Daemon.report_state j st.name.py message).state := by
  cases hopen : j.state.terminal with
  | true =>
    rw [Daemon.report_state_terminal hopen]
    exact ⟨hlisted, Nat.le_refl _⟩
  | false =>
    rw [state_report_state hopen]
    exact ⟨⟨st, rfl, TaskState.ne_queued_of_phase (hst hopen).1⟩, (hst hopen).2⟩

section order

variable {I : Interp} {config : RunnerDaemonConfig} {c c' : Component} {a : Action} {x' : Execution}
  {written : List ControlWrite}

/-- What the inside of `run` may report in the state `s`. -/
def Orderly (s : JobState) : Action → Prop
  | .report state _ => ∃ st : TaskState, state = st.name.py ∧
      (s.terminal = false → st.phase = true ∧ s.rank ≤ st.rank)
  | _ => True

theorem rises_advance (hc : InOrder c) (h : Daemon.Advance I config c.x a x' written)
    (ha : Orderly c.x.job.state a) : Rises c.x.job.state x'.job.state := by
  have hsame : Rises c.x.job.state c.x.job.state := ⟨hc.listed, Nat.le_refl _⟩
  cases h with
  | conclude hpc => exact rises_terminal _ (Daemon.conclude_is_terminal _ _)
  | cancel => exact rises_terminal _ (Daemon.cancelled_is_terminal _)
  | report state message hr =>
    obtain ⟨st, rfl, hst⟩ := ha
    exact rises_report hc.listed hst message
  | session a vpn at_ st hr hst =>
    have hascends := ascends_step hst
    unfold Daemon.take
    cases hreport : st.report with
    | none => exact hsame
    | some r =>
      obtain ⟨hphase, hle⟩ := hascends.reports r hreport
      exact rises_report hc.listed
        (fun hopen => ⟨hphase, Nat.le_trans (hc.session vpn at_ hr hopen) hle⟩) _
  | _ => exact hsame

/-- The writes of a section that leads from `j` to `j'` change the state
    once. -/
def Once (j : RunnerJob) (writes : List RunnerJob) (j' : RunnerJob) : Prop :=
  ∀ w ∈ writes, w.job_id = j.job_id ∧ (w.state = j.state ∨ w.state = j'.state)

theorem once_nil (j j' : RunnerJob) : Once j [] j' := fun _ h => nomatch h

theorem once_report (j : RunnerJob) (state message : PyStr) :
    Once j (Daemon.report_writes j state message) (Daemon.report_state j state message) := by
  unfold Daemon.report_writes Daemon.report_state
  cases j.state.terminal with
  | true => exact once_nil j j
  | false =>
    cases JobState.ofName? state with
    | none => exact once_nil j j
    | some st => simp [Once, Daemon.set_state_writes, RunnerJob.set_state]

theorem once_fail (j : RunnerJob) (error_code message : PyStr) (state : TaskState) :
    Once j (Daemon.fail_writes j error_code message state) (j.fail error_code message state) := by
  simp [Once, Daemon.fail_writes, Daemon.set_state_writes, RunnerJob.fail, RunnerJob.set_state]

theorem once_conclude (j : RunnerJob) (runner : Daemon.RunnerThread) :
    Once j (Daemon.conclude_writes j runner) (Daemon.conclude j runner) := by
  have hfail := once_fail j
  cases hopen : j.state.terminal with
  | true =>
    rw [Daemon.conclude_terminal hopen]
    simp only [Daemon.conclude_writes, hopen, if_true]
    exact once_nil j j
  | false =>
    cases runner with
    | ended outcome =>
      cases outcome with
      | returned result =>
        simp [Once, Daemon.conclude_writes, Daemon.conclude, hopen, Daemon.finish_writes,
          Daemon.set_state_writes, RunnerJob.set_state]
      | raised exc =>
        cases exc <;> simp only [Daemon.conclude_writes, Daemon.conclude, hopen] <;> exact hfail _ _ _
    | _ => simp only [Daemon.conclude_writes, Daemon.conclude, hopen]; exact hfail _ _ _

theorem once_cancel (j : RunnerJob) : Once j (Daemon.cancel_writes j) (RunnerDaemon.cancelled j) := by
  unfold Daemon.cancel_writes RunnerDaemon.cancelled
  cases j.state.terminal with
  | true => exact once_nil j j
  | false => exact once_fail j _ _ _

theorem once_advance {x : Execution} (h : Daemon.Advance I config x a x' written) :
    Once x.job (Daemon.job_writes config x a) x'.job := by
  cases h with
  | conclude => exact once_conclude x.job x.runner
  | wipe => simp [Once, Daemon.job_writes]
  | report state message => exact once_report x.job state message
  | session a vpn at_ st hr hst =>
    simp only [Daemon.job_writes, hr, hst, Option.bind_some, Daemon.take]
    cases st.report with
    | none => exact once_nil _ _
    | some r => exact once_report x.job _ _
  | cancel => exact once_cancel x.job
  | _ => exact once_nil _ _

theorem InOrder.values_step (hc : InOrder c) (h : Daemon.Advance I config c.x a x' written)
    (hrises : Rises c.x.job.state x'.job.state) :
    ∀ j ∈ c.values ++ Daemon.job_writes config c.x a, j.job_id = x'.job.job_id ∧ j.state.Listed ∧
      j.state.rank ≤ x'.job.state.rank := by
  have hid : x'.job.job_id = c.x.job.job_id := (Daemon.advance_request h).1
  intro j hj
  obtain hold | hnew := List.mem_append.mp hj
  · obtain ⟨hjob, hlisted, hle⟩ := hc.values j hold
    exact ⟨hjob.trans hid.symm, hlisted, Nat.le_trans hle hrises.2⟩
  · obtain ⟨hjob, hbefore | hafter⟩ := once_advance h j hnew
    · exact ⟨hjob.trans hid.symm, hbefore ▸ hc.listed, hbefore ▸ hrises.2⟩
    · exact ⟨hjob.trans hid.symm, hafter ▸ hrises.1, hafter ▸ Nat.le_refl _⟩

theorem InOrder.unselected_step (hc : InOrder c) (h : Daemon.Advance I config c.x a x' written) :
    x'.executor = .begun → x'.runner = .unborn := by
  have hborn : ∀ {runner}, c.x.runner = runner → runner ≠ .unborn → c.x.executor ≠ .begun :=
    fun hr hne hpc => hne (hr.symm.trans (hc.unselected hpc))
  cases h with
  | cancel => exact hc.unselected
  | enter_session hr => exact fun hpc => absurd hpc (hborn hr nofun)
  | enter_run hr => exact fun hpc => absurd hpc (hborn hr nofun)
  | report state message hr => exact fun hpc => absurd hpc (hborn hr nofun)
  | session a vpn at_ st hr hst => exact fun hpc => absurd hpc (hborn hr nofun)
  | leave outcome hr => exact fun hpc => absurd hpc (hborn hr nofun)
  | die outcome hr => exact fun hpc => absurd hpc (hborn hr nofun)
  | _ => exact nofun

theorem InOrder.unentered_step (hc : InOrder c) (h : Daemon.Advance I config c.x a x' written) :
    x'.runner = .unborn ∨ x'.runner = .started → x'.job.state.terminal = false →
      x'.job.state = .task .created := by
  intro hr' hopen
  cases h with
  | selected hpc => exact hc.unentered (.inl (hc.unselected hpc)) hopen
  | unselected | join_over | join_raise | wipe => exact hc.unentered hr' hopen
  | conclude =>
    rw [Daemon.conclude_is_terminal] at hopen
    cases hopen
  | cancel =>
    rw [Daemon.cancelled_is_terminal] at hopen
    cases hopen
  | report state message hr => rcases hr' with h | h <;> cases hr.symm.trans h
  | session a vpn at_ st =>
    simp only [Daemon.take] at hr'
    cases hnext : st.next <;> simp [hnext] at hr'
  | _ => rcases hr' with h | h <;> cases h

/-- The floor of a session follows what it reports. -/
theorem InOrder.session_step (hc : InOrder c) (h : Daemon.Advance I config c.x a x' written) :
    ∀ vpn at_, x'.runner = .session vpn at_ → x'.job.state.terminal = false →
      x'.job.state.rank ≤ floor at_ := by
  intro vpn' at' hr' hopen
  cases h with
  | unselected | join_over | join_raise | wipe => exact hc.session vpn' at' hr' hopen
  | conclude =>
    rw [Daemon.conclude_is_terminal] at hopen
    cases hopen
  | cancel =>
    rw [Daemon.cancelled_is_terminal] at hopen
    cases hopen
  | enter_session hr =>
    cases hr'
    have hcreated : c.x.job.state = .task .created := hc.unentered (.inr hr) hopen
    simp only [hcreated]
    exact Nat.le_refl _
  | report state message hr => cases hr.symm.trans hr'
  | session a vpn at_ st hr hst =>
    have hascends := ascends_step hst
    cases hnext : st.next with
    | inr outcome => simp [Daemon.take, hnext] at hr'
    | inl next =>
      obtain ⟨rfl, rfl⟩ : vpn = vpn' ∧ next = at' := by simpa [Daemon.take, hnext] using hr'
      obtain ⟨hfloor, hreports⟩ := hascends.goes next hnext
      simp only [Daemon.take] at hopen ⊢
      cases hreport : st.report with
      | none =>
        simp only [hreport] at hopen ⊢
        exact Nat.le_trans (hc.session vpn at_ hr hopen) hfloor
      | some r =>
        simp only [hreport] at hopen ⊢
        rw [state_report_state (Daemon.state_report_state hopen)]
        exact hreports r hreport
  | _ => cases hr'

/-- A step of the daemon that keeps the order keeps what does not concern the
    program. -/
theorem InOrder.advance (hc : InOrder c) (h : Daemon.Advance I config c.x a x' written)
    (ha : Orderly c.x.job.state a) (program : Option RunnerProgram)
    (hprogram : x'.runner = .in_run → ∀ st, x'.job.state = .task st → st.terminal = false →
      ∀ p ∈ program, p.Continues st) :
    InOrder { x := x', program := program
              values := c.values ++ Daemon.job_writes config c.x a } ∧
    Rises c.x.job.state x'.job.state := by
  have hrises := rises_advance hc h ha
  exact ⟨⟨hrises.1, hc.unselected_step h, hc.unentered_step h, hprogram, hc.session_step h,
    hc.values_step h hrises⟩, hrises⟩

theorem continues_job_program {task : Task} {p : RunnerProgram} (h : job_program task = some p) :
    p.Continues .created := by
  unfold job_program at h
  split at h
  · obtain rfl := Option.some.inj h
    exact RunnerProgram.continues_of_triple RunnerProgram.triple_existing_container
  · obtain ⟨runner, -, hstart⟩ := Option.bind_eq_some_iff.mp h
    exact RunnerProgram.continues_start hstart

/-- Outside `run`, a step finds a program only where it leaves it. -/
theorem in_run_of_outside (h : Daemon.Advance I config c.x a x' written)
    (ha : inside_run a = false) (hne : a ≠ .enter) (hr' : x'.runner = .in_run) :
    c.x.runner = .in_run ∧ (x'.job.state = c.x.job.state ∨ x'.job.state.terminal = true) := by
  cases h with
  | unselected | join_over | join_raise | wipe => exact ⟨hr', .inl rfl⟩
  | conclude => exact ⟨hr', .inr (Daemon.conclude_is_terminal _ _)⟩
  | cancel => exact ⟨hr', .inr (Daemon.cancelled_is_terminal _)⟩
  | session a vpn at_ st =>
    simp only [Daemon.take] at hr'
    cases hnext : st.next <;> simp [hnext] at hr'
  | enter_session | enter_run => exact absurd rfl hne
  | report | leave => cases ha
  | selected | die => cases hr'

/-- Every step keeps the order, and the state of the job rises. -/
theorem InOrder.move (hc : InOrder c) (h : Move I config c c') :
    InOrder c' ∧ Rises c.x.job.state c'.x.job.state := by
  -- the program answers for its own reports, the phases of a session for the others
  cases h with
  | @outside a x' written h ha hne =>
    refine hc.advance h ?_ c.program ?_
    · cases a with
      | report => cases ha
      | _ => trivial
    · intro hr' st hst hopen p hp
      obtain ⟨hr, hsame | hterm⟩ := in_run_of_outside h ha hne hr'
      · exact hc.program hr st (hsame ▸ hst) hopen p hp
      · rw [hst] at hterm
        cases hopen.symm.trans hterm
  | @enter x' written h =>
    have hstep := hc.advance h trivial (job_program c.x.job.task) ?_
    · simpa [Daemon.job_writes] using hstep
    · intro hr' st hst hopen p hp
      cases h with
      | enter_session => cases hr'
      | enter_run hr =>
        have hcreated := hc.unentered (.inr hr) (by rw [show c.x.job.state = _ from hst]; exact hopen)
        obtain rfl := JobState.task.inj (hcreated.symm.trans hst)
        exact continues_job_program hp
  | @answered p p' answer hp hstep =>
    refine ⟨⟨hc.listed, hc.unselected, hc.unentered, ?_, hc.session, hc.values⟩, hc.listed,
      Nat.le_refl _⟩
    intro hr st hst hopen q hq
    obtain rfl := Option.some.inj hq
    exact (hc.program hr st hst hopen p hp).quiet hstep
  | @reported p p' answer st message x' written hp hstep h =>
    have hr : c.x.runner = .in_run := by
      cases h with
      | report _ _ hr => exact hr
    -- a job that is over ignores the report
    have hcontinues : c.x.job.state.terminal = false →
        st.phase = true ∧ c.x.job.state.rank ≤ st.rank ∧ p'.Continues st := by
      intro hopen
      obtain ⟨st₀, hst₀, -⟩ := hc.listed
      rw [hst₀] at hopen ⊢
      exact (hc.program hr st₀ hst₀ hopen p hp).report hstep
    refine hc.advance h ⟨st, rfl, fun hopen => ?_⟩ (some p') ?_
    · exact ⟨(hcontinues hopen).1, (hcontinues hopen).2.1⟩
    · intro hr' st' hst' hopen' q hq
      obtain rfl := Option.some.inj hq
      cases h with
      | report _ _ _ =>
        have hopen := Daemon.state_report_state ((congrArg JobState.terminal hst').trans hopen')
        obtain rfl := JobState.task.inj ((state_report_state hopen st message).symm.trans hst')
        exact (hcontinues hopen).2.2
  | @ended outcome x' written h =>
    have hstep := hc.advance h trivial c.program ?_
    · simpa [Daemon.job_writes] using hstep
    · intro hr'
      cases h with
      | leave => cases hr'

end order

/-! ### Runs -/

section runs

variable {I : Interp} {config : RunnerDaemonConfig} {s s' : State} {id : PyStr} {c : Component}

theorem InOrder.new {payload : Json.Fields} {env : JobEnv}
    (hjob : RunnerDaemon.build_job I payload env = .ok c.x.job)
    (hx : c.x = Daemon.newExecution c.x.job) (hvalues : c.values = [c.x.job]) : InOrder c := by
  have hcreated : c.x.job.state = .task .created := by
    obtain ⟨_, _, _, _, _, heq⟩ := RunnerDaemon.build_job_ok hjob
    rw [heq]
  have hlisted : c.x.job.state.Listed := ⟨.created, hcreated, nofun⟩
  have hunborn : c.x.runner = .unborn := congrArg Execution.runner hx
  refine ⟨hlisted, fun _ => hunborn, fun _ _ => hcreated, ?_, ?_, ?_⟩
  · exact fun hr => nomatch hunborn.symm.trans hr
  · exact fun vpn at_ hr => nomatch hunborn.symm.trans hr
  · intro j hj
    obtain rfl := List.mem_singleton.mp (hvalues ▸ hj)
    exact ⟨rfl, hlisted, Nat.le_refl _⟩

theorem in_order (h : Lts.Reachable (system I config) s) (hc : s.component id = some c) :
    InOrder c := by
  refine (components I config).invariant ?_ ?_ h hc
  · rintro c ⟨payload, env, hjob, hx, hvalues⟩
    exact .new hjob hx hvalues
  · exact fun c c' hc hmove => (hc.move hmove).1

/-- The job `id` has come as far as the states of rank `n`. -/
def AtLeast (s : State) (id : PyStr) (n : Nat) : Prop :=
  ∃ c, s.component id = some c ∧ n ≤ c.x.job.state.rank

theorem AtLeast.mono {n m : Nat} (h : AtLeast s id n) (hle : m ≤ n) : AtLeast s id m := by
  obtain ⟨c, hc, hn⟩ := h
  exact ⟨c, hc, Nat.le_trans hle hn⟩

/-- A job never goes back. -/
theorem AtLeast.star {n : Nat} (h : AtLeast s id n) (hr : Lts.Reachable (system I config) s)
    (hlater : Lts.Star (system I config) s s') : AtLeast s' id n := by
  obtain ⟨c, hc, hn⟩ := h
  obtain ⟨c', hc', -, hn'⟩ := (components I config).stable
    (Q := fun c => InOrder c ∧ n ≤ c.x.job.state.rank)
    (fun c c' hQ hmove =>
      ⟨(hQ.1.move hmove).1, Nat.le_trans hQ.2 (hQ.1.move hmove).2.2⟩) hr hlater hc
    ⟨in_order hr hc, hn⟩
  exact ⟨c', hc', hn'⟩

theorem move_step {l : Daemon.Label} (h : move I config s l = some s') :
    (Daemon.daemon I config).step s.daemon l s'.daemon := by
  simp only [move, Option.bind_eq_bind, Option.bind_eq_some_iff] at h
  obtain ⟨daemon, hdaemon, h⟩ := h
  obtain rfl := Option.some.inj h
  exact hdaemon

/-- The daemon with its programs is the daemon. -/
theorem reachable_daemon (h : Lts.Reachable (system I config) s) :
    Lts.Reachable (Daemon.daemon I config) s.daemon := by
  refine h.invariant (P := fun s => Lts.Reachable (Daemon.daemon I config) s.daemon) .init ?_
  intro s l s' _ ih hstep
  cases l with
  | daemon l =>
    simp only [Lts.System.step, system, next] at hstep
    split at hstep
    · cases hstep
    · obtain ⟨t, ht, rfl⟩ := Option.map_eq_some_iff.mp hstep
      have hdaemon := move_step ht
      exact ih.step hdaemon
  | program id answer =>
    simp only [Lts.System.step, system, next, Option.bind_eq_bind, Option.bind_eq_some_iff] at hstep
    obtain ⟨p, -, hstep⟩ := hstep
    split at hstep
    · obtain rfl := Option.some.inj hstep
      exact ih
    · obtain ⟨t, ht, hstep⟩ := Option.bind_eq_some_iff.mp hstep
      obtain rfl := Option.some.inj hstep
      have hdaemon := move_step ht
      exact ih.step hdaemon
    · exact ih.step (move_step hstep)

/-- The values of a job are filed under its id. -/
theorem job_id_of_component (h : Lts.Reachable (system I config) s) (hc : s.component id = some c) :
    c.x.job.job_id = id :=
  (Daemon.well_formed (reachable_daemon h)).ids id _
    (Daemon.view_eq_some.mp (component_eq_some hc).1).2

end runs

end BoVpnAgent.RunningDaemon

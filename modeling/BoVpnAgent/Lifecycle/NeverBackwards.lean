import BoVpnAgent.Lifecycle.Deployment

/-! # The lifecycle never runs backwards

    Three sources give states to a task: the callback of its runner, the
    worker's own sections, and, through the callback of the client, the state
    machine of a job in another process.  A program reports in order by
    itself.  For the client, the job it polls is never behind what it has
    passed on, and a job only rises; so every answer, however late it was
    read, shows a state that is not before the last one.
-/

namespace BoVpnAgent.Deployment

variable {I : Interp} {config : WorkerConfig} {daemon_config : RunnerDaemonConfig}

/-! ### Positions and the daemon -/

/-- What the position of a runner has to do with the state of its task. -/
def Position.Continues (d : RunningDaemon.State) (st : TaskState) : Position → Prop
  | .program p => p.Continues st
  | .posting | .posted _ => st = .created
  | .reading id job => ∃ r : JobResponse, job = r.received ∧ r.state.Listed ∧
      st.rank ≤ r.state.rank ∧ RunningDaemon.AtLeast d id r.state.rank
  | .reported id _ | .polling id => RunningDaemon.AtLeast d id st.rank

/-- Whatever the daemon does, the client may go on. -/
theorem Position.Continues.later {d d' : RunningDaemon.State} {st : TaskState} {p : Position}
    (h : p.Continues d st) (hr : Lts.Reachable (RunningDaemon.system I daemon_config) d)
    (hlater : Lts.Star (RunningDaemon.system I daemon_config) d d') : p.Continues d' st := by
  cases p with
  | program | posting | posted => exact h
  | reading id job =>
    obtain ⟨r, hjob, hlisted, hle, hleast⟩ := h
    exact ⟨r, hjob, hlisted, hle, hleast.star hr hlater⟩
  | reported | polling => exact RunningDaemon.AtLeast.star h hr hlater

theorem continues_start (d : RunningDaemon.State) (task : Task) (runner : VpnRunner) :
    (start task runner).Continues d .created := by
  unfold start
  cases hp : RunnerProgram.start task runner with
  | none => rfl
  | some p => exact RunnerProgram.continues_start hp

/-! ### Answers of the daemon -/

theorem ok_of_toOption {ε α : Type} {x : Except ε α} {a : α} (h : x.toOption = some a) :
    x = .ok a := by
  cases x with
  | ok b => exact congrArg Except.ok (Option.some.inj h)
  | error e => cases h

theorem read_response_state {v : Nat → RunnerJob} {r : JobResponse}
    (h : RunnerJob.read_response v = .ok r) : r.state = (v 1).state := by
  unfold RunnerJob.read_response at h
  split at h
  · cases h
  · rw [← Except.ok.inj h]

/-- An answer made of values of the job, each of them read at any time since
    the job was created. -/
theorem continues_reading {d : RunningDaemon.State} {id : PyStr} {x : Daemon.Execution}
    {v : Nat → RunnerJob} {r : JobResponse} {st : TaskState}
    (hr : Lts.Reachable (RunningDaemon.system I daemon_config) d)
    (hx : d.daemon.view id = some x) (hread : RunnerJob.read_response v = .ok r)
    (hv : ∀ i, v i ∈ d.job_values id ∨ v i = x.job) (hle : st.rank ≤ (v 1).state.rank) :
    r.job_id = id ∧ Position.Continues d st (.reading id r.received) := by
  have hc : d.component id = some
      { x := x, program := d.programs.get? id, values := d.job_values id } := by
    rw [RunningDaemon.State.component, hx]
    rfl
  have horder := RunningDaemon.in_order hr hc
  have hid := RunningDaemon.job_id_of_component hr hc
  have hvalue : ∀ i, (v i).job_id = x.job.job_id ∧ (v i).state.Listed ∧
      (v i).state.rank ≤ x.job.state.rank := by
    intro i
    rcases hv i with hmem | heq
    · exact horder.values _ hmem
    · rw [heq]
      exact ⟨rfl, horder.listed, Nat.le_refl _⟩
  have hstate := read_response_state hread
  refine ⟨?_, r, rfl, hstate ▸ (hvalue 1).2.1, hstate ▸ hle, _, hc, hstate ▸ (hvalue 1).2.2⟩
  exact (Daemon.read_response_job_id hread).trans ((hvalue 0).1.trans hid)

/-- The states that the client passes on have names of phases. -/
theorem phase_of_progress {state : PyStr} (h : state ∈ RunnerDaemonClient.progressStates) :
    ∃ st : TaskState, state = st.name.py ∧ st.phase = true := by
  simp only [RunnerDaemonClient.progressStates, List.mem_cons, List.not_mem_nil, or_false] at h
  rcases h with h | h | h | h | h | h
  · exact ⟨.starting_vpn, h, rfl⟩
  · exact ⟨.vpn_connected, h, rfl⟩
  · exact ⟨.checking_vehicle, h, rfl⟩
  · exact ⟨.running_operation, h, rfl⟩
  · exact ⟨.collecting_result, h, rfl⟩
  · exact ⟨.cleanup, h, rfl⟩

/-- A round reports the state of the answer, if it is one of the phases. -/
theorem round_report {job : Json.Fields} {state message : PyStr}
    (h : (RunnerDaemonClient.round I job).report = some (state, message)) :
    state ∈ RunnerDaemonClient.progressStates ∧
      RunnerDaemonClient.text I job "state" "created".py = .ok state := by
  unfold RunnerDaemonClient.round at h
  simp only at h
  split at h
  · cases h
  · next state' message' hheader =>
    obtain ⟨text, htext, hheader⟩ := bind_ok.mp hheader
    obtain ⟨phase_message, -, hheader⟩ := bind_ok.mp hheader
    obtain ⟨rfl, rfl⟩ := Prod.mk.inj (Except.ok.inj hheader)
    simp only at h
    split at h
    · next hmem =>
      obtain ⟨rfl, -⟩ := Prod.mk.inj (Option.some.inj h)
      exact ⟨hmem, htext⟩
    · cases h

/-! ### One turn of a runner -/

/-- The cases of `turn`, with what each one needs. -/
inductive Takes (I : Interp) (d : RunningDaemon.State) : Position → Turn → Prop where
  | asked {p q : RunnerProgram} {answer : (q : RunnerQuery) → q.Answer}
      {report : Option (TaskState × PyStr)} (hstep : RunnerProgram.step answer p = .asked report q) :
      Takes I d (.program p)
        { next := .inl (.program q), report := report.map fun r => (r.1.name.py, r.2) }
  | leaves (p : Position) (outcome : Outcome) : Takes I d p { next := .inr outcome }
  | created {id : PyStr} {x : Daemon.Execution} {looks : Nat → Nat} {response : JobResponse}
      (hx : d.daemon.view id = some x)
      (hread : RunnerJob.read_response (found d id x.job looks) = .ok response) :
      Takes I d (.posted id) (begin_loop I response.received)
  | reports (id : PyStr) (job : Json.Fields) :
      Takes I d (.reading id job)
        { next := .inl (.reported id job), report := (RunnerDaemonClient.round I job).report }
  | sleeps (id : PyStr) (job : Json.Fields) :
      Takes I d (.reported id job) { next := .inl (.polling id) }
  | polled {id : PyStr} {response : JobResponse}
      (hget : RunnerDaemon.get_job d.daemon.jobs id = .ok response) :
      Takes I d (.polling id) { next := .inl (.reading id response.received) }

section turns

variable {d : RunningDaemon.State} {st : TaskState} {p p' : Position} {e : RunnerEvent} {t : Turn}

theorem turn_cases (h : turn I d p e = some t) : Takes I d p t := by
  unfold turn at h
  split at h
  · split at h
    · next hstep =>
      obtain rfl := Option.some.inj h
      exact .asked hstep
    · obtain rfl := Option.some.inj h
      exact .leaves _ _
  · obtain ⟨x, hx, h⟩ := Option.bind_eq_some_iff.mp h
    obtain ⟨response, hresponse, h⟩ := Option.bind_eq_some_iff.mp h
    obtain rfl := Option.some.inj h
    exact .created hx (ok_of_toOption hresponse)
  · obtain rfl := Option.some.inj h
    exact .reports _ _
  · split at h
    · obtain rfl := Option.some.inj h
      exact .leaves _ _
    · obtain rfl := Option.some.inj h
      exact .sleeps _ _
  · obtain ⟨response, hresponse, h⟩ := Option.bind_eq_some_iff.mp h
    obtain rfl := Option.some.inj h
    exact .polled (ok_of_toOption hresponse)
  -- a request fails, before or after the daemon has the job
  · obtain rfl := Option.some.inj h
    exact .leaves _ _
  · obtain rfl := Option.some.inj h
    exact .leaves _ _
  · obtain rfl := Option.some.inj h
    exact .leaves _ _
  · cases h

theorem begin_loop_report (job : Json.Fields) : (begin_loop I job).report = none := by
  unfold begin_loop
  split <;> rfl

/-- A report is the name of a state, whatever has become of the task, and the
    runner goes on behind it. -/
theorem Takes.name (h : Takes I d p t) : ∀ r ∈ t.report,
    (∃ st : TaskState, r.1 = st.name.py) ∧ ∃ p', t.next = .inl p' := by
  intro r hr
  cases h with
  | asked hstep =>
    obtain ⟨q, -, rfl⟩ := Option.map_eq_some_iff.mp hr
    exact ⟨⟨q.1, rfl⟩, _, rfl⟩
  | reports id job =>
    obtain ⟨st, hname, -⟩ := phase_of_progress (round_report hr).1
    exact ⟨⟨st, hname⟩, _, rfl⟩
  | created hx hread =>
    rw [begin_loop_report] at hr
    cases hr
  | leaves | sleeps | polled => cases hr

/-- A look at the job finds a value that the job has had. -/
theorem found_mem (d : RunningDaemon.State) (id : PyStr) (job : RunnerJob) (looks : Nat → Nat)
    (i : Nat) : found d id job looks i ∈ d.job_values id ∨ found d id job looks i = job := by
  unfold found
  cases hlook : (d.job_values id)[looks i]? with
  | none => exact .inr rfl
  | some j => exact .inl (List.mem_of_getElem? hlook)

/-- After a turn without a report the runner goes on from the same state. -/
theorem Takes.quiet (h : Takes I d p t)
    (hr : Lts.Reachable (RunningDaemon.system I daemon_config) d) (hp : p.Continues d st)
    (hquiet : t.report = none) (hnext : t.next = .inl p') : p'.Continues d st := by
  cases h with
  | asked hstep =>
    obtain rfl := Sum.inl.inj hnext
    obtain rfl := Option.map_eq_none_iff.mp hquiet
    exact RunnerProgram.Continues.quiet hp hstep
  | leaves => cases hnext
  | @created id x looks response hx hread =>
    -- the job may have moved on while the answer was made, but never back before `created`
    have hcreated : st = .created := hp
    have hle : st.rank ≤ (found d id x.job looks 1).state.rank := by
      rw [hcreated]
      exact Nat.zero_le _
    obtain ⟨hid, hreading⟩ := continues_reading hr hx hread (found_mem d id x.job looks) hle
    have hjob : RunnerDaemonClient.job_id I response.received = .ok id := by
      rw [RunnerDaemonClient.job_id_received, hid]
    simp only [begin_loop, hjob] at hnext
    obtain rfl := Sum.inl.inj hnext
    exact hreading
  | reports id job =>
    obtain rfl := Sum.inl.inj hnext
    obtain ⟨r, -, -, hle, hleast⟩ := hp
    exact hleast.mono hle
  | sleeps id job =>
    obtain rfl := Sum.inl.inj hnext
    exact hp
  | polled hget =>
    obtain rfl := Sum.inl.inj hnext
    obtain ⟨c, hc, hle⟩ := hp
    have hx := (RunningDaemon.component_eq_some hc).1
    rw [RunnerDaemonClient.get_job_view hx] at hget
    exact (continues_reading hr hx hget (fun _ => .inr rfl) hle).2

/-- A turn reports a state that is not before the one of the task, and goes on
    from there. -/
theorem Takes.report {r : PyStr × PyStr} (h : Takes I d p t) (hp : p.Continues d st)
    (hreport : t.report = some r) :
    ∃ st' : TaskState, r.1 = st'.name.py ∧ st'.phase = true ∧ st.rank ≤ st'.rank ∧
      ∀ p', t.next = .inl p' → p'.Continues d st' := by
  obtain ⟨state, message⟩ := r
  cases h with
  | asked hstep =>
    obtain ⟨⟨st', text⟩, rfl, heq⟩ := Option.map_eq_some_iff.mp hreport
    obtain ⟨rfl, rfl⟩ := Prod.mk.inj heq
    obtain ⟨hphase, hle, hnext⟩ := RunnerProgram.Continues.report hp hstep
    refine ⟨st', rfl, hphase, hle, fun p' hp' => ?_⟩
    obtain rfl := Sum.inl.inj hp'
    exact hnext
  | reports id job =>
    obtain ⟨answer, rfl, ⟨st', hst', -⟩, hle, hleast⟩ := hp
    obtain ⟨hmem, htext⟩ := round_report hreport
    obtain ⟨st₁, hname, hphase⟩ := phase_of_progress hmem
    -- the name in the answer is the one of the job's state
    have hanswer : RunnerDaemonClient.text I answer.received "state" "created".py =
        .ok answer.state.name.py :=
      RunnerDaemonClient.text_str (RunnerDaemonClient.reads_received answer).state
    have hsame : st'.name.py = st₁.name.py := by
      rw [← hname, ← Except.ok.inj (hanswer.symm.trans htext), hst']
      rfl
    obtain rfl : st' = st₁ := TaskState.name_inj hsame
    rw [hst'] at hle hleast
    refine ⟨st', hname, hphase, hle, fun p' hp' => ?_⟩
    obtain rfl := Sum.inl.inj hp'
    exact hleast
  | created hx hread =>
    rw [begin_loop_report] at hreport
    cases hreport
  | leaves | sleeps | polled => cases hreport

end turns

/-! ### Moves of the worker -/

section moves

variable {s s' : State}

theorem move_thread {id : PyStr} {a : Worker.Action} (h : move I config s (.thread id a) = some s') :
    ∃ x x' written, s.worker.view id = some x ∧ Worker.Advance I config x a x' written ∧
      s' = { s with worker := s.worker.put id x' written
                    taken := s.taken.set id (s.states id ++ Worker.states_set x a) } := by
  simp only [move, Worker.next, Option.bind_eq_bind, Option.bind_eq_some_iff] at h
  obtain ⟨worker, ⟨x, hx, ⟨x', written⟩, hadv, heq⟩, h⟩ := h
  obtain rfl := Option.some.inj heq
  refine ⟨x, x', written, hx, Worker.advance_cases hadv, ?_⟩
  simp only [record, hx] at h
  exact (Option.some.inj h).symm

theorem move_step {l : Worker.Label} (h : move I config s l = some s') :
    (Worker.worker I config).step s.worker l s'.worker ∧ s'.daemon = s.daemon ∧
      s'.positions = s.positions ∧
      s'.taken = record s.taken s.worker s'.worker l := by
  simp only [move, Option.bind_eq_bind, Option.bind_eq_some_iff] at h
  obtain ⟨worker, hworker, h⟩ := h
  obtain rfl := Option.some.inj h
  exact ⟨hworker, rfl, rfl, rfl⟩

/-- A call of `create_task` starts a task or changes none. -/
theorem move_create {payload : Json.Fields} {env : CreateEnv}
    (hr : Lts.Reachable (Worker.worker I config) s.worker)
    (h : move I config s (.create_task payload env) = some s') {id : PyStr} {x : Worker.Execution}
    (hx : s'.worker.view id = some x) :
    (s.worker.view id = some x ∧ s'.states id = s.states id) ∨
    ∃ service task vpn, Service.Accepts I config service payload env task vpn ∧
      x = Worker.newExecution task vpn ∧ s'.states id = [.created] := by
  obtain ⟨hstep, -, -, htaken⟩ := move_step h
  have hwf := Worker.well_formed hr
  obtain ⟨_, _, limiter, -, hworker⟩ | ⟨_, _, limiter, task, vpn, hl, hfresh, hacc, hworker⟩ |
    ⟨_, _, _, _, _, hl, -⟩ := Worker.step_cases hstep
  -- a refused or a repeated request
  · have hview : ∀ k, s'.worker.view k = s.worker.view k := fun k => by rw [hworker]; rfl
    have hsame : s'.taken = s.taken := by
      rw [htaken, record, hview]
      cases s.worker.view env.task_id.val <;> rfl
    exact .inl ⟨(hview id) ▸ hx, by rw [State.states, hsame]; rfl⟩
  · obtain ⟨rfl, rfl⟩ := Worker.Label.create_task.inj hl
    have hid : task.task_id = env.task_id.val := by
      obtain ⟨_, _, _, _, _, _, _, _, _, _, htask⟩ := build_task_ok hacc.built
      rw [htask]
    have hnone : s.worker.view env.task_id.val = none := by
      rw [hid] at hfresh
      exact Option.not_isSome_iff_eq_none.mp (mt hwf.isSome_view.mp (by simp [hfresh]))
    have hself : s'.worker.view env.task_id.val = some (Worker.newExecution task vpn) := by
      rw [hworker, ← hid]
      exact Worker.view_start_self
    have hset : s'.taken = s.taken.set env.task_id.val [task.state] := by
      rw [htaken, record, hnone, hself]
      rfl
    -- the new task, or one that was there before
    by_cases heq : env.task_id.val = id
    · subst heq
      obtain rfl := Option.some.inj (hself.symm.trans hx)
      refine .inr ⟨_, task, vpn, hacc, rfl, ?_⟩
      have hcreated : task.state = .created := congrArg Task.state hacc.asCreated.symm
      rw [State.states, hset, Dict.get?_set_self, hcreated]
      rfl
    · refine .inl ⟨?_, ?_⟩
      · rwa [hworker, Worker.view_start_ne hwf.filed (hid ▸ heq)] at hx
      · rw [State.states, hset, Dict.get?_set_ne _ _ heq]
        rfl
  · cases hl

end moves

/-! ### Steps of the deployment -/

section steps

variable {s s' : State} {id : PyStr}

/-- A step of the worker outside `run`. -/
theorem worker_step_cases {l : Worker.Label}
    (h : (system I config daemon_config).step s (.worker l) s') :
    inside l = false ∧ ∃ t, move I config s l = some t ∧
      s' = { t with positions := begin_run config s.positions s.worker l } := by
  simp only [Lts.System.step, system, next] at h
  split at h
  · cases h
  · next hinside =>
    obtain ⟨t, ht, rfl⟩ := Option.map_eq_some_iff.mp h
    exact ⟨Bool.eq_false_iff.mpr hinside, t, ht, rfl⟩

/-- The daemon has created a job for the client of the task `id`. -/
theorem post_cases {payload : Json.Fields} {env : JobEnv}
    (h : post I daemon_config s id payload env = some s') :
    s.positions.get? id = some .posting ∧ ∃ d,
      (RunningDaemon.system I daemon_config).step s.daemon (.daemon (.create_job payload env)) d ∧
      s' = { s with daemon := d, positions := s.positions.set id (.posted env.job_id.val) } := by
  obtain ⟨position, hposition, h⟩ := Option.bind_eq_some_iff.mp h
  split at h
  · obtain ⟨d, hd, h⟩ := Option.bind_eq_some_iff.mp h
    obtain ⟨_, -, h⟩ := Option.bind_eq_some_iff.mp h
    exact ⟨hposition, d, hd, (Option.some.inj h).symm⟩
  · cases h

/-- A turn is taken in up to two moves of the worker: a report, and the end of
    `run`. -/
theorem take_turn_cases {now : Time} {e : RunnerEvent}
    (h : take_turn I config s id now e = some s') :
    ∃ p t s₁, s.positions.get? id = some p ∧ Takes I s.daemon p t ∧
      call_set_state I config s id now t.report = some s₁ ∧
      go_on I config s₁ id t.next = some s' := by
  obtain ⟨p, hp, h⟩ := Option.bind_eq_some_iff.mp h
  obtain ⟨t, ht, h⟩ := Option.bind_eq_some_iff.mp h
  obtain ⟨s₁, hreport, hgo⟩ := Option.bind_eq_some_iff.mp h
  exact ⟨p, t, s₁, hp, turn_cases ht, hreport, hgo⟩

end steps

/-! ### The invariant -/

/-- What holds of every state of a run. -/
structure Invariant (I : Interp) (config : WorkerConfig) (daemon_config : RunnerDaemonConfig)
    (s : State) : Prop where
  worker : Lts.Reachable (Worker.worker I config) s.worker
  daemon : Lts.Reachable (RunningDaemon.system I daemon_config) s.daemon
  tasks : ∀ id x, s.worker.view id = some x → Worker.InOrder x (s.states id)
  positions : ∀ id x, s.worker.view id = some x → x.runner = .in_run →
    x.task.state.terminal = false → ∀ p ∈ s.positions.get? id, p.Continues s.daemon x.task.state

section invariant

variable {s s' : State}

/-- The daemon goes on by itself. -/
theorem Invariant.daemon_step (h : Invariant I config daemon_config s) {d : RunningDaemon.State}
    {l : RunningDaemon.Label} (hstep : (RunningDaemon.system I daemon_config).step s.daemon l d) :
    Invariant I config daemon_config { s with daemon := d } where
  worker := h.worker
  daemon := h.daemon.step hstep
  tasks := h.tasks
  positions := fun id x hx hr hopen p hp =>
    (h.positions id x hx hr hopen p hp).later h.daemon (.tail (.refl _) hstep)

/-- A step of the threads of the task `id`, with the position in which it
    leaves the runner. -/
theorem Invariant.thread (h : Invariant I config daemon_config s) {id : PyStr} {a : Worker.Action}
    {x x' : Worker.Execution} {written : List AuditRecord} {positions : Dict PyStr Position}
    (hmove : move I config s (.thread id a) = some s') (hx : s.worker.view id = some x)
    (hadv : Worker.Advance I config x a x' written)
    (hs' : s' = { s with worker := s.worker.put id x' written
                         taken := s.taken.set id (s.states id ++ Worker.states_set x a) })
    (ha : Worker.Orderly x.task.state a)
    (hothers : ∀ k, id ≠ k → positions.get? k = s.positions.get? k)
    (hposition : x'.runner = .in_run → x'.task.state.terminal = false →
      ∀ p ∈ positions.get? id, p.Continues s.daemon x'.task.state) :
    Invariant I config daemon_config { s' with positions := positions } := by
  have hfiled := (Worker.well_formed h.worker).filed
  have hworker := h.worker.step (move_step hmove).1
  subst hs'
  refine ⟨hworker, h.daemon, fun k y hy => ?_, fun k y hy => ?_⟩
  -- only the task of the step changes
  · by_cases heq : id = k
    · subst heq
      obtain rfl := Option.some.inj ((Worker.view_put_self hx).symm.trans hy)
      simp only [State.states, Dict.get?_set_self, Option.getD_some]
      exact (h.tasks id x hx).step hadv ha
    · rw [Worker.view_put_ne hfiled heq] at hy
      simp only [State.states, Dict.get?_set_ne _ _ heq]
      exact h.tasks k y hy
  · by_cases heq : id = k
    · subst heq
      obtain rfl := Option.some.inj ((Worker.view_put_self hx).symm.trans hy)
      exact hposition
    · rw [Worker.view_put_ne hfiled heq] at hy
      simp only [hothers k heq]
      exact h.positions k y hy

/-- Outside `run`, a step finds a runner inside only where it leaves it. -/
theorem in_run_of_outside {x x' : Worker.Execution} {a : Worker.Action} {written : List AuditRecord}
    (h : Worker.Advance I config x a x' written) (ha : inside_run a = false) (hne : a ≠ .enter)
    (hr' : x'.runner = .in_run) (hopen : x'.task.state.terminal = false) :
    x.runner = .in_run ∧ x'.task.state = x.task.state := by
  cases h with
  | launched => cases hr'
  | lapse | failed | finished | normalize => cases hopen
  | close =>
    rw [Worker.terminal_at_close] at hopen
    cases hopen
  | enter => exact absurd rfl hne
  | report | leave => cases ha
  | die => cases hr'
  | _ => exact ⟨hr', rfl⟩

theorem begin_run_ne (config : WorkerConfig) (positions : Dict PyStr Position) (w : Worker.State)
    {id k : PyStr} (a : Worker.Action) (hne : id ≠ k) :
    (begin_run config positions w (.thread id a)).get? k = positions.get? k := by
  unfold begin_run
  split
  · next id' heq =>
    obtain ⟨rfl, -⟩ := Worker.Label.thread.inj heq
    split <;> simp [hne]
  · rfl

theorem begin_run_of_ne_enter (positions : Dict PyStr Position) (w : Worker.State) {id : PyStr}
    {a : Worker.Action} (hne : a ≠ .enter) :
    begin_run config positions w (.thread id a) = positions := by
  unfold begin_run
  split
  · next heq => exact absurd (Worker.Label.thread.inj heq).2 hne
  · rfl

theorem begin_run_enter {positions : Dict PyStr Position} {w : Worker.State} {id : PyStr}
    {p : Position} {d : RunningDaemon.State}
    (hp : p ∈ (begin_run config positions w (.thread id .enter)).get? id) :
    p.Continues d .created := by
  simp only [begin_run] at hp
  split at hp
  · next position hposition =>
    rw [Dict.get?_set_self] at hp
    obtain rfl := Option.some.inj hp
    obtain ⟨x, -, hstart⟩ := Option.bind_eq_some_iff.mp hposition
    obtain ⟨runner, -, rfl⟩ := Option.map_eq_some_iff.mp hstart
    exact continues_start d x.task runner
  · rw [Dict.get?_pop_self] at hp
    cases hp

theorem Invariant.worker_step (h : Invariant I config daemon_config s) {l : Worker.Label}
    (hinside : inside l = false) (hmove : move I config s l = some s') :
    Invariant I config daemon_config
      { s' with positions := begin_run config s.positions s.worker l } := by
  cases l with
  | create_task payload env =>
    obtain ⟨hstep, hdaemon, -, -⟩ := move_step hmove
    refine ⟨h.worker.step hstep, hdaemon ▸ h.daemon, fun id x hx => ?_, fun id x hx hr => ?_⟩
    · obtain ⟨hold, hstates⟩ | ⟨_, task, vpn, hacc, rfl, hstates⟩ := move_create h.worker hmove hx
      · exact hstates ▸ h.tasks id x hold
      · exact hstates ▸ Worker.InOrder.new hacc
    · obtain ⟨hold, -⟩ | ⟨_, task, vpn, -, rfl, -⟩ := move_create h.worker hmove hx
      · rw [hdaemon]
        exact h.positions id x hold hr
      · cases hr
  | thread id a =>
    obtain ⟨x, x', written, hx, hadv, hs'⟩ := move_thread hmove
    refine h.thread hmove hx hadv hs' ?_
      (fun k hne => begin_run_ne config s.positions s.worker a hne) fun hr' hopen p hp => ?_
    · cases a with
      | report => cases hinside
      | _ => trivial
    · by_cases henter : a = .enter
      · subst henter
        cases hadv with
        | enter hr =>
          have hcreated : x.task.state = .created := (h.tasks id x hx).unentered (.inr hr) hopen
          simp only [hcreated]
          exact begin_run_enter hp
      · obtain ⟨hr, hsame⟩ := in_run_of_outside hadv hinside henter hr' hopen
        rw [begin_run_of_ne_enter _ _ henter] at hp
        rw [hsame] at hopen ⊢
        exact h.positions id x hx hr hopen p hp

theorem Invariant.post_step (h : Invariant I config daemon_config s) {id : PyStr}
    {payload : Json.Fields} {env : JobEnv}
    (hpost : post I daemon_config s id payload env = some s') :
    Invariant I config daemon_config s' := by
  obtain ⟨hposition, d, hstep, rfl⟩ := post_cases hpost
  have hlater := h.daemon_step hstep
  refine ⟨hlater.worker, hlater.daemon, hlater.tasks, fun k x hx hr hopen p hp => ?_⟩
  by_cases heq : id = k
  · subst heq
    obtain rfl := Option.some.inj ((Dict.get?_set_self _ _ _).symm.trans hp)
    exact h.positions id x hx hr hopen .posting hposition
  · exact hlater.positions k x hx hr hopen p ((Dict.get?_set_ne _ _ heq).symm.trans hp)

/-- A turn that reports. -/
theorem Invariant.report_step (h : Invariant I config daemon_config s) {id : PyStr}
    {position p' : Position} {t : Turn} {state message : PyStr} {now : Time}
    (hposition : s.positions.get? id = some position) (ht : Takes I s.daemon position t)
    (hreport : t.report = some (state, message)) (hnext : t.next = .inl p')
    (hmove : move I config s (.thread id (.report state message now)) = some s') :
    Invariant I config daemon_config { s' with positions := s'.positions.set id p' } := by
  obtain ⟨x, x', written, hx, hadv, hs'⟩ := move_thread hmove
  have hsame : s'.positions = s.positions := (move_step hmove).2.2.1
  have hr : x.runner = .in_run := by
    cases hadv with
    | report _ _ _ hr => exact hr
  -- the order matters for an open task only: a report to a closed one is dropped
  have hopened : x.task.state.terminal = false → ∃ st : TaskState, state = st.name.py ∧
      st.phase = true ∧ x.task.state.rank ≤ st.rank ∧ p'.Continues s.daemon st := by
    intro hopen
    have hp := h.positions id x hx hr hopen position hposition
    obtain ⟨st, hname, hphase, hle, hcontinues⟩ := ht.report hp hreport
    exact ⟨st, hname, hphase, hle, hcontinues p' hnext⟩
  refine h.thread hmove hx hadv hs' ?_ ?_ ?_
  · obtain ⟨⟨st, hname⟩, -⟩ := ht.name (state, message) hreport
    refine ⟨st, hname, fun hopen => ?_⟩
    obtain ⟨st', hname', hphase, hle, -⟩ := hopened hopen
    obtain rfl : st = st' := TaskState.name_inj (hname.symm.trans hname')
    exact ⟨hphase, hle⟩
  · intro k hne
    rw [hsame, Dict.get?_set_ne _ _ hne]
  · intro _ hopen' p hp
    obtain rfl := Option.some.inj ((Dict.get?_set_self _ _ _).symm.trans hp)
    cases hadv with
    | report _ _ _ _ =>
      cases hterm : x.task.state.terminal with
      | true =>
        rw [Worker.report_state_terminal hterm, hterm] at hopen'
        cases hopen'
      | false =>
        obtain ⟨st, rfl, -, -, hcontinues⟩ := hopened hterm
        rw [Worker.report_state_of_open hterm]
        exact hcontinues

theorem Invariant.turn_step (h : Invariant I config daemon_config s) {id : PyStr} {now : Time}
    {e : RunnerEvent} (hturn : take_turn I config s id now e = some s') :
    Invariant I config daemon_config s' := by
  obtain ⟨position, t, s₁, hposition, ht, hreport, hturn⟩ := take_turn_cases hturn
  -- a turn that reports goes on behind it; without a report it may also leave `run`
  cases hr : t.report with
  | some r =>
    obtain ⟨state, message⟩ := r
    obtain ⟨-, p', hnext⟩ := ht.name _ hr
    rw [hr] at hreport
    rw [hnext] at hturn
    obtain rfl := Option.some.inj hturn
    exact h.report_step hposition ht hr hnext hreport
  | none =>
    rw [hr] at hreport
    obtain rfl := Option.some.inj hreport
    cases hnext : t.next with
    | inl p' =>
      rw [hnext] at hturn
      obtain rfl := Option.some.inj hturn
      refine ⟨h.worker, h.daemon, h.tasks, fun k x hx hrun hopen p hp => ?_⟩
      by_cases heq : id = k
      · subst heq
        obtain rfl := Option.some.inj ((Dict.get?_set_self _ _ _).symm.trans hp)
        have hcontinues := h.positions id x hx hrun hopen position hposition
        exact ht.quiet h.daemon hcontinues hr hnext
      · exact h.positions k x hx hrun hopen p ((Dict.get?_set_ne _ _ heq).symm.trans hp)
    | inr outcome =>
      rw [hnext] at hturn
      obtain ⟨x, x', written, hx, hadv, hs'⟩ := move_thread hturn
      have hsame : s'.positions = s.positions := (move_step hturn).2.2.1
      have hleft : Invariant I config daemon_config { s' with positions := s'.positions } := by
        refine h.thread hturn hx hadv hs' trivial (fun k _ => by rw [hsame]) fun hr' => ?_
        cases hadv with
        | leave => cases hr'
      exact hleft

theorem Invariant.step (h : Invariant I config daemon_config s) {l : Label}
    (hstep : (system I config daemon_config).step s l s') : Invariant I config daemon_config s' := by
  cases l with
  | worker l =>
    obtain ⟨hinside, t, ht, rfl⟩ := worker_step_cases hstep
    exact h.worker_step hinside ht
  | daemon l =>
    obtain ⟨d, hd, rfl⟩ := Option.map_eq_some_iff.mp hstep
    exact h.daemon_step hd
  | runner id now e =>
    cases e with
    | post payload env => exact h.post_step hstep
    | _ => exact h.turn_step hstep

theorem Invariant.init : Invariant I config daemon_config (system I config daemon_config).init where
  worker := .init
  daemon := .init
  tasks := fun id x hx => by cases hx
  positions := fun id x hx => by cases hx

/-- All states of all runs are in order. -/
theorem invariant (hr : Lts.Reachable (system I config daemon_config) s) :
    Invariant I config daemon_config s :=
  hr.invariant .init fun _ _ _ _ h hstep => h.step hstep

end invariant

end BoVpnAgent.Deployment

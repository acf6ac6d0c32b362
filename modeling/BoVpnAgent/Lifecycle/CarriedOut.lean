import BoVpnAgent.Client.Requests
import BoVpnAgent.Lib.Records
import BoVpnAgent.Lifecycle.OneTerminalState
import BoVpnAgent.Lifecycle.Performed

/-! # A finished task was carried out

    A worker with a daemon finishes a task only when the daemon shows it a
    finished job.  That job is the one that the task asked for, and its
    session has found the VPN connected and carried out the operation: what a
    client is told of a diagnostic has happened.

    The invariant follows the answer on its way: through the position of the
    runner thread (`Position.Linked`), the outcome in its holders, and the
    section that finishes the task.
-/

namespace BoVpnAgent

/-- The daemon's job is about the vehicle and the operation of the task. -/
structure RunnerJob.AsksFor (j : RunnerJob) (task : Task) : Prop where
  request_id : j.request_id = task.request_id
  runner_mode : j.task.runner_mode = task.runner_mode
  vehicle : j.task.vehicle = task.vehicle
  operation : j.task.operation = task.operation

/-- A job that is made from the request of the client. -/
theorem asksFor_of_build_job {I : Interp} {task : Task} {vpn : VpnCredentials} {env : JobEnv}
    {job : RunnerJob}
    (h : RunnerDaemon.build_job I (RunnerDaemonClient.job_request task vpn) env = .ok job) :
    job.job_id = env.job_id.val ∧ job.AsksFor task := by
  obtain ⟨checked, timeout_sec, params, hchecked, -, rfl⟩ := RunnerDaemon.build_job_ok h
  unfold RunnerDaemon.check_job at hchecked
  obtain ⟨request_id, hrequest, hchecked⟩ := bind_ok.mp hchecked
  obtain ⟨runner_mode, hmode, hchecked⟩ := bind_ok.mp hchecked
  obtain ⟨vehicle_raw, hvehicle, hchecked⟩ := bind_ok.mp hchecked
  obtain ⟨vpn_raw, -, hchecked⟩ := bind_ok.mp hchecked
  obtain ⟨number, hnumber, hchecked⟩ := bind_ok.mp hchecked
  obtain ⟨ip, hip, hchecked⟩ := bind_ok.mp hchecked
  obtain ⟨vpn', -, hchecked⟩ := bind_ok.mp hchecked
  obtain ⟨operation, hoperation, hchecked⟩ := bind_ok.mp hchecked
  obtain rfl := Except.ok.inj hchecked
  -- each field is read back as it was sent
  obtain rfl := Json.obj.inj (Option.some.inj (require_dict_ok hvehicle))
  obtain rfl := Json.str.inj (Option.some.inj (require_str_ok hrequest).1)
  obtain rfl := Json.str.inj (Option.some.inj (require_str_ok hmode).1)
  obtain rfl := Json.str.inj (Option.some.inj (require_str_ok hnumber).1)
  obtain rfl := Json.str.inj (Option.some.inj (require_str_ok hip).1)
  obtain rfl := Json.str.inj (Option.some.inj (require_str_ok hoperation).1)
  exact ⟨rfl, rfl, rfl, rfl, rfl⟩

namespace RunningDaemon

variable {I : Interp} {config : RunnerDaemonConfig} {d d' : State} {task : Task} {id : PyStr}

/-! ### Jobs of the daemon -/

/-- The daemon has a job for the task, under this id. -/
def HasJob (d : State) (task : Task) (id : PyStr) : Prop :=
  ∃ c, d.component id = some c ∧ c.x.job.AsksFor task

/-- And one that is finished. -/
def HasFinished (d : State) (task : Task) : Prop :=
  ∃ id c, d.component id = some c ∧ c.x.job.AsksFor task ∧ c.x.job.state = .task .finished

theorem Move.request {c c' : Component} (h : Move I config c c') :
    Daemon.SameRequest c.x.job c'.x.job := by
  cases h with
  | answered => exact ⟨rfl, rfl, rfl⟩
  | outside h | enter h | ended h => exact Daemon.advance_request h
  | reported _ _ h => exact Daemon.advance_request h

theorem Move.asksFor {c c' : Component} (h : Move I config c c') (hasks : c.x.job.AsksFor task) :
    c'.x.job.AsksFor task := by
  obtain ⟨-, hrequest, htask⟩ := h.request
  exact ⟨hrequest.trans hasks.request_id, (congrArg Task.runner_mode htask).trans hasks.runner_mode,
    (congrArg Task.vehicle htask).trans hasks.vehicle,
    (congrArg Task.operation htask).trans hasks.operation⟩

theorem finished_advance {x x' : Daemon.Execution} {a : Daemon.Action}
    {written : List ControlWrite} (h : Daemon.Advance I config x a x' written)
    (hstate : x.job.state = .task .finished) : x'.job.state = .task .finished := by
  have hshown := Daemon.advance_shown h (by rw [hstate]; rfl)
  exact (Daemon.state_of_shown hshown).trans hstate

theorem Move.finished {c c' : Component} (h : Move I config c c')
    (hstate : c.x.job.state = .task .finished) : c'.x.job.state = .task .finished := by
  cases h with
  | answered => exact hstate
  | outside h | enter h | ended h => exact finished_advance h hstate
  | reported _ _ h => exact finished_advance h hstate

theorem HasJob.star (h : HasJob d task id) (hr : Lts.Reachable (system I config) d)
    (hlater : Lts.Star (system I config) d d') : HasJob d' task id := by
  obtain ⟨c, hc, hasks⟩ := h
  exact (components I config).stable (Q := fun c => c.x.job.AsksFor task)
    (fun c c' hQ hmove => hmove.asksFor hQ) hr hlater hc hasks

theorem HasFinished.star (h : HasFinished d task) (hr : Lts.Reachable (system I config) d)
    (hlater : Lts.Star (system I config) d d') : HasFinished d' task := by
  obtain ⟨id, c, hc, hasks, hstate⟩ := h
  obtain ⟨c', hc', hasks', hstate'⟩ := (components I config).stable
    (Q := fun c => c.x.job.AsksFor task ∧ c.x.job.state = .task .finished)
    (fun c c' hQ hmove => ⟨hmove.asksFor hQ.1, hmove.finished hQ.2⟩) hr hlater hc ⟨hasks, hstate⟩
  exact ⟨id, c', hc', hasks', hstate'⟩

/-- A job that was seen finished is finished. -/
def Settles (c : Component) : Prop :=
  ∀ v ∈ c.values, v.state = .task .finished → c.x.job.state = .task .finished

theorem settles_advance {c : Component} {x' : Daemon.Execution} {a : Daemon.Action}
    {written : List ControlWrite} (h : Settles c) (hadv : Daemon.Advance I config c.x a x' written) :
    ∀ v ∈ c.values ++ Daemon.job_writes config c.x a, v.state = .task .finished →
      x'.job.state = .task .finished := by
  intro v hv hstate
  rcases List.mem_append.mp hv with hold | hnew
  · exact finished_advance hadv (h v hold hstate)
  · obtain ⟨-, hsame | hsame⟩ := once_advance hadv v hnew
    · exact finished_advance hadv (hsame.symm.trans hstate)
    · exact hsame.symm.trans hstate

theorem settles (hr : Lts.Reachable (system I config) d) {c : Component}
    (hc : d.component id = some c) : Settles c := by
  refine (components I config).invariant (P := Settles) ?_ ?_ hr hc
  · rintro c ⟨payload, env, hjob, hx, hvalues⟩ v hv hstate
    rw [hvalues, List.mem_singleton] at hv
    exact hv ▸ hstate
  · intro c c' h hmove
    cases hmove with
    | outside hadv => exact settles_advance h hadv
    | reported _ _ hadv => exact settles_advance h hadv
    | answered => exact h
    | enter hadv | ended hadv => exact fun v hv hstate => finished_advance hadv (h v hv hstate)

end RunningDaemon

namespace Deployment

open ContainerNamespaceExecutor (SessionAction)
open RunningDaemon (HasJob HasFinished)

variable {I : Interp} {config : WorkerConfig} {daemon_config : RunnerDaemonConfig}

/-! ### The runner thread of the worker -/

/-- What the position of the client of a task knows of the daemon. -/
def Position.Linked (d : RunningDaemon.State) (task : Task) : Position → Prop
  | .program _ => False
  | .posting => True
  | .posted id | .polling id => HasJob d task id
  | .reading id job | .reported id job => HasJob d task id ∧ ∃ r : JobResponse,
      job = r.received ∧ (r.state = .task .finished → HasFinished d task)

theorem Position.Linked.star {d d' : RunningDaemon.State} {task : Task} {p : Position}
    (h : p.Linked d task) (hr : Lts.Reachable (RunningDaemon.system I daemon_config) d)
    (hlater : Lts.Star (RunningDaemon.system I daemon_config) d d') : p.Linked d' task := by
  cases p with
  | program => exact h
  | posting => trivial
  | posted id | polling id => exact HasJob.star h hr hlater
  | reading id job | reported id job =>
    obtain ⟨hjob, r, heq, hfinished⟩ := h
    exact ⟨hjob.star hr hlater, r, heq, fun hstate => (hfinished hstate).star hr hlater⟩

section turns

variable {d : RunningDaemon.State} {task : Task} {p : Position} {e : RunnerEvent} {t : Turn}

/-- An answer that shows a finished job comes from one. -/
theorem linked_response {id : PyStr} {c : RunningDaemon.Component} {v : Nat → RunnerJob}
    {r : JobResponse} (hr : Lts.Reachable (RunningDaemon.system I daemon_config) d)
    (hc : d.component id = some c) (hasks : c.x.job.AsksFor task)
    (hread : RunnerJob.read_response v = .ok r) (hv : ∀ i, v i ∈ c.values ∨ v i = c.x.job) :
    Position.Linked d task (.reading id r.received) := by
  refine ⟨⟨c, hc, hasks⟩, r, rfl, fun hstate => ⟨id, c, hc, hasks, ?_⟩⟩
  rw [read_response_state hread] at hstate
  rcases hv 1 with hmem | heq
  · exact RunningDaemon.settles hr hc _ hmem hstate
  · exact heq ▸ hstate

/-- The client returns a result only in the state `finished`. -/
theorem result_returned {state : PyStr} {job : Json.Fields} {result : RunnerResult}
    (h : RunnerDaemonClient.result I state job = .ok (some result)) : state = "finished".py := by
  unfold RunnerDaemonClient.result at h
  split at h
  · assumption
  · split at h
    · obtain ⟨_, -, h⟩ := bind_ok.mp h
      obtain ⟨_, -, h⟩ := bind_ok.mp h
      cases h
    · split at h
      · obtain ⟨_, -, h⟩ := bind_ok.mp h
        obtain ⟨_, -, h⟩ := bind_ok.mp h
        cases h
      · cases h

theorem finished_of_name {st : JobState} (h : st.name.py = "finished".py) :
    st = .task .finished := by
  cases st with
  | cancelled => exact absurd h (by decide)
  | task st =>
    have hname : st.name.py = TaskState.finished.name.py := h
    rw [TaskState.name_inj hname]

theorem returned_of_round {r : JobResponse} {result : RunnerResult}
    (h : (RunnerDaemonClient.round I r.received).ended = some (.returned result)) :
    r.state = .task .finished := by
  rw [RunnerDaemonClient.round_ended (RunnerDaemonClient.reads_received r)] at h
  cases hresult : RunnerDaemonClient.result I r.state.name.py r.received with
  | error exc =>
    rw [hresult] at h
    cases Option.some.inj h
  | ok o =>
    rw [hresult] at h
    obtain ⟨result', rfl, -⟩ := Option.map_eq_some_iff.mp h
    exact finished_of_name (result_returned hresult)

/-- What a turn leaves the client with. -/
theorem linked_turn (hr : Lts.Reachable (RunningDaemon.system I daemon_config) d)
    (hp : p.Linked d task) (h : turn I d p e = some t) :
    (∀ p', t.next = .inl p' → p'.Linked d task) ∧
      ∀ result, t.next = .inr (.returned result) → HasFinished d task := by
  unfold turn at h
  split at h
  · cases hp
  · -- the answer of `create_job`
    next id looks =>
    obtain ⟨x, hx, h⟩ := Option.bind_eq_some_iff.mp h
    obtain ⟨response, hresponse, h⟩ := Option.bind_eq_some_iff.mp h
    obtain rfl := Option.some.inj h
    have hread := ok_of_toOption hresponse
    obtain ⟨c, hc, hasks⟩ := hp
    obtain rfl := Option.some.inj ((RunningDaemon.component_eq_some hc).1.symm.trans hx)
    have hvalues := (RunningDaemon.component_eq_some hc).2.2
    have hv : ∀ i, found d id c.x.job looks i ∈ c.values ∨ found d id c.x.job looks i = c.x.job :=
      fun i => hvalues ▸ found_mem d id c.x.job looks i
    have hlinked := linked_response hr hc hasks hread hv
    have hid : response.job_id = id := by
      have hcomponent := RunningDaemon.job_id_of_component hr hc
      rw [Daemon.read_response_job_id hread]
      rcases hv 0 with hmem | heq
      · exact ((RunningDaemon.in_order hr hc).values _ hmem).1.trans hcomponent
      · rw [heq, hcomponent]
    simp only [begin_loop, RunnerDaemonClient.job_id_received, hid]
    refine ⟨fun p' hnext => ?_, fun _ hnext => by cases hnext⟩
    obtain rfl := Sum.inl.inj hnext
    exact hlinked
  · -- the report of a round
    obtain rfl := Option.some.inj h
    refine ⟨fun p' hnext => ?_, fun _ hnext => by cases hnext⟩
    obtain rfl := Sum.inl.inj hnext
    exact hp
  · -- the end of a round
    next id job =>
    obtain ⟨hjob, r, rfl, hfinished⟩ := hp
    split at h
    · next outcome hended =>
      obtain rfl := Option.some.inj h
      refine ⟨(fun _ hnext => by cases hnext), fun result hnext => hfinished ?_⟩
      obtain rfl := Sum.inr.inj hnext
      exact returned_of_round hended
    · obtain rfl := Option.some.inj h
      refine ⟨fun p' hnext => ?_, fun _ hnext => by cases hnext⟩
      obtain rfl := Sum.inl.inj hnext
      exact hjob
  · -- a poll
    next id =>
    obtain ⟨response, hresponse, h⟩ := Option.bind_eq_some_iff.mp h
    obtain rfl := Option.some.inj h
    obtain ⟨c, hc, hasks⟩ := hp
    have hget := ok_of_toOption hresponse
    rw [RunnerDaemonClient.get_job_view (RunningDaemon.component_eq_some hc).1] at hget
    refine ⟨fun p' hnext => ?_, fun _ hnext => by cases hnext⟩
    obtain rfl := Sum.inl.inj hnext
    exact linked_response hr hc hasks hget fun _ => .inr rfl
  -- a request fails
  · obtain rfl := Option.some.inj h
    exact ⟨(fun _ hnext => by cases hnext), fun _ hnext => by cases hnext⟩
  · obtain rfl := Option.some.inj h
    exact ⟨(fun _ hnext => by cases hnext), fun _ hnext => by cases hnext⟩
  · obtain rfl := Option.some.inj h
    exact ⟨(fun _ hnext => by cases hnext), fun _ hnext => by cases hnext⟩
  · cases h

end turns

/-! ### The tasks of the worker -/

/-- Wherever the answer of the daemon has got to, a task that is finished, or
    is going to be, has a finished job. -/
structure Linked (s : State) : Prop where
  positions : ∀ id x, s.worker.view id = some x → x.runner = .in_run →
    ∀ p ∈ s.positions.get? id, p.Linked s.daemon x.task.asCreated
  returned : ∀ id x result, s.worker.view id = some x → x.holds (.returned result) →
    HasFinished s.daemon x.task.asCreated
  finished : ∀ id x, s.worker.view id = some x → x.task.state = .finished →
    HasFinished s.daemon x.task.asCreated

section linked

variable {s s' : State} {id : PyStr}

theorem Linked.star (h : Linked s) {d : RunningDaemon.State}
    (hr : Lts.Reachable (RunningDaemon.system I daemon_config) s.daemon)
    (hlater : Lts.Star (RunningDaemon.system I daemon_config) s.daemon d) :
    Linked { s with daemon := d } where
  positions := fun id x hx hrun p hp => (h.positions id x hx hrun p hp).star hr hlater
  returned := fun id x result hx hholds => (h.returned id x result hx hholds).star hr hlater
  finished := fun id x hx hstate => (h.finished id x hx hstate).star hr hlater

/-- A step of a task's threads finishes the task only with a result that the
    runner has returned. -/
theorem finished_step {x x' : Worker.Execution} {a : Worker.Action} {written : List AuditRecord}
    (h : Worker.Advance I config x a x' written)
    (hreport : ∀ state message now, a = .report state message now → state ≠ "finished".py)
    (hstate : x'.task.state = .finished) :
    x.task.state = .finished ∨ ∃ result, x.holds (.returned result) := by
  cases h with
  | finished result warnings now hpc hw => exact .inr ⟨result, .inr (.inr hpc)⟩
  | lapse | failed | normalize => cases hstate
  | close now fault hpc =>
    left
    have hclosed : (Worker.at_close x.task now).state = .finished := hstate
    unfold Worker.at_close at hclosed
    split at hclosed
    · exact hclosed
    · cases hclosed
  | report state message now hr =>
    left
    have hreported : (Worker.report_state x.task state message now).state = .finished := hstate
    unfold Worker.report_state at hreported
    split at hreported
    · exact hreported
    · split at hreported
      · next st hst =>
        obtain rfl : st = .finished := hreported
        have hname : TaskState.finished.name.py = state := by simpa using List.find?_some hst
        exact absurd hname.symm (hreport state message now rfl)
      · exact hreported
  | _ => exact .inl hstate

/-- A step of the threads of the task `id`. -/
theorem Linked.thread (h : Linked s) (hwf : Worker.WellFormed s.worker) {a : Worker.Action}
    {x x' : Worker.Execution} {written : List AuditRecord} {positions : Dict PyStr Position}
    {taken : Dict PyStr (List TaskState)} (hx : s.worker.view id = some x)
    (hadv : Worker.Advance I config x a x' written)
    (hreport : ∀ state message now, a = .report state message now → state ≠ "finished".py)
    (hleave : ∀ result, a = .leave (.returned result) → HasFinished s.daemon x.task.asCreated)
    (hothers : ∀ k, id ≠ k → positions.get? k = s.positions.get? k)
    (hposition : x'.runner = .in_run →
      ∀ p ∈ positions.get? id, p.Linked s.daemon x.task.asCreated) :
    Linked { s with worker := s.worker.put id x' written, positions := positions, taken := taken }
    := by
  have hcreated := Worker.advance_asCreated hadv
  have hview : ∀ k y, (s.worker.put id x' written).view k = some y →
      id = k ∧ y = x' ∨ id ≠ k ∧ s.worker.view k = some y := by
    intro k y hy
    by_cases heq : id = k
    · subst heq
      exact .inl ⟨rfl, (Option.some.inj ((Worker.view_put_self hx).symm.trans hy)).symm⟩
    · exact .inr ⟨heq, (Worker.view_put_ne hwf.filed heq).symm.trans hy⟩
  have hreturned : ∀ result, x'.holds (.returned result) →
      HasFinished s.daemon x.task.asCreated := by
    intro result hholds
    obtain hheld | ha := Worker.holds_step hadv hholds
    · exact h.returned id x result hx hheld
    · exact hleave result ha
  refine ⟨fun k y hy hrun p hp => ?_, fun k y result hy hholds => ?_, fun k y hy hstate => ?_⟩
  · obtain ⟨rfl, rfl⟩ | ⟨hne, hold⟩ := hview k y hy
    · rw [hcreated]
      exact hposition hrun p hp
    · exact h.positions k y hold hrun p ((hothers k hne).symm ▸ hp)
  · obtain ⟨rfl, rfl⟩ | ⟨hne, hold⟩ := hview k y hy
    · rw [hcreated]
      exact hreturned result hholds
    · exact h.returned k y result hold hholds
  · obtain ⟨rfl, rfl⟩ | ⟨hne, hold⟩ := hview k y hy
    · rw [hcreated]
      obtain hbefore | ⟨result, hheld⟩ := finished_step hadv hreport hstate
      · exact h.finished id x hx hbefore
      · exact h.returned id x result hx hheld
    · exact h.finished k y hold hstate

/-- With a daemon, every runner is its client. -/
theorem begin_run_daemon {url : PyStr} (hurl : config.runner_url = some url) (hne : url ≠ [])
    {positions : Dict PyStr Position} {w : Worker.State} {p : Position}
    (hp : p ∈ (begin_run config positions w (.thread id .enter)).get? id) : p = .posting := by
  have hrunner : ∀ mode, create_runner mode config.runner_url = .ok .runner_daemon := by
    intro mode
    rw [hurl]
    exact if_pos hne
  simp only [begin_run] at hp
  split at hp
  · next position hposition =>
    rw [Dict.get?_set_self] at hp
    obtain rfl := Option.some.inj hp
    obtain ⟨x, -, hstart⟩ := Option.bind_eq_some_iff.mp hposition
    rw [hrunner] at hstart
    exact (Option.some.inj hstart).symm
  · rw [Dict.get?_pop_self] at hp
    cases hp

/-- Outside `run`, a step finds a runner inside only where it was, or is its
    entry. -/
theorem in_run_before {x x' : Worker.Execution} {a : Worker.Action} {written : List AuditRecord}
    (h : Worker.Advance I config x a x' written) (ha : inside_run a = false) (hne : a ≠ .enter)
    (hr' : x'.runner = .in_run) : x.runner = .in_run := by
  cases h with
  | enter => exact absurd rfl hne
  | report | leave => cases ha
  | launched | die => cases hr'
  | _ => exact hr'

theorem Linked.worker_step {url : PyStr} (hurl : config.runner_url = some url) (hne : url ≠ [])
    (h : Linked s) (hr : Lts.Reachable (Worker.worker I config) s.worker) {l : Worker.Label}
    (hinside : inside l = false) (hmove : move I config s l = some s') :
    Linked { s' with positions := begin_run config s.positions s.worker l } := by
  cases l with
  | create_task payload env =>
    obtain ⟨-, hdaemon, -, -⟩ := move_step hmove
    have hview : ∀ k y, s'.worker.view k = some y →
        s.worker.view k = some y ∨ ∃ task vpn, task.asCreated = task ∧
          y = Worker.newExecution task vpn := by
      intro k y hy
      obtain ⟨hold, -⟩ | ⟨_, task, vpn, hacc, rfl, -⟩ := move_create hr hmove hy
      · exact .inl hold
      · exact .inr ⟨task, vpn, hacc.asCreated, rfl⟩
    refine ⟨fun k y hy hrun => ?_, fun k y result hy hholds => ?_, fun k y hy hstate => ?_⟩
    · obtain hold | ⟨task, vpn, -, rfl⟩ := hview k y hy
      · exact hdaemon ▸ h.positions k y hold hrun
      · cases hrun
    · obtain hold | ⟨task, vpn, -, rfl⟩ := hview k y hy
      · exact hdaemon ▸ h.returned k y result hold hholds
      · rcases hholds with hheld | hheld | hheld <;> cases hheld
    · obtain hold | ⟨task, vpn, hcreated, rfl⟩ := hview k y hy
      · exact hdaemon ▸ h.finished k y hold hstate
      · rw [show (Worker.newExecution task vpn).task = task from rfl, ← hcreated] at hstate
        cases hstate
  | thread id a =>
    obtain ⟨x, x', written, hx, hadv, rfl⟩ := move_thread hmove
    refine h.thread (Worker.well_formed hr) hx hadv ?_ ?_
      (fun k hk => begin_run_ne config s.positions s.worker a hk) fun hrun p hp => ?_
    · rintro state message now rfl
      cases hinside
    · rintro result rfl
      cases hinside
    · by_cases henter : a = .enter
      · subst henter
        rw [begin_run_daemon hurl hne hp]
        trivial
      · have hbefore := in_run_before hadv hinside henter hrun
        rw [begin_run_of_ne_enter _ _ henter] at hp
        exact h.positions id x hx hbefore p hp

/-- The job that the daemon has made of a request it has accepted. -/
theorem post_job {payload : Json.Fields} {env : JobEnv}
    (hpost : post I daemon_config s id payload env = some s') :
    ∃ c, s'.daemon.component env.job_id.val = some c ∧
      RunnerDaemon.build_job I payload env = .ok c.x.job := by
  obtain ⟨position, -, hpost⟩ := Option.bind_eq_some_iff.mp hpost
  split at hpost
  · obtain ⟨d, hnext, hpost⟩ := Option.bind_eq_some_iff.mp hpost
    obtain ⟨job', hget, hpost⟩ := Option.bind_eq_some_iff.mp hpost
    obtain rfl := Option.some.inj hpost
    simp only [RunningDaemon.next] at hnext
    split at hnext
    · cases hnext
    · obtain ⟨t, ht, rfl⟩ := Option.map_eq_some_iff.mp hnext
      obtain rfl | ⟨job, hjob, -, rfl⟩ := RunningDaemon.move_create ht
      · -- a refused request leaves the id free, but there is a job under it
        have hguard : (s.daemon.daemon.jobs.get? env.job_id.val).isSome = true := by
          rw [show s.daemon.daemon.jobs.get? env.job_id.val = some job' from hget]
          rfl
        simp [RunningDaemon.move, Daemon.next, hguard] at ht
      · have hid : job.job_id = env.job_id.val := by
          obtain ⟨_, _, _, _, _, rfl⟩ := RunnerDaemon.build_job_ok hjob
          rfl
        refine ⟨{ x := Daemon.newExecution job
                  program := s.daemon.programs.get? env.job_id.val
                  values := [job] }, ?_, hjob⟩
        rw [← hid]
        simp [RunningDaemon.State.component, RunningDaemon.State.job_values, Daemon.view_start_self,
          RunningDaemon.begin_run]
  · cases hpost

/-- The daemon reads what the client has sent. -/
theorem Linked.post_step (h : Linked s)
    (hr : Lts.Reachable (RunningDaemon.system I daemon_config) s.daemon) {payload : Json.Fields}
    {env : JobEnv} (hpost : post I daemon_config s id payload env = some s')
    (hsent : ∀ x, s.worker.view id = some x → ∃ vpn,
      payload = RunnerDaemonClient.job_request x.task vpn) : Linked s' := by
  obtain ⟨c, hc, hjob⟩ := post_job hpost
  obtain ⟨-, d, hstep, rfl⟩ := post_cases hpost
  have hlater := h.star hr (.tail (.refl _) hstep)
  refine ⟨fun k x hx hrun p hp => ?_, hlater.returned, hlater.finished⟩
  by_cases heq : id = k
  · subst heq
    obtain rfl := Option.some.inj ((Dict.get?_set_self _ _ _).symm.trans hp)
    obtain ⟨vpn, rfl⟩ := hsent x hx
    have hasks := (asksFor_of_build_job hjob).2
    exact ⟨c, hc, hasks.request_id, hasks.runner_mode, hasks.vehicle, hasks.operation⟩
  · exact hlater.positions k x hx hrun p ((Dict.get?_set_ne _ _ heq).symm.trans hp)

/-- The client reports phases only. -/
theorem report_ne_finished {p : Position} {t : Turn} {task : Task} (hp : p.Linked s.daemon task)
    (ht : Takes I s.daemon p t) {state message : PyStr} (hreport : t.report = some (state, message)) :
    state ≠ "finished".py := by
  cases ht with
  | asked => exact hp.elim
  | leaves | sleeps | polled => cases hreport
  | created =>
    rw [begin_loop_report] at hreport
    cases hreport
  | reports =>
    obtain ⟨hprogress, -⟩ := round_report hreport
    rintro rfl
    exact absurd hprogress (by decide)

theorem Linked.turn_step (h : Linked s) (hwf : Worker.WellFormed s.worker)
    (hr : Lts.Reachable (RunningDaemon.system I daemon_config) s.daemon) {now : Time}
    {e : RunnerEvent} (hturn : take_turn I config s id now e = some s') : Linked s' := by
  simp only [take_turn, Option.bind_eq_bind, Option.bind_eq_some_iff] at hturn
  obtain ⟨p, hp, t, ht, s₁, hreport, hgo⟩ := hturn
  have htakes := turn_cases ht
  have hnext : ∀ x, s.worker.view id = some x → x.runner = .in_run →
      (∀ p', t.next = .inl p' → p'.Linked s.daemon x.task.asCreated) ∧
        ∀ result, t.next = .inr (.returned result) → HasFinished s.daemon x.task.asCreated :=
    fun x hx hrun => linked_turn hr (h.positions id x hx hrun p hp) ht
  cases hcall : t.report with
  | some r =>
    obtain ⟨state, message⟩ := r
    -- a turn that reports goes on behind it
    obtain ⟨-, p', hgoes⟩ := htakes.name _ hcall
    rw [hcall] at hreport
    rw [hgoes] at hgo
    obtain rfl := Option.some.inj hgo
    obtain ⟨x, x', written, hx, hadv, rfl⟩ := move_thread hreport
    have hrun : x.runner = .in_run := by
      cases hadv with
      | report _ _ _ hrun => exact hrun
    refine h.thread hwf hx hadv ?_ (fun _ heq => by cases heq) (fun k hk => Dict.get?_set_ne _ _ hk) fun _ q hq => ?_
    · intro state' message' now' heq
      obtain ⟨rfl, rfl, rfl⟩ := Worker.Action.report.inj heq
      exact report_ne_finished (h.positions id x hx hrun p hp) htakes hcall
    · obtain rfl := Option.some.inj ((Dict.get?_set_self _ _ _).symm.trans hq)
      exact (hnext x hx hrun).1 _ hgoes
  | none =>
    rw [hcall] at hreport
    obtain rfl := Option.some.inj hreport
    cases hgoes : t.next with
    | inl p' =>
      rw [hgoes] at hgo
      obtain rfl := Option.some.inj hgo
      refine ⟨fun k x hx hrun q hq => ?_, h.returned, h.finished⟩
      by_cases heq : id = k
      · subst heq
        obtain rfl := Option.some.inj ((Dict.get?_set_self _ _ _).symm.trans hq)
        exact (hnext x hx hrun).1 _ hgoes
      · exact h.positions k x hx hrun q ((Dict.get?_set_ne _ _ heq).symm.trans hq)
    | inr outcome =>
      rw [hgoes] at hgo
      obtain ⟨x, x', written, hx, hadv, rfl⟩ := move_thread hgo
      have hrun : x.runner = .in_run ∧ x'.runner ≠ .in_run := by
        cases hadv with
        | leave _ hrun => exact ⟨hrun, fun h => by cases h⟩
      refine h.thread hwf hx hadv (fun _ _ _ heq => by cases heq) ?_ (fun _ _ => rfl)
        fun hrun' => absurd hrun' hrun.2
      intro result heq
      obtain rfl := Worker.Action.leave.inj heq
      exact (hnext x hx hrun.1).2 result hgoes

end linked

/-! ### Runs -/

/-- The steps of the session of the job `id` in a step of the deployment. -/
def Label.performs (id : PyStr) : Label → List SessionAction
  | .daemon l => l.performs id
  | .worker _ | .runner _ _ _ => []

/-- What the surroundings owe: the daemon reads the request that the client has
    sent, and the commands of an operation give what its outcome says. -/
def Honest (I : Interp) (daemon_config : RunnerDaemonConfig) (s : State) : Label → Prop
  | .daemon l => l.Operates I daemon_config s.daemon
  | .runner id _ (.post payload _) => ∀ x, s.worker.view id = some x → ∃ vpn,
      payload = RunnerDaemonClient.job_request x.task vpn
  | .worker _ | .runner _ _ _ => True

/-- What holds of a state in which the sessions of the daemon have taken the
    steps `acts`. -/
structure Accounted (I : Interp) (config : WorkerConfig) (daemon_config : RunnerDaemonConfig)
    (acts : PyStr → List SessionAction) (s : State) : Prop where
  invariant : Invariant I config daemon_config s
  linked : Linked s
  did : Daemon.AllDid I daemon_config s.daemon.daemon acts

section runs

variable {s s' : State} {acts : PyStr → List SessionAction}

theorem accounted_init :
    Accounted I config daemon_config (fun _ => []) (system I config daemon_config).init where
  invariant := .init
  linked :=
    { positions := fun id x hx => by cases hx
      returned := fun id x result hx => by cases hx
      finished := fun id x hx => by cases hx }
  did := Daemon.allDid_init I daemon_config

/-- Inside `run` of the worker, the sessions of the daemon stand still. -/
theorem daemon_of_take_turn {id : PyStr} {now : Time} {e : RunnerEvent}
    (h : take_turn I config s id now e = some s') : s'.daemon = s.daemon := by
  obtain ⟨p, t, s₁, -, -, hreport, hgo⟩ := take_turn_cases h
  have hreported : s₁.daemon = s.daemon := by
    cases hcall : t.report with
    | none =>
      rw [hcall] at hreport
      rw [← Option.some.inj hreport]
    | some r =>
      rw [hcall] at hreport
      exact (move_step hreport).2.1
  rw [← hreported]
  cases hnext : t.next with
  | inl p' =>
    rw [hnext] at hgo
    rw [← Option.some.inj hgo]
  | inr outcome =>
    rw [hnext] at hgo
    exact (move_step hgo).2.1

theorem Accounted.step {url : PyStr} (hurl : config.runner_url = some url) (hne : url ≠ [])
    (h : Accounted I config daemon_config acts s) {l : Label}
    (hstep : (system I config daemon_config).step s l s') (hhonest : Honest I daemon_config s l) :
    Accounted I config daemon_config (fun id => acts id ++ l.performs id) s' := by
  have hwf := Worker.well_formed h.invariant.worker
  -- a step without a session leaves the accounts as they are
  have hquiet : Daemon.AllDid I daemon_config s.daemon.daemon fun id => acts id ++ [] :=
    h.did.congr fun id => List.append_nil _
  refine ⟨h.invariant.step hstep, ?_, ?_⟩
  · cases l with
    | worker l =>
      obtain ⟨hinside, t, ht, rfl⟩ := worker_step_cases hstep
      exact h.linked.worker_step hurl hne h.invariant.worker hinside ht
    | daemon l =>
      obtain ⟨d, hd, rfl⟩ := Option.map_eq_some_iff.mp hstep
      exact h.linked.star h.invariant.daemon (.tail (.refl _) hd)
    | runner id now e =>
      cases e with
      | post payload env => exact h.linked.post_step h.invariant.daemon hstep hhonest
      | _ => exact h.linked.turn_step hwf h.invariant.daemon hstep
  · cases l with
    | worker l =>
      obtain ⟨-, t, ht, rfl⟩ := worker_step_cases hstep
      show Daemon.AllDid I daemon_config t.daemon.daemon _
      rw [(move_step ht).2.1]
      exact hquiet
    | daemon l =>
      obtain ⟨d, hd, rfl⟩ := Option.map_eq_some_iff.mp hstep
      exact RunningDaemon.allDid_step h.did hd hhonest
    | runner id now e =>
      cases e with
      | post payload env =>
        obtain ⟨-, d, hd, rfl⟩ := post_cases hstep
        exact RunningDaemon.allDid_step h.did hd trivial
      | _ =>
        rw [daemon_of_take_turn hstep]
        exact hquiet

/-- What the daemon knows of a task that is finished. -/
theorem Accounted.carried_out (h : Accounted I config daemon_config acts s) {id : PyStr}
    {x : Worker.Execution} (hx : s.worker.view id = some x) (hfinished : x.task.state = .finished) :
    ∃ job_id job, s.daemon.daemon.jobs.get? job_id = some job ∧ job.state = .task .finished ∧
      job.AsksFor x.task ∧
      (x.task.runner_mode = "container_namespace".py → ∃ result : RunnerResult,
        job.summary = result.summary ∧ job.data = result.data ∧
          ContainerNamespaceExecutor.Carried I daemon_config job.task (acts job_id) result) := by
  obtain ⟨job_id, c, hc, hasks, hstate⟩ := h.linked.finished id x hx hfinished
  have hview := (RunningDaemon.component_eq_some hc).1
  have hdid := h.did.did job_id c.x hview
  refine ⟨job_id, c.x.job, (Daemon.view_eq_some.mp hview).2, hstate,
    ⟨hasks.request_id, hasks.runner_mode, hasks.vehicle, hasks.operation⟩, fun hmode => ?_⟩
  -- the job has a session, and that has come to the result which the job shows
  have hsession : Daemon.HasSession c.x.job := hasks.runner_mode.trans hmode
  obtain ⟨result, hended, hsummary, hdata⟩ := hdid.finished hstate hsession
  have hrunner := hdid.runner
  rw [hended] at hrunner
  obtain ⟨vpn, hperforms⟩ := hrunner hsession
  exact ⟨result, hsummary, hdata, hperforms.passed⟩

/-- The steps that the session of the job `id` takes on the way through a list
    of labels. -/
def performed (I : Interp) (config : WorkerConfig) (daemon_config : RunnerDaemonConfig)
    (ls : List Label) (id : PyStr) : List SessionAction :=
  ((system I config daemon_config).record (fun _ _ l => [l])
    (system I config daemon_config).init ls).flatMap (Label.performs id)

theorem accounted_play {url : PyStr} (hurl : config.runner_url = some url) (hne : url ≠ [])
    {ls : List Label} (hhonest : (system I config daemon_config).Along (Honest I daemon_config)
      (system I config daemon_config).init ls) :
    Accounted I config daemon_config (performed I config daemon_config ls)
      ((system I config daemon_config).play ls) := by
  have hinit : Accounted I config daemon_config
      (fun id => ([] : List Label).flatMap (Label.performs id))
      (system I config daemon_config).init := accounted_init
  refine Lts.record_rule (P := fun taken s => Accounted I config daemon_config
    (fun id => taken.flatMap (Label.performs id)) s) ?_ hinit hhonest
  intro taken s l s' h hl hstep
  simp only [List.flatMap_append, List.flatMap_singleton]
  exact h.step hurl hne hstep hl

/-- A client that is told that its task is finished has been told the truth:
    the daemon has a finished job for the same request, vehicle and operation.
    In the mode `container_namespace` the session of this job has found the VPN
    connected and then carried out the operation, and a vehicle that was to be
    reached has answered on port 22 or 443. -/
theorem finished_was_carried_out {url : PyStr} (hurl : config.runner_url = some url)
    (hne : url ≠ []) {ls : List Label}
    (hhonest : (system I config daemon_config).Along (Honest I daemon_config)
      (system I config daemon_config).init ls) {id : PyStr} {now : Time} {r : TaskResponse}
    (hr : ((system I config daemon_config).play ls).worker.service.get_task id now = .ok r)
    (hfinished : r.state = .finished) :
    ∃ job_id job, ((system I config daemon_config).play ls).daemon.daemon.jobs.get? job_id =
        some job ∧ job.state = .task .finished ∧ job.request_id = r.request_id ∧
      job.task.vehicle = r.vehicle ∧ job.task.operation = r.operation ∧
      (r.runner_mode = "container_namespace".py →
        ∃ result : RunnerResult, job.summary = result.summary ∧ job.data = result.data ∧
          ContainerNamespaceExecutor.Carried I daemon_config job.task
            (performed I config daemon_config ls job_id) result ∧
          (r.operation = "vehicle_reachability".py →
            ContainerNamespaceExecutor.Answered I daemon_config job.task
              (performed I config daemon_config ls job_id))) := by
  have hend := accounted_play hurl hne hhonest
  have hwf := Worker.well_formed hend.invariant.worker
  unfold Service.get_task at hr
  cases ht : ((system I config daemon_config).play ls).worker.service.task? id with
  | none => simp [ht, raiseWorker] at hr
  | some t =>
    obtain rfl : t.to_response now = r := by simpa [ht] using hr
    obtain ⟨x, hx, rfl⟩ := hwf.view_of_task? ht
    obtain ⟨job_id, job, hjob, hstate, hasks, hcarried⟩ := hend.carried_out hx hfinished
    refine ⟨job_id, job, hjob, hstate, hasks.request_id, hasks.vehicle, hasks.operation,
      fun hmode => ?_⟩
    obtain ⟨result, hsummary, hdata, hdone⟩ := hcarried hmode
    exact ⟨result, hsummary, hdata, hdone,
      fun hoperation => hdone.answered (hasks.operation.trans hoperation)⟩

end runs

/-! ### A vehicle that answers -/

/-- A request for a check of a vehicle. -/
def reachPayload : Json.Fields :=
  [("request_id".py, .str "r1".py), ("telegram_user_id".py, .int 7),
    ("runner_mode".py, .str "container_namespace".py),
    ("vehicle".py, .obj [("number".py, .str "1".py), ("ip".py, .str "10.0.0.1".py)]),
    ("vpn".py, .obj [("mode".py, .str "inline_once".py), ("username".py, .str "u".py),
      ("password".py, .str "p".py)]),
    ("operation".py, .str "vehicle_reachability".py), ("timeout_sec".py, .int 5)]

/-- The request that the client makes of such a task. -/
def reachJob (request_id : PyStr) (vehicle : Vehicle) (vpn : VpnCredentials) (timeout_sec : Int) :
    Json.Fields :=
  [("request_id".py, .str request_id), ("runner_mode".py, .str "container_namespace".py),
    ("vehicle".py, vehicle.to_response),
    ("vpn".py, .obj [("mode".py, .str vpn.mode), ("username".py, .str vpn.username),
      ("password".py, .str vpn.password)]),
    ("operation".py, .str "vehicle_reachability".py), ("params".py, .obj []),
    ("timeout_sec".py, .int timeout_sec)]

def reachVpn : VpnCredentials :=
  { mode := "inline_once".py, username := "u".py, password := "p".py }

/-- What the probe prints. -/
def portOpen : CommandResult := { returncode := 0, stdout := "\x7b\"22\": \"open\"\x7d".py }

/-- What the operation makes of it. -/
def portRead : Except PyExc RunnerResult :=
  read_probe sampleInterp "TCP-проверка в container namespace превысила timeout"
    "TCP-проверка в container namespace завершилась ошибкой"
    "ТС доступно через UniVPN container namespace" portOpen

def reachOutcome : Outcome :=
  match portRead with
  | .ok result => .returned result
  | .error exc => .raised exc

/-- The job up to its operation. -/
def reachConnects : List Daemon.Action :=
  [.select, .enter, .session .set_state,
    .session (.probe (.ok { returncode := 0, stdout := "cnem_vnic UP".py })
      (.ok { returncode := 0, stdout := "172.26.0.0/15 dev cnem_vnic".py }) false),
    .session .set_state, .session .set_state]

def jobLabels (acts : List Daemon.Action) : List Label :=
  acts.map fun a => .daemon (.daemon (.job "j1".py a))

/-- The task up to the request of the client. -/
def reachAsks : List Label :=
  [.worker (.create_task reachPayload (sampleEnv "t1")), .worker (.thread "t1".py .fetch),
    .worker (.thread "t1".py .launch), .worker (.thread "t1".py .enter)]

def reachVehicle : Vehicle := { number := "1".py, ip := "10.0.0.1".py }

def reachPost : Label :=
  .runner "t1".py sampleNow (.post (reachJob "r1".py reachVehicle reachVpn 5) (sampleJobEnv "j1"))

def reachPosted : List Label :=
  [.runner "t1".py sampleNow (.created fun _ => 0), .runner "t1".py sampleNow .report,
    .runner "t1".py sampleNow .turn]

/-- And from the result of the operation on. -/
def reachEnds : List Label :=
  jobLabels [.session .cleanup, .die, .join_over, .conclude] ++
  [.runner "t1".py sampleNow .poll, .runner "t1".py sampleNow .report,
    .runner "t1".py sampleNow .turn, .worker (.thread "t1".py .die),
    .worker (.thread "t1".py .join_over), .worker (.thread "t1".py .check_alive),
    .worker (.thread "t1".py (.settle sampleNow)),
    .worker (.thread "t1".py (.close sampleNow false))]

def reachRun : List Label :=
  reachAsks ++ ([reachPost] ++ (reachPosted ++ jobLabels reachConnects ++
    (jobLabels [.session (.operate reachOutcome)] ++ reachEnds)))

theorem result_reachOutcome : reachOutcome.result = portRead := by
  unfold reachOutcome
  cases portRead <;> rfl

/-- The operation gives this outcome for a vehicle that the probe is written
    for. -/
theorem operates_reachOutcome {task : Task} (hoperation : task.operation = "vehicle_reachability".py)
    (hok : (tcp_probe_script sampleInterp task.vehicle.ip TCP_PORTS
      (min sampleDaemonConfig.nsenter_timeout_sec task.timeout_sec)).isOk = true) :
    ∃ calls, ContainerNamespaceExecutor.Operates sampleInterp sampleDaemonConfig task reachOutcome
      calls := by
  cases hscript : tcp_probe_script sampleInterp task.vehicle.ip TCP_PORTS
      (min sampleDaemonConfig.nsenter_timeout_sec task.timeout_sec) with
  | error exc =>
    rw [hscript] at hok
    cases hok
  | ok script =>
    refine ⟨[({ command := script, timeout_sec := task.timeout_sec }, portOpen)], .ok true,
      fun _ _ => portOpen, ?_⟩
    rw [ContainerNamespaceExecutor.operation, if_pos hoperation,
      ContainerNamespaceExecutor.vehicle_reachability, hscript, result_reachOutcome]
    rfl

/-- The surroundings have no part in the step. -/
def Label.alone : Label → Bool
  | .daemon (.daemon (.job _ (.session (.operate _)))) => false
  | .runner _ _ (.post _ _) => false
  | _ => true

theorem honest_of_alone {I : Interp} {daemon_config : RunnerDaemonConfig} {l : Label}
    (h : l.alone = true) (s : State) : Honest I daemon_config s l := by
  cases l with
  | worker => trivial
  | daemon l =>
    cases l with
    | program => trivial
    | daemon l =>
      cases l with
      | create_job => trivial
      | job id a =>
        intro x _
        cases a with
        | session a =>
          cases a with
          | operate => cases h
          | _ => trivial
        | _ => trivial
  | runner id now e =>
    cases e with
    | post => cases h
    | _ => trivial

theorem along_of_alone {I : Interp} {config : WorkerConfig} {daemon_config : RunnerDaemonConfig}
    {ls : List Label} (h : ls.all Label.alone = true) (s : State) :
    (system I config daemon_config).Along (Honest I daemon_config) s ls :=
  Lts.along_of_mem (fun l hl => honest_of_alone (List.all_eq_true.mp h l hl)) s

abbrev reachSystem : Lts.System State Label :=
  system sampleInterp sampleWorkerConfig sampleDaemonConfig

/-- The daemon reads the request of a task that was created like this. -/
theorem honest_post (I : Interp) (daemon_config : RunnerDaemonConfig) (now : Time) (env : JobEnv)
    {s : State} {id request_id : PyStr} {vehicle : Vehicle} {vpn : VpnCredentials}
    {timeout_sec : Int}
    (htask : (s.worker.view id).all (fun x => decide (x.task.request_id = request_id ∧
      x.task.runner_mode = "container_namespace".py ∧ x.task.vehicle = vehicle ∧
      x.task.operation = "vehicle_reachability".py ∧ x.task.params.isEmpty = true ∧
      x.task.timeout_sec = timeout_sec)) = true) :
    Honest I daemon_config s
      (.runner id now (.post (reachJob request_id vehicle vpn timeout_sec) env)) := by
  intro x hx
  rw [hx] at htask
  obtain ⟨hrequest, hmode, hvehicle, hoperation, hparams, htimeout⟩ := of_decide_eq_true htask
  refine ⟨vpn, ?_⟩
  rw [RunnerDaemonClient.job_request, hrequest, hmode, hvehicle, hoperation,
    List.isEmpty_iff.mp hparams, htimeout]
  rfl

/-- The operation of a job that was created like this ends so. -/
theorem honest_operate {s : State} (ip : PyStr) (timeout_sec : Int)
    (hok : (tcp_probe_script sampleInterp ip TCP_PORTS
      (min sampleDaemonConfig.nsenter_timeout_sec timeout_sec)).isOk = true)
    (hjob : (s.daemon.daemon.view "j1".py).all (fun x => decide
      (x.job.task.operation = "vehicle_reachability".py ∧ x.job.task.vehicle.ip = ip ∧
        x.job.task.timeout_sec = timeout_sec)) = true) :
    Honest sampleInterp sampleDaemonConfig s
      (.daemon (.daemon (.job "j1".py (.session (.operate reachOutcome))))) := by
  intro x hx
  rw [hx] at hjob
  obtain ⟨hoperation, rfl, rfl⟩ := of_decide_eq_true hjob
  exact operates_reachOutcome hoperation hok

set_option maxRecDepth 4000 in
theorem honest_reachRun :
    reachSystem.Along (Honest sampleInterp sampleDaemonConfig) reachSystem.init reachRun := by
  refine Lts.along_append (along_of_alone (by decide) _) ?_
  refine Lts.along_append ⟨honest_post _ _ _ _ (by decide +kernel), trivial⟩ ?_
  refine Lts.along_append (along_of_alone (by decide) _) ?_
  refine Lts.along_append ⟨honest_operate "10.0.0.1".py 5 (by decide +kernel) (by decide +kernel),
    trivial⟩ ?_
  exact along_of_alone (by decide) _

set_option maxRecDepth 4000 in
theorem finished_was_carried_out_sample :
    ∃ job_id job, ((system sampleInterp sampleWorkerConfig sampleDaemonConfig).play
        reachRun).daemon.daemon.jobs.get? job_id = some job ∧ job.state = .task .finished ∧
      ContainerNamespaceExecutor.Answered sampleInterp sampleDaemonConfig job.task
        (performed sampleInterp sampleWorkerConfig sampleDaemonConfig reachRun job_id) := by
  have hshown : (((system sampleInterp sampleWorkerConfig sampleDaemonConfig).play
      reachRun).worker.service.get_task "t1".py sampleNow).toOption.any (fun r => decide
        (r.state = .finished ∧ r.runner_mode = "container_namespace".py ∧
          r.operation = "vehicle_reachability".py)) = true := by
    decide +kernel
  obtain ⟨r, hr, hshown⟩ := (Option.any_eq_true _ _).mp hshown
  obtain ⟨hfinished, hmode, hoperation⟩ := of_decide_eq_true hshown
  have hurl : sampleWorkerConfig.runner_url = some "http://127.0.0.1:8090".py := rfl
  obtain ⟨job_id, job, hjob, hstate, -, -, -, hcarried⟩ :=
    finished_was_carried_out hurl (by decide) honest_reachRun (ok_of_toOption hr) hfinished
  obtain ⟨_, -, -, -, hanswered⟩ := hcarried hmode
  exact ⟨job_id, job, hjob, hstate, hanswered hoperation⟩

end Deployment

end BoVpnAgent

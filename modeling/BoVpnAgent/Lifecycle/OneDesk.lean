import BoVpnAgent.Lib.Desk
import BoVpnAgent.Lib.Records
import BoVpnAgent.Lifecycle.OneTerminalState
import BoVpnAgent.Worker.Refusals

/-! # The worker is a desk with one place

    For its clients the deployed worker is a desk: a task is an open request
    until it takes its terminal state, which files its report.  The keys are
    the request ids and the bodies their fingerprints.

    Every run of the deployment, with all its threads, the runners and the
    daemon, gives a legal history of that desk.
-/

namespace BoVpnAgent.Deployment

variable {I : Interp} {config : WorkerConfig} {daemon_config : RunnerDaemonConfig}

/-! ### What is on file -/

/-- The events of the desk. -/
abbrev Event : Type := Desk.Event PyStr PyStr TaskResponse

/-- The report of a finished task; it shows no reading of a clock. -/
def report (t : Task) : TaskResponse := t.to_response t.updated_at

def entry (t : Task) : Entry PyStr TaskResponse :=
  if t.state.terminal then .closed t.request_fingerprint (report t)
  else .opened t.request_fingerprint

def entries (w : Worker.State) (request_id : PyStr) : Option (Entry PyStr TaskResponse) :=
  (w.service.request? request_id).map entry

theorem entry_opened {t : Task} {fingerprint : PyStr} (h : entry t = .opened fingerprint) :
    t.state.terminal = false := by
  unfold entry at h
  split at h
  · cases h
  · next hopen => exact Bool.eq_false_iff.mpr hopen

theorem body_entry (t : Task) : (entry t).body = t.request_fingerprint := by
  unfold entry
  split <;> rfl

section filed

variable {w : Worker.State} (hwf : Worker.WellFormed w)
include hwf

/-- A task on file, as its threads see it. -/
theorem request?_eq_some {request_id : PyStr} {t : Task} :
    w.service.request? request_id = some t ↔
      t.request_id = request_id ∧ ∃ x, w.view t.task_id = some x ∧ x.task = t := by
  rw [hwf.filed.request?]
  constructor
  · rintro ⟨hreq, ht⟩
    exact ⟨hreq, hwf.view_of_task? ht⟩
  · rintro ⟨hreq, x, hx, rfl⟩
    exact ⟨hreq, (Worker.view_eq_some.mp hx).2.1⟩

theorem request?_of_view {id : PyStr} {x : Worker.Execution} (hx : w.view id = some x) :
    w.service.request? x.task.request_id = some x.task :=
  (request?_eq_some hwf).mpr ⟨rfl, x, by rw [hwf.task_id hx]; exact hx, rfl⟩

/-- The files of the worker. -/
def desk : Desk PyStr PyStr TaskResponse where
  entries := entries w
  one_open := by
    intro k k' b b' hk hk'
    obtain ⟨t, ht, hopen⟩ := Option.map_eq_some_iff.mp hk
    obtain ⟨t', ht', hopen'⟩ := Option.map_eq_some_iff.mp hk'
    obtain ⟨rfl, x, hx, rfl⟩ := (request?_eq_some hwf).mp ht
    obtain ⟨rfl, x', hx', rfl⟩ := (request?_eq_some hwf).mp ht'
    have hid := hwf.active _ _ _ _ hx hx' (entry_opened hopen) (entry_opened hopen')
    rw [hid, hx'] at hx
    rw [Option.some.inj hx]

/-- No request is open exactly when no task is active. -/
theorem free_iff : (desk hwf).Free ↔ w.service.active_task = none := by
  constructor
  · intro hfree
    by_contra hactive
    obtain ⟨t, ht⟩ := Option.ne_none_iff_exists'.mp hactive
    obtain ⟨r, hr, hread⟩ := List.mem_filterMap.mp (List.mem_of_find?_eq_some ht)
    obtain ⟨id, hid⟩ := (Dict.mem_values_iff _ _).mp hr
    have htask : w.service.task? id = some t := Option.bind_eq_some_iff.mpr ⟨r, hid, hread⟩
    obtain ⟨x, hx, rfl⟩ := hwf.view_of_task? htask
    refine hfree x.task.request_id x.task.request_fingerprint ?_
    have hopen : x.task.state.terminal = false := by simpa using List.find?_some ht
    show (w.service.request? x.task.request_id).map entry = _
    rw [request?_of_view hwf hx, Option.map_some, entry, hopen]
    rfl
  · intro hidle k b hk
    obtain ⟨t, ht, hopen⟩ := Option.map_eq_some_iff.mp hk
    have hterm := Worker.terminal_of_active_task hidle (hwf.filed.request?.mp ht).2
    rw [entry_opened hopen] at hterm
    cases hterm

end filed

/-! ### What happens in a step -/

/-- What the client of a call of `create_task` is told. -/
def answered (I : Interp) (config : WorkerConfig) (s : Service) (payload : Json.Fields)
    (env : CreateEnv) : List Event :=
  match require_str payload "request_id", Security.fingerprint_request I payload,
      (s.create_task I config payload env).2 with
  | .ok k, .ok b, .ok (status, _) => if status = 201 then [.accepted k b] else [.repeated k b]
  | .ok k, .ok b, .error (.worker e) =>
    if e.error_code = "request_id_conflict".py then [.conflict k b]
    else if e.error_code = "worker_busy".py then [.busy k b]
    else []
  | _, _, _ => []

/-- The task `id` takes its terminal state. -/
def closing (w w' : Worker.State) (id : PyStr) : List Event :=
  match w.view id, w'.view id with
  | some x, some x' =>
    if x.task.state.terminal = false ∧ x'.task.state.terminal = true then
      [.closed x'.task.request_id (report x'.task)]
    else []
  | _, _ => []

/-- What happens at the desk in a step from `s` to `s'`. -/
def events (I : Interp) (config : WorkerConfig) (s s' : State) : Label → List Event
  | .worker (.create_task payload env) => answered I config s.worker.service payload env
  | .worker (.thread id _) => closing s.worker s'.worker id
  | .daemon _ | .runner _ _ _ => []

/-! ### A call of `create_task` -/

section create

variable {w w' : Worker.State} (hwf : Worker.WellFormed w)
include hwf

/-- The files after an accepted request. -/
theorem entries_start {limiter : RateLimiter} {task : Task} {vpn : VpnCredentials}
    {payload : Json.Fields} {env : CreateEnv}
    (hfresh : w.service.tasks_by_id.get? task.task_id = none)
    (hacc : w.service.Accepts I config payload env task vpn) :
    entries (w.start limiter task vpn) = Function.update (entries w) task.request_id
      (some (.opened task.request_fingerprint)) := by
  have hwf' : Worker.WellFormed (w.start limiter task vpn) := hwf.start hfresh hacc
  funext k
  by_cases heq : k = task.request_id
  · subst heq
    have hopen : task.state.terminal = false := by
      rw [← hacc.asCreated]
      rfl
    have hself := request?_of_view hwf' Worker.view_start_self
    rw [Function.update_self, entries, hself, Option.map_some, entry, hopen]
    rfl
  · -- the other tasks are seen as before
    rw [Function.update_of_ne heq, entries, entries]
    congr 1
    apply Option.ext
    intro t
    rw [request?_eq_some hwf', request?_eq_some hwf]
    refine and_congr_right fun hreq => ?_
    by_cases hid : task.task_id = t.task_id
    · rw [← hid, Worker.view_start_self]
      have hnone : w.view task.task_id = none :=
        Option.not_isSome_iff_eq_none.mp (mt hwf.isSome_view.mp (by simp [hfresh]))
      rw [hnone]
      constructor
      · rintro ⟨x, hx, rfl⟩
        obtain rfl := Option.some.inj hx
        exact absurd hreq.symm heq
      · rintro ⟨x, hx, -⟩
        cases hx
    · rw [Worker.view_start_ne hwf.filed hid]

/-- The desk of two states with the same files. -/
theorem desk_congr (hwf' : Worker.WellFormed w') (h : entries w' = entries w) :
    desk hwf' = desk hwf := Desk.ext h

omit hwf in
/-- A call answered 200 found its request on file. -/
theorem repeated_entry {payload : Json.Fields} {env : CreateEnv} {k b : PyStr} {service : Service}
    {response : CreateResponse} (hreq : require_str payload "request_id" = .ok k)
    (hfp : Security.fingerprint_request I payload = .ok b)
    (h : w.service.create_task I config payload env = (service, .ok (200, response))) :
    ∃ t, w.service.request? k = some t ∧ t.request_fingerprint = b := by
  simp only [Service.create_task, hreq, hfp] at h
  cases hex : w.service.request? k with
  | some t =>
    simp only [hex] at h
    split at h
    · cases h
    · next hsame => exact ⟨t, rfl, not_not.mp hsame⟩
  | none =>
    -- a new request is answered 201 or refused
    simp only [hex, Service.create_new] at h
    split at h
    · cases h
    · split_ifs at h
      · cases h
      · cases h
      · split at h
        · cases h
        · cases h

/-- What the client is told is what the desk does. -/
theorem steps_create {payload : Json.Fields} {env : CreateEnv} (hwf' : Worker.WellFormed w')
    (hstep : (Worker.worker I config).step w (.create_task payload env) w') :
    Desk.Steps (desk hwf) (answered I config w.service payload env) (desk hwf') := by
  have hentry : ∀ {k t}, w.service.request? k = some t →
      (desk hwf).entries k = some (entry t) := by
    intro k t ht
    show (w.service.request? k).map entry = some (entry t)
    rw [ht, Option.map_some]
  obtain ⟨limiter, e, heq⟩ | ⟨q, t, -, heq⟩ | ⟨_, _, _, _, heq⟩ :=
    Service.create_task_cases I config w.service payload env
  -- refused
  · have hw' : entries w' = entries w := by
      simp only [Lts.System.step, Worker.worker, Worker.next, heq] at hstep
      split at hstep
      · cases hstep
      · obtain rfl := Option.some.inj hstep
        rfl
    rw [desk_congr hwf hwf' hw', answered, heq]
    cases hreq : require_str payload "request_id" with
    | error => exact .nil _
    | ok k =>
      cases hfp : Security.fingerprint_request I payload with
      | error => exact .nil _
      | ok b =>
        cases e with
        | runnerFailure | builtin | other => exact .nil _
        | worker e =>
          have hanswer : (w.service.create_task I config payload env).2 = .error (.worker e) := by
            rw [heq]
          obtain ⟨hcode, t, ht, hne⟩ | ⟨hcode, hnew, hactive⟩ | ⟨hconflict, hbusy⟩ :=
            Worker.refused_cases hreq hfp hanswer
          · simp only [hcode, if_pos]
            exact .single (.conflict (hentry ht) (by rwa [body_entry]))
          · have hother : "worker_busy".py ≠ "request_id_conflict".py := by decide
            simp only [hcode, if_neg hother, if_pos]
            refine .single (.busy ?_ (mt (free_iff hwf).mp hactive))
            show (w.service.request? k).map entry = none
            rw [hnew, Option.map_none]
          · simp only [if_neg hconflict, if_neg hbusy]
            exact .nil _
  -- repeated
  · have hw' : entries w' = entries w := by
      simp only [Lts.System.step, Worker.worker, Worker.next, heq] at hstep
      split at hstep
      · cases hstep
      · obtain rfl := Option.some.inj hstep
        rfl
    rw [desk_congr hwf hwf' hw', answered, heq]
    cases hreq : require_str payload "request_id" with
    | error => exact .nil _
    | ok k =>
      cases hfp : Security.fingerprint_request I payload with
      | error => exact .nil _
      | ok b =>
        obtain ⟨t, ht, rfl⟩ := repeated_entry hreq hfp heq
        have hstep : Desk.Step (desk hwf) (.repeated k (entry t).body) (desk hwf) :=
          .repeated (hentry ht)
        rw [body_entry] at hstep
        exact .single hstep
  -- accepted
  · obtain ⟨limiter, task, vpn, hfresh, hacc, rfl, -⟩ := Worker.step_accepted hstep heq
    rw [answered, heq, hacc.request_id, hacc.fingerprint]
    refine .single (.accepted ?_ ((free_iff hwf).mpr hacc.idle) ?_)
    · show (w.service.request? task.request_id).map entry = none
      rw [hacc.new, Option.map_none]
    · exact entries_start hwf hfresh hacc

end create

/-! ### A step of the threads of a task -/

section thread

variable {w w' : Worker.State} {id : PyStr} {x x' : Worker.Execution}

/-- The files when only the task `id` changes. -/
theorem entries_changed (hwf : Worker.WellFormed w) (hwf' : Worker.WellFormed w')
    (hothers : ∀ k, k ≠ id → w'.view k = w.view k) (hx : w.view id = some x)
    (hx' : w'.view id = some x') (hreq : x'.task.request_id = x.task.request_id) :
    entries w' = Function.update (entries w) x.task.request_id (some (entry x'.task)) := by
  funext k
  by_cases heq : k = x.task.request_id
  · subst heq
    rw [Function.update_self, entries, ← hreq, request?_of_view hwf' hx', Option.map_some]
  · rw [Function.update_of_ne heq, entries, entries]
    congr 1
    apply Option.ext
    intro t
    rw [request?_eq_some hwf', request?_eq_some hwf]
    refine and_congr_right fun hk => ?_
    -- a task filed under another request is another task
    by_cases hid : t.task_id = id
    · rw [hid, hx, hx']
      constructor
      · rintro ⟨y, hy, rfl⟩
        obtain rfl := Option.some.inj hy
        exact absurd (hk.symm.trans hreq) heq
      · rintro ⟨y, hy, rfl⟩
        obtain rfl := Option.some.inj hy
        exact absurd hk.symm heq
    · rw [hothers _ hid]

/-- What one or more steps of the threads of a task make of it. -/
structure Later (x x' : Worker.Execution) : Prop where
  request : x'.task.request_id = x.task.request_id
  fingerprint : x'.task.request_fingerprint = x.task.request_fingerprint
  frozen : x.task.state.terminal = true → x.executor.done = true →
    x'.task = x.task ∧ x'.executor.done = true

theorem Later.refl (x : Worker.Execution) : Later x x := ⟨rfl, rfl, fun _ h => ⟨rfl, h⟩⟩

theorem Later.trans {x'' : Worker.Execution} (h : Later x x') (h' : Later x' x'') : Later x x'' where
  request := h'.request.trans h.request
  fingerprint := h'.fingerprint.trans h.fingerprint
  frozen := by
    intro hterm hdone
    obtain ⟨htask, hdone'⟩ := h.frozen hterm hdone
    obtain ⟨htask', hdone''⟩ := h'.frozen (htask ▸ hterm) hdone'
    exact ⟨htask'.trans htask, hdone''⟩

theorem later_advance {a : Worker.Action} {written : List AuditRecord}
    (h : Worker.Advance I config x a x' written) : Later x x' := by
  obtain ⟨-, hreq, hfp⟩ := Worker.advance_keys h
  exact ⟨hreq, hfp, fun hterm hdone => Worker.frozen_step rfl hterm hdone h⟩

/-- A task that stays open or stays closed is on file as before. -/
theorem Later.entry_eq (h : Later x x') (hdone : x.task.state.terminal = x.executor.done)
    (hsame : x'.task.state.terminal = x.task.state.terminal) : entry x'.task = entry x.task := by
  cases hterm : x.task.state.terminal with
  | true => rw [(h.frozen hterm (hdone ▸ hterm)).1]
  | false =>
    rw [hterm] at hsame
    rw [entry, entry, hsame, hterm, h.fingerprint]
    rfl

/-- A task that takes its terminal state is closed, and nothing else is
    done. -/
theorem steps_thread (hwf : Worker.WellFormed w) (hwf' : Worker.WellFormed w')
    (hothers : ∀ k, k ≠ id → w'.view k = w.view k) (hx : w.view id = some x)
    (hx' : w'.view id = some x') (hlater : Later x x')
    (hdone : x.task.state.terminal = x.executor.done) :
    Desk.Steps (desk hwf) (closing w w' id) (desk hwf') := by
  have hentries := entries_changed hwf hwf' hothers hx hx' hlater.request
  have hold : entries w x.task.request_id = some (entry x.task) := by
    rw [entries, request?_of_view hwf hx, Option.map_some]
  simp only [closing, hx, hx']
  split
  · next hcloses =>
    obtain ⟨hopen, hterm⟩ := hcloses
    rw [hlater.request]
    refine .single (.closed (b := x.task.request_fingerprint) ?_ ?_)
    · rw [entry, hopen] at hold
      exact hold
    · rw [entry, hterm, hlater.fingerprint] at hentries
      exact hentries
  · next hstays =>
    have hsame : x'.task.state.terminal = x.task.state.terminal := by
      cases hterm : x.task.state.terminal with
      | true => rw [(hlater.frozen hterm (hdone ▸ hterm)).1, hterm]
      | false => exact Bool.eq_false_iff.mpr fun hterm' => hstays ⟨hterm, hterm'⟩
    rw [desk_congr hwf hwf' ?_]
    · exact .nil _
    · rw [hentries, hlater.entry_eq hdone hsame, ← hold, Function.update_eq_self]

end thread

/-! ### A step of the deployment -/

section steps

variable {s s' : State} {id : PyStr}

/-- The runner thread of the task `id` has moved, or nothing has. -/
def Turned (w w' : Worker.State) (id : PyStr) : Prop :=
  w' = w ∨ (∀ k, k ≠ id → w'.view k = w.view k) ∧
    ∃ x x', w.view id = some x ∧ w'.view id = some x' ∧ Later x x' ∧ x'.executor = x.executor

theorem Turned.trans {w w' w'' : Worker.State} (h : Turned w w' id) (h' : Turned w' w'' id) :
    Turned w w'' id := by
  obtain rfl | ⟨hothers, x, x', hx, hx', hlater, hpc⟩ := h
  · exact h'
  · obtain rfl | ⟨hothers', y, y', hy, hy', hlater', hpc'⟩ := h'
    · exact .inr ⟨hothers, x, x', hx, hx', hlater, hpc⟩
    · obtain rfl := Option.some.inj (hx'.symm.trans hy)
      exact .inr ⟨fun k hne => (hothers' k hne).trans (hothers k hne), x, y', hx, hy',
        hlater.trans hlater', hpc'.trans hpc⟩

theorem turned_move (hwf : Worker.WellFormed s.worker) {a : Worker.Action}
    (ha : a.byRunner = true) (h : move I config s (.thread id a) = some s') :
    Turned s.worker s'.worker id := by
  obtain ⟨x, x', written, hx, hadv, rfl⟩ := move_thread h
  exact .inr ⟨fun k hne => Worker.view_put_ne hwf.filed (Ne.symm hne), x, x', hx,
    Worker.view_put_self hx, later_advance hadv, (Worker.runner_step hadv ha).1⟩

theorem turned_turn (hr : Lts.Reachable (Worker.worker I config) s.worker) {now : Time}
    {e : RunnerEvent} (h : take_turn I config s id now e = some s') :
    Turned s.worker s'.worker id := by
  obtain ⟨position, t, s₁, -, -, hreport, hgo⟩ := take_turn_cases h
  have hwf₁ := Worker.well_formed (hr.star (star_call_set_state hreport))
  have hreported : Turned s.worker s₁.worker id := by
    cases hcall : t.report with
    | none =>
      rw [hcall] at hreport
      obtain rfl := Option.some.inj hreport
      exact .inl rfl
    | some r =>
      rw [hcall] at hreport
      exact turned_move (Worker.well_formed hr) rfl hreport
  refine hreported.trans ?_
  cases hnext : t.next with
  | inl p =>
    rw [hnext] at hgo
    obtain rfl := Option.some.inj hgo
    exact .inl rfl
  | inr outcome =>
    rw [hnext] at hgo
    exact turned_move hwf₁ rfl hgo

/-- A step of the deployment is what its events say to the desk. -/
theorem steps_events (h : Invariant I config daemon_config s)
    (h' : Invariant I config daemon_config s') {l : Label}
    (hstep : (system I config daemon_config).step s l s') :
    Desk.Steps (desk (Worker.well_formed h.worker)) (events I config s s' l)
      (desk (Worker.well_formed h'.worker)) := by
  have hwf := Worker.well_formed h.worker
  have hwf' := Worker.well_formed h'.worker
  have hquiet : entries s'.worker = entries s.worker → Desk.Steps (desk hwf) [] (desk hwf') := by
    intro hsame
    rw [desk_congr hwf hwf' hsame]
    exact .nil _
  cases l with
  | worker l =>
    obtain ⟨-, t, ht, rfl⟩ := worker_step_cases hstep
    cases l with
    | create_task payload env => exact steps_create hwf hwf' (move_step ht).1
    | thread id a =>
      obtain ⟨x, x', written, hx, hadv, rfl⟩ := move_thread ht
      exact steps_thread hwf hwf' (fun k hne => Worker.view_put_ne hwf.filed (Ne.symm hne)) hx
        (Worker.view_put_self hx) (later_advance hadv) (h.tasks id x hx).done
  | daemon l =>
    obtain ⟨d, -, rfl⟩ := Option.map_eq_some_iff.mp hstep
    exact hquiet rfl
  | runner id now e =>
    refine hquiet ?_
    cases e with
    | post payload env =>
      obtain ⟨-, d, -, rfl⟩ := post_cases hstep
      rfl
    | _ =>
      obtain hsame | ⟨hothers, x, x', hx, hx', hlater, hpc⟩ := turned_turn h.worker hstep
      · rw [hsame]
      · -- the executor decides whether the task is closed, and it has not moved
        have hdone := (h.tasks id x hx).done
        have hterm : x'.task.state.terminal = x.task.state.terminal := by
          rw [(h'.tasks id x' hx').done, hpc, hdone]
        have hold : entries s.worker x.task.request_id = some (entry x.task) := by
          rw [entries, request?_of_view hwf hx, Option.map_some]
        rw [entries_changed hwf hwf' hothers hx hx' hlater.request, hlater.entry_eq hdone hterm,
          ← hold, Function.update_eq_self]

end steps

/-! ### All runs -/

section runs

variable (I : Interp) (config : WorkerConfig) (daemon_config : RunnerDaemonConfig)

/-- What happens at the desk on the way through a list of labels. -/
def history (ls : List Label) : List Event :=
  (system I config daemon_config).record (events I config) (system I config daemon_config).init ls

/-- The history so far is a legal one of the desk that has the files of the
    worker. -/
def Kept (h : List Event) (s : State) : Prop :=
  Invariant I config daemon_config s ∧ ∃ d : Desk PyStr PyStr TaskResponse,
    d.entries = entries s.worker ∧ Desk.Legal h d

variable {I config daemon_config}

theorem Kept.step {h : List Event} {s s' : State} {l : Label} (hs : Kept I config daemon_config h s)
    (hstep : (system I config daemon_config).step s l s') :
    Kept I config daemon_config (h ++ events I config s s' l) s' := by
  obtain ⟨hinv, d, hd, hlegal⟩ := hs
  have hinv' := hinv.step hstep
  obtain rfl : d = desk (Worker.well_formed hinv.worker) := Desk.ext hd
  exact ⟨hinv', _, rfl, hlegal.append (steps_events hinv hinv' hstep)⟩

variable (I config daemon_config)

/-- The runs from the start. -/
theorem legal_play (ls : List Label) :
    ∃ d : Desk PyStr PyStr TaskResponse,
      d.entries = entries ((system I config daemon_config).play ls).worker ∧
      Desk.Legal (history I config daemon_config ls) d := by
  have hinit : Kept I config daemon_config [] (system I config daemon_config).init :=
    ⟨.init, Desk.empty, rfl, .nil⟩
  have hend := Lts.record_rule (fun _ _ _ _ h _ hstep => h.step hstep) hinit
    (Lts.along_of_forall (fun _ _ => trivial) _ ls)
  exact hend.2

end runs

/-! ### What `get_task` shows -/

section shown

variable {w : Worker.State} {id : PyStr}

/-- A finished task has the moment at which it was finished. -/
def Stamped (t : Task) : Prop := t.state.terminal = true → t.finished_at.isSome = true

theorem stamped_set_state (t : Task) (st : TaskState) (message : PyStr) (now : Time) :
    Stamped (t.set_state st message now) := Task.isSome_finished_at_set_state t message now

theorem stamped_of_reachable (h : Lts.Reachable (Worker.worker I config) w) {x : Worker.Execution}
    (hx : w.view id = some x) : Stamped x.task := by
  refine Worker.task_invariant (D := fun _ _ => true) (P := fun x _ => Stamped x.task) ?_ ?_
    (Worker.star_runs h) hx
  · intro s payload env task vpn hacc hterm
    have hopen : task.state.terminal = false := by
      rw [← hacc.asCreated]
      rfl
    rw [Worker.newExecution, hopen] at hterm
    cases hterm
  · intro x a x' written _ _ hx hadv
    -- every section ends with a `set_state` or leaves the state alone
    cases hadv with
    | lapse | failed | finished | normalize => exact stamped_set_state _ _ _ _
    | close now fault _ =>
      show Stamped (Worker.at_close x.task now)
      unfold Worker.at_close
      split
      · exact hx
      · exact stamped_set_state _ _ _ _
    | report state message now _ =>
      show Stamped (Worker.report_state x.task state message now)
      unfold Worker.report_state
      split
      · exact hx
      · split
        · exact stamped_set_state _ _ _ _
        · exact hx
    | _ => exact hx

/-- The response for a finished task is its report, whenever it is asked for. -/
theorem response_eq_report {t : Task} (h : Stamped t) (hterm : t.state.terminal = true)
    (now : Time) : t.to_response now = report t := by
  obtain ⟨at_, hat⟩ := Option.isSome_iff_exists.mp (h hterm)
  simp only [report, Task.to_response, Task.duration_sec, hat, Option.getD_some]

/-- What `get_task` shows is what is on file. -/
theorem entries_of_get_task (h : Lts.Reachable (Worker.worker I config) w) {now : Time}
    {r : TaskResponse} (hr : w.service.get_task id now = .ok r) :
    ∃ fingerprint, entries w r.request_id =
      some (if r.state.terminal then .closed fingerprint r else .opened fingerprint) := by
  have hwf := Worker.well_formed h
  unfold Service.get_task at hr
  cases ht : w.service.task? id with
  | none => simp [ht, raiseWorker] at hr
  | some t =>
    obtain rfl : t.to_response now = r := by simpa [ht] using hr
    obtain ⟨x, hx, rfl⟩ := hwf.view_of_task? ht
    refine ⟨x.task.request_fingerprint, ?_⟩
    show (w.service.request? x.task.request_id).map entry =
      some (if x.task.state.terminal then _ else _)
    rw [request?_of_view hwf hx, Option.map_some, entry]
    split
    · next hterm => rw [response_eq_report (stamped_of_reachable h hx) hterm]
    · rfl

end shown

/-! ### The worker and the desk -/

/-- Whatever the clients, the threads, the runners and the daemon do, the
    answers of `create_task` and the ends of the tasks are a legal history of
    a desk with one place, and `get_task` shows what is then on file. -/
theorem worker_is_a_desk (I : Interp) (config : WorkerConfig) (daemon_config : RunnerDaemonConfig)
    (ls : List Label) :
    let s := (system I config daemon_config).play ls
    ∃ d : Desk PyStr PyStr TaskResponse,
      Desk.Legal (history I config daemon_config ls) d ∧
      (∀ request_id, d.entries request_id = none ↔
        s.worker.service.request? request_id = none) ∧
      ∀ id now r, s.worker.service.get_task id now = .ok r → ∃ fingerprint,
        d.entries r.request_id =
          some (if r.state.terminal then .closed fingerprint r else .opened fingerprint) := by
  intro s
  obtain ⟨d, hd, hlegal⟩ := legal_play I config daemon_config ls
  have hreach : Lts.Reachable (Worker.worker I config) s.worker :=
    (@invariant I config daemon_config _ (Lts.reachable_play ls)).worker
  refine ⟨d, hlegal, fun request_id => ?_, fun id now r hr => ?_⟩
  · rw [hd]
    exact Option.map_eq_none_iff
  · rw [hd]
    exact entries_of_get_task hreach hr

/-- In every run the accepted requests are worked on one after the other: each
    is accepted once, and the next one only when it is closed.  The report that
    closes a request is what `get_task` shows for it from then on. -/
theorem tasks_one_after_the_other (I : Interp) (config : WorkerConfig)
    (daemon_config : RunnerDaemonConfig) (ls : List Label) :
    (∃ (ks : List PyStr) (last : Option PyStr), (ks ++ last.toList).Nodup ∧
      (history I config daemon_config ls).filterMap Desk.Event.work? =
        Desk.whole ks ++ last.toList.map .begins) ∧
    ∀ k r, .closed k r ∈ history I config daemon_config ls →
      ∀ ls' id now r', ((system I config daemon_config).play (ls ++ ls')).worker.service.get_task
        id now = .ok r' → r'.request_id = k → r' = r := by
  constructor
  · obtain ⟨d, -, hlegal⟩ := legal_play I config daemon_config ls
    obtain ⟨ks, last, hworked, hwork⟩ := hlegal.work
    exact ⟨ks, last, hworked.nodup, hwork⟩
  · intro k r hmem ls' id now r' hr' hk
    obtain ⟨d, hd, hlegal⟩ := legal_play I config daemon_config (ls ++ ls')
    have hlater : .closed k r ∈ history I config daemon_config (ls ++ ls') := by
      rw [history, Lts.record_append]
      exact List.mem_append_left _ hmem
    obtain ⟨b, hb⟩ := hlegal.closed_mem hlater
    have hreach : Invariant I config daemon_config
        ((system I config daemon_config).play (ls ++ ls')) := invariant (Lts.reachable_play _)
    obtain ⟨fingerprint, hshown⟩ := entries_of_get_task hreach.worker hr'
    rw [← hd, hk, hb] at hshown
    split at hshown
    · cases hshown
      rfl
    · cases hshown

end BoVpnAgent.Deployment

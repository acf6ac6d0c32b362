import BoVpnAgent.Bot.Readiness
import BoVpnAgent.Client.Results
import BoVpnAgent.Lifecycle.Programs
import BoVpnAgent.Worker.Runs

/-! # The attempts of a check

    A check starts at most three tasks, one after the other.  Each is about
    the vehicle of the check, and the next one begins only when the one before
    has ended with `vehicle_unreachable`.  A check comes out as ready only
    when its last task is finished.

    The invariant (`Check.Inv`) is about the check and the worker as it is;
    it survives whatever the worker does in between.
-/

namespace BoVpnAgent

/-- The address of a vehicle is read as it is sent. -/
theorem AudioBot.MntAddress.strip_text (a : AudioBot.MntAddress) :
    PyStr.strip a.text = a.text ∧ a.text ≠ [] := by
  have htext := IpAddress.ipv4Str_ipv4? a.parsed
  have hspace : ∀ c ∈ a.text, c.isSpace = false := by
    intro c hc
    obtain ⟨hlow, hhigh⟩ := IpAddress.val_of_mem_ipv4Str (htext ▸ hc)
    simp only [CodePoint.isSpace, List.contains_cons, List.contains_nil, Bool.or_false,
      Bool.or_eq_false_iff, Bool.and_eq_false_iff, decide_eq_false_iff_not, beq_eq_false_iff_ne]
    omega
  constructor
  · refine (Trim.trim_eq_self_iff _).mpr ⟨fun c hc => ?_, fun c hc => ?_⟩
    · exact hspace c (List.mem_of_mem_head? hc)
    · exact hspace c (List.mem_of_mem_getLast? hc)
  · intro hnil
    have hnone : IpAddress.ipv4? [] = none := by decide
    have hparsed := a.parsed
    rw [hnil, hnone] at hparsed
    cases hparsed

namespace Worker

variable {I : Interp} {config : WorkerConfig} {w w' : State} {id : PyStr} {t : Task}

/-- The task `id` has come to its end as `t`, and stays what it is. -/
def Over (w : State) (id : PyStr) (t : Task) : Prop :=
  t.state.terminal = true ∧ ∃ x, w.view id = some x ∧ x.task = t ∧ x.executor.done = true

theorem Over.star (h : Over w id t) (hr : Lts.Reachable (worker I config) w)
    (hlater : Lts.Star (worker I config) w w') : Over w' id t := by
  obtain ⟨hterm, x, hx, htask, hdone⟩ := h
  have hstep : ∀ x a x' written (records : List AuditRecord), true = true →
      (x.task = t ∧ x.executor.done = true) → Advance I config x a x' written →
      x'.task = t ∧ x'.executor.done = true :=
    fun x a x' written _ _ hx hadv => frozen_step hx.1 hterm hx.2 hadv
  obtain ⟨x', hx', hover⟩ := task_stable (D := fun _ _ => true)
    (Q := fun x _ => x.task = t ∧ x.executor.done = true) hstep (star_runs hr) (star_runs hlater) hx
    ⟨htask, hdone⟩
  exact ⟨hterm, x', hx', hover⟩

/-- The threads of a task do not touch what came with its request. -/
theorem asCreated_star (hr : Lts.Reachable (worker I config) w)
    (hlater : Lts.Star (worker I config) w w') {x : Execution} (hx : w.view id = some x) :
    ∃ x', w'.view id = some x' ∧ x'.task.asCreated = x.task.asCreated :=
  task_stable (D := fun _ _ => true) (Q := fun y _ => y.task.asCreated = x.task.asCreated)
    (fun _ _ _ _ _ _ hy hadv => (advance_asCreated hadv).trans hy) (star_runs hr)
    (star_runs hlater) hx rfl

end Worker

namespace Readiness

variable {I : Interp} {config : WorkerConfig}

/-! ### The tasks of a check -/

/-- A task that checks `v`. -/
structure IsCheck (v : Subject) (t : Task) : Prop where
  vehicle : t.vehicle = v.vehicle
  operation : t.operation = "vehicle_reachability".py
  runner_mode : t.runner_mode = "container_namespace".py

theorem IsCheck.congr {v : Subject} {t t' : Task} (h : IsCheck v t)
    (heq : t'.asCreated = t.asCreated) : IsCheck v t' where
  vehicle := (congrArg Task.vehicle heq).trans h.vehicle
  operation := (congrArg Task.operation heq).trans h.operation
  runner_mode := (congrArg Task.runner_mode heq).trans h.runner_mode

theorem vehicle_of_built {v : Subject} {inventory : InventoryFile} {vehicle : Vehicle}
    (h : build_vehicle config inventory
      [("number".py, .str v.number), ("ip".py, .str v.address.text)] = .ok vehicle) :
    vehicle = v.vehicle := by
  obtain ⟨hstrip, hne⟩ := v.address.strip_text
  have hip : VehicleInventory.text? [("number".py, .str v.number), ("ip".py, .str v.address.text)]
      "ip" = some v.address.text := by
    have hget : Json.get? [("number".py, .str v.number), ("ip".py, .str v.address.text)] "ip".py =
        some (.str v.address.text) := rfl
    rw [VehicleInventory.text?, hget]
    exact if_pos (hstrip.symm ▸ hne)
  rw [build_vehicle, hip] at h
  obtain ⟨number, hnumber, h⟩ := bind_ok.mp h
  obtain rfl := Json.str.inj (Option.some.inj (require_str_ok hnumber).1)
  rw [hstrip] at h
  exact (Except.ok.inj h).symm

theorem name_get_operation {name : PyStr} {op : OperationSpec} (h : get_operation name = .ok op) :
    op.name.py = name := by
  unfold get_operation at h
  split at h
  · next op' hfind =>
    obtain rfl := Except.ok.inj h
    simpa using List.find?_some hfind
  · cases h

theorem isCheck_of_built {v : Subject} {request_id fingerprint : PyStr} {env : CreateEnv}
    {task : Task} {vpn : VpnCredentials}
    (h : build_task I config (check_payload v request_id) fingerprint env = .ok (task, vpn)) :
    IsCheck v task := by
  obtain ⟨checked, _, runner_mode, _, _, hchecked, hmode, -, -, -, rfl⟩ := build_task_ok h
  unfold check_request at hchecked
  obtain ⟨vehicle_raw, hraw, hchecked⟩ := bind_ok.mp hchecked
  obtain ⟨vehicle, hvehicle, hchecked⟩ := bind_ok.mp hchecked
  obtain ⟨_, -, hchecked⟩ := bind_ok.mp hchecked
  obtain ⟨_, -, hchecked⟩ := bind_ok.mp hchecked
  obtain ⟨name, hname, hchecked⟩ := bind_ok.mp hchecked
  obtain ⟨operation, hoperation, hchecked⟩ := bind_ok.mp hchecked
  obtain ⟨_, -, hchecked⟩ := bind_ok.mp hchecked
  split at hchecked
  · cases hchecked
  · obtain rfl := Except.ok.inj hchecked
    refine ⟨?_, ?_, (Except.ok.inj hmode).symm⟩
    · obtain rfl := Json.obj.inj (Option.some.inj (require_dict_ok hraw))
      exact vehicle_of_built hvehicle
    · obtain rfl := Json.str.inj (Option.some.inj (require_str_ok hname).1)
      exact name_get_operation hoperation

/-! ### What a look says -/

theorem created_id_response (r : CreateResponse) : created_id I r.to_json = .ok r.task_id := rfl

/-- The dictionary that shows a task. -/
def shown (I : Interp) (r : TaskResponse) : Json.Fields :=
  match r.to_json I with
  | .obj fields => fields
  | _ => []

theorem error_code_shown (r : TaskResponse) :
    Json.get? (shown I r) "error_code".py = r.error_code.map Json.str := by
  have hfields : Json.get? (shown I r) "error_code".py = Dict.lookup "error_code".py
      (Json.optional "duration_sec".py (r.duration_sec.map Json.int) ++
        (Json.optional "summary".py r.summary ++ (Json.optional "data".py r.data ++
          (Json.optional "artifacts".py r.artifacts ++
            (Json.optional "error_code".py (r.error_code.map Json.str) ++
              (Json.optional "message".py (r.message.map Json.str) ++ [])))))) := by
    simp only [shown, TaskResponse.to_json, Json.get?, List.cons_append, List.nil_append,
      List.append_assoc, List.append_nil, Dict.lookup]
    simp +decide only [if_false]
  have hnil : Dict.lookup "error_code".py ([] : Json.Fields) = none := rfl
  rw [hfields]
  simp +decide only [RunnerDaemonClient.lookup_optional, hnil, if_true, if_false, Option.none_or,
    Option.or_none]

/-- The error code that the bot reads. -/
theorem error_code_read {r : TaskResponse} {state error_code : PyStr}
    (h : Json.toStr I ((field (shown I r) "error_code").getD (.str state)) = .ok error_code) :
    error_code = state ∨ r.error_code = some error_code := by
  rw [field, error_code_shown] at h
  cases hcode : r.error_code with
  | none =>
    rw [hcode] at h
    exact .inl (Except.ok.inj h).symm
  | some code =>
    rw [hcode, Option.map_some, Option.bind_some, Json.ifTruthy] at h
    split at h
    · exact .inr (congrArg some (Except.ok.inj h))
    · exact .inl (Except.ok.inj h).symm

/-- A look at a task says how it has ended. -/
theorem verdict_response {r : TaskResponse} {said : Verdict}
    (h : verdict I (r.to_json I) = .ok said) :
    (said = .ready → r.state = .finished) ∧
      ∀ error_code message, said = .ended error_code message → r.state.terminal = true ∧
        (error_code = "vehicle_unreachable".py → r.error_code = some error_code) := by
  have hstate : Json.toStr I ((Json.get? (shown I r) "state".py).getD .null) =
      .ok r.state.name.py := rfl
  rw [show r.to_json I = .obj (shown I r) from rfl, verdict, hstate] at h
  obtain ⟨state, hname, h⟩ := bind_ok.mp h
  obtain rfl : r.state.name.py = state := Except.ok.inj hname
  split at h
  · next hfinished =>
    obtain rfl := Except.ok.inj h
    exact ⟨fun _ => TaskState.name_inj hfinished, fun _ _ heq => by cases heq⟩
  · split at h
    · next hterminal =>
      obtain ⟨error_code, hcode, h⟩ := bind_ok.mp h
      obtain ⟨message, -, h⟩ := bind_ok.mp h
      obtain rfl := Except.ok.inj h
      refine ⟨(fun heq => by cases heq), fun error_code' message' heq => ?_⟩
      obtain ⟨rfl, -⟩ := Verdict.ended.inj heq
      have hnames : ∀ st : TaskState, st.name.py ∈ TERMINAL_TASK_STATES →
          st.terminal = true ∧ st.name.py ≠ "vehicle_unreachable".py := by
        intro st
        cases st <;> decide
      obtain ⟨hterm, hne⟩ := hnames r.state hterminal
      refine ⟨hterm, fun hunreachable => ?_⟩
      -- the name of a state is not this error code
      obtain hsame | hread := error_code_read (liftBuiltin_ok.mp hcode)
      · exact absurd (hsame.symm.trans hunreachable) hne
      · exact hread
    · obtain rfl := Except.ok.inj h
      exact ⟨(fun heq => by cases heq), fun _ _ heq => by cases heq⟩

/-! ### The invariant -/

/-- The task that the check polls. -/
def Position.task? : Position → Option PyStr
  | .posted _ task_id | .waiting _ task_id _ | .asking _ task_id _ | .resting _ task_id _ =>
    some task_id
  | _ => none

/-- The attempt has not started its task. -/
def Position.unposted : Position → Bool
  | .begun | .posting _ => true
  | _ => false

/-- The tasks whose end the check has seen. -/
def Check.past (c : Check) : List PyStr :=
  match c.position with
  | .begun | .posting _ | .pausing => c.tasks
  | _ => c.tasks.dropLast

/-- The task `id` did not reach its vehicle. -/
def Unreached (w : Worker.State) (id : PyStr) : Prop :=
  ∃ t, Worker.Over w id t ∧ t.error_code = some "vehicle_unreachable".py

/-- The task `id` has checked `v`, and is finished. -/
def Verified (w : Worker.State) (v : Subject) (id : PyStr) : Prop :=
  ∃ t, Worker.Over w id t ∧ t.state = .finished ∧ IsCheck v t

/-- What a check and the worker have in common. -/
structure Check.Inv (w : Worker.State) (v : Subject) (c : Check) : Prop where
  attempt : c.attempt ≤ attempts
  pausing : c.position = .pausing → c.attempt < attempts
  count : c.tasks.length + (if c.position.unposted then 1 else 0) ≤ c.attempt
  nodup : c.tasks.Nodup
  checks : ∀ id ∈ c.tasks, ∃ x, w.view id = some x ∧ IsCheck v x.task
  past : ∀ id ∈ c.past, Unreached w id
  polls : ∀ id, c.position.task? = some id → c.tasks.getLast? = some id
  ready : c.position = .ready → ∃ id ∈ c.tasks.getLast?, Verified w v id

section invariant

variable {w w' : Worker.State} {v : Subject} {c c' : Check}

theorem Unreached.star {id : PyStr} (h : Unreached w id)
    (hr : Lts.Reachable (Worker.worker I config) w)
    (hlater : Lts.Star (Worker.worker I config) w w') : Unreached w' id := by
  obtain ⟨t, hover, hcode⟩ := h
  exact ⟨t, hover.star hr hlater, hcode⟩

theorem Verified.star {id : PyStr} (h : Verified w v id)
    (hr : Lts.Reachable (Worker.worker I config) w)
    (hlater : Lts.Star (Worker.worker I config) w w') : Verified w' v id := by
  obtain ⟨t, hover, hrest⟩ := h
  exact ⟨t, hover.star hr hlater, hrest⟩

/-- The worker goes on. -/
theorem Check.Inv.star (h : c.Inv w v) (hr : Lts.Reachable (Worker.worker I config) w)
    (hlater : Lts.Star (Worker.worker I config) w w') : c.Inv w' v where
  attempt := h.attempt
  pausing := h.pausing
  count := h.count
  nodup := h.nodup
  checks := by
    intro id hid
    obtain ⟨x, hx, hcheck⟩ := h.checks id hid
    obtain ⟨x', hx', hcreated⟩ := Worker.asCreated_star hr hlater hx
    exact ⟨x', hx', hcheck.congr hcreated⟩
  past := fun id hid => (h.past id hid).star hr hlater
  polls := h.polls
  ready := by
    intro hready
    obtain ⟨id, hid, hverified⟩ := h.ready hready
    exact ⟨id, hid, hverified.star hr hlater⟩

theorem Check.Inv.new : ({} : Check).Inv w v where
  attempt := by decide
  pausing := fun h => by cases h
  count := by decide
  nodup := List.nodup_nil
  checks := fun id hid => by cases hid
  past := fun id hid => by cases hid
  polls := fun id hid => by cases hid
  ready := fun h => by cases h

/-- A check that has not posted, or pauses, has seen the end of all its
    tasks; every other one, of all but the last. -/
theorem Check.Inv.past_dropLast (h : c.Inv w v) : ∀ id ∈ c.tasks.dropLast, Unreached w id := by
  intro id hid
  refine h.past id ?_
  unfold Check.past
  split
  · exact List.mem_of_mem_dropLast hid
  · exact List.mem_of_mem_dropLast hid
  · exact List.mem_of_mem_dropLast hid
  · exact hid

/-- The check fails. -/
theorem Check.Inv.fail (h : c.Inv w v) (exc : PyExc) :
    ({ c with position := .failed exc } : Check).Inv w v where
  attempt := h.attempt
  pausing := fun h => by cases h
  count := (Nat.le_add_right _ _).trans h.count
  nodup := h.nodup
  checks := h.checks
  past := h.past_dropLast
  polls := fun id hid => by cases hid
  ready := fun h => by cases h

/-- The check moves on in its loop. -/
theorem Check.Inv.move (h : c.Inv w v) {position : Position} {id : PyStr}
    (hold : c.position.task? = some id) (hnew : position.task? = some id) :
    ({ c with position := position } : Check).Inv w v where
  attempt := h.attempt
  pausing := by
    rintro rfl
    cases hnew
  count := by
    have hposted : position.unposted = false := by
      cases position with
      | begun | posting => cases hnew
      | _ => rfl
    simp only [hposted]
    exact (Nat.le_add_right _ _).trans h.count
  nodup := h.nodup
  checks := h.checks
  past := by
    have hpast : ({ c with position := position } : Check).past = c.tasks.dropLast := by
      cases position with
      | begun | posting | pausing => cases hnew
      | _ => rfl
    rw [hpast]
    exact h.past_dropLast
  polls := by
    intro id' hid'
    obtain rfl := Option.some.inj (hnew.symm.trans hid')
    exact h.polls id hold
  ready := by
    rintro rfl
    cases hnew

/-- What `get_task` shows of a task that has ended. -/
theorem over_of_get_task (hwf : Worker.WellFormed w)
    (hdone : ∀ id x, w.view id = some x → x.task.state.terminal = x.executor.done) {id : PyStr}
    {now : Time} {r : TaskResponse} (hr : w.service.get_task id now = .ok r)
    (hterm : r.state.terminal = true) :
    ∃ x, w.view id = some x ∧ Worker.Over w id x.task ∧ r = x.task.to_response now := by
  unfold Service.get_task at hr
  cases ht : w.service.task? id with
  | none => simp [ht, raiseWorker] at hr
  | some t =>
    obtain rfl : t.to_response now = r := by simpa [ht] using hr
    obtain ⟨x, hx, rfl⟩ := hwf.view_of_task? ht
    exact ⟨x, hx, ⟨hterm, x, hx, rfl, (hdone id x hx).symm.trans hterm⟩, rfl⟩

theorem mem_of_getLast? {id : PyStr} (h : c.tasks.getLast? = some id) :
    c.tasks = c.tasks.dropLast ++ [id] ∧ id ∈ c.tasks := by
  obtain ⟨before, hbefore⟩ := List.getLast?_eq_some_iff.mp h
  rw [hbefore, List.dropLast_concat]
  exact ⟨rfl, List.mem_append_right _ (List.mem_singleton_self id)⟩

/-- A look at the task. -/
theorem Check.Inv.polled (h : c.Inv w v) (hwf : Worker.WellFormed w)
    (hdone : ∀ id x, w.view id = some x → x.task.state.terminal = x.executor.done)
    {request_id id : PyStr} {deadline : Int} {now : Time}
    (hposition : c.position = .asking request_id id deadline) :
    (c.polled I request_id id deadline (w.service.get_task id now)).Inv w v := by
  have htask : c.position.task? = some id := by
    rw [hposition]
    rfl
  have hlast := h.polls id htask
  obtain ⟨htasks, hmem⟩ := mem_of_getLast? hlast
  have hposted : c.tasks.length ≤ c.attempt := (Nat.le_add_right _ _).trans h.count
  unfold Check.polled
  cases hget : w.service.get_task id now with
  | error exc => exact h.fail _
  | ok r =>
    simp only
    split
    · exact h.fail _
    · exact h.move htask rfl
    · -- the task is finished
      next hsaid =>
      have hfinished := (verdict_response hsaid).1 rfl
      obtain ⟨x, hx, hover, rfl⟩ := over_of_get_task hwf hdone hget (by rw [hfinished]; rfl)
      obtain ⟨x', hx', hcheck⟩ := h.checks id hmem
      obtain rfl := Option.some.inj (hx.symm.trans hx')
      exact
        { attempt := h.attempt
          pausing := fun h => by cases h
          count := hposted
          nodup := h.nodup
          checks := h.checks
          past := h.past_dropLast
          polls := fun id hid => by cases hid
          ready := fun _ => ⟨id, hlast, x.task, hover, hfinished, hcheck⟩ }
    · -- the task has failed
      next error_code message hsaid =>
      obtain ⟨hterm, hcode⟩ := (verdict_response hsaid).2 _ _ rfl
      obtain ⟨x, hx, hover, rfl⟩ := over_of_get_task hwf hdone hget hterm
      unfold Check.settled
      split
      · exact h.fail _
      · next hagain =>
        obtain ⟨hunreachable, hattempt⟩ := not_or.mp hagain
        have heq := not_not.mp hunreachable
        exact
          { attempt := h.attempt
            pausing := fun _ => Nat.lt_of_le_of_ne h.attempt hattempt
            count := hposted
            nodup := h.nodup
            checks := h.checks
            past := by
              intro id' hid'
              have hall : id' ∈ c.tasks.dropLast ++ [id] := htasks ▸ hid'
              rcases List.mem_append.mp hall with hbefore | hsame
              · exact h.past_dropLast id' hbefore
              · obtain rfl := List.mem_singleton.mp hsame
                exact ⟨x.task, hover, heq ▸ hcode heq⟩
            polls := fun id hid => by cases hid
            ready := fun h => by cases h }

/-- A step of the check by itself. -/
theorem Check.Inv.next (h : c.Inv w v) (hwf : Worker.WellFormed w)
    (hdone : ∀ id x, w.view id = some x → x.task.state.terminal = x.executor.done) {e : Event}
    (hnext : c.next I config w.service v e = some c') (halone : c.creates v e = none) :
    c'.Inv w v := by
  unfold Check.next at hnext
  split at hnext
  · -- an attempt draws its request id
    next hposition =>
    obtain rfl := Option.some.inj hnext
    have hcount := h.count
    have hpast := h.past
    simp only [Check.past, hposition] at hpast
    rw [hposition] at hcount
    exact
      { attempt := h.attempt
        pausing := fun h => by cases h
        count := hcount
        nodup := h.nodup
        checks := h.checks
        past := hpast
        polls := fun id hid => by cases hid
        ready := fun h => by cases h }
  · next hposition =>
    simp [Check.creates, hposition] at halone
  · next hposition =>
    obtain rfl := Option.some.inj hnext
    exact h.move (by rw [hposition]; rfl) rfl
  · next hposition =>
    split at hnext
    · obtain rfl := Option.some.inj hnext
      exact h.move (by rw [hposition]; rfl) rfl
    · obtain rfl := Option.some.inj hnext
      exact h.fail _
  · next hposition =>
    obtain rfl := Option.some.inj hnext
    exact h.polled hwf hdone hposition
  · next hposition =>
    obtain rfl := Option.some.inj hnext
    exact h.move (by rw [hposition]; rfl) rfl
  · -- the next attempt
    next hposition =>
    obtain rfl := Option.some.inj hnext
    have hpast := h.past
    simp only [Check.past, hposition] at hpast
    exact
      { attempt := h.pausing hposition
        pausing := fun h => by cases h
        count := Nat.succ_le_succ ((Nat.le_add_right _ _).trans h.count)
        nodup := h.nodup
        checks := h.checks
        past := hpast
        polls := fun id hid => by cases hid
        ready := fun h => by cases h }
  · obtain rfl := Option.some.inj hnext
    exact h.fail _
  · obtain rfl := Option.some.inj hnext
    exact h.fail _
  · cases hnext

/-- By itself, a check is told of no task. -/
theorem tasks_polled {request_id id : PyStr} {deadline : Int} {answer : Except PyExc TaskResponse} :
    (c.polled I request_id id deadline answer).tasks = c.tasks := by
  unfold Check.polled Check.settled
  repeat' split
  all_goals rfl

theorem tasks_next {s : Service} {e : Event} (hnext : c.next I config s v e = some c')
    (halone : c.creates v e = none) : c'.tasks = c.tasks := by
  unfold Check.next at hnext
  split at hnext
  · obtain rfl := Option.some.inj hnext
    rfl
  · next hposition =>
    simp [Check.creates, hposition] at halone
  · obtain rfl := Option.some.inj hnext
    rfl
  · split at hnext
    · obtain rfl := Option.some.inj hnext
      rfl
    · obtain rfl := Option.some.inj hnext
      rfl
  · obtain rfl := Option.some.inj hnext
    exact tasks_polled
  · obtain rfl := Option.some.inj hnext
    rfl
  · obtain rfl := Option.some.inj hnext
    rfl
  · obtain rfl := Option.some.inj hnext
    rfl
  · obtain rfl := Option.some.inj hnext
    rfl
  · cases hnext

/-- A request with a new id is refused or starts a task. -/
theorem created_of_fresh {s : Service} {payload : Json.Fields} {env : CreateEnv}
    {request_id : PyStr} {status : Nat} {response : CreateResponse}
    (hrequest : Json.get? payload "request_id".py = some (.str request_id))
    (hfresh : s.request? request_id = none)
    (hanswer : (s.create_task I config payload env).2 = .ok (status, response)) : status = 201 := by
  unfold Service.create_task at hanswer
  split at hanswer
  · cases hanswer
  · next id hid =>
    obtain rfl := Json.str.inj (Option.some.inj (hrequest.symm.trans (require_str_ok hid).1))
    split at hanswer
    · cases hanswer
    simp only [hfresh] at hanswer
    unfold Service.create_new at hanswer
    split at hanswer
    · cases hanswer
    · simp only at hanswer
      split at hanswer
      · cases hanswer
      · split at hanswer
        · cases hanswer
        · split at hanswer
          · cases hanswer
          · exact (Prod.mk.inj (Except.ok.inj hanswer)).1.symm

/-- The worker refuses the POST request of the check, or starts a new task. -/
theorem created_cases (hr : Lts.Reachable (Worker.worker I config) w) {request_id : PyStr}
    {env : CreateEnv} (hfresh : w.service.request? request_id = none)
    (hstep : (Worker.worker I config).step w (.create_task (check_payload v request_id) env) w') :
    (∃ exc, c.created I request_id (w.service.create_task I config
        (check_payload v request_id) env).2 = { c with position := .failed exc }) ∨
    ∃ limiter task vpn, w.view task.task_id = none ∧ IsCheck v task ∧
      w' = w.start limiter task vpn ∧
      c.created I request_id (w.service.create_task I config (check_payload v request_id) env).2 =
        { c with position := .posted request_id task.task_id,
                 tasks := c.tasks ++ [task.task_id] } := by
  unfold Check.created
  cases hanswer : (w.service.create_task I config (check_payload v request_id) env).2 with
  | error exc => exact .inl ⟨_, rfl⟩
  | ok answer =>
    obtain ⟨status, response⟩ := answer
    obtain ⟨service, hservice⟩ : ∃ service, w.service.create_task I config
        (check_payload v request_id) env = (service, .ok (status, response)) :=
      ⟨_, Prod.ext rfl hanswer⟩
    obtain rfl := created_of_fresh rfl hfresh hanswer
    obtain ⟨limiter, task, vpn, hnew, hacc, rfl, rfl⟩ := Worker.step_accepted hstep hservice
    have hcreated : created_id I task.to_create_response.to_json = .ok task.task_id :=
      created_id_response _
    have hview : w.view task.task_id = none := by
      cases hx : w.view task.task_id with
      | none => rfl
      | some x =>
        have hfiled := (Worker.well_formed hr).isSome_view.mp (Option.isSome_iff_exists.mpr ⟨x, hx⟩)
        rw [hnew] at hfiled
        cases hfiled
    refine .inr ⟨limiter, task, vpn, hview, isCheck_of_built hacc.built, rfl, ?_⟩
    simp only [hcreated]

/-- The worker handles the POST request of the check. -/
theorem Check.Inv.post (h : c.Inv w v) (hr : Lts.Reachable (Worker.worker I config) w)
    {request_id : PyStr} {env : CreateEnv} (hposition : c.position = .posting request_id)
    (hfresh : w.service.request? request_id = none)
    (hstep : (Worker.worker I config).step w (.create_task (check_payload v request_id) env) w') :
    (c.created I request_id
      (w.service.create_task I config (check_payload v request_id) env).2).Inv w' v := by
  have hlater := h.star hr (.tail (.refl _) hstep)
  obtain ⟨exc, hc⟩ | ⟨limiter, task, vpn, hview, hcheck, rfl, hc⟩ :=
    created_cases (c := c) hr hfresh hstep
  · rw [hc]
    exact hlater.fail _
  have hcount := h.count
  rw [hposition] at hcount
  have hnotin : task.task_id ∉ c.tasks := by
    intro hmem
    obtain ⟨x, hx, -⟩ := h.checks _ hmem
    rw [hview] at hx
    cases hx
  rw [hc]
  exact
    { attempt := h.attempt
      pausing := fun h => by cases h
      count := by
        rw [List.length_append]
        exact hcount
      nodup := List.concat_eq_append ▸ h.nodup.concat hnotin
      checks := by
        intro id hid
        rcases List.mem_append.mp hid with hold | hsame
        · exact hlater.checks id hold
        · obtain rfl := List.mem_singleton.mp hsame
          exact ⟨_, Worker.view_start_self, hcheck⟩
      past := by
        intro id hid
        refine hlater.past id ?_
        simp only [Check.past, List.dropLast_concat] at hid
        simp only [Check.past, hposition]
        exact hid
      polls := by
        intro id hid
        obtain rfl := Option.some.inj hid
        exact List.getLast?_concat
      ready := fun h => by cases h }

end invariant

end Readiness

end BoVpnAgent

import BoVpnAgent.Api
import BoVpnAgent.Audit

/-! # Which responses can be sent

    `_send_json` raises before it sends anything when a text of the response
    has a lone surrogate, an integer is too long or the nesting is too deep.
    The texts of the program itself never fail so, and neither do those of a
    task's request.  What a runner has put into a task or a job can fail, and
    so can the texts of a job's request, which the daemon does not check.
-/

namespace BoVpnAgent

open Json (Renderable RenderableAt renderable_iff renderableAt_str renderableAt_arr
  renderableAt_obj forall_mem_optional)

variable {I : Interp}

/-! ### Values -/

section values

variable {n : Nat}

theorem renderableAt_bool (hn : n ≤ I.dumps_depth) (b : Bool) : RenderableAt I n (.bool b) :=
  ⟨hn, trivial⟩

theorem renderableAt_null (hn : n ≤ I.dumps_depth) : RenderableAt I n .null := ⟨hn, trivial⟩

theorem renderableAt_unlessNull {j : Json} (hn : n ≤ I.dumps_depth) :
    (∀ x ∈ j.unlessNull, RenderableAt I n x) ↔ RenderableAt I n j := by
  cases j <;> simp [Json.unlessNull, renderableAt_null hn]

/-- A falsy value is small. -/
theorem renderableAt_of_falsy {j : Json} (hn : n + 1 ≤ I.dumps_depth) (h : j.truthy = false) :
    RenderableAt I n j := by
  have hdepth : n ≤ I.dumps_depth := by omega
  cases j with
  | null => exact renderableAt_null hdepth
  | bool b => exact renderableAt_bool hdepth b
  | int m =>
    obtain rfl : m = 0 := by simpa [Json.truthy] using h
    exact ⟨hdepth, le_trans (by decide : (Nat.toDigits 10 0).length ≤ 640) I.digits_min⟩
  | float x => exact ⟨hdepth, trivial⟩
  | str s =>
    obtain rfl : s = [] := by simpa [Json.truthy] using h
    exact (renderableAt_str hdepth).mpr PyStr.scalar_nil
  | arr xs =>
    obtain rfl : xs = [] := by simpa [Json.truthy] using h
    exact (renderableAt_arr hn).mpr (List.forall_mem_nil _)
  | obj fields =>
    obtain rfl : fields = [] := by simpa [Json.truthy] using h
    exact (renderableAt_obj hn).mpr (List.forall_mem_nil _)

theorem renderableAt_ifTruthy {j : Json} (hn : n + 1 ≤ I.dumps_depth) :
    (∀ x ∈ j.ifTruthy, RenderableAt I n x) ↔ RenderableAt I n j := by
  unfold Json.ifTruthy
  cases h : j.truthy with
  | true => simp
  | false => simp [renderableAt_of_falsy hn h]

/-- `None` for a missing value. -/
theorem renderableAt_getD {o : Option Json} (hn : n ≤ I.dumps_depth)
    (h : ∀ x ∈ o, RenderableAt I n x) : RenderableAt I n (o.getD .null) := by
  cases o with
  | none => exact renderableAt_null hn
  | some x => exact h x rfl

/-- An optional text. -/
theorem renderableAt_text {o : Option PyStr} (hn : n ≤ I.dumps_depth) :
    (∀ x ∈ o.map Json.str, RenderableAt I n x) ↔ ∀ s ∈ o, PyStr.Scalar s := by
  cases o <;> simp [renderableAt_str hn]

end values

/-! ### Replies -/

theorem caught_send_json (status : Nat) {payload : Json} :
    Caught (send_json I status payload) ↔ Renderable I payload := by
  unfold send_json
  rw [caught_bind, caught_liftBuiltin, Json.dumpsUtf8_ok_iff rfl]
  simp

theorem renderable_error {e : WorkerError} :
    Renderable I e.to_response ↔ e.error_code.Scalar ∧ e.message.Scalar := by
  have hdepth := I.dumps_min
  have hone : 1 ≤ I.dumps_depth := by omega
  rw [renderable_iff, WorkerError.to_response, renderableAt_obj (by omega)]
  simp [renderableAt_str hone, renderableAt_bool hone]

theorem send_json_error {status : Nat} {payload : Json} {exc : PyExc}
    (h : send_json I status payload = .error exc) : ¬ exc.Answerable := by
  unfold send_json at h
  rcases bind_error.mp h with hdumps | ⟨body, _, hpure⟩
  · cases hbytes : Json.dumpsUtf8 I responseOptions payload with
    | ok bytes => simp [hbytes, liftBuiltin] at hdumps
    | error kind =>
      obtain rfl : exc = .builtin kind [] := by simpa [hbytes, liftBuiltin, raiseBuiltin] using hdumps.symm
      rintro ⟨_, hworker, _⟩
      cases hworker
  · cases hpure

theorem not_once_leave (exc : PyExc) : ¬ (Handled.leave exc).Once := by
  rintro ⟨reply, h⟩
  cases h

/-- A handler answers exactly once when its `try` block raises nothing but
    exceptions that it can answer. -/
theorem once_answer {body : Except PyExc Reply} : (answer I body).Once ↔ Caught body := by
  unfold answer
  split
  · exact iff_of_true ⟨_, rfl⟩ (caught_ok _)
  · next e =>
    rw [caught_error, answerable_worker, ← renderable_error (I := I),
      ← caught_send_json e.status]
    cases hsend : send_json I e.status e.to_response with
    | ok reply => exact iff_of_true ⟨_, rfl⟩ (caught_ok _)
    | error exc =>
      exact iff_of_false (not_once_leave exc) (mt caught_error.mp (send_json_error hsend))
  · next exc hexc =>
    refine iff_of_false (not_once_leave exc) (mt caught_error.mp ?_)
    rintro ⟨e, rfl, -⟩
    exact hexc e rfl

/-! ### The responses of the worker -/

theorem renderable_create_response {r : CreateResponse} (htask : r.task_id.Scalar)
    (hrequest : r.request_id.Scalar) : Renderable I r.to_json := by
  have hdepth := I.dumps_min
  have hone : 1 ≤ I.dumps_depth := by omega
  rw [renderable_iff, CreateResponse.to_json, renderableAt_obj (by omega)]
  simp [renderableAt_str hone, renderableAt_bool hone, htask, hrequest]

theorem renderableAt_int {n : Nat} {m : Int} (hn : n ≤ I.dumps_depth) :
    RenderableAt I n (.int m) ↔ Json.DigitsWithin I.int_max_str_digits m :=
  ⟨fun h => h.leaves, fun h => ⟨hn, h⟩⟩

theorem renderable_capabilities : Renderable I capabilities_response := by
  have hdepth := I.dumps_min
  have htexts : ∀ {n : Nat} (texts : List String), n + 2 ≤ I.dumps_depth →
      RenderableAt I n (.arr (texts.map fun t => .str t.py)) := by
    intro n texts hn
    refine (renderableAt_arr (by omega)).mpr fun x hx => ?_
    obtain ⟨text, -, rfl⟩ := List.mem_map.mp hx
    exact (renderableAt_str (by omega)).mpr (PyStr.scalar_py text)
  have htimeouts : ∀ op ∈ MVP_OPERATIONS, Json.DigitsWithin 640 op.timeout_sec_default := by decide
  have hop : ∀ op ∈ MVP_OPERATIONS, RenderableAt I 2 op.to_capability := by
    intro op hmem
    have hdigits : Json.DigitsWithin I.int_max_str_digits op.timeout_sec_default :=
      le_trans (htimeouts op hmem) I.digits_min
    rw [OperationSpec.to_capability, renderableAt_obj (by omega)]
    simp only [List.forall_mem_cons, List.not_mem_nil, PyStr.scalar_py, true_and, false_implies,
      implies_true, and_true, renderableAt_str (show 3 ≤ I.dumps_depth by omega),
      renderableAt_int (show 3 ≤ I.dumps_depth by omega), hdigits,
      htexts (n := 3) _ (by omega)]
    exact (renderableAt_obj (by omega)).mpr (List.forall_mem_nil _)
  rw [renderable_iff, capabilities_response, renderableAt_obj (by omega)]
  simp only [List.forall_mem_cons, List.not_mem_nil, PyStr.scalar_py, true_and, false_implies,
    implies_true, and_true, renderableAt_str (show 1 ≤ I.dumps_depth by omega)]
  refine (renderableAt_arr (by omega)).mpr fun x hx => ?_
  obtain ⟨op, hmem, rfl⟩ := List.mem_map.mp hx
  exact hop op hmem

theorem renderableAt_record {n : Nat} (hn : n + 1 ≤ I.dumps_depth) (r : VehicleInventoryRecord) :
    RenderableAt I n r.to_response := by
  rw [VehicleInventoryRecord.to_response, renderableAt_obj hn]
  simp only [List.forall_mem_append, List.forall_mem_cons, List.not_mem_nil, false_implies,
    implies_true, and_true, PyStr.scalar_py, true_and, renderableAt_str hn, r.number.property,
    r.garage_number.property, r.vehicle_id.property, r.plate.property, r.ip.property]
  intro e he
  obtain ⟨field, -, rfl⟩ := List.mem_map.mp he
  exact ⟨PyStr.scalar_py _, (renderableAt_str hn).mpr field.2.property⟩

/-- The answer of `/vehicles/resolve`. -/
theorem renderable_resolved {config : WorkerConfig} {inventory : InventoryFile} {query : PyStr}
    (hquery : query.Scalar) {response : Json}
    (h : Service.resolve_vehicle config inventory query = .ok response) : Renderable I response := by
  have hdepth := I.dumps_min
  unfold Service.resolve_vehicle at h
  split at h
  · cases h
  · split at h
    · next record _ =>
      obtain rfl := Except.ok.inj h
      rw [renderable_iff, renderableAt_obj (by omega)]
      simp only [List.forall_mem_cons, List.not_mem_nil, PyStr.scalar_py, true_and, false_implies,
        implies_true, and_true, renderableAt_str (show 1 ≤ I.dumps_depth by omega), hquery]
      exact ⟨renderableAt_bool (by omega) true, renderableAt_record (by omega) record⟩
    · cases h

/-- What the runner and the configuration have put into a task can be
    written out. -/
structure Task.Reportable (I : Interp) (t : Task) : Prop where
  runner_mode : t.runner_mode.Scalar
  phase_message : t.phase_message.Scalar
  warnings : ∀ w ∈ t.warnings, RenderableAt I 2 w
  summary : RenderableAt I 1 t.summary
  data : RenderableAt I 1 t.data
  artifacts : RenderableAt I 1 t.artifacts
  error_code : ∀ code ∈ t.error_code, PyStr.Scalar code
  message : ∀ message ∈ t.message, PyStr.Scalar message

theorem renderable_task_response {t : Task} (h : t.RequestTexts) (now : Time) :
    Renderable I ((t.to_response now).to_json I) ↔ t.Reportable I := by
  have hdepth := I.dumps_min
  have hone : 1 ≤ I.dumps_depth := by omega
  have htwo : 2 ≤ I.dumps_depth := by omega
  have hduration : ∀ {n : Nat}, n ≤ I.dumps_depth →
      ∀ x ∈ (t.duration_sec now).map Json.int, RenderableAt I n x := by
    intro n hn x hx
    obtain ⟨d, hd, rfl⟩ := Option.map_eq_some_iff.mp hx
    exact (renderableAt_int hn).mpr (AuditLogger.digitsWithin_duration hd)
  have htime : ∀ o : Option Time,
      RenderableAt I 2 ((o.map fun t => Json.str (I.isoformat t.val).py).getD .null) := by
    intro o
    refine renderableAt_getD htwo fun x hx => ?_
    obtain ⟨t, -, rfl⟩ := Option.map_eq_some_iff.mp hx
    exact (renderableAt_str htwo).mpr (PyStr.scalar_py _)
  rw [renderable_iff, TaskResponse.to_json, renderableAt_obj hone]
  simp only [Task.to_response, List.forall_mem_append, List.forall_mem_cons, List.not_mem_nil,
    forall_mem_optional, PyStr.scalar_py, true_and, false_implies, implies_true, and_true,
    renderableAt_str hone, renderableAt_str htwo, renderableAt_bool hone, renderableAt_obj htwo,
    renderableAt_arr htwo, renderableAt_unlessNull hone, renderableAt_ifTruthy htwo,
    renderableAt_text hone, h.task_id, h.request_id, h.operation, h.vehicle_number, h.vehicle_ip,
    htime, renderableAt_getD htwo (hduration htwo)]
  constructor
  · rintro ⟨⟨⟨⟨⟨⟨⟨hphase, hwarnings, hmode⟩, -⟩, hsummary⟩, hdata⟩, hartifacts⟩, hcode⟩, hmessage⟩
    exact ⟨hmode, hphase, hwarnings, hsummary, hdata, hartifacts, hcode, hmessage⟩
  · rintro ⟨hmode, hphase, hwarnings, hsummary, hdata, hartifacts, hcode, hmessage⟩
    exact ⟨⟨⟨⟨⟨⟨⟨hphase, hwarnings, hmode⟩, hduration hone⟩, hsummary⟩, hdata⟩, hartifacts⟩,
      hcode⟩, hmessage⟩

/-! ### The responses of the daemon -/

/-- What the request and the runner have put into a job can be written out. -/
structure RunnerJob.Reportable (I : Interp) (j : RunnerJob) : Prop where
  request_id : j.request_id.Scalar
  operation : j.task.operation.Scalar
  phase_message : j.phase_message.Scalar
  warnings : ∃ warnings, j.warnings.iter? = some warnings ∧ ∀ w ∈ warnings, RenderableAt I 2 w
  summary : RenderableAt I 1 j.summary
  data : RenderableAt I 1 j.data
  artifacts : RenderableAt I 1 j.artifacts
  error_code : ∀ code ∈ j.error_code, PyStr.Scalar code
  message : ∀ message ∈ j.message, PyStr.Scalar message

/-- The response about a job is built and sent. -/
theorem caught_job_response {j : RunnerJob} (hid : j.job_id.Scalar) (status : Nat) :
    Caught (j.to_response >>= fun r => send_json I status r.to_json) ↔ j.Reportable I := by
  have hdepth := I.dumps_min
  have hone : 1 ≤ I.dumps_depth := by omega
  have htwo : 2 ≤ I.dumps_depth := by omega
  cases hwarnings : j.warnings.iter? with
  | none =>
    have hraise : j.to_response = raiseBuiltin .typeError := by
      simp only [RunnerJob.to_response, hwarnings]
    rw [hraise]
    refine iff_of_false (not_caught_raiseBuiltin .typeError) fun h => ?_
    obtain ⟨_, hsome, -⟩ := h.warnings
    rw [hwarnings] at hsome
    cases hsome
  | some warnings =>
    unfold RunnerJob.to_response
    rw [hwarnings]
    refine (caught_send_json _).trans ?_
    rw [renderable_iff, JobResponse.to_json, renderableAt_obj hone]
    simp only [List.forall_mem_append, List.forall_mem_cons, List.not_mem_nil,
      forall_mem_optional, PyStr.scalar_py, true_and, false_implies, implies_true, and_true,
      renderableAt_str hone, renderableAt_bool hone, renderableAt_arr htwo,
      renderableAt_unlessNull hone, renderableAt_ifTruthy htwo, renderableAt_text hone, hid]
    constructor
    · rintro ⟨⟨⟨⟨⟨⟨hrequest, hphase, hoperation, hws⟩, hsummary⟩, hdata⟩, hartifacts⟩, hcode⟩,
        hmessage⟩
      exact ⟨hrequest, hoperation, hphase, ⟨warnings, hwarnings, hws⟩, hsummary, hdata,
        hartifacts, hcode, hmessage⟩
    · rintro ⟨hrequest, hoperation, hphase, ⟨ws, hws', hws⟩, hsummary, hdata, hartifacts,
        hcode, hmessage⟩
      obtain rfl := Option.some.inj (hwarnings.symm.trans hws')
      exact ⟨⟨⟨⟨⟨⟨hrequest, hphase, hoperation, hws⟩, hsummary⟩, hdata⟩, hartifacts⟩, hcode⟩,
        hmessage⟩

end BoVpnAgent

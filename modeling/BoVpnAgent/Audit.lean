import BoVpnAgent.Models

/-! # The audit log

    One JSON line for each finished task.  Writing it fails when the file
    cannot be opened or written, and also when the record cannot be encoded.
-/

namespace BoVpnAgent

/-- The record of `AuditLogger.write_task_event`. -/
structure AuditRecord where
  timestamp : Time
  request_id : PyStr
  task_id : PyStr
  telegram_user_id : PyInt
  user_role : PyStr
  operation : PyStr
  vehicle_number : PyStr
  vehicle_ip : PyStr
  result_state : TaskState
  error_code : Option PyStr
  duration_sec : Option Int
  runner_mode : PyStr
  risk_level : PyStr
  state_changing : Bool
  cleanup_failed : Bool

namespace AuditRecord

/-- The record as the dictionary that is written. -/
def to_json (I : Interp) (r : AuditRecord) : Json :=
  .obj [("timestamp".py, .str (I.isoformat r.timestamp.val).py), ("request_id".py, .str r.request_id),
    ("task_id".py, .str r.task_id), ("telegram_user_id".py, r.telegram_user_id.to_json),
    ("user_role".py, .str r.user_role), ("operation".py, .str r.operation),
    ("vehicle_number".py, .str r.vehicle_number), ("vehicle_ip".py, .str r.vehicle_ip),
    ("result_state".py, .str r.result_state.name.py),
    ("error_code".py, (r.error_code.map Json.str).getD .null),
    ("duration_sec".py, (r.duration_sec.map Json.int).getD .null),
    ("runner_mode".py, .str r.runner_mode), ("risk_level".py, .str r.risk_level),
    ("state_changing".py, .bool r.state_changing), ("cleanup_failed".py, .bool r.cleanup_failed)]

end AuditRecord

namespace AuditLogger

/-- The record of a task. -/
def record (t : Task) (now : Time) : AuditRecord where
  timestamp := now
  request_id := t.request_id
  task_id := t.task_id
  telegram_user_id := t.telegram_user_id
  user_role := t.user_role
  operation := t.operation
  vehicle_number := t.vehicle.number
  vehicle_ip := t.vehicle.ip
  result_state := t.state
  error_code := t.error_code
  duration_sec := t.duration_sec now
  runner_mode := t.runner_mode
  risk_level := t.risk
  state_changing := t.state_changing
  cleanup_failed := t.cleanup_failed

/-- The options of the audit line. -/
def lineOptions : Json.DumpOptions :=
  { sort_keys := true, ensure_ascii := false, item_separator := ", ", key_separator := ": " }

/-- `AuditLogger.write_task_event`: the record that it adds to the file.
    `fault` says that the file cannot be opened or written, and is then left as
    it was: a line is assumed to be written whole or not at all. -/
def write_task_event (I : Interp) (t : Task) (now : Time) (fault : Bool) :
    Except PyExc AuditRecord := do
  if fault then raiseBuiltin .osError
  else
    let _ ← liftBuiltin (Json.dumpsUtf8 I lineOptions ((record t now).to_json I))
    return record t now

/-! ### When the record is written -/

theorem write_task_event_record {I : Interp} {t : Task} {now : Time} {fault : Bool}
    {r : AuditRecord} (h : write_task_event I t now fault = .ok r) : r = record t now := by
  unfold write_task_event at h
  split at h
  · cases h
  · obtain ⟨_, _, hr⟩ := bind_ok.mp h
    exact (Except.ok.inj hr).symm

/-- A written record has an error code that can be encoded. -/
theorem scalar_of_write_task_event {I : Interp} {t : Task} {now : Time} {fault : Bool}
    {r : AuditRecord} (h : write_task_event I t now fault = .ok r) :
    ∀ code ∈ t.error_code, PyStr.Scalar code := by
  intro code hcode
  unfold write_task_event at h
  split at h
  · cases h
  · obtain ⟨bytes, hbytes, _⟩ := bind_ok.mp h
    have hleaves := ((Json.dumpsUtf8_ok_iff rfl _).mp ⟨bytes, liftBuiltin_ok.mp hbytes⟩).leaves
    refine (Json.all_obj.mp hleaves ("error_code".py, .str code) ?_).2
    simp [record, show t.error_code = some code from hcode]

theorem write_task_event_of_renderable {I : Interp} {t : Task} {now : Time}
    (h : Json.Renderable I ((record t now).to_json I)) :
    write_task_event I t now false = .ok (record t now) := by
  obtain ⟨bytes, hbytes⟩ := (Json.dumpsUtf8_ok_iff (I := I) (o := lineOptions) rfl _).mpr h
  simp [write_task_event, hbytes, liftBuiltin, bind, Except.bind, pure, Except.pure]

/-- The texts of a task that its record carries can be encoded. -/
structure Encodable (I : Interp) (t : Task) : Prop where
  nesting : 1 ≤ I.dumps_depth
  request_id : t.request_id.Scalar
  task_id : t.task_id.Scalar
  telegram_user_id : Json.DigitsWithin I.int_max_str_digits t.telegram_user_id.val
  user_role : t.user_role.Scalar
  operation : t.operation.Scalar
  vehicle_number : t.vehicle.number.Scalar
  vehicle_ip : t.vehicle.ip.Scalar
  error_code : ∀ code ∈ t.error_code, PyStr.Scalar code
  runner_mode : t.runner_mode.Scalar
  risk : t.risk.Scalar

theorem digitsWithin_duration {I : Interp} {t : Task} {now : Time} {d : Int}
    (h : t.duration_sec now = some d) : Json.DigitsWithin I.int_max_str_digits d := by
  have hbound : d.natAbs < 10 ^ 18 := by
    unfold Task.duration_sec at h
    split at h
    · rw [← Option.some.inj h]
      have h₁ := (t.finished_at.getD now).property
      have h₂ := (t.started_at.getD t.created_at).property
      generalize (t.finished_at.getD now).val = end_ at *
      generalize (t.started_at.getD t.created_at).val = start at *
      have hdiv : (end_ - start).tdiv 1000000 ≤ 10 ^ 18 - 1 := by
        rcases Int.le_total 0 (end_ - start) with hpos | hneg
        · rw [Int.tdiv_eq_ediv_of_nonneg hpos]
          omega
        · have hpos := Int.tdiv_nonneg (Int.neg_nonneg_of_nonpos hneg) (by omega : (0 : Int) ≤ 1000000)
          rw [Int.neg_tdiv] at hpos
          omega
      omega
    · cases h
  have hlength := (Nat.length_toDigits_le_iff (b := 10) (by omega) (by omega)).mpr hbound
  exact le_trans (le_trans hlength (by omega)) I.digits_min

/-- A record whose texts can be encoded is written. -/
theorem renderable_record {I : Interp} {t : Task} (h : Encodable I t) (now : Time) :
    Json.Renderable I ((record t now).to_json I) where
  depth := by
    have hd : ((record t now).to_json I).depth = 1 := by
      have herr : ∀ o : Option PyStr, ((o.map Json.str).getD .null).depth = 0 := by
        intro o; cases o <;> rfl
      have hdur : ∀ o : Option Int, ((o.map Json.int).getD .null).depth = 0 := by
        intro o; cases o <;> rfl
      have hid : ∀ i : PyInt, i.to_json.depth = 0 := by intro i; cases i <;> rfl
      simp [AuditRecord.to_json, Json.depth, Json.depthFields, herr, hdur, hid]
    exact hd ▸ h.nesting
  leaves := by
    have hkey : ∀ key : String, PyStr.Scalar key.py := PyStr.scalar_py
    have herr : ((t.error_code.map Json.str).getD .null).All PyStr.Scalar
        (Json.DigitsWithin I.int_max_str_digits) := by
      cases hc : t.error_code with
      | none => trivial
      | some code => exact h.error_code code hc
    have hdur : (((t.duration_sec now).map Json.int).getD .null).All PyStr.Scalar
        (Json.DigitsWithin I.int_max_str_digits) := by
      cases hd : t.duration_sec now with
      | none => trivial
      | some d => exact digitsWithin_duration hd
    have hid : t.telegram_user_id.to_json.All PyStr.Scalar
        (Json.DigitsWithin I.int_max_str_digits) := by
      have := h.telegram_user_id
      cases hi : t.telegram_user_id with
      | bool b => trivial
      | int n => rwa [hi] at this
    simp only [AuditRecord.to_json, record, Json.All, Json.AllFields, hkey, herr, hdur, hid,
      h.request_id, h.task_id, h.user_role, h.operation, h.vehicle_number, h.vehicle_ip,
      h.runner_mode, h.risk, and_self]

theorem write_task_event_of_encodable {I : Interp} {t : Task} (h : Encodable I t) (now : Time) :
    write_task_event I t now false = .ok (record t now) :=
  write_task_event_of_renderable (renderable_record h now)

end AuditLogger

end BoVpnAgent

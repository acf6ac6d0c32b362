import BoVpnAgent.Lib.JsonSorted
import BoVpnAgent.Worker.Closing

/-! # Reading the audit file

    The audit file is text: one line for each record, in the order in which
    the executors wrote them.  Read line by line it gives the records back,
    and each of them is the final report of its task.

    This file shows:
    - a line holds no line feed of its own, and `json.loads` reads its record
      from it (`loads_line`)
    - what the record of a task is worth, at any time after it was written
      (`OnFile`)
-/

namespace BoVpnAgent

namespace AuditLogger

variable {I : Interp} {r : AuditRecord}

/-- The line without its line feed. -/
def line (I : Interp) (r : AuditRecord) : PyStr := Json.render I lineOptions (r.to_json I)

/-- The bytes of the file with these records. -/
def file (I : Interp) (records : List AuditRecord) : Option Bytes :=
  Utf8.encode ((records.map (line I)).map (· ++ [0x0A])).flatten

/-- The dictionary of a record. -/
def fields (I : Interp) (r : AuditRecord) : Json.Fields :=
  match r.to_json I with
  | .obj fields => fields
  | _ => []

/-- The record can be written. -/
def Writable (I : Interp) (r : AuditRecord) : Prop := Json.Renderable I (r.to_json I)

theorem writable_of_write {t : Task} {now : Time} {fault : Bool}
    (h : write_task_event I t now fault = .ok r) : Writable I r := by
  obtain rfl := write_task_event_record h
  unfold write_task_event at h
  split at h
  · cases h
  · obtain ⟨bytes, hbytes, -⟩ := bind_ok.mp h
    exact (Json.dumpsUtf8_ok_iff rfl _).mp ⟨bytes, liftBuiltin_ok.mp hbytes⟩

theorem leaf_fields (r : AuditRecord) : ∀ e ∈ fields I r, e.2.isLeaf = true := by
  have hcode : ((r.error_code.map Json.str).getD .null).isLeaf = true := by
    cases r.error_code <;> rfl
  have hduration : ((r.duration_sec.map Json.int).getD .null).isLeaf = true := by
    cases r.duration_sec <;> rfl
  have huser : r.telegram_user_id.to_json.isLeaf = true := by
    cases r.telegram_user_id <;> rfl
  simp only [fields, AuditRecord.to_json, List.forall_mem_cons, hcode, hduration, huser]
  simp [Json.isLeaf]

theorem distinctKeys_fields (r : AuditRecord) : Json.DistinctKeys (fields I r) := by
  show List.Nodup ["timestamp".py, "request_id".py, "task_id".py, "telegram_user_id".py,
    "user_role".py, "operation".py, "vehicle_number".py, "vehicle_ip".py, "result_state".py,
    "error_code".py, "duration_sec".py, "runner_mode".py, "risk_level".py, "state_changing".py,
    "cleanup_failed".py]
  decide +kernel

/-- A record has no float in it. -/
theorem nodes_fields {F : PyFloat → Prop} (r : AuditRecord) :
    Json.Nodes F Json.DistinctKeys (.obj (fields I r)) := by
  have hcode : Json.Nodes F Json.DistinctKeys ((r.error_code.map Json.str).getD .null) := by
    cases r.error_code <;> trivial
  have hduration : Json.Nodes F Json.DistinctKeys ((r.duration_sec.map Json.int).getD .null) := by
    cases r.duration_sec <;> trivial
  have huser : Json.Nodes F Json.DistinctKeys r.telegram_user_id.to_json := by
    cases r.telegram_user_id <;> trivial
  refine ⟨distinctKeys_fields r, Json.nodesFields_iff.mpr ?_⟩
  simp only [fields, AuditRecord.to_json, List.forall_mem_cons, hcode, hduration, huser]
  simp [Json.Nodes]

/-- A line can be told from the next one. -/
theorem newline_not_mem_line (r : AuditRecord) : 0x0A ∉ line I r := by
  intro hmem
  have hprintable := Json.printable_render (I := I) (o := lineOptions) (by decide) (by decide) _
    (nodes_fields (I := I) r)
  have hlow := (hprintable 0x0A hmem).1
  exact absurd hlow (by decide)

theorem depth_fields (r : AuditRecord) : (Json.obj (fields I r)).depth ≤ 1 := by
  have hleaf : ∀ x : Json, x.isLeaf = true → x.depth = 0 := by
    intro x hx
    cases x with
    | arr | obj => cases hx
    | _ => rfl
  have hmembers : Json.depthFields (fields I r) ≤ 0 :=
    Json.depthFields_le.mpr fun e he => (hleaf e.2 (leaf_fields r e he)).le
  rw [Json.depth]
  omega

/-- A line is read as its record. -/
theorem loads_line (h : Writable I r) :
    Json.loads I (line I r) = .ok (.obj (Json.sortFields (fields I r))) := by
  have hreadable : Json.Readable I (.obj (fields I r)) := ⟨h.leaves, nodes_fields r⟩
  have hdepth : (Json.obj (fields I r)).depth ≤ I.loads_depth :=
    (depth_fields r).trans (le_trans (by decide) I.loads_min)
  exact Json.loads_sorted ⟨⟨_, rfl, rfl⟩, ⟨_, rfl, rfl⟩, rfl⟩ rfl (leaf_fields r) hreadable hdepth

theorem scalar_line (h : Writable I r) : (line I r).Scalar :=
  ((Json.all_iff_render rfl _).mp h.leaves).2

/-- The file is the records, line by line. -/
theorem file_reads {records : List AuditRecord} (h : ∀ r ∈ records, Writable I r) :
    ∃ bytes text lines, file I records = some bytes ∧ Utf8.decode bytes = some text ∧
      text.splitOn 0x0A = lines ++ [[]] ∧
      lines.map (Json.loads I) =
        records.map fun r => .ok (.obj (Json.sortFields (fields I r))) := by
  have hscalar : PyStr.Scalar ((records.map (line I)).map (· ++ [0x0A])).flatten := by
    intro c hc
    obtain ⟨_, hl, hcl⟩ := List.mem_flatten.mp hc
    obtain ⟨_, hline, rfl⟩ := List.mem_map.mp hl
    obtain ⟨r, hr, rfl⟩ := List.mem_map.mp hline
    have hnewline : PyStr.Scalar [0x0A] := by decide
    exact PyStr.scalar_append.mpr ⟨scalar_line (h r hr), hnewline⟩ c hcl
  obtain ⟨bytes, hbytes⟩ := Option.isSome_iff_exists.mp ((Utf8.isSome_encode _).mpr hscalar)
  have hsplit := (PyStr.splitOn_lines_iff (x := 0x0A) (records.map (line I))).mpr fun l hl => by
    obtain ⟨r, -, rfl⟩ := List.mem_map.mp hl
    exact newline_not_mem_line r
  refine ⟨bytes, _, _, hbytes, Utf8.decode_encode hbytes, hsplit, ?_⟩
  rw [List.map_map]
  exact List.map_congr_left fun r hr => loads_line (h r hr)

end AuditLogger

namespace Worker

variable {I : Interp} {config : WorkerConfig}

/-- The records of a task are the one that its executor wrote when it ended,
    about the task as it is from then on. -/
structure OnFile (I : Interp) (x : Execution) (records : List AuditRecord) : Prop where
  pending : x.executor ≠ .ended → records = []
  written : ∀ r ∈ records, records = [r] ∧ x.task.state.terminal = true ∧
    AuditLogger.Writable I r ∧ ∃ now, r = AuditLogger.record x.task now

theorem OnFile.step {x x' : Execution} {a : Action} {written records : List AuditRecord}
    (hx : OnFile I x records) (h : Advance I config x a x' written) :
    OnFile I x' (records ++ written) := by
  cases hby : a.byRunner with
  | true =>
    obtain ⟨hpc, -, rfl, htask⟩ := runner_step h hby
    rw [List.append_nil]
    refine ⟨fun hopen => hx.pending (hpc ▸ hopen), fun r hr => ?_⟩
    obtain ⟨hone, hterm, hwritable, hrecord⟩ := hx.written r hr
    -- a runner that is still reporting finds the task finished
    have hsame : x'.task = x.task := by
      obtain htask | ⟨state, message, now, htask⟩ := htask
      · exact htask
      · rw [htask, report_state_terminal hterm]
    exact ⟨hone, hsame ▸ hterm, hwritable, hsame ▸ hrecord⟩
  | false =>
    obtain ⟨now, fault, -, hpc, hpc', htask, -, hw⟩ | ⟨hopen, hpc', -, rfl⟩ := executor_step h hby
    · have hnone : records = [] := hx.pending (by rw [hpc]; exact Executor.noConfusion)
      rw [hnone, hw, List.nil_append]
      refine ⟨fun hne => absurd hpc' hne, fun r hr => ?_⟩
      rw [htask]
      cases hwrite : AuditLogger.write_task_event I (at_close x.task now) now fault with
      | error e =>
        rw [hwrite] at hr
        cases hr
      | ok r' =>
        rw [hwrite] at hr
        obtain rfl := List.mem_singleton.mp hr
        exact ⟨rfl, terminal_at_close x.task now, AuditLogger.writable_of_write hwrite, now,
          AuditLogger.write_task_event_record hwrite⟩
    · have hnone : records = [] := hx.pending fun hended => by
        rw [hended] at hopen
        cases hopen
      rw [hnone, List.append_nil]
      exact ⟨fun _ => rfl, List.forall_mem_nil _⟩

/-- In every reachable state the records of a task are `OnFile`. -/
theorem records_on_file {s : State} (h : Lts.Reachable (worker I config) s) {id : PyStr} {x : Execution}
    (hx : s.view id = some x) : OnFile I x (s.records id) := by
  refine task_invariant (D := fun _ _ => true) (P := OnFile I) ?_ ?_ (star_runs h) hx
  · intro s payload env task vpn _
    exact ⟨fun _ => rfl, List.forall_mem_nil _⟩
  · intro x a x' written records _ hx hadv
    exact hx.step hadv

/-- In every run, whatever the runners did and whenever the file could not be
    written and was left as it was, the file can be read back: line for line it
    is the records, and each record is the only one about its task and agrees
    with the task. -/
theorem audit_file_reads_back {s : State} (h : Lts.Reachable (worker I config) s) :
    (∃ bytes text lines, AuditLogger.file I s.audit_log = some bytes ∧
      Utf8.decode bytes = some text ∧ text.splitOn 0x0A = lines ++ [[]] ∧
      lines.map (Json.loads I) = s.audit_log.map fun r =>
        .ok (.obj (Json.sortFields (AuditLogger.fields I r)))) ∧
    ∀ r ∈ s.audit_log, s.records r.task_id = [r] ∧ ∃ t now, s.service.task? r.task_id = some t ∧
      t.state.terminal = true ∧ r = AuditLogger.record t now := by
  have hfiled : ∀ r ∈ s.audit_log, ∃ x, s.view r.task_id = some x ∧ OnFile I x (s.records r.task_id) ∧
      r ∈ s.records r.task_id := by
    intro r hr
    have hwf := well_formed h
    obtain ⟨x, hx⟩ := Option.isSome_iff_exists.mp (hwf.isSome_view.mpr (hwf.records r hr))
    exact ⟨x, hx, records_on_file h hx, List.mem_filter.mpr ⟨hr, decide_eq_true rfl⟩⟩
  constructor
  · refine AuditLogger.file_reads fun r hr => ?_
    obtain ⟨x, -, hx, hmem⟩ := hfiled r hr
    exact (hx.written r hmem).2.2.1
  · intro r hr
    obtain ⟨x, hview, hx, hmem⟩ := hfiled r hr
    obtain ⟨hone, hterm, -, now, hrecord⟩ := hx.written r hmem
    exact ⟨hone, x.task, now, (view_eq_some.mp hview).2.1, hterm, hrecord⟩

theorem audit_file_reads_back_sample :
    let s := (worker sampleInterp sampleConfig).play (failedTask "vpn_client_error".py)
    s.audit_log.length = 1 ∧ ∃ bytes text lines,
      AuditLogger.file sampleInterp s.audit_log = some bytes ∧
      Utf8.decode bytes = some text ∧ text.splitOn 0x0A = lines ++ [[]] ∧
      lines.map (Json.loads sampleInterp) = s.audit_log.map fun r =>
        .ok (.obj (Json.sortFields (AuditLogger.fields sampleInterp r))) :=
  ⟨by decide +kernel, (audit_file_reads_back (Lts.reachable_play _)).1⟩

end Worker

end BoVpnAgent

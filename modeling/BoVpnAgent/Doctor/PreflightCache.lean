import BoVpnAgent.Doctor.VpnDoctor
import BoVpnAgent.Executors.LoginLines
import BoVpnAgent.Lib.JsonRoundTrip
import BoVpnAgent.Service

/-! # The preflight cache

    `cached_preflight` keeps the report of a preflight as JSON.  Reading it
    back, `report_from_dict` takes whatever has the shape of a report: fields
    are converted by `str` and `bool`, a missing list counts as empty.  Most
    other content makes it raise something that `cached_preflight` catches.

    This file shows that the report that was written is the one that is read,
    and says for every content what becomes of it.
-/

namespace BoVpnAgent.VpnDoctor

open ContainerNamespaceExecutor (universalNewlines)

/-! ### Reports as JSON -/

/-- One of the `checks` in `as_dict`. -/
def Check.as_item (check : Check) : Json :=
  .obj [("name".py, .str check.name), ("ok".py, .bool check.ok), ("detail".py, .str check.detail)]

/-- `Report.as_dict` -/
def Report.as_dict (report : Report) : Json :=
  .obj [("ok".py, .bool report.ok), ("checks".py, .arr (report.checks.map Check.as_item)),
    ("actions".py, .arr (report.actions.map .str))]

/-- What reading a report may raise. -/
inductive ReadError where
  | keyError (key : PyStr)
  | builtin (kind : Builtin)

/-- `isinstance(exc, (OSError, ValueError, KeyError, TypeError))` -/
def ReadError.caught : ReadError → Bool
  | keyError _ => true
  | builtin kind => kind = .osError || isValueError kind || kind = .typeError

/-- `item[key]` -/
def subscript (item : Json) (key : PyStr) : Except ReadError Json :=
  match item with
  | .obj fields =>
    match Json.get? fields key with
    | some value => .ok value
    | none => .error (.keyError key)
  | _ => .error (.builtin .typeError)

/-- `for item in payload.get(key, [])` -/
def items_of (fields : Json.Fields) (key : PyStr) : Except ReadError (List Json) :=
  match ((Json.get? fields key).getD (.arr [])).iter? with
  | some items => .ok items
  | none => .error (.builtin .typeError)

section reading

variable (I : Interp)

/-- `str(value)` -/
def str_of (value : Json) : Except ReadError PyStr := (Json.toStr I value).mapError .builtin

/-- `Check(str(item["name"]), bool(item["ok"]), str(item["detail"]))` -/
def check_of (item : Json) : Except ReadError Check := do
  let name ← subscript item "name".py
  let name ← str_of I name
  let ok ← subscript item "ok".py
  let detail ← subscript item "detail".py
  let detail ← str_of I detail
  return { name := name, ok := ok.truthy, detail := detail }

/-- `report_from_dict` -/
def report_from_dict (payload : Json) : Except ReadError Report :=
  match payload with
  | .obj fields => do
    let items ← items_of fields "checks".py
    let checks ← items.mapM (check_of I)
    let items ← items_of fields "actions".py
    let actions ← items.mapM (str_of I)
    return { checks := checks, actions := actions }
  | _ => .error (.builtin .attributeError)

/-- `cache_path.read_text(encoding="utf-8")` -/
def read_text (content : Bytes) : Except ReadError PyStr :=
  match Utf8.decode content with
  | some text => .ok (universalNewlines false text)
  | none => .error (.builtin .unicodeDecodeError)

/-- `json.loads(cache_path.read_text(encoding="utf-8"))` -/
def read_payload (content : Bytes) : Except ReadError Json := do
  let text ← read_text content
  (Json.loads I text).mapError .builtin

/-- What becomes of a cache file that is young enough. -/
inductive Reuse where
  /-- its report is returned -/
  | report (report : Report)
  /-- `doctor.preflight()` is called -/
  | inspect
  | raised (e : ReadError)

/-- The `try` of `cached_preflight` behind the age test. -/
def reuse (content : Bytes) : Reuse :=
  match read_payload I content >>= report_from_dict I with
  | .ok report => .report report
  | .error e => if e.caught then .inspect else .raised e

/-! ### The shape of a report -/

/-- The items of a list in the payload; a string and an object have items,
    too. -/
inductive Items (fields : Json.Fields) (key : PyStr) : List Json → Prop
  | missing (h : Json.get? fields key = none) : Items fields key []
  | list {items : List Json} (h : Json.get? fields key = some (.arr items)) :
    Items fields key items
  | keys {entries : Json.Fields} (h : Json.get? fields key = some (.obj entries)) :
    Items fields key (entries.map fun entry => .str entry.1)
  | characters {s : PyStr} (h : Json.get? fields key = some (.str s)) :
    Items fields key (s.map fun c => .str [c])

/-- An object with a name, an outcome and a detail, which are those of the
    check. -/
def IsCheck (item : Json) (check : Check) : Prop :=
  ∃ fields name ok detail, item = .obj fields ∧
    Json.get? fields "name".py = some name ∧ Json.toStr I name = .ok check.name ∧
    Json.get? fields "ok".py = some ok ∧ ok.truthy = check.ok ∧
    Json.get? fields "detail".py = some detail ∧ Json.toStr I detail = .ok check.detail

/-- An object with the checks and the actions of the report. -/
def IsReport (payload : Json) (report : Report) : Prop :=
  ∃ fields checks actions, payload = .obj fields ∧
    Items fields "checks".py checks ∧ List.Forall₂ (IsCheck I) checks report.checks ∧
    Items fields "actions".py actions ∧
    List.Forall₂ (fun item action => Json.toStr I item = .ok action) actions report.actions

theorem items_of_ok {fields : Json.Fields} {key : PyStr} {items : List Json} :
    items_of fields key = .ok items ↔ Items fields key items := by
  constructor
  · intro h
    unfold items_of at h
    cases hvalue : Json.get? fields key with
    | none =>
      rw [hvalue] at h
      cases h
      exact .missing hvalue
    | some value =>
      rw [hvalue] at h
      cases value with
      | str s =>
        cases h
        exact .characters hvalue
      | arr xs =>
        cases h
        exact .list hvalue
      | obj entries =>
        cases h
        exact .keys hvalue
      | _ => cases h
  · intro h
    unfold items_of
    cases h with
    | missing h => rw [h]; rfl
    | list h => rw [h]; rfl
    | keys h => rw [h]; rfl
    | characters h => rw [h]; rfl

theorem subscript_ok {item value : Json} {key : PyStr} :
    subscript item key = .ok value ↔
      ∃ fields, item = .obj fields ∧ Json.get? fields key = some value := by
  cases item with
  | obj fields => cases hvalue : Json.get? fields key <;> simp [subscript, hvalue]
  | _ => simp [subscript]

variable {I}

theorem str_of_ok {value : Json} {text : PyStr} :
    str_of I value = .ok text ↔ Json.toStr I value = .ok text := by
  unfold str_of
  cases Json.toStr I value <;> simp [Except.mapError]

theorem check_of_ok {item : Json} {check : Check} :
    check_of I item = .ok check ↔ IsCheck I item check := by
  simp only [check_of, bind_ok, subscript_ok, str_of_ok]
  constructor
  · rintro ⟨_, ⟨fields, rfl, hname⟩, _, htext, _, ⟨_, hfields, hok⟩, _, ⟨_, hfields', hdetail⟩,
      _, htext', h⟩
    cases hfields
    cases hfields'
    cases h
    exact ⟨fields, _, _, _, rfl, hname, htext, hok, rfl, hdetail, htext'⟩
  · rintro ⟨fields, name, ok, detail, rfl, hname, htext, hok, htruthy, hdetail, htext'⟩
    refine ⟨name, ⟨fields, rfl, hname⟩, _, htext, ok, ⟨fields, rfl, hok⟩, detail,
      ⟨fields, rfl, hdetail⟩, _, htext', ?_⟩
    rw [htruthy]
    rfl

theorem mapM_ok {α β ε : Type} {f : α → Except ε β} {xs : List α} {ys : List β} :
    xs.mapM f = .ok ys ↔ List.Forall₂ (fun x y => f x = .ok y) xs ys := by
  induction xs generalizing ys with
  | nil =>
    rw [List.mapM_nil, List.forall₂_nil_left_iff]
    exact ⟨fun h => (Except.ok.inj h).symm, fun h => congrArg _ h.symm⟩
  | cons x xs ih =>
    simp only [List.mapM_cons, bind_ok, ih, List.forall₂_cons_left_iff]
    constructor
    · rintro ⟨y, hy, ys', hys, h⟩
      exact ⟨y, ys', hy, hys, (Except.ok.inj h).symm⟩
    · rintro ⟨y, ys', hy, hys, rfl⟩
      exact ⟨y, hy, ys', hys, rfl⟩

theorem report_from_dict_ok {payload : Json} {report : Report} :
    report_from_dict I payload = .ok report ↔ IsReport I payload report := by
  cases payload with
  | obj fields =>
    simp only [report_from_dict, bind_ok, items_of_ok, mapM_ok, check_of_ok, str_of_ok]
    constructor
    · rintro ⟨checks, hchecks, _, hall, actions, hactions, _, hall', h⟩
      cases h
      exact ⟨fields, checks, actions, rfl, hchecks, hall, hactions, hall'⟩
    · rintro ⟨_, checks, actions, h, hchecks, hall, hactions, hall'⟩
      cases h
      exact ⟨checks, hchecks, _, hall, actions, hactions, _, hall', rfl⟩
  | _ =>
    constructor
    · intro h
      cases h
    · rintro ⟨_, _, _, h, -⟩
      cases h

/-! ### What is written -/

/-- The payload is `as_dict` of the check, the fields in any order. -/
def Check.Dict (check : Check) (payload : Json) : Prop :=
  ∃ fields, payload = .obj fields ∧
    fields.Perm [("name".py, .str check.name), ("ok".py, .bool check.ok),
      ("detail".py, .str check.detail)]

/-- The payload is `as_dict` of the report, the fields of its objects in any
    order. -/
def Report.Dict (report : Report) (payload : Json) : Prop :=
  ∃ fields checks, payload = .obj fields ∧
    List.Forall₂ (fun payload check => check.Dict payload) checks report.checks ∧
    fields.Perm [("ok".py, .bool report.ok), ("checks".py, .arr checks),
      ("actions".py, .arr (report.actions.map .str))]

theorem Report.dict_as_dict (report : Report) : report.Dict report.as_dict := by
  refine ⟨_, _, rfl, ?_, List.Perm.refl _⟩
  rw [List.forall₂_map_left_iff]
  exact List.forall₂_same.mpr fun check _ => ⟨_, rfl, List.Perm.refl _⟩

/-- A dictionary has the same values in any order. -/
theorem get?_perm {fields fields' : Json.Fields} (h : fields.Perm fields')
    (hkeys : (fields'.map Prod.fst).Nodup) (key : PyStr) :
    Json.get? fields key = Json.get? fields' key := by
  have hkeys' : (fields.map Prod.fst).Nodup := (h.map Prod.fst).nodup_iff.mpr hkeys
  refine Option.ext fun value => ?_
  show Dict.lookup key fields = some value ↔ Dict.lookup key fields' = some value
  rw [← Dict.mem_iff_lookup hkeys', ← Dict.mem_iff_lookup hkeys]
  exact h.mem_iff

theorem Check.Dict.isCheck {check : Check} {payload : Json} (h : check.Dict payload) :
    IsCheck I payload check := by
  obtain ⟨fields, rfl, hperm⟩ := h
  have hget := get?_perm hperm (by decide : ["name".py, "ok".py, "detail".py].Nodup)
  exact ⟨fields, .str check.name, .bool check.ok, .str check.detail, rfl, hget _, rfl, hget _, rfl,
    hget _, rfl⟩

theorem Report.Dict.isReport {report : Report} {payload : Json} (h : report.Dict payload) :
    IsReport I payload report := by
  obtain ⟨fields, checks, rfl, hchecks, hperm⟩ := h
  have hget := get?_perm hperm (by decide : ["ok".py, "checks".py, "actions".py].Nodup)
  refine ⟨fields, checks, report.actions.map .str, rfl, .list (hget _), ?_, .list (hget _), ?_⟩
  · exact hchecks.imp fun _ _ hcheck => hcheck.isCheck
  · rw [List.forall₂_map_left_iff]
    exact List.forall₂_same.mpr fun _ _ => rfl

/-! ### What is caught -/

/-- Whatever is raised, `cached_preflight` catches it. -/
def Handled {α : Type} (x : Except ReadError α) : Prop := ∀ e, x = .error e → e.caught = true

section handled

variable {α β : Type}

theorem handled_ok (a : α) : Handled (.ok a) := nofun

theorem handled_error {e : ReadError} (h : e.caught = true) : Handled (α := α) (.error e) := by
  intro e' he'
  rwa [← Except.error.inj he']

theorem Handled.bind {x : Except ReadError α} {f : α → Except ReadError β} (hx : Handled x)
    (hf : ∀ a, Handled (f a)) : Handled (x >>= f) := by
  intro e he
  obtain he | ⟨a, -, he⟩ := bind_error.mp he
  · exact hx e he
  · exact hf a e he

theorem Handled.mapM {f : α → Except ReadError β} (hf : ∀ a, Handled (f a)) (xs : List α) :
    Handled (xs.mapM f) := by
  induction xs with
  | nil => exact handled_ok []
  | cons x xs ih =>
    rw [List.mapM_cons]
    exact (hf x).bind fun y => ih.bind fun ys => handled_ok (y :: ys)

end handled

theorem str_of_handled (value : Json) : Handled (str_of I value) := by
  unfold str_of Json.toStr
  split
  · exact handled_ok _
  · exact handled_error rfl

theorem subscript_handled (item : Json) (key : PyStr) : Handled (subscript item key) := by
  cases item with
  | obj fields =>
    rw [subscript]
    cases Json.get? fields key with
    | none => exact handled_error rfl
    | some value => exact handled_ok value
  | _ => exact handled_error rfl

theorem items_of_handled (fields : Json.Fields) (key : PyStr) : Handled (items_of fields key) := by
  unfold items_of
  split
  · exact handled_ok _
  · exact handled_error rfl

theorem check_of_handled (item : Json) : Handled (check_of I item) :=
  (subscript_handled item _).bind fun name => (str_of_handled name).bind fun _ =>
    (subscript_handled item _).bind fun _ => (subscript_handled item _).bind fun detail =>
      (str_of_handled detail).bind fun _ => handled_ok _

/-- Only a payload that is no object makes `report_from_dict` raise what is
    not caught. -/
theorem report_from_dict_handled (fields : Json.Fields) :
    Handled (report_from_dict I (.obj fields)) :=
  (items_of_handled fields _).bind fun checks =>
    (Handled.mapM check_of_handled checks).bind fun _ =>
      (items_of_handled fields _).bind fun actions =>
        (Handled.mapM str_of_handled actions).bind fun _ => handled_ok _

theorem loads_error {text : PyStr} {kind : Builtin} (h : Json.loads I text = .error kind) :
    kind = .recursionError ∨ isValueError kind = true := by
  unfold Json.loads at h
  split at h
  · cases h
    exact .inr rfl
  · split at h
    · next e _ =>
      cases h
      cases e with
      | badSyntax => exact .inr rfl
      | digits => exact .inr rfl
      | nesting => exact .inl rfl
      | fuel => exact .inl rfl
    · split at h
      · cases h
      · cases h
        exact .inr rfl

/-- Of what `json.loads` raises, only a `RecursionError` is not caught. -/
theorem loads_handled {text : PyStr} (h : Json.loads I text ≠ .error .recursionError) :
    Handled ((Json.loads I text).mapError .builtin) := by
  cases hloads : Json.loads I text with
  | ok payload => exact handled_ok payload
  | error kind =>
    apply handled_error
    obtain rfl | hvalue := loads_error hloads
    · exact absurd hloads h
    · simp [ReadError.caught, hvalue]

/-! ### What becomes of the content -/

section content

variable (I)

/-- The content is a JSON text, in UTF-8, with this value. -/
def Reads (content : Bytes) (payload : Json) : Prop :=
  ∃ text, Utf8.decode content = some text ∧ Json.loads I (universalNewlines false text) = .ok payload

/-- The content is the JSON of `as_dict` of the report. -/
def Encodes (content : Bytes) (report : Report) : Prop :=
  ∃ payload, Reads I content payload ∧ report.Dict payload

/-- The content is the JSON of an object with the shape of the report. -/
def Describes (content : Bytes) (report : Report) : Prop :=
  ∃ payload, Reads I content payload ∧ IsReport I payload report

/-- The content is the JSON of something other than an object, or nested too
    deep to be read. -/
def Foreign (content : Bytes) : Prop :=
  (∃ payload, Reads I content payload ∧ payload.isObj = false) ∨
    ∃ text, Utf8.decode content = some text ∧
      Json.loads I (universalNewlines false text) = .error .recursionError

end content

theorem read_payload_ok {content : Bytes} {payload : Json} :
    read_payload I content = .ok payload ↔ Reads I content payload := by
  have hloads : ∀ text, (Json.loads I text).mapError ReadError.builtin = .ok payload ↔
      Json.loads I text = .ok payload := by
    intro text
    cases Json.loads I text <;> simp [Except.mapError]
  unfold read_payload read_text Reads
  simp only [bind_ok, hloads]
  cases Utf8.decode content <;> simp

theorem Encodes.describes {content : Bytes} {report : Report} (h : Encodes I content report) :
    Describes I content report := by
  obtain ⟨payload, hreads, hdict⟩ := h
  exact ⟨payload, hreads, hdict.isReport⟩

/-- The report that the content describes is the one that is returned. -/
theorem reuse_eq_report {content : Bytes} {report : Report} :
    reuse I content = .report report ↔ Describes I content report := by
  have hread : read_payload I content >>= report_from_dict I = .ok report ↔
      Describes I content report := by
    simp only [bind_ok, read_payload_ok, report_from_dict_ok]
    rfl
  rw [← hread]
  unfold reuse
  cases read_payload I content >>= report_from_dict I with
  | ok report' => simp
  | error e => cases hcaught : e.caught <;> simp [hcaught]

/-- What is read is caught when it is not a report. -/
theorem read_handled {content : Bytes} (h : ¬Foreign I content) :
    Handled (read_payload I content >>= report_from_dict I) := by
  intro e he
  obtain he | ⟨payload, hpayload, he⟩ := bind_error.mp he
  · unfold read_payload read_text at he
    cases htext : Utf8.decode content with
    | none =>
      rw [htext] at he
      cases he
      rfl
    | some text =>
      rw [htext] at he
      exact loads_handled (fun hdeep => h (.inr ⟨text, htext, hdeep⟩)) e he
  · cases payload with
    | obj fields => exact report_from_dict_handled fields e he
    | _ => exact absurd (.inl ⟨_, read_payload_ok.mp hpayload, rfl⟩) h

/-- Everything else makes for a fresh preflight. -/
theorem reuse_eq_inspect {content : Bytes} (h : ¬Foreign I content)
    (hno : ¬∃ report, Describes I content report) : reuse I content = .inspect := by
  have hhandled := read_handled h
  have hreport : ∀ report, reuse I content ≠ .report report :=
    fun report hreport => hno ⟨report, reuse_eq_report.mp hreport⟩
  unfold reuse at hreport ⊢
  cases hread : read_payload I content >>= report_from_dict I with
  | ok report =>
    rw [hread] at hreport
    exact absurd rfl (hreport report)
  | error e => simp [hhandled e hread]

end reading

/-- The report that is written is the report that is read.  The content of a
    young cache file gives the report that it describes, and a fresh preflight
    when it describes none. -/
theorem cache_read (I : Interp) :
    (∀ report : Report, report_from_dict I report.as_dict = .ok report) ∧
    (∀ content report, Encodes I content report → reuse I content = .report report) ∧
    (∀ content report, reuse I content = .report report ↔ Describes I content report) ∧
    ∀ content, ¬Foreign I content → (¬∃ report, Describes I content report) →
      reuse I content = .inspect := by
  refine ⟨?_, ?_, ?_, ?_⟩
  · intro report
    exact report_from_dict_ok.mpr report.dict_as_dict.isReport
  · intro content report h
    exact reuse_eq_report.mpr h.describes
  · intro content report
    exact reuse_eq_report
  · intro content hforeign hno
    exact reuse_eq_inspect hforeign hno

/-- `{"checks":1}` -/
def countedChecks : Bytes :=
  [0x7B, 0x22, 0x63, 0x68, 0x65, 0x63, 0x6B, 0x73, 0x22, 0x3A, 0x31, 0x7D]

theorem cache_read_sample : reuse sampleInterp countedChecks = .inspect := by
  have hread : read_payload sampleInterp countedChecks = .ok (.obj [("checks".py, .int 1)]) := rfl
  have hpayload : ∀ payload, Reads sampleInterp countedChecks payload →
      payload = .obj [("checks".py, .int 1)] :=
    fun payload h => Except.ok.inj ((read_payload_ok.mpr h).symm.trans hread)
  apply (cache_read sampleInterp).2.2.2
  · rintro (⟨payload, hreads, hobj⟩ | ⟨text, htext, hdeep⟩)
    · rw [hpayload payload hreads] at hobj
      cases hobj
    · unfold read_payload read_text at hread
      rw [htext] at hread
      cases hread.symm.trans (congrArg (Except.mapError ReadError.builtin) hdeep)
  · rintro ⟨report, payload, hreads, hreport⟩
    rw [hpayload payload hreads] at hreport
    cases report_from_dict_ok.mpr hreport

/-- `{}` is not written by any report, and read as a healthy one. -/
theorem empty_object_accepted :
    reuse sampleInterp [0x7B, 0x7D] = .report {} ∧ Report.ok {} = true ∧
      ¬∃ report, Encodes sampleInterp [0x7B, 0x7D] report := by
  refine ⟨rfl, rfl, ?_⟩
  rintro ⟨report, payload, hreads, fields, checks, rfl, -, hperm⟩
  have hread : read_payload sampleInterp [0x7B, 0x7D] = .ok (.obj []) := rfl
  cases (read_payload_ok.mpr hreads).symm.trans hread
  exact absurd hperm.length_eq (by simp)

end BoVpnAgent.VpnDoctor

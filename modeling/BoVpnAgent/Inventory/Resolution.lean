import BoVpnAgent.VehicleInventory
import Mathlib.Data.List.Perm.Basic

/-! # Resolving a vehicle

    What the two entry points of the inventory give back, said of the records
    as a collection: which field decides, which record is the only one that
    equals the query there, and which error is raised when there is none.  So
    the order of the rows does not matter, as long as every row can be loaded.
-/

namespace BoVpnAgent.VehicleInventory

/-! ### Which record is meant -/

/-- The record equals the query in this field, up to whitespace. -/
def Equals (record : VehicleInventoryRecord) (field : IdentifierField) (query : PyStr) : Prop :=
  normalize_identifier (record.get field).val = normalize_identifier query

instance (record : VehicleInventoryRecord) (field : IdentifierField) (query : PyStr) :
    Decidable (Equals record field query) := inferInstanceAs (Decidable (_ = _))

/-- The first field on which some record equals the query. -/
def DecidingField (records : List VehicleInventoryRecord) (query : PyStr)
    (field : IdentifierField) : Prop :=
  (∃ record ∈ records, Equals record field query) ∧
  ∃ before after, IdentifierField.all = before ++ field :: after ∧
    ∀ earlier ∈ before, ∀ record ∈ records, ¬ Equals record earlier query

/-- The lookup raises a `WorkerError` with this code. -/
def Raises (result : Except WorkerError VehicleInventoryRecord) (code : String) : Prop :=
  ∃ e, result = .error e ∧ e.error_code = code.py

/-- A lookup by the fields with `decides` does what it should. -/
structure Exact (decides : IdentifierField → Prop) (records : List VehicleInventoryRecord)
    (query : PyStr) (result : Except WorkerError VehicleInventoryRecord) : Prop where
  returned : ∀ r, result = .ok r ↔ ∃ field, decides field ∧
    (records.filter fun record => Equals record field query) = [r] ∧ IpAddress.isAddress r.ip.val = true
  ambiguous : Raises result "vehicle_inventory_ambiguous" ↔ ∃ field, decides field ∧
    2 ≤ (records.filter fun record => Equals record field query).length
  not_found : Raises result "vehicle_ip_not_found" ↔ (∀ r, result ≠ .ok r) ∧
    ¬ Raises result "vehicle_inventory_ambiguous"

theorem Exact.congr {decides decides' : IdentifierField → Prop}
    {records : List VehicleInventoryRecord} {query : PyStr}
    {result : Except WorkerError VehicleInventoryRecord} (h : Exact decides records query result)
    (hdecides : ∀ field, decides field ↔ decides' field) : Exact decides' records query result := by
  have heq : decides = decides' := funext fun field => propext (hdecides field)
  exact heq ▸ h

theorem raises_error {e : WorkerError} {code : String} :
    Raises (.error e) code ↔ e.error_code = code.py := by
  constructor
  · intro ⟨e', he, hcode⟩
    rw [Except.error.inj he]
    exact hcode
  · intro h
    exact ⟨e, rfl, h⟩

theorem not_raises_ok {r : VehicleInventoryRecord} {code : String} : ¬ Raises (.ok r) code := by
  intro ⟨e, he, _⟩
  cases he

/-- An error with the code of a missing vehicle. -/
theorem raises_notFound (message : PyStr) :
    Raises (.error (notFound message)) "vehicle_ip_not_found" ∧
      ¬ Raises (.error (notFound message)) "vehicle_inventory_ambiguous" := by
  rw [raises_error, raises_error]
  have hcodes : "vehicle_ip_not_found".py ≠ "vehicle_inventory_ambiguous".py := by decide
  exact ⟨rfl, hcodes⟩

/-! ### One field -/

section field

variable (records : List VehicleInventoryRecord) (query : PyStr)

/-- The lookup by one field. -/
def byField (field : IdentifierField) : Except WorkerError VehicleInventoryRecord :=
  (unique? (matching records field (normalize_identifier query))).getD
    (.error (notFound "Vehicle IP not found in inventory".py))

/-- No field decides: no vehicle is found. -/
theorem exact_nothing {decides : IdentifierField → Prop} (message : PyStr)
    (h : ∀ field, decides field → (records.filter fun record => Equals record field query) = []) :
    Exact decides records query (.error (notFound message)) := by
  obtain ⟨hfound, hambiguous⟩ := raises_notFound message
  constructor
  · intro r
    apply iff_of_false
    · intro hok
      cases hok
    · intro ⟨field, hfield, hone, _⟩
      rw [h field hfield] at hone
      cases hone
  · apply iff_of_false hambiguous
    intro ⟨field, hfield, hmany⟩
    rw [h field hfield] at hmany
    exact absurd hmany (by decide)
  · refine iff_of_true hfound ⟨?_, hambiguous⟩
    intro r hok
    cases hok

/-- One match: its address decides. -/
theorem exact_of_one {field : IdentifierField} {r : VehicleInventoryRecord}
    (hmatches : (records.filter fun record => Equals record field query) = [r]) :
    Exact (· = field) records query (validate_resolved_record r) := by
  unfold validate_resolved_record
  by_cases haddress : IpAddress.isAddress r.ip.val = true
  · rw [if_pos haddress]
    constructor
    · intro r'
      constructor
      · intro hok
        rw [← Except.ok.inj hok]
        exact ⟨field, rfl, hmatches, haddress⟩
      · intro ⟨field', hfield, hone, _⟩
        rw [hfield, hmatches] at hone
        rw [(List.cons.inj hone).1]
    · apply iff_of_false not_raises_ok
      intro ⟨field', hfield, hmany⟩
      rw [hfield, hmatches] at hmany
      exact absurd hmany (by simp)
    · apply iff_of_false not_raises_ok
      intro ⟨hno, _⟩
      exact hno r rfl
  · rw [if_neg haddress]
    obtain ⟨hfound, hambiguous⟩ := raises_notFound "Vehicle inventory record has invalid IP".py
    constructor
    · intro r'
      apply iff_of_false
      · intro hok
        cases hok
      · intro ⟨field', hfield, hone, hvalid⟩
        rw [hfield, hmatches] at hone
        rw [← (List.cons.inj hone).1] at hvalid
        exact haddress hvalid
    · apply iff_of_false hambiguous
      intro ⟨field', hfield, hmany⟩
      rw [hfield, hmatches] at hmany
      exact absurd hmany (by simp)
    · refine iff_of_true hfound ⟨?_, hambiguous⟩
      intro r' hok
      cases hok

/-- Several matches, whatever their addresses. -/
theorem exact_of_many {field : IdentifierField} {r r' : VehicleInventoryRecord}
    {rest : List VehicleInventoryRecord}
    (hmatches : (records.filter fun record => Equals record field query) = r :: r' :: rest) :
    Exact (· = field) records query
      ((unique? (r :: r' :: rest)).getD (.error (notFound "Vehicle IP not found in inventory".py))) := by
  have hambiguous : Raises
      ((unique? (r :: r' :: rest)).getD (.error (notFound "Vehicle IP not found in inventory".py)))
      "vehicle_inventory_ambiguous" := raises_error.mpr rfl
  constructor
  · intro r₀
    apply iff_of_false
    · intro hok
      cases hok
    · intro ⟨field', hfield, hone, _⟩
      rw [hfield, hmatches] at hone
      cases hone
  · apply iff_of_true hambiguous
    refine ⟨field, rfl, ?_⟩
    rw [hmatches]
    simp
  · apply iff_of_false
    · intro hfound
      exact absurd (raises_error.mp hfound) (by decide)
    · intro ⟨_, hno⟩
      exact hno hambiguous

/-- The lookup by one field counts the matches in it. -/
theorem exact_byField (field : IdentifierField) :
    Exact (· = field) records query (byField records query field) := by
  have hmatching : matching records field (normalize_identifier query) =
      records.filter fun record => Equals record field query := rfl
  unfold byField
  rw [hmatching]
  cases hmatches : records.filter fun record => Equals record field query with
  | nil =>
    apply exact_nothing
    intro field' hfield
    rw [hfield]
    exact hmatches
  | cons r rest =>
    cases rest with
    | nil => exact exact_of_one records query hmatches
    | cons r' rest => exact exact_of_many records query hmatches

end field

/-! ### The two entry points -/

section resolve

variable {file : InventoryFile} {records : List VehicleInventoryRecord}

/-- The lookups of `resolve_query` stop at the field that decides. -/
theorem findSome?_unique (records : List VehicleInventoryRecord) (query : PyStr)
    (fields : List IdentifierField) :
    (fields.findSome? fun field => unique? (matching records field query)) =
      (fields.find? fun field => matching records field query ≠ []).bind fun field =>
        unique? (matching records field query) := by
  induction fields with
  | nil => rfl
  | cons field fields ih =>
    rw [List.findSome?_cons, List.find?_cons]
    cases hmatching : matching records field query with
    | nil =>
      rw [ih]
      rfl
    | cons r rest =>
      have hsome : ∃ result, unique? (r :: rest) = some result := by
        cases rest with
        | nil => exact ⟨_, rfl⟩
        | cons r' rest => exact ⟨_, rfl⟩
      obtain ⟨result, hresult⟩ := hsome
      rw [hresult]
      show some result = unique? (matching records field query)
      rw [hmatching, hresult]

/-- The field at which they stop. -/
theorem find?_eq_some_iff (records : List VehicleInventoryRecord) (query : PyStr)
    (field : IdentifierField) :
    (IdentifierField.all.find? fun field => matching records field (normalize_identifier query) ≠ []) =
      some field ↔ DecidingField records query field := by
  have hmatch : ∀ field, matching records field (normalize_identifier query) ≠ [] ↔
      ∃ record ∈ records, Equals record field query := by
    intro field
    unfold matching
    rw [ne_eq, List.filter_eq_nil_iff]
    simp only [decide_eq_true_eq, not_forall, not_not, exists_prop]
    rfl
  rw [List.find?_eq_some_iff_append]
  simp only [decide_eq_true_eq, Bool.not_eq_true', decide_eq_false_iff_not, hmatch, not_exists,
    not_and]
  rfl

/-- A query that is not blank. -/
theorem exact_resolve_query (hload : load_records file = .ok records) {query : PyStr}
    (hquery : normalize_identifier query ≠ []) :
    Exact (DecidingField records query) records query (resolve_query file query) := by
  have hresult : resolve_query file query =
      ((IdentifierField.all.find? fun field =>
        matching records field (normalize_identifier query) ≠ []).bind fun field =>
          unique? (matching records field (normalize_identifier query))).getD
        (.error (notFound "Vehicle IP not found in inventory".py)) := by
    unfold resolve_query
    rw [if_neg hquery, hload, ← findSome?_unique]
    rfl
  rw [hresult]
  cases hfind : IdentifierField.all.find? fun field =>
      matching records field (normalize_identifier query) ≠ [] with
  | none =>
    apply exact_nothing
    intro field hdecides
    rw [← find?_eq_some_iff, hfind] at hdecides
    cases hdecides
  | some field =>
    apply (exact_byField records query field).congr
    intro field'
    rw [← find?_eq_some_iff, hfind, Option.some.injEq, eq_comm]

/-- A blank query finds nothing. -/
theorem resolve_query_blank {query : PyStr} (hquery : normalize_identifier query = []) :
    Raises (resolve_query file query) "vehicle_ip_not_found" := by
  unfold resolve_query
  rw [if_pos hquery]
  exact (raises_notFound _).1

/-- `field` is the first identifier field of the request with a text. -/
def FirstText (vehicle : Json.Fields) (field : IdentifierField) (value : PyStr) : Prop :=
  text? vehicle field.name = some value ∧
  ∃ before after, IdentifierField.all = before ++ field :: after ∧
    ∀ earlier ∈ before, text? vehicle earlier.name = none

/-- A request with an identifier is looked up by that identifier alone. -/
theorem resolve_vehicle_first {vehicle : Json.Fields} {field : IdentifierField} {value : PyStr}
    (hfirst : FirstText vehicle field value) :
    resolve_vehicle file vehicle = resolve_by_field file field value := by
  obtain ⟨htext, before, after, hall, hearlier⟩ := hfirst
  have hfind : (IdentifierField.all.findSome? fun field =>
      (text? vehicle field.name).map fun value => (field, value)) = some (field, value) := by
    rw [List.findSome?_eq_some_iff]
    refine ⟨before, field, after, hall, ?_, ?_⟩
    · rw [htext]
      rfl
    · intro earlier hmem
      rw [hearlier earlier hmem]
      rfl
  unfold resolve_vehicle
  rw [hfind]

theorem exact_resolve_vehicle (hload : load_records file = .ok records) {vehicle : Json.Fields}
    {field : IdentifierField} {value : PyStr} (hfirst : FirstText vehicle field value) :
    Exact (· = field) records value (resolve_vehicle file vehicle) := by
  have hresult : resolve_vehicle file vehicle = byField records value field := by
    rw [resolve_vehicle_first hfirst]
    unfold resolve_by_field
    rw [hload]
    rfl
  rw [hresult]
  exact exact_byField records value field

/-- A request without one is looked up by its number. -/
theorem resolve_vehicle_number {vehicle : Json.Fields}
    (hblank : ∀ field : IdentifierField, text? vehicle field.name = none) :
    (∀ number, text? vehicle "number" = some number →
      resolve_vehicle file vehicle = resolve_query file number) ∧
    (text? vehicle "number" = none → Raises (resolve_vehicle file vehicle) "vehicle_ip_not_found") := by
  have hfind : (IdentifierField.all.findSome? fun field =>
      (text? vehicle field.name).map fun value => (field, value)) = none := by
    rw [List.findSome?_eq_none_iff]
    intro field _
    rw [hblank field]
    rfl
  unfold resolve_vehicle
  rw [hfind]
  constructor
  · intro number hnumber
    rw [hnumber]
  · intro hnumber
    rw [hnumber]
    exact (raises_notFound _).1

end resolve

/-! ### The rows of the file -/

/-- The row has an address and an identifier. -/
def Loads (row : CsvRow) : Prop :=
  (column row "ip").val ≠ [] ∧ ∃ field : IdentifierField, (column row field.name).val ≠ []

/-- The record of a row. -/
def rowRecord (row : CsvRow) : VehicleInventoryRecord where
  garage_number := column row "garage_number"
  vehicle_id := column row "vehicle_id"
  plate := column row "plate"
  ip := column row "ip"
  optional := OPTIONAL_FIELDS.map fun key => (key, column row key)

@[simp] theorem get_rowRecord (row : CsvRow) (field : IdentifierField) :
    (rowRecord row).get field = column row field.name := by
  cases field <;> rfl

/-- A row is loaded as its record, whatever its number. -/
theorem record_from_row_loads {row : CsvRow} (h : Loads row) (n : Nat) :
    record_from_row row n = .ok (rowRecord row) := by
  obtain ⟨hip, field, hfield⟩ := h
  have hsome : ¬ (IdentifierField.all.all fun field => ((rowRecord row).get field).val = []) = true := by
    intro hall
    have hmem : field ∈ IdentifierField.all := by cases field <;> decide
    have hempty := List.all_eq_true.mp hall field hmem
    rw [get_rowRecord, decide_eq_true_eq] at hempty
    exact hfield hempty
  exact (if_neg hip).trans (if_neg hsome)

/-- Any other row stops the loading. -/
theorem record_from_row_fails {row : CsvRow} (h : ¬ Loads row) (n : Nat) :
    ∃ e, record_from_row row n = .error e := by
  unfold Loads at h
  by_cases hip : (column row "ip").val = []
  · exact ⟨_, if_pos hip⟩
  · have hall : (IdentifierField.all.all fun field => ((rowRecord row).get field).val = []) = true := by
      apply List.all_eq_true.mpr
      intro field _
      by_contra hfield
      apply h
      rw [get_rowRecord, decide_eq_true_eq] at hfield
      exact ⟨hip, field, hfield⟩
    exact ⟨_, (if_neg hip).trans (if_pos hall)⟩

theorem records_from_loads {rows : List CsvRow} (h : ∀ row ∈ rows, Loads row) (n : Nat) :
    records_from n rows = .ok (rows.map rowRecord) := by
  induction rows generalizing n with
  | nil => rfl
  | cons row rows ih =>
    obtain ⟨hrow, hrows⟩ := List.forall_mem_cons.mp h
    unfold records_from
    rw [record_from_row_loads hrow, ih hrows]
    rfl

/-- The first row that cannot be loaded gives the error. -/
theorem records_from_fails {good : List CsvRow} {bad : CsvRow} (hgood : ∀ row ∈ good, Loads row)
    (hbad : ¬ Loads bad) (rest : List CsvRow) (n : Nat) :
    ∃ e, record_from_row bad (good.length + n) = .error e ∧
      records_from n (good ++ bad :: rest) = .error e := by
  induction good generalizing n with
  | nil =>
    obtain ⟨e, he⟩ := record_from_row_fails hbad n
    refine ⟨e, by rw [List.length_nil, Nat.zero_add]; exact he, ?_⟩
    rw [List.nil_append, records_from, he]
    rfl
  | cons row good ih =>
    obtain ⟨hrow, hgood⟩ := List.forall_mem_cons.mp hgood
    obtain ⟨e, he, hrest⟩ := ih hgood (n + 1)
    refine ⟨e, ?_, ?_⟩
    · rw [List.length_cons, Nat.add_assoc, Nat.add_comm 1 n]
      exact he
    · rw [List.cons_append, records_from, record_from_row_loads hrow, hrest]
      rfl

/-- A row that cannot be loaded has a first such row before it. -/
theorem exists_first_bad {rows : List CsvRow} (h : ¬ ∀ row ∈ rows, Loads row) :
    ∃ good bad rest, rows = good ++ bad :: rest ∧ (∀ row ∈ good, Loads row) ∧ ¬ Loads bad := by
  induction rows with
  | nil => exact absurd (List.forall_mem_nil _) h
  | cons row rows ih =>
    by_cases hrow : Loads row
    · have hrows : ¬ ∀ row ∈ rows, Loads row := by
        intro hrows
        exact h (List.forall_mem_cons.mpr ⟨hrow, hrows⟩)
      obtain ⟨good, bad, rest, heq, hgood, hbad⟩ := ih hrows
      refine ⟨row :: good, bad, rest, ?_, List.forall_mem_cons.mpr ⟨hrow, hgood⟩, hbad⟩
      rw [heq]
      rfl
    · exact ⟨[], row, rows, rfl, List.forall_mem_nil _, hrow⟩

/-- A file is loaded exactly when each of its rows is. -/
theorem load_records_ok_iff {rows : List CsvRow} {records : List VehicleInventoryRecord} :
    load_records (some rows) = .ok records ↔
      (∀ row ∈ rows, Loads row) ∧ records = rows.map rowRecord := by
  constructor
  · intro hload
    have hall : ∀ row ∈ rows, Loads row := by
      by_contra hbad
      obtain ⟨good, bad, rest, hrows, hgood, hbad⟩ := exists_first_bad hbad
      obtain ⟨e, -, he⟩ := records_from_fails hgood hbad rest 2
      rw [hrows] at hload
      cases he.symm.trans hload
    refine ⟨hall, ?_⟩
    exact (Except.ok.inj ((records_from_loads hall 2).symm.trans hload)).symm
  · intro ⟨hall, hrecords⟩
    rw [hrecords]
    exact records_from_loads hall 2

/-! ### The order of the rows -/

/-- The answer for some matches does not depend on their order. -/
theorem unique?_perm {l l' : List VehicleInventoryRecord} (h : l.Perm l') : unique? l = unique? l' := by
  cases l with
  | nil => rw [h.nil_eq]
  | cons r l =>
    cases l with
    | nil => rw [List.singleton_perm.mp h]
    | cons r' l =>
      have hlength := h.length_eq
      cases l' with
      | nil => cases hlength
      | cons s l' =>
        cases l' with
        | nil => simp at hlength
        | cons s' l' => rfl

/-- Nor does a lookup. -/
theorem resolve_perm {rows rows' : List CsvRow} (hperm : rows.Perm rows')
    (hloads : ∀ row ∈ rows, Loads row) :
    (∀ query, resolve_query (some rows') query = resolve_query (some rows) query) ∧
    ∀ vehicle, resolve_vehicle (some rows') vehicle = resolve_vehicle (some rows) vehicle := by
  have hloads' : ∀ row ∈ rows', Loads row := fun row hrow => hloads row (hperm.mem_iff.mpr hrow)
  have hload := load_records_ok_iff.mpr ⟨hloads, rfl⟩
  have hload' := load_records_ok_iff.mpr ⟨hloads', rfl⟩
  have hunique : ∀ field query, unique? (matching (rows'.map rowRecord) field query) =
      unique? (matching (rows.map rowRecord) field query) := by
    intro field query
    exact unique?_perm ((hperm.symm.map rowRecord).filter _)
  have hquery : ∀ query, resolve_query (some rows') query = resolve_query (some rows) query := by
    intro query
    unfold resolve_query
    simp only [hload, hload', bind, Except.bind, hunique]
  refine ⟨hquery, ?_⟩
  intro vehicle
  unfold resolve_vehicle resolve_by_field
  simp only [hload, hload', bind, Except.bind, hunique, hquery]

/-! ### Every lookup -/

/-- In a file whose rows can be loaded, a query that is not blank is resolved
    exactly by the field that decides, a request exactly by its first
    identifier, and the order of the rows does not matter.  In any other file
    the first row that cannot be loaded gives the error. -/
theorem resolution_exact (rows : List CsvRow) :
    (∀ records, load_records (some rows) = .ok records →
      (∀ query, normalize_identifier query ≠ [] →
        Exact (DecidingField records query) records query (resolve_query (some rows) query)) ∧
      (∀ vehicle field value, FirstText vehicle field value →
        Exact (· = field) records value (resolve_vehicle (some rows) vehicle)) ∧
      ∀ rows', rows.Perm rows' →
        (∀ query, resolve_query (some rows') query = resolve_query (some rows) query) ∧
        ∀ vehicle, resolve_vehicle (some rows') vehicle = resolve_vehicle (some rows) vehicle) ∧
    (∀ query, normalize_identifier query = [] →
      Raises (resolve_query (some rows) query) "vehicle_ip_not_found") ∧
    (∀ vehicle, (∀ field : IdentifierField, text? vehicle field.name = none) →
      (∀ number, text? vehicle "number" = some number →
        resolve_vehicle (some rows) vehicle = resolve_query (some rows) number) ∧
      (text? vehicle "number" = none →
        Raises (resolve_vehicle (some rows) vehicle) "vehicle_ip_not_found")) ∧
    ∀ good bad rest, rows = good ++ bad :: rest → (∀ row ∈ good, Loads row) → ¬ Loads bad →
      ∃ e, record_from_row bad (good.length + 2) = .error e ∧
        (∀ query, normalize_identifier query ≠ [] → resolve_query (some rows) query = .error e) ∧
        ∀ vehicle field value, FirstText vehicle field value →
          resolve_vehicle (some rows) vehicle = .error e := by
  refine ⟨?_, fun query => resolve_query_blank, fun vehicle => resolve_vehicle_number, ?_⟩
  · intro records hload
    refine ⟨fun query => exact_resolve_query hload,
      fun vehicle field value => exact_resolve_vehicle hload, ?_⟩
    intro rows' hperm
    exact resolve_perm hperm (load_records_ok_iff.mp hload).1
  · intro good bad rest hrows hgood hbad
    obtain ⟨e, hrow, hfails⟩ := records_from_fails hgood hbad rest 2
    -- one bad row fails the whole load, and every lookup with it
    have hload : load_records (some rows) = .error e := by
      rw [hrows]
      exact hfails
    refine ⟨e, hrow, fun query hquery => ?_, fun vehicle field value hfirst => ?_⟩
    · unfold resolve_query
      rw [if_neg hquery, hload]
      rfl
    · rw [resolve_vehicle_first hfirst]
      unfold resolve_by_field
      rw [hload]
      rfl

/-! ### A blank query, and two rows that cannot be loaded -/

/-- A row with these columns. -/
def csvRow (columns : List (String × String)) : CsvRow := fun key =>
  (columns.find? fun e => e.1 = key).map fun e => ⟨e.2.py, PyStr.scalar_py e.2⟩

/-- The only vehicle without a garage number equals the blank query in that
    field, and is not returned.  Two rows that cannot be loaded give one error
    or the other. -/
theorem blank_query_and_bad_rows :
    let rows := [csvRow [("vehicle_id", "7"), ("ip", "10.0.0.1")]]
    let records := rows.map rowRecord
    let r := rowRecord (csvRow [("vehicle_id", "7"), ("ip", "10.0.0.1")])
    let noAddress := csvRow [("plate", "A 1")]
    let noIdentifier := csvRow [("ip", "10.0.0.2")]
    (load_records (some rows) = .ok records ∧ DecidingField records " ".py .garage_number ∧
      (records.filter fun record => Equals record .garage_number " ".py) = [r] ∧
      IpAddress.isAddress r.ip.val = true ∧ ∀ record, resolve_query (some rows) " ".py ≠ .ok record) ∧
    Raises (resolve_query (some [noAddress, noIdentifier]) "7".py) "vehicle_ip_not_found" ∧
    Raises (resolve_query (some [noIdentifier, noAddress]) "7".py) "invalid_request" := by
  intro rows records r noAddress noIdentifier
  refine ⟨⟨rfl, ?_, rfl, by decide, ?_⟩, ⟨_, rfl, rfl⟩, ⟨_, rfl, rfl⟩⟩
  · exact ⟨⟨r, List.mem_singleton_self r, rfl⟩, [], _, rfl, List.forall_mem_nil _⟩
  · intro record hok
    cases hok

end BoVpnAgent.VehicleInventory

import BoVpnAgent.Errors
import BoVpnAgent.Lib.IpAddress

/-! # Vehicle inventory

    The CSV file that maps vehicle identifiers to addresses.  The file is
    decoded as UTF-8, so no text in it has a lone surrogate; that is part of
    the type of its texts.  Every failure of a lookup in a readable file is a
    `WorkerError`.
-/

namespace BoVpnAgent

/-- `IDENTIFIER_FIELDS` -/
inductive IdentifierField where
  | garage_number
  | vehicle_id
  | plate
  deriving DecidableEq

namespace IdentifierField

def name : IdentifierField → String
  | garage_number => "garage_number"
  | vehicle_id => "vehicle_id"
  | plate => "plate"

/-- The fields in the order of the lookups. -/
def all : List IdentifierField := [garage_number, vehicle_id, plate]

end IdentifierField

/-- `OPTIONAL_FIELDS` -/
def OPTIONAL_FIELDS : List String := ["mac", "model", "branch", "updated_at", "comment"]

/-- `VehicleInventoryRecord` -/
structure VehicleInventoryRecord where
  garage_number : ScalarText
  vehicle_id : ScalarText
  plate : ScalarText
  ip : ScalarText
  /-- The fields of `OPTIONAL_FIELDS`, in this order. -/
  optional : List (String × ScalarText)

namespace VehicleInventoryRecord

/-- `getattr(record, field)` -/
def get (r : VehicleInventoryRecord) : IdentifierField → ScalarText
  | .garage_number => r.garage_number
  | .vehicle_id => r.vehicle_id
  | .plate => r.plate

/-- `VehicleInventoryRecord.number` -/
def number (r : VehicleInventoryRecord) : ScalarText :=
  if r.garage_number.val ≠ [] then r.garage_number
  else if r.vehicle_id.val ≠ [] then r.vehicle_id
  else r.plate

/-- `VehicleInventoryRecord.to_response` -/
def to_response (r : VehicleInventoryRecord) : Json :=
  .obj ([("number".py, .str r.number.val), ("garage_number".py, .str r.garage_number.val),
      ("vehicle_id".py, .str r.vehicle_id.val), ("plate".py, .str r.plate.val),
      ("ip".py, .str r.ip.val)] ++
    (r.optional.filter fun e => e.2.val ≠ []).map fun e => (e.1.py, .str e.2.val))

end VehicleInventoryRecord

/-- A row of the CSV file: `row.get(column)`. -/
abbrev CsvRow := String → Option ScalarText

/-- The CSV file: `none` when `stat` fails, otherwise its rows. -/
abbrev InventoryFile := Option (List CsvRow)

namespace VehicleInventory

/-! ### Loading -/

/-- `normalize_plate` -/
def normalize_plate (value : PyStr) : PyStr := PyStr.join " ".py (PyStr.split value)

/-- `normalize_identifier` -/
def normalize_identifier (value : PyStr) : PyStr := normalize_plate (PyStr.strip value)

theorem scalar_normalize_plate {value : PyStr} (h : value.Scalar) :
    (normalize_plate value).Scalar := (PyStr.scalar_join (PyStr.scalar_py " ") _).mpr (PyStr.Scalar.split h)

/-- `normalize_plate(str(row.get(key) or ""))` -/
def column (row : CsvRow) (key : String) : ScalarText :=
  match row key with
  | some value => ⟨normalize_plate value.val, scalar_normalize_plate value.property⟩
  | none => ⟨[], PyStr.scalar_nil⟩

/-- The code and status of most lookup failures. -/
def notFound (message : PyStr) : WorkerError :=
  { status := 422, error_code := "vehicle_ip_not_found".py, message := message }

/-- `_record_from_row` -/
def record_from_row (row : CsvRow) (row_number : Nat) :
    Except WorkerError VehicleInventoryRecord :=
  let record : VehicleInventoryRecord :=
    { garage_number := column row "garage_number", vehicle_id := column row "vehicle_id",
      plate := column row "plate", ip := column row "ip",
      optional := OPTIONAL_FIELDS.map fun key => (key, column row key) }
  if record.ip.val = [] then
    .error (notFound ("Vehicle inventory row ".py ++ Json.intRepr row_number ++
      " has empty IP".py))
  else if IdentifierField.all.all fun field => (record.get field).val = [] then
    .error { status := 400, error_code := "invalid_request".py,
             message := "Vehicle inventory row ".py ++ Json.intRepr row_number ++
               " has no identifier".py }
  else .ok record

/-- The rows from number `n` on. -/
def records_from : Nat → List CsvRow → Except WorkerError (List VehicleInventoryRecord)
  | _, [] => .ok []
  | n, row :: rows => do
    let record ← record_from_row row n
    let records ← records_from (n + 1) rows
    return record :: records

/-- `VehicleInventory._load_records` -/
def load_records : InventoryFile → Except WorkerError (List VehicleInventoryRecord)
  | none => .error (notFound "Vehicle inventory is not configured".py)
  | some rows => records_from 2 rows

/-! ### Lookups -/

/-- `_validate_resolved_record` -/
def validate_resolved_record (record : VehicleInventoryRecord) :
    Except WorkerError VehicleInventoryRecord :=
  if IpAddress.isAddress record.ip.val then .ok record
  else .error (notFound "Vehicle inventory record has invalid IP".py)

/-- The records whose identifier `field` is `query`. -/
def matching (records : List VehicleInventoryRecord) (field : IdentifierField) (query : PyStr) :
    List VehicleInventoryRecord :=
  records.filter fun record => normalize_identifier (record.get field).val = query

/-- The one match of a lookup; `none` when there is no match. -/
def unique? : List VehicleInventoryRecord → Option (Except WorkerError VehicleInventoryRecord)
  | [] => none
  | [record] => some (validate_resolved_record record)
  | _ => some (.error { status := 409, error_code := "vehicle_inventory_ambiguous".py,
                        message := "Vehicle inventory query is ambiguous".py })

/-- `VehicleInventory.resolve_query` -/
def resolve_query (file : InventoryFile) (query : PyStr) :
    Except WorkerError VehicleInventoryRecord := do
  let query := normalize_identifier query
  if query = [] then .error (notFound "Vehicle query is empty".py)
  else
    let records ← load_records file
    (IdentifierField.all.findSome? fun field => unique? (matching records field query)).getD
      (.error (notFound "Vehicle IP not found in inventory".py))

/-- `VehicleInventory._resolve_by_field` -/
def resolve_by_field (file : InventoryFile) (field : IdentifierField) (value : PyStr) :
    Except WorkerError VehicleInventoryRecord := do
  let records ← load_records file
  (unique? (matching records field (normalize_identifier value))).getD
    (.error (notFound "Vehicle IP not found in inventory".py))

/-- A field of the request that is a string with some text in it. -/
def text? (vehicle : Json.Fields) (key : String) : Option PyStr :=
  match Json.get? vehicle key.py with
  | some (.str value) => if PyStr.strip value ≠ [] then some value else none
  | _ => none

/-- `VehicleInventory.resolve_vehicle` -/
def resolve_vehicle (file : InventoryFile) (vehicle : Json.Fields) :
    Except WorkerError VehicleInventoryRecord :=
  match IdentifierField.all.findSome? fun field =>
      (text? vehicle field.name).map fun value => (field, value) with
  | some (field, value) => resolve_by_field file field value
  | none =>
    match text? vehicle "number" with
    | some number => resolve_query file number
    | none => .error (notFound "Vehicle identifier is required for inventory lookup".py)

end VehicleInventory

end BoVpnAgent

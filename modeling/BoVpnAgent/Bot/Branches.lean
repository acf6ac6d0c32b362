import BoVpnAgent.VehicleInventory

/-! # Branches and their vehicle maps

    The tables that `AudioBot` is configured with: a vehicle map for each
    branch and the aliases of the branch names.  A map holds addresses of the
    MNT network only, under numbers that are not blank, and that is part of
    its type.

    `str.lower` is a parameter of everything here, since its tables are those
    of the interpreter.
-/

namespace BoVpnAgent.AudioBot

/-! ### Vehicle maps -/

/-- `address in ip_network("172.26.0.0/15")` -/
def in_network (address : Nat) : Bool := IpAddress.inNetwork 0xAC1A0000 15 address

/-- An IPv4 address inside 172.26.0.0/15, as text and as a number. -/
structure MntAddress where
  text : PyStr
  value : Nat
  parsed : IpAddress.ipv4? text = some value
  inside : in_network value = true

/-- A vehicle number as the loader strips it. -/
structure IsNumber (number : PyStr) : Prop where
  nonempty : number ≠ []
  stripped : PyStr.strip number = number
  scalar : number.Scalar

/-- One vehicle map. -/
structure VehicleMap where
  numbers : Dict PyStr MntAddress
  keys : ∀ number ip, numbers.get? number = some ip → IsNumber number

/-- `{}` -/
def VehicleMap.empty : VehicleMap := ⟨Dict.empty, fun _ _ h => nomatch h⟩

/-- `mapping[number] = ip` -/
def VehicleMap.set (m : VehicleMap) (number : PyStr) (ip : MntAddress) (h : IsNumber number) :
    VehicleMap where
  numbers := m.numbers.set number ip
  keys := by
    intro number' ip' hget
    rw [Dict.get?_set] at hget
    split at hget
    · next heq => exact heq ▸ h
    · exact m.keys number' ip' hget

/-- `str(row.get(key) or "").strip()` -/
def cell (row : CsvRow) (key : String) : ScalarText :=
  match row key with
  | some value => ⟨PyStr.strip value.val, value.property.strip⟩
  | none => ⟨[], PyStr.scalar_nil⟩

theorem isNumber_cell {row : CsvRow} {key : String} (h : (cell row key).val ≠ []) :
    IsNumber (cell row key).val := by
  refine ⟨h, ?_, (cell row key).property⟩
  unfold cell
  split
  · exact PyStr.strip_strip _
  · rfl

/-- The loop of `_load_vehicle_map`. -/
def load_rows (mapping : VehicleMap) : List CsvRow → Except PyExc VehicleMap
  | [] => .ok mapping
  | row :: rows =>
    if h : (cell row "vehicle_number").val = [] ∨ (cell row "ip").val = [] then
      load_rows mapping rows
    else
      match hip : IpAddress.ipv4? (cell row "ip").val with
      | some address =>
        if hin : in_network address = true then
          load_rows (mapping.set (cell row "vehicle_number").val
            ⟨IpAddress.ipv4Str address, address, by rw [IpAddress.ipv4Str_ipv4? hip]; exact hip, hin⟩
            (isNumber_cell (not_or.mp h).1)) rows
        else load_rows mapping rows
      | none =>
        if IpAddress.isIpv6 (cell row "ip").val then load_rows mapping rows
        else raiseBuiltin .valueError

/-- `_load_vehicle_map`, with the rows of the file or `none` when it cannot
    be opened. -/
def load_vehicle_map (path : PyStr) (file : InventoryFile) : Except PyExc VehicleMap :=
  match file with
  | none => raiseBuiltin .osError
  | some rows => do
    let mapping ← load_rows VehicleMap.empty rows
    if mapping.numbers.keys = [] then
      .error (.builtin .runtimeError ("справочник ТС пуст: ".py ++ path))
    else return mapping

/-! ### Tables -/

variable (lower : PyStr → PyStr)

/-- A vehicle map for each branch. -/
abbrev VehicleMaps := Dict PyStr VehicleMap

/-- The entries of `VEHICLE_MAP_PATHS`. -/
def load_entries (files : PyStr → InventoryFile) (maps : VehicleMaps) :
    List PyStr → Except PyExc VehicleMaps
  | [] => .ok maps
  | item :: items =>
    if PyStr.strip item = [] then load_entries files maps items
    else if 0x3D ∉ item then
      .error (.builtin .runtimeError "VEHICLE_MAP_PATHS must use branch=/path entries".py)
    else do
      let path := PyStr.strip (PyStr.partition 0x3D item).2
      let mapping ← load_vehicle_map path (files path)
      load_entries files (maps.set (lower (PyStr.strip (PyStr.partition 0x3D item).1)) mapping) items

/-- `_load_vehicle_maps`, with the values of `VEHICLE_MAP_PATHS` and
    `VEHICLE_MAP_PATH`. -/
def load_vehicle_maps (raw vehicle_map_path : PyStr) (files : PyStr → InventoryFile) :
    Except PyExc VehicleMaps :=
  if PyStr.strip raw = [] then do
    let mapping ← load_vehicle_map vehicle_map_path (files vehicle_map_path)
    return Dict.empty.set "piteravto".py mapping
  else do
    let maps ← load_entries lower files Dict.empty ((PyStr.strip raw).splitOn 0x2C)
    if maps.keys = [] then .error (.builtin .runtimeError "справочники ТС пусты".py)
    else return maps

/-- `DEFAULT_BRANCH_ALIASES` -/
def DEFAULT_BRANCH_ALIASES : List (String × String) :=
  [("piteravto", "piteravto"), ("питеравто", "piteravto"), ("питер", "piteravto"),
   ("pa", "piteravto"), ("па", "piteravto"), ("pat", "pat"), ("пат", "pat"), ("ap6", "pat"),
   ("ап6", "pat"), ("ап-6", "pat"), ("passazhiravtotrans", "pat")]

/-- `value.strip().lower().replace("_", "-")` -/
def normalized (value : PyStr) : PyStr :=
  (lower (PyStr.strip value)).map fun c => if c = 0x5F then 0x2D else c

/-- `_load_branch_aliases`, with the value of `VEHICLE_BRANCH_ALIASES`. -/
def load_branch_aliases (raw : PyStr) : Dict PyStr PyStr :=
  (raw.splitOn 0x2C).foldl
    (fun aliases item =>
      if PyStr.strip item = [] ∨ 0x3D ∉ item then aliases
      else aliases.set (normalized lower (PyStr.partition 0x3D item).1)
        (lower (PyStr.strip (PyStr.partition 0x3D item).2)))
    (DEFAULT_BRANCH_ALIASES.foldl (fun d e => d.set e.1.py e.2.py) Dict.empty)

/-- `_normalize_branch` of a string -/
def normalize_branch (vehicle_maps : VehicleMaps) (branch_aliases : Dict PyStr PyStr)
    (value : PyStr) : Option PyStr :=
  if value = [] then none
  else
    match (branch_aliases.get? (normalized lower value)).filter
        fun branch => (vehicle_maps.get? branch).isSome with
    | some branch => some branch
    | none =>
      if (vehicle_maps.get? (normalized lower value)).isSome then some (normalized lower value)
      else none

end BoVpnAgent.AudioBot

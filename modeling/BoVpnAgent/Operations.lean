import BoVpnAgent.Errors

/-! # Operations

    The table of diagnostic operations and the lookup that guards it.
-/

namespace BoVpnAgent

/-- `OperationSpec` -/
structure OperationSpec where
  name : String
  title : String
  risk : String
  requires : List String
  timeout_sec_default : Int
  roles_allowed : List String
  state_changing : Bool := false

/-- `MVP_OPERATIONS` -/
def MVP_OPERATIONS : List OperationSpec :=
  [{ name := "vehicle_reachability", title := "Проверить доступность", risk := "read_only",
     requires := ["vpn"], timeout_sec_default := 60, roles_allowed := ["engineer", "admin"] },
   { name := "basic_status", title := "Состояние ТС", risk := "read_only",
     requires := ["vpn", "ssh"], timeout_sec_default := 90,
     roles_allowed := ["engineer", "admin"] },
   { name := "validators_status", title := "Валидаторы", risk := "read_only",
     requires := ["vpn", "ssh"], timeout_sec_default := 120,
     roles_allowed := ["engineer", "admin"] },
   { name := "collect_bundle_light", title := "Лёгкий диагностический пакет",
     risk := "read_only", requires := ["vpn", "ssh"], timeout_sec_default := 180,
     roles_allowed := ["engineer", "admin"] }]

/-- `get_operation` -/
def get_operation (name : PyStr) : Except PyExc OperationSpec :=
  match MVP_OPERATIONS.find? fun op => op.name.py = name with
  | some op => .ok op
  | none => raiseWorker 403 "operation_not_allowed" "Операция недоступна в MVP"

/-- `OperationSpec.to_capability`; no operation has a `params_schema`. -/
def OperationSpec.to_capability (op : OperationSpec) : Json :=
  .obj [("name".py, .str op.name.py), ("title".py, .str op.title.py),
    ("risk".py, .str op.risk.py), ("requires".py, .arr (op.requires.map fun r => .str r.py)),
    ("timeout_sec_default".py, .int op.timeout_sec_default), ("params_schema".py, .obj []),
    ("roles_allowed".py, .arr (op.roles_allowed.map fun r => .str r.py))]

/-- `capabilities_response` -/
def capabilities_response : Json :=
  .obj [("api_version".py, .str "1.0".py), ("capabilities_version".py, .str "2026-06-29".py),
    ("operations".py, .arr (MVP_OPERATIONS.map OperationSpec.to_capability))]

theorem mem_get_operation {name : PyStr} {op : OperationSpec} (h : get_operation name = .ok op) :
    op ∈ MVP_OPERATIONS := by
  unfold get_operation at h
  split at h
  · next op' hfind =>
    cases h
    exact List.mem_of_find?_eq_some hfind
  · cases h

end BoVpnAgent

import BoVpnAgent.Service

/-! # Why a creation is refused

    The errors of `create_task` come from three places: the look at the
    request id, the limits, and the checks of the payload.  The checks have
    codes of their own, so the code of an answer tells where it comes from.
-/

namespace BoVpnAgent.Worker

variable {I : Interp} {config : WorkerConfig}

/-- The codes of the checks of `_build_task`. -/
def CHECK_CODES : List PyStr :=
  ["invalid_request".py, "operation_not_allowed".py, "vehicle_ip_not_found".py,
    "vehicle_inventory_ambiguous".py]

/-- The exception is none of the handlers', or it has the code of a check. -/
def IsCheck : PyExc → Prop
  | .worker e => e.error_code ∈ CHECK_CODES
  | _ => True

/-- Whatever is raised is raised by a check. -/
def Checks {ε α : Type} (P : ε → Prop) (x : Except ε α) : Prop := ∀ e, x = .error e → P e

section checks

variable {ε α β : Type} {P : ε → Prop}

theorem Checks.ok (a : α) : Checks P (.ok a) := fun _ h => by cases h

theorem Checks.error {e : ε} (h : P e) : Checks P (.error e : Except ε α) := by
  intro e' he'
  cases he'
  exact h

theorem Checks.bind {x : Except ε α} {f : α → Except ε β} (hx : Checks P x)
    (hf : ∀ a, Checks P (f a)) : Checks P (x >>= f) := by
  intro e h
  rcases bind_error.mp h with hxe | ⟨a, -, hfe⟩
  · exact hx e hxe
  · exact hf a e hfe

theorem Checks.ite {c : Prop} [Decidable c] {x y : Except ε α} (hx : Checks P x)
    (hy : Checks P y) : Checks P (if c then x else y) := by
  by_cases hc : c
  · rw [if_pos hc]
    exact hx
  · rw [if_neg hc]
    exact hy

theorem checks_validation (message : PyStr) :
    Checks IsCheck (raiseValidation message : Except PyExc α) :=
  .error List.mem_cons_self

theorem checks_worker {status : Nat} {error_code : String} (message : String)
    (hcode : error_code.py ∈ CHECK_CODES) :
    Checks IsCheck (raiseWorker status error_code message : Except PyExc α) := .error hcode

theorem checks_lift (x : Except Builtin α) : Checks IsCheck (liftBuiltin x) := by
  cases x with
  | ok a => exact .ok a
  | error kind => exact .error trivial

end checks

/-! ### The inventory -/

/-- The code of a lookup. -/
def IsLookup (e : WorkerError) : Prop := e.error_code ∈ CHECK_CODES

section inventory

open VehicleInventory

theorem lookup_notFound (message : PyStr) : IsLookup (notFound message) := by
  have hcode : "vehicle_ip_not_found".py ∈ CHECK_CODES := by decide
  exact hcode

theorem checks_records_from (rows : List CsvRow) (n : Nat) :
    Checks IsLookup (records_from n rows) := by
  induction rows generalizing n with
  | nil => exact .ok _
  | cons row rows ih =>
    have hrow : Checks IsLookup (record_from_row row n) := by
      unfold record_from_row
      refine .ite (.error (lookup_notFound _)) (.ite (.error ?_) (.ok _))
      exact List.mem_cons_self
    exact hrow.bind fun record => (ih (n + 1)).bind fun _ => .ok _

theorem checks_load_records (file : InventoryFile) : Checks IsLookup (load_records file) := by
  cases file with
  | none => exact .error (lookup_notFound _)
  | some rows => exact checks_records_from rows 2

theorem checks_unique? {records : List VehicleInventoryRecord}
    {x : Except WorkerError VehicleInventoryRecord} (h : unique? records = some x) :
    Checks IsLookup x := by
  unfold unique? at h
  split at h
  · cases h
  · obtain rfl := Option.some.inj h
    exact .ite (.ok _) (.error (lookup_notFound _))
  · obtain rfl := Option.some.inj h
    exact .error (by unfold IsLookup; decide)

theorem checks_unique_getD {o : Option (Except WorkerError VehicleInventoryRecord)}
    (h : ∀ x, o = some x → Checks IsLookup x) (message : PyStr) :
    Checks IsLookup (o.getD (.error (notFound message))) := by
  cases o with
  | none => exact .error (lookup_notFound _)
  | some x => exact h x rfl

theorem checks_resolve_query (file : InventoryFile) (query : PyStr) :
    Checks IsLookup (resolve_query file query) := by
  unfold resolve_query
  refine .ite (.error (lookup_notFound _)) ?_
  refine (checks_load_records file).bind fun records => checks_unique_getD ?_ _
  intro x hx
  obtain ⟨field, -, hfield⟩ := List.exists_of_findSome?_eq_some hx
  exact checks_unique? hfield

theorem checks_resolve_vehicle (file : InventoryFile) (vehicle : Json.Fields) :
    Checks IsLookup (resolve_vehicle file vehicle) := by
  unfold resolve_vehicle
  split
  · exact (checks_load_records file).bind fun records =>
      checks_unique_getD (fun x hx => checks_unique? hx) _
  · split
    · exact checks_resolve_query _ _
    · exact .error (lookup_notFound _)

end inventory

/-! ### The request -/

theorem checks_require_str (payload : Json.Fields) (key label : String) :
    Checks IsCheck (require_str payload key label) := by
  unfold require_str
  split
  · exact .ite (.ok _) (checks_validation _)
  · exact checks_validation _

theorem checks_require_dict (payload : Json.Fields) (key : String) :
    Checks IsCheck (require_dict payload key) := by
  unfold require_dict
  split
  · exact .ok _
  · exact checks_validation _

theorem checks_require_int (payload : Json.Fields) (key : String) :
    Checks IsCheck (require_int payload key) := by
  unfold require_int
  split
  · exact .ok _
  · exact .ok _
  · exact checks_validation _

theorem checks_build_vpn (vpn_raw : Json.Fields) (unsupported : String) :
    Checks IsCheck (build_vpn vpn_raw unsupported) := by
  refine (checks_require_str _ _ _).bind fun mode => .ite ?_ (.ite (.ok _) (checks_validation _))
  exact (checks_require_str _ _ _).bind fun username =>
    (checks_require_str _ _ _).bind fun password => .ok _

theorem checks_build_vehicle (inventory : InventoryFile) (vehicle_raw : Json.Fields) :
    Checks IsCheck (build_vehicle config inventory vehicle_raw) := by
  unfold build_vehicle
  split
  · exact (checks_require_str _ _ _).bind fun number => .ok _
  · refine .ite (checks_worker _ (by decide)) ?_
    split
    · exact .ok _
    · next e he => exact .error (checks_resolve_vehicle inventory vehicle_raw e he)

theorem checks_check_request (payload : Json.Fields) (inventory : InventoryFile) :
    Checks IsCheck (check_request I config payload inventory) := by
  refine (checks_require_dict _ _).bind fun vehicle_raw => ?_
  refine (checks_build_vehicle _ _).bind fun vehicle => (checks_require_dict _ _).bind fun vpn_raw => ?_
  refine (checks_build_vpn _ _).bind fun vpn => (checks_require_str _ _ _).bind fun name => ?_
  refine Checks.bind ?_ fun operation => (checks_lift _).bind fun role => .ite ?_ ?_
  · unfold get_operation
    split
    · exact .ok _
    · exact checks_worker _ (by decide)
  · exact checks_worker _ (by decide)
  · split
    · exact .ok _
    · exact checks_validation _

theorem checks_build_task (payload : Json.Fields) (fingerprint : PyStr) (env : CreateEnv) :
    Checks IsCheck (build_task I config payload fingerprint env) := by
  refine (checks_check_request _ _).bind fun checked => (checks_lift _).bind fun timeout_sec => ?_
  refine .ite (checks_validation _) ((checks_lift _).bind fun runner_mode => ?_)
  exact (checks_require_str _ _ _).bind fun request_id =>
    (checks_require_int _ _).bind fun telegram_user_id => .ok _

/-! ### The answers -/

/-- A refusal as a conflict or because of an active task, read off its code. -/
theorem refused_cases {s : Service} {payload : Json.Fields} {env : CreateEnv}
    {request_id fingerprint : PyStr} {e : WorkerError}
    (hreq : require_str payload "request_id" = .ok request_id)
    (hfp : Security.fingerprint_request I payload = .ok fingerprint)
    (herror : (s.create_task I config payload env).2 = .error (.worker e)) :
    (e.error_code = "request_id_conflict".py ∧
      ∃ t, s.request? request_id = some t ∧ t.request_fingerprint ≠ fingerprint) ∨
    (e.error_code = "worker_busy".py ∧ s.request? request_id = none ∧ s.active_task ≠ none) ∨
    (e.error_code ≠ "request_id_conflict".py ∧ e.error_code ≠ "worker_busy".py) := by
  have hcheck : IsCheck (.worker e) →
      e.error_code ≠ "request_id_conflict".py ∧ e.error_code ≠ "worker_busy".py := by
    intro hmem
    have hcode : e.error_code ∈ CHECK_CODES := hmem
    have hothers : "request_id_conflict".py ∉ CHECK_CODES ∧ "worker_busy".py ∉ CHECK_CODES := by
      decide
    exact ⟨fun heq => hothers.1 (heq ▸ hcode), fun heq => hothers.2 (heq ▸ hcode)⟩
  simp only [Service.create_task, hreq, hfp] at herror
  cases hex : s.request? request_id with
  | some t =>
    simp only [hex] at herror
    split at herror
    · next hne =>
      cases herror
      exact .inl ⟨rfl, t, rfl, hne⟩
    · cases herror
  | none =>
    simp only [hex, Service.create_new] at herror
    cases hint : require_int payload "telegram_user_id" with
    | error exc =>
      rw [hint] at herror
      cases herror
      exact .inr (.inr (hcheck (checks_require_int _ _ _ hint)))
    | ok user =>
      simp only [hint] at herror
      split_ifs at herror with hallowed hactive
      · cases herror
        exact .inr (.inr (by decide))
      · cases herror
        exact .inr (.inl ⟨rfl, rfl, Option.isSome_iff_ne_none.mp hactive⟩)
      · split at herror
        · next exc hbuild =>
          cases herror
          exact .inr (.inr (hcheck (checks_build_task _ _ _ _ hbuild)))
        · cases herror

end BoVpnAgent.Worker

import BoVpnAgent.Rendering
import BoVpnAgent.Daemon.Jobs
import BoVpnAgent.Worker.Runs

/-! # Which requests are answered

    The handlers catch `WorkerError` only, so a request is answered unless
    something else is raised on its way.  This file follows the way of a
    request through the handlers and finds all that can be raised: for a
    target that cannot be parsed, a token that is not ASCII, a
    `Content-Length` that is no integer, a body that `json.loads` leaves with
    another exception than `JSONDecodeError`, a text that cannot be encoded,
    and a `timeout_sec` that is no integer.
-/

namespace BoVpnAgent

open Json (Renderable RenderableAt)

variable {I : Interp}

/-! ### Checks that raise `WorkerError` only -/

theorem caught_require_str (payload : Json.Fields) (key label : String) :
    Caught (require_str payload key label) := by
  unfold require_str
  split
  · split <;> simp
  · simp

theorem caught_require_int (payload : Json.Fields) (key : String) :
    Caught (require_int payload key) := by
  unfold require_int
  split <;> simp

theorem caught_require_dict (payload : Json.Fields) (key : String) :
    Caught (require_dict payload key) := by
  unfold require_dict
  split <;> simp

theorem caught_build_vpn (vpn_raw : Json.Fields) (unsupported : String) :
    Caught (build_vpn vpn_raw unsupported) := by
  refine caught_bind.mpr ⟨caught_require_str _ _ _, fun vpn_mode _ => ?_⟩
  split_ifs
  · refine caught_bind.mpr ⟨caught_require_str _ _ _, fun username _ => ?_⟩
    exact caught_bind.mpr ⟨caught_require_str _ _ _, fun password _ => caught_pure _⟩
  · exact caught_pure _
  · simp

theorem caught_get_operation (name : PyStr) : Caught (get_operation name) := by
  unfold get_operation
  split <;> simp

/-! ### The inventory -/

namespace VehicleInventory

/-- The texts of the errors can be encoded. -/
def PlainErrors {α : Type} (x : Except WorkerError α) : Prop :=
  ∀ e, x = .error e → e.error_code.Scalar ∧ e.message.Scalar

section plain

variable {α β : Type}

theorem plain_ok (a : α) : PlainErrors (.ok a) := nofun

theorem plain_notFound (message : PyStr) (h : message.Scalar) :
    PlainErrors (α := α) (.error (notFound message)) := by
  rintro e ⟨⟩
  exact ⟨PyStr.scalar_py _, h⟩

theorem PlainErrors.bind {x : Except WorkerError α} {f : α → Except WorkerError β}
    (hx : PlainErrors x) (hf : ∀ a, PlainErrors (f a)) : PlainErrors (x >>= f) := by
  intro e h
  rcases bind_error.mp h with hxe | ⟨a, _, hfe⟩
  · exact hx e hxe
  · exact hf a e hfe

end plain

theorem plain_record_from_row (row : CsvRow) (row_number : Nat) :
    PlainErrors (record_from_row row row_number) := by
  have hrow : ∀ text : String, PyStr.Scalar
      ("Vehicle inventory row ".py ++ Json.intRepr row_number ++ text.py) := by
    intro text
    simp [Json.scalar_intRepr]
  unfold record_from_row
  simp only
  split_ifs
  · exact plain_notFound _ (hrow _)
  · rintro e ⟨⟩
    exact ⟨PyStr.scalar_py _, hrow _⟩
  · exact plain_ok _

theorem plain_records_from (rows : List CsvRow) (n : Nat) : PlainErrors (records_from n rows) := by
  induction rows generalizing n with
  | nil => exact plain_ok _
  | cons row rows ih =>
    exact (plain_record_from_row row n).bind fun record => (ih (n + 1)).bind fun _ => plain_ok _

theorem plain_load_records (file : InventoryFile) : PlainErrors (load_records file) := by
  cases file with
  | none => exact plain_notFound _ (PyStr.scalar_py _)
  | some rows => exact plain_records_from rows 2

theorem plain_unique? {records : List VehicleInventoryRecord}
    {x : Except WorkerError VehicleInventoryRecord} (h : unique? records = some x) :
    PlainErrors x := by
  unfold unique? at h
  split at h
  · cases h
  · obtain rfl := Option.some.inj h
    unfold validate_resolved_record
    split
    · exact plain_ok _
    · exact plain_notFound _ (PyStr.scalar_py _)
  · obtain rfl := Option.some.inj h
    rintro e ⟨⟩
    exact ⟨PyStr.scalar_py _, PyStr.scalar_py _⟩

theorem plain_resolve_query (file : InventoryFile) (query : PyStr) :
    PlainErrors (resolve_query file query) := by
  unfold resolve_query
  simp only
  split
  · exact plain_notFound _ (PyStr.scalar_py _)
  · refine (plain_load_records file).bind fun records => ?_
    cases hfind : IdentifierField.all.findSome? fun field =>
        unique? (matching records field (normalize_identifier query)) with
    | none => exact plain_notFound _ (PyStr.scalar_py _)
    | some x =>
      obtain ⟨field, _, hx⟩ := List.exists_of_findSome?_eq_some hfind
      exact plain_unique? hx

theorem plain_resolve_by_field (file : InventoryFile) (field : IdentifierField) (value : PyStr) :
    PlainErrors (resolve_by_field file field value) := by
  refine (plain_load_records file).bind fun records => ?_
  cases hx : unique? (matching records field (normalize_identifier value)) with
  | none => exact plain_notFound _ (PyStr.scalar_py _)
  | some x => exact plain_unique? hx

theorem plain_resolve_vehicle (file : InventoryFile) (vehicle : Json.Fields) :
    PlainErrors (resolve_vehicle file vehicle) := by
  unfold resolve_vehicle
  split
  · exact plain_resolve_by_field _ _ _
  · split
    · exact plain_resolve_query _ _
    · exact plain_notFound _ (PyStr.scalar_py _)

end VehicleInventory

/-! ### Building a task or a job -/

theorem caught_build_vehicle (config : WorkerConfig) (inventory : InventoryFile)
    (vehicle_raw : Json.Fields) : Caught (build_vehicle config inventory vehicle_raw) := by
  unfold build_vehicle
  split
  · exact caught_bind.mpr ⟨caught_require_str _ _ _, fun _ _ => caught_pure _⟩
  · split
    · simp
    · split
      · exact caught_ok _
      · next e he =>
        exact caught_error.mpr (answerable_worker.mpr
          (VehicleInventory.plain_resolve_vehicle inventory vehicle_raw e he))

/-- The checks of a request whose texts and integers are in order. -/
theorem caught_check_request {payload : Json.Fields} (h : Json.Clean I (.obj payload))
    (config : WorkerConfig) (inventory : InventoryFile) :
    Caught (check_request I config payload inventory) := by
  have hdefault : Json.Clean I (.str "engineer".py) := PyStr.scalar_py "engineer"
  have hrole := (h.getD "user_role".py (h.getD "role".py hdefault)).toStr
  refine caught_bind.mpr ⟨caught_require_dict _ _, fun vehicle_raw _ => ?_⟩
  refine caught_bind.mpr ⟨caught_build_vehicle _ _ _, fun vehicle _ => ?_⟩
  refine caught_bind.mpr ⟨caught_require_dict _ _, fun vpn_raw _ => ?_⟩
  refine caught_bind.mpr ⟨caught_build_vpn _ _, fun vpn _ => ?_⟩
  refine caught_bind.mpr ⟨caught_require_str _ _ _, fun name _ => ?_⟩
  refine caught_bind.mpr ⟨caught_get_operation _, fun operation _ => ?_⟩
  refine caught_bind.mpr ⟨caught_liftBuiltin.mpr ⟨_, hrole.choose_spec.1⟩, fun role _ => ?_⟩
  split
  · simp
  · split
    · exact caught_pure _
    · simp

/-- A given `timeout_sec` is an integer or converts to one. -/
def TimeoutConverts (I : Interp) (payload : Json.Fields) : Prop :=
  ∀ value, Json.get? payload "timeout_sec".py = some value → ∃ n, Json.toInt I value = .ok n

theorem timeoutConverts_iff {payload : Json.Fields} (default : Int) :
    TimeoutConverts I payload ↔
      ∃ n, Json.toInt I ((Json.get? payload "timeout_sec".py).getD (.int default)) = .ok n := by
  unfold TimeoutConverts
  cases Json.get? payload "timeout_sec".py <;> simp [Json.toInt]

/-- Building a task raises something else only when `timeout_sec` does not
    convert. -/
theorem caught_build_task {config : WorkerConfig} {payload : Json.Fields}
    (h : Json.Clean I (.obj payload)) (fingerprint : PyStr) (env : CreateEnv) :
    Caught (build_task I config payload fingerprint env) ↔
      ((∃ checked, check_request I config payload env.inventory = .ok checked) →
        TimeoutConverts I payload) := by
  have hmode : ∃ mode, Json.toStr I ((Json.get? payload "runner_mode".py).getD
      (.str config.runner_mode)) = .ok mode := by
    cases hget : Json.get? payload "runner_mode".py with
    | none => exact ⟨_, if_pos rfl⟩
    | some value =>
      obtain ⟨mode, hmode, -⟩ := Json.Clean.toStr (Json.All.get? h hget)
      exact ⟨mode, hmode⟩
  unfold build_task
  rw [caught_bind]
  constructor
  · rintro ⟨-, hrest⟩ ⟨checked, hchecked⟩
    have htimeout := (caught_bind.mp (hrest checked hchecked)).1
    exact (timeoutConverts_iff _).mpr (caught_liftBuiltin.mp htimeout)
  · intro htimeout
    refine ⟨caught_check_request h config env.inventory, fun checked hchecked => ?_⟩
    have hconverts := (timeoutConverts_iff checked.operation.timeout_sec_default).mp
      (htimeout ⟨checked, hchecked⟩)
    refine caught_bind.mpr ⟨caught_liftBuiltin.mpr hconverts, fun timeout_sec _ => ?_⟩
    split_ifs
    · simp
    · refine caught_bind.mpr ⟨caught_liftBuiltin.mpr hmode, fun runner_mode _ => ?_⟩
      refine caught_bind.mpr ⟨caught_require_str _ _ _, fun request_id _ => ?_⟩
      exact caught_bind.mpr ⟨caught_require_int _ _, fun _ _ => caught_pure _⟩

theorem caught_check_job (payload : Json.Fields) : Caught (RunnerDaemon.check_job payload) := by
  refine caught_bind.mpr ⟨caught_require_str _ _ _, fun request_id _ => ?_⟩
  refine caught_bind.mpr ⟨caught_require_str _ _ _, fun runner_mode _ => ?_⟩
  refine caught_bind.mpr ⟨caught_require_dict _ _, fun vehicle_raw _ => ?_⟩
  refine caught_bind.mpr ⟨caught_require_dict _ _, fun vpn_raw _ => ?_⟩
  refine caught_bind.mpr ⟨caught_require_str _ _ _, fun number _ => ?_⟩
  refine caught_bind.mpr ⟨caught_require_str _ _ _, fun ip _ => ?_⟩
  refine caught_bind.mpr ⟨caught_build_vpn _ _, fun vpn _ => ?_⟩
  exact caught_bind.mpr ⟨caught_require_str _ _ _, fun operation _ => caught_pure _⟩

theorem caught_build_job (payload : Json.Fields) (env : JobEnv) :
    Caught (RunnerDaemon.build_job I payload env) ↔
      ((∃ checked, RunnerDaemon.check_job payload = .ok checked) → TimeoutConverts I payload) := by
  unfold RunnerDaemon.build_job
  rw [caught_bind]
  constructor
  · rintro ⟨-, hrest⟩ ⟨checked, hchecked⟩
    have htimeout := (caught_bind.mp (hrest checked hchecked)).1
    exact (timeoutConverts_iff 120).mpr (caught_liftBuiltin.mp htimeout)
  · intro htimeout
    refine ⟨caught_check_job payload, fun checked hchecked => ?_⟩
    have hconverts := (timeoutConverts_iff 120).mp (htimeout ⟨checked, hchecked⟩)
    exact caught_bind.mpr ⟨caught_liftBuiltin.mpr hconverts, fun _ _ => caught_pure _⟩

/-! ### Headers and body -/

/-- The token of a request, if there is one, can be compared with the
    expected one: both are ASCII. -/
def Comparable (request : Request) (token : PyStr) : Prop :=
  ∀ header ∈ request.header "Authorization", PyStr.startsWith header.val "Bearer ".py = true →
    PyStr.isAscii (PyStr.strip (PyStr.removePrefix header.val "Bearer ".py)) = true ∧
      PyStr.isAscii token = true

theorem caught_check_bearer {request : Request} {token : PyStr} :
    Caught (Security.check_bearer ((request.header "Authorization").map (·.val)) token) ↔
      Comparable request token := by
  unfold Security.check_bearer Comparable
  cases request.header "Authorization" with
  | none => simp
  | some header =>
    simp only [Option.map_some, Option.mem_some_iff, forall_eq']
    by_cases hbearer : PyStr.startsWith header.val "Bearer ".py = true
    · simp only [hbearer, if_true, forall_const, Security.compare_digest]
      split
      · next hascii => exact iff_of_true (caught_ok _) hascii
      · next hascii => exact iff_of_false (not_caught_raiseBuiltin _) hascii
    · simp [hbearer]

theorem caught_validate_service_headers {config : WorkerConfig} {request : Request} :
    Caught (WorkerHandler.validate_service_headers config request) ↔
      Comparable request config.service_token := by
  unfold WorkerHandler.validate_service_headers
  rw [caught_bind, caught_check_bearer, and_iff_left_iff_imp]
  intro _ valid _
  split_ifs <;> simp

/-- The token of a request can be compared with the daemon's, if that has
    one. -/
def RunnerHandler.Comparable (config : RunnerDaemonConfig) (request : Request) : Prop :=
  ∀ token ∈ config.auth_token, token ≠ [] → BoVpnAgent.Comparable request token

theorem caught_validate_runner_headers {config : RunnerDaemonConfig} {request : Request} :
    Caught (RunnerHandler.validate_runner_headers config request) ↔
      RunnerHandler.Comparable config request := by
  unfold RunnerHandler.validate_runner_headers RunnerHandler.Comparable
  cases config.auth_token with
  | none => simp
  | some token =>
    simp only [Option.mem_some_iff, forall_eq']
    by_cases htoken : token = []
    · simp [htoken]
    · simp only [htoken, if_false, ne_eq, not_false_eq_true, forall_const]
      rw [caught_bind, caught_check_bearer, and_iff_left_iff_imp]
      intro _ valid _
      split_ifs <;> simp

/-- The request has the token. -/
def Presents (request : Request) (token : PyStr) : Prop :=
  ∃ header ∈ request.header "Authorization", PyStr.startsWith header.val "Bearer ".py = true ∧
    PyStr.strip (PyStr.removePrefix header.val "Bearer ".py) = token

theorem check_bearer_ok_iff {request : Request} {token : PyStr} (h : Comparable request token) :
    Security.check_bearer ((request.header "Authorization").map (·.val)) token = .ok true ↔
      Presents request token := by
  unfold Security.check_bearer Presents
  cases hheader : request.header "Authorization" with
  | none => simp
  | some header =>
    simp only [Option.map_some, Option.mem_some_iff, exists_eq_left']
    by_cases hbearer : PyStr.startsWith header.val "Bearer ".py = true
    · have hascii := h header hheader hbearer
      simp [hbearer, Security.compare_digest, hascii]
    · simp [hbearer]

/-- The request has the token of the worker and an id. -/
structure WorkerHandler.Authorized (config : WorkerConfig) (request : Request) : Prop where
  token : Presents request config.service_token
  request_id : ∃ header ∈ request.header "X-Request-Id", header.val ≠ []

theorem validate_service_headers_ok_iff {config : WorkerConfig} {request : Request}
    (h : Comparable request config.service_token) :
    WorkerHandler.validate_service_headers config request = .ok () ↔
      WorkerHandler.Authorized config request := by
  have hid : ((request.header "X-Request-Id").map (·.val)).getD [] ≠ [] ↔
      ∃ header ∈ request.header "X-Request-Id", header.val ≠ [] := by
    cases request.header "X-Request-Id" <;> simp
  have hauth : WorkerHandler.Authorized config request ↔
      Presents request config.service_token ∧
        ∃ header ∈ request.header "X-Request-Id", header.val ≠ [] :=
    ⟨fun h => ⟨h.1, h.2⟩, fun h => ⟨h.1, h.2⟩⟩
  unfold WorkerHandler.validate_service_headers
  rw [bind_ok, hauth, ← check_bearer_ok_iff h, ← hid]
  constructor
  · rintro ⟨valid, hvalid, hrest⟩
    split_ifs at hrest with hfalse hnone
    · cases hrest
    · cases hrest
    · obtain rfl := Bool.of_not_eq_false hfalse
      exact ⟨hvalid, hnone⟩
  · rintro ⟨hvalid, hsome⟩
    refine ⟨true, hvalid, ?_⟩
    rw [if_neg (by decide), if_neg hsome]

/-- The request has the token of the daemon, if that has one. -/
def RunnerHandler.Authorized (config : RunnerDaemonConfig) (request : Request) : Prop :=
  ∀ token ∈ config.auth_token, token ≠ [] → Presents request token

theorem validate_runner_headers_ok_iff {config : RunnerDaemonConfig} {request : Request}
    (h : RunnerHandler.Comparable config request) :
    RunnerHandler.validate_runner_headers config request = .ok () ↔
      RunnerHandler.Authorized config request := by
  unfold RunnerHandler.validate_runner_headers RunnerHandler.Authorized
  cases htoken : config.auth_token with
  | none => simp
  | some token =>
    simp only [Option.mem_some_iff, forall_eq']
    by_cases hempty : token = []
    · simp [hempty]
    · simp only [hempty, if_false, ne_eq, not_false_eq_true, forall_const]
      rw [← check_bearer_ok_iff (h token htoken hempty), bind_ok]
      constructor
      · rintro ⟨valid, hvalid, hrest⟩
        split_ifs at hrest with hfalse
        · cases hrest
        · obtain rfl := Bool.of_not_eq_false hfalse
          exact hvalid
      · intro hvalid
        exact ⟨true, hvalid, if_neg (by decide)⟩

/-- The length of the body is announced, positive and within the limit. -/
def Announces (I : Interp) (limit : Option Int) (request : Request) (length : Int) : Prop :=
  content_length I request = some length ∧ 0 < length ∧ ∀ n ∈ limit, length ≤ n

/-- The body of a request can be read and parsed, or fails with
    `JSONDecodeError` or because it is no UTF-8. -/
structure Readable (I : Interp) (limit : Option Int) (request : Request) : Prop where
  length : (content_length I request).isSome
  size : ∀ length, Announces I limit request length → length < 2 ^ 63 ∧ length ≤ I.max_read
  json : ∀ length text, Announces I limit request length →
    Utf8.decode (request.body.take length.toNat) = some text →
    ∀ kind, Json.loads I text = .error kind → kind = .jsonDecodeError

theorem caught_load_json_body {raw_body : Bytes} :
    Caught (load_json_body I raw_body) ↔
      ∀ text, Utf8.decode raw_body = some text →
        ∀ kind, Json.loads I text = .error kind → kind = .jsonDecodeError := by
  unfold load_json_body
  cases Utf8.decode raw_body with
  | none => simp
  | some text =>
    simp only [Option.some.injEq, forall_eq']
    split
    · next hloads => simp [hloads]
    · next kind hkind hloads =>
      refine iff_of_false (not_caught_raiseBuiltin _) fun h => ?_
      exact hkind (h kind hloads)
    · next hloads => simp [hloads]
    · next hloads => simp [hloads]

theorem caught_read {request : Request} {length : Int} :
    Caught (read I request length) ↔ length < 2 ^ 63 ∧ length ≤ I.max_read := by
  unfold read
  split_ifs with hindex hmemory
  · exact iff_of_false (not_caught_raiseBuiltin _) (by omega)
  · exact iff_of_false (not_caught_raiseBuiltin _) (by omega)
  · exact iff_of_true (caught_ok _) (by omega)

theorem read_ok {request : Request} {length : Int} {raw_body : Bytes}
    (h : read I request length = .ok raw_body) : raw_body = request.body.take length.toNat := by
  unfold read at h
  split_ifs at h
  · cases h
  · cases h
  · exact (Except.ok.inj h).symm

/-- A body that is announced is read and parsed, and for any other an error
    is raised that a handler answers. -/
theorem read_body_cases (limit : Option Int) {request : Request} {length : Int}
    (hlength : content_length I request = some length) :
    (Announces I limit request length ∧
      read_body I limit request = read I request length >>= load_json_body I) ∨
    ((∀ n, ¬ Announces I limit request n) ∧ ∃ message : String,
      read_body I limit request = raiseWorker 400 "invalid_request" message) := by
  have heq : ∀ n, Announces I limit request n → n = length := fun n h =>
    Option.some.inj (h.1.symm.trans hlength)
  unfold read_body
  rw [hlength]
  simp only
  split_ifs with hpos hlimit
  · refine .inr ⟨fun n hann => ?_, _, rfl⟩
    obtain rfl := heq n hann
    exact absurd hann.2.1 (by omega)
  · refine .inr ⟨fun n hann => ?_, _, rfl⟩
    obtain rfl := heq n hann
    obtain ⟨m, hm, hlt⟩ := (Option.any_eq_true _ _).mp hlimit
    exact absurd (hann.2.2 m hm) (by simpa using hlt)
  · refine .inl ⟨⟨hlength, by omega, fun m hm => ?_⟩, rfl⟩
    obtain rfl := Option.mem_def.mp hm
    simpa using hlimit

theorem read_of_size {request : Request} {length : Int}
    (h : length < 2 ^ 63 ∧ length ≤ I.max_read) :
    read I request length = .ok (request.body.take length.toNat) := by
  unfold read
  rw [if_neg (by omega), if_neg (by omega)]

theorem caught_read_body {limit : Option Int} {request : Request} :
    Caught (read_body I limit request) ↔ Readable I limit request := by
  cases hlength : content_length I request with
  | none =>
    have hraise : read_body I limit request = raiseBuiltin .valueError := by
      simp only [read_body, hlength]
    rw [hraise]
    exact iff_of_false (not_caught_raiseBuiltin _) fun h => by simpa [hlength] using h.length
  | some length =>
    have hsome : (content_length I request).isSome := by rw [hlength]; rfl
    obtain ⟨hann, hread⟩ | ⟨hnone, message, hraise⟩ := read_body_cases limit hlength
    · have heq : ∀ n, Announces I limit request n → n = length := fun n h =>
        Option.some.inj (h.1.symm.trans hlength)
      rw [hread, caught_bind, caught_read]
      constructor
      · rintro ⟨hsize, hrest⟩
        refine ⟨hsome, fun n h => heq n h ▸ hsize, fun n text h => ?_⟩
        obtain rfl := heq n h
        exact caught_load_json_body.mp (hrest _ (read_of_size hsize)) text
      · intro h
        refine ⟨h.size length hann, fun raw_body hraw => ?_⟩
        obtain rfl := read_ok hraw
        exact caught_load_json_body.mpr fun text => h.json length text hann
    · rw [hraise]
      exact iff_of_true (caught_raiseWorker _ _ _)
        ⟨hsome, fun n h => absurd h (hnone n), fun n _ h => absurd h (hnone n)⟩

/-- The body is announced and is the JSON object `payload`. -/
def Carries (I : Interp) (limit : Option Int) (request : Request) (payload : Json.Fields) : Prop :=
  ∃ length text, Announces I limit request length ∧
    Utf8.decode (request.body.take length.toNat) = some text ∧
    Json.loads I text = .ok (.obj payload)

theorem load_json_body_ok_iff {raw_body : Bytes} {payload : Json.Fields} :
    load_json_body I raw_body = .ok payload ↔
      ∃ text, Utf8.decode raw_body = some text ∧ Json.loads I text = .ok (.obj payload) := by
  unfold load_json_body
  cases Utf8.decode raw_body with
  | none => simp [raiseValidation]
  | some text =>
    simp only [Option.some.injEq, exists_eq_left']
    split <;> simp_all [raiseValidation, raiseBuiltin]

theorem read_body_ok_iff {limit : Option Int} {request : Request} {payload : Json.Fields}
    (h : Readable I limit request) :
    read_body I limit request = .ok payload ↔ Carries I limit request payload := by
  obtain ⟨length, hlength⟩ := Option.isSome_iff_exists.mp h.length
  obtain ⟨hann, hread⟩ | ⟨hnone, message, hraise⟩ := read_body_cases limit hlength
  · rw [hread, read_of_size (h.size length hann)]
    refine load_json_body_ok_iff.trans ⟨?_, ?_⟩
    · rintro ⟨text, htext⟩
      exact ⟨length, text, hann, htext⟩
    · rintro ⟨n, text, hn, htext⟩
      obtain rfl : n = length := Option.some.inj (hn.1.symm.trans hlength)
      exact ⟨text, htext⟩
  · rw [hraise]
    refine iff_of_false (by simp [raiseWorker]) ?_
    rintro ⟨n, text, hn, -⟩
    exact hnone n hn

/-! ### The worker -/

namespace WorkerHandler

section create_task

variable (I) (config : WorkerConfig) (s : Service) (payload : Json.Fields) (env : CreateEnv)

/-- `create_task` gets as far as the conversion of `timeout_sec`. -/
structure Converts : Prop where
  new : ∃ request_id, require_str payload "request_id" = .ok request_id ∧
    s.request? request_id = none
  allowed : ∃ telegram_user_id, require_int payload "telegram_user_id" = .ok telegram_user_id ∧
    (s.rate_limiter.check telegram_user_id.val env.monotonic).2 = true
  idle : s.active_task = none
  checked : ∃ checked, check_request I config payload env.inventory = .ok checked

/-- What `create_task` must not meet: a request that has no fingerprint, or a
    `timeout_sec` that does not convert. -/
structure Creatable : Prop where
  fingerprint : ∀ request_id, require_str payload "request_id" = .ok request_id →
    Renderable I (.obj payload)
  timeout_sec : Converts I config s payload env → TimeoutConverts I payload

end create_task

variable {config : WorkerConfig} {s : Service} {payload : Json.Fields} {env : CreateEnv}

/-- A call for a new `request_id`, whose request has a fingerprint. -/
theorem caught_create_new (hclean : Json.Clean I (.obj payload)) {request_id : PyStr}
    (hreq : require_str payload "request_id" = .ok request_id)
    (hnew : s.request? request_id = none) (fingerprint : PyStr) :
    Caught (s.create_new I config payload fingerprint env).2 ↔
      (Converts I config s payload env → TimeoutConverts I payload) := by
  cases hint : require_int payload "telegram_user_id" with
  | error e =>
    have hraise : (s.create_new I config payload fingerprint env).2 = .error e := by
      simp only [Service.create_new, hint]
    rw [hraise]
    refine iff_of_true (caught_error.mpr (caught_require_int _ _ e hint)) fun h => ?_
    obtain ⟨_, hok, -⟩ := h.allowed
    rw [hint] at hok
    cases hok
  | ok telegram_user_id =>
    have hchecks : Converts I config s payload env ↔
        (s.rate_limiter.check telegram_user_id.val env.monotonic).2 = true ∧
          s.active_task = none ∧
          ∃ checked, check_request I config payload env.inventory = .ok checked := by
      constructor
      · rintro ⟨-, ⟨_, hok, hallowed⟩, hidle, hchecked⟩
        obtain rfl := Except.ok.inj (hint.symm.trans hok)
        exact ⟨hallowed, hidle, hchecked⟩
      · rintro ⟨hallowed, hidle, hchecked⟩
        exact ⟨⟨request_id, hreq, hnew⟩, ⟨_, hint, hallowed⟩, hidle, hchecked⟩
    rw [hchecks]
    simp only [Service.create_new, hint]
    -- refused by the limiter, busy, or on to the checks of the payload
    split_ifs with hrefused hbusy
    · exact iff_of_true (caught_raiseWorker _ _ _) fun h => by simp [hrefused] at h
    · refine iff_of_true (caught_raiseWorker _ _ _) fun ⟨_, hidle, _⟩ => ?_
      have hbusy' : s.active_task.isSome = true := hbusy
      rw [hidle] at hbusy'
      cases hbusy'
    · have hallowed := Bool.of_not_eq_false hrefused
      have hidle : s.active_task = none := Option.not_isSome_iff_eq_none.mp hbusy
      have hbuild : Caught (build_task I config payload fingerprint env) ↔ _ :=
        caught_build_task hclean fingerprint env
      simp only [hallowed, hidle, true_and]
      rw [← hbuild]
      cases build_task I config payload fingerprint env with
      | error e => exact caught_error_congr
      | ok built => exact iff_of_true (caught_ok _) (caught_ok _)

theorem caught_create_task :
    Caught (s.create_task I config payload env).2 ↔ Creatable I config s payload env := by
  cases hreq : require_str payload "request_id" with
  | error e =>
    have hraise : (s.create_task I config payload env).2 = .error e := by
      simp only [Service.create_task, hreq]
    rw [hraise]
    refine iff_of_true (caught_error.mpr (caught_require_str _ _ _ e hreq)) ⟨?_, ?_⟩
    · intro request_id h
      rw [hreq] at h
      cases h
    · rintro ⟨⟨request_id, h, -⟩, -⟩
      rw [hreq] at h
      cases h
  | ok request_id =>
    -- a payload that cannot be rendered raises what the handler does not catch
    cases hfp : Security.fingerprint_request I payload with
    | error e =>
      have hraise : (s.create_task I config payload env).2 = .error e := by
        simp only [Service.create_task, hreq, hfp]
      rw [hraise]
      refine iff_of_false (fun h => ?_) fun h => ?_
      · obtain ⟨w, rfl, -⟩ := caught_error.mp h
        cases Security.fingerprint_request_error hfp
      · obtain ⟨fp, hok⟩ := (Security.fingerprint_request_ok_iff I payload).mpr (h.1 _ hreq)
        rw [hfp] at hok
        cases hok
    | ok fingerprint =>
      have hrender := (Security.fingerprint_request_ok_iff I payload).mp ⟨_, hfp⟩
      have hcreatable : Creatable I config s payload env ↔
          (Converts I config s payload env → TimeoutConverts I payload) :=
        ⟨fun h => h.timeout_sec, fun h => ⟨fun _ _ => hrender, h⟩⟩
      rw [hcreatable]
      cases hex : s.request? request_id with
      | none =>
        have hcreate : s.create_task I config payload env =
            s.create_new I config payload fingerprint env := by
          simp only [Service.create_task, hreq, hfp, hex]
        rw [hcreate]
        exact caught_create_new hrender.leaves hreq hex fingerprint
      | some existing =>
        refine iff_of_true ?_ fun h => ?_
        · simp only [Service.create_task, hreq, hfp, hex]
          split_ifs <;> simp
        · obtain ⟨_, hok, hnone⟩ := h.new
          obtain rfl := Except.ok.inj (hreq.symm.trans hok)
          rw [hex] at hnone
          cases hnone

end WorkerHandler

end BoVpnAgent

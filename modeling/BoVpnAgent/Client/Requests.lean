import BoVpnAgent.Client.RunnerDaemonClient
import BoVpnAgent.Lib.JsonRead

/-! # Requests that worker and daemon agree on

    The worker and the runner daemon check a request with code of their own.
    A task that the worker has accepted is sent to the daemon, and this file
    shows when the daemon accepts it and makes the same job of it: whenever
    the request or the configuration names a runner mode.
-/

namespace BoVpnAgent

namespace RunnerDaemonClient

variable {I : Interp} {config : WorkerConfig} {payload : Json.Fields}

/-! ### Vehicles of the inventory -/

theorem record_from_row_ok {row : CsvRow} {row_number : Nat} {record : VehicleInventoryRecord}
    (h : VehicleInventory.record_from_row row row_number = .ok record) :
    record.ip.val ≠ [] ∧ record.number.val ≠ [] := by
  unfold VehicleInventory.record_from_row at h
  simp only at h
  split at h
  · cases h
  · next hip =>
    split at h
    · cases h
    · next hsome =>
      cases h
      refine ⟨hip, ?_⟩
      simp only [IdentifierField.all, List.all_cons, List.all_nil, Bool.and_true, Bool.and_eq_true,
        VehicleInventoryRecord.get, not_and] at hsome
      unfold VehicleInventoryRecord.number
      simp only
      split
      · next hgarage => exact hgarage
      · next hgarage =>
        split
        · next hid => exact hid
        · next hid =>
          intro hplate
          exact hsome (decide_eq_true (not_not.mp hgarage)) (decide_eq_true (not_not.mp hid))
            (decide_eq_true hplate)

theorem records_from_ok {rows : List CsvRow} {n : Nat} {records : List VehicleInventoryRecord}
    (h : VehicleInventory.records_from n rows = .ok records) :
    ∀ record ∈ records, record.ip.val ≠ [] ∧ record.number.val ≠ [] := by
  induction rows generalizing n records with
  | nil =>
    cases h
    exact fun _ hr => (nomatch hr)
  | cons row rows ih =>
    obtain ⟨record, hrecord, h⟩ := bind_ok.mp h
    obtain ⟨records', hrecords, h⟩ := bind_ok.mp h
    cases h
    exact List.forall_mem_cons.mpr ⟨record_from_row_ok hrecord, ih hrecords⟩

theorem unique?_ok {records : List VehicleInventoryRecord} {record : VehicleInventoryRecord}
    (h : VehicleInventory.unique? records = some (.ok record)) : record ∈ records := by
  unfold VehicleInventory.unique? at h
  split at h
  · cases h
  · have hvalid := Option.some.inj h
    unfold VehicleInventory.validate_resolved_record at hvalid
    split at hvalid
    · cases hvalid
      exact List.mem_singleton_self _
    · cases hvalid
  · cases h

/-- A vehicle that the inventory knows has a number and an address. -/
theorem resolve_vehicle_ok {file : InventoryFile} {vehicle : Json.Fields}
    {record : VehicleInventoryRecord}
    (h : VehicleInventory.resolve_vehicle file vehicle = .ok record) :
    record.ip.val ≠ [] ∧ record.number.val ≠ [] := by
  -- every record of the inventory has an address and a number
  have hmatch : ∀ {records field query}, VehicleInventory.load_records file = .ok records →
      VehicleInventory.unique? (VehicleInventory.matching records field query) =
        some (.ok record) → record.ip.val ≠ [] ∧ record.number.val ≠ [] := by
    intro records field query hload hunique
    have hmem := List.mem_of_mem_filter (unique?_ok hunique)
    unfold VehicleInventory.load_records at hload
    split at hload
    · cases hload
    · exact records_from_ok hload record hmem
  unfold VehicleInventory.resolve_vehicle at h
  split at h
  · next field value _ =>
    obtain ⟨records, hload, h⟩ := bind_ok.mp h
    cases hunique : VehicleInventory.unique?
        (VehicleInventory.matching records field (VehicleInventory.normalize_identifier value)) with
    | none => rw [hunique] at h; cases h
    | some r =>
      rw [hunique] at h
      obtain rfl : r = .ok record := h
      exact hmatch hload hunique
  · split at h
    · next number _ =>
      unfold VehicleInventory.resolve_query at h
      simp only at h
      split at h
      · cases h
      · obtain ⟨records, hload, h⟩ := bind_ok.mp h
        generalize hfound : IdentifierField.all.findSome? _ = found at h
        cases found with
        | none => cases h
        | some r =>
          obtain rfl : r = .ok record := h
          obtain ⟨field, -, hunique⟩ := List.exists_of_findSome?_eq_some hfound
          exact hmatch hload hunique
    · cases h

/-! ### An accepted task -/

/-- The credentials of a request: those of `inline_once` are not empty, those
    of `container_secret` are. -/
def Complete (vpn : VpnCredentials) : Prop :=
  (vpn.mode = "inline_once".py ∧ vpn.username ≠ [] ∧ vpn.password ≠ []) ∨
    (vpn.mode = "container_secret".py ∧ vpn.username = [] ∧ vpn.password = [])

theorem build_vpn_ok {vpn_raw : Json.Fields} {unsupported : String} {vpn : VpnCredentials}
    (hclean : Json.Clean I (.obj vpn_raw)) (h : build_vpn vpn_raw unsupported = .ok vpn) :
    Complete vpn ∧ vpn.mode.Scalar ∧ vpn.username.Scalar ∧ vpn.password.Scalar := by
  unfold build_vpn at h
  obtain ⟨mode, hmode, h⟩ := bind_ok.mp h
  split at h
  · next hinline =>
    obtain ⟨username, husername, h⟩ := bind_ok.mp h
    obtain ⟨password, hpassword, h⟩ := bind_ok.mp h
    cases h
    exact ⟨.inl ⟨hinline, (require_str_ok husername).2, (require_str_ok hpassword).2⟩,
      scalar_require_str hclean hmode, scalar_require_str hclean husername,
      scalar_require_str hclean hpassword⟩
  · split at h
    · next hsecret =>
      cases h
      exact ⟨.inr ⟨hsecret, rfl, rfl⟩, scalar_require_str hclean hmode, PyStr.scalar_nil,
        PyStr.scalar_nil⟩
    · cases h

theorem build_vehicle_ok {inventory : InventoryFile} {vehicle_raw : Json.Fields} {vehicle : Vehicle}
    (h : build_vehicle config inventory vehicle_raw = .ok vehicle) :
    vehicle.number ≠ [] ∧ vehicle.ip ≠ [] := by
  unfold build_vehicle at h
  split at h
  · next ip hip =>
    obtain ⟨number, hnumber, h⟩ := bind_ok.mp h
    cases h
    refine ⟨(require_str_ok hnumber).2, ?_⟩
    unfold VehicleInventory.text? at hip
    split at hip
    · split at hip
      · next hne => cases hip; exact hne
      · cases hip
    · cases hip
  · split at h
    · cases h
    · split at h
      · next record hrecord =>
        cases h
        exact (resolve_vehicle_ok hrecord).symm
      · cases h

/-- The texts of a task that the daemon requires are there, and everything
    that is sent can be written out. -/
structure Sendable (I : Interp) (task : Task) (vpn : VpnCredentials) : Prop where
  request_id : task.request_id ≠ [] ∧ task.request_id.Scalar
  number : task.vehicle.number ≠ [] ∧ task.vehicle.number.Scalar
  ip : task.vehicle.ip ≠ [] ∧ task.vehicle.ip.Scalar
  credentials : Complete vpn ∧ vpn.mode.Scalar ∧ vpn.username.Scalar ∧ vpn.password.Scalar
  operation : task.operation ≠ [] ∧ task.operation.Scalar
  params : Json.Readable I (.obj task.params)
  loads_depth : (Json.obj (job_request task vpn)).depth ≤ I.loads_depth
  dumps_depth : (Json.obj (job_request task vpn)).depth ≤ I.dumps_depth
  timeout_sec : Json.DigitsWithin I.int_max_str_digits task.timeout_sec

/-- The request or else the configuration names a runner mode that can be
    sent. -/
def NamesMode (config : WorkerConfig) (payload : Json.Fields) : Prop :=
  match Json.get? payload "runner_mode".py with
  | some value => value ≠ .str []
  | none => config.runner_mode ≠ [] ∧ config.runner_mode.Scalar

/-- A value that was read becomes an empty string only if it is one. -/
theorem strText_ne_nil {j : Json} (h : j ≠ .str []) : Json.strText I j ≠ [] := by
  have hpy : ∀ s : String, s ≠ "" → s.py ≠ [] := by
    intro s hs hpy
    have hnil := List.map_eq_nil_iff.mp hpy
    exact hs (String.ext (by simpa using hnil))
  cases j with
  | null => exact show "None".py ≠ [] by decide
  | bool b =>
    cases b
    · exact show "False".py ≠ [] by decide
    · exact show "True".py ≠ [] by decide
  | int n => exact Decimal.intRepr_ne_nil n
  | float x => exact hpy _ (I.float_repr_ne x)
  | str s => exact fun hs => h (congrArg Json.str hs)
  | arr xs => exact hpy _ (I.container_str_ne _)
  | obj fields => exact hpy _ (I.container_str_ne _)

theorem read_load_json_body {raw_body : Bytes} (h : load_json_body I raw_body = .ok payload) :
    Json.Read I.loads_depth (.obj payload) := by
  unfold load_json_body at h
  split at h
  · cases h
  · split at h
    · cases h
    · cases h
    · next hload =>
      cases h
      exact Json.read_loads hload
    · cases h

/-- What an accepted task is made of. -/
theorem build_task_parts {fingerprint : PyStr} {env : CreateEnv} {task : Task}
    {vpn : VpnCredentials}
    (h : build_task I config payload fingerprint env = .ok (task, vpn)) :
    (∃ vehicle_raw, Json.get? payload "vehicle".py = some (.obj vehicle_raw) ∧
      build_vehicle config env.inventory vehicle_raw = .ok task.vehicle) ∧
    (∃ vpn_raw unsupported, Json.get? payload "vpn".py = some (.obj vpn_raw) ∧
      build_vpn vpn_raw unsupported = .ok vpn) ∧
    (∃ operation ∈ MVP_OPERATIONS, task.operation = operation.name.py ∧
      Json.toInt I ((Json.get? payload "timeout_sec".py).getD
        (.int operation.timeout_sec_default)) = .ok task.timeout_sec) ∧
    (Json.get? payload "params".py).getD (.obj []) = .obj task.params ∧
    Json.toStr I ((Json.get? payload "runner_mode".py).getD (.str config.runner_mode)) =
      .ok task.runner_mode ∧
    require_str payload "request_id" = .ok task.request_id := by
  unfold build_task at h
  obtain ⟨checked, hchecked, h⟩ := bind_ok.mp h
  obtain ⟨timeout_sec, htimeout, h⟩ := bind_ok.mp h
  split at h
  · cases h
  · obtain ⟨runner_mode, hmode, h⟩ := bind_ok.mp h
    obtain ⟨request_id, hreq, h⟩ := bind_ok.mp h
    obtain ⟨telegram_user_id, -, h⟩ := bind_ok.mp h
    cases h
    -- the checks in the order of the source
    unfold check_request at hchecked
    obtain ⟨vehicle_raw, hraw, hchecked⟩ := bind_ok.mp hchecked
    obtain ⟨vehicle, hvehicle, hchecked⟩ := bind_ok.mp hchecked
    obtain ⟨vpn_raw, hvpn_raw, hchecked⟩ := bind_ok.mp hchecked
    obtain ⟨vpn, hvpn, hchecked⟩ := bind_ok.mp hchecked
    obtain ⟨operation_name, -, hchecked⟩ := bind_ok.mp hchecked
    obtain ⟨operation, hoperation, hchecked⟩ := bind_ok.mp hchecked
    obtain ⟨user_role, -, hchecked⟩ := bind_ok.mp hchecked
    split at hchecked
    · cases hchecked
    · split at hchecked
      · next params hparams =>
        cases hchecked
        exact ⟨⟨vehicle_raw, require_dict_ok hraw, hvehicle⟩,
          ⟨vpn_raw, _, require_dict_ok hvpn_raw, hvpn⟩,
          ⟨operation, mem_get_operation hoperation, rfl, liftBuiltin_ok.mp htimeout⟩, hparams,
          liftBuiltin_ok.mp hmode, hreq⟩
      · cases hchecked

variable {s : Service} {env : CreateEnv} {task : Task} {vpn : VpnCredentials}

/-- An accepted task can be sent, but for its runner mode. -/
theorem sendable_of_accepts (hread : Json.Read I.loads_depth (.obj payload))
    (hfloats : (Json.obj payload).Nodes (Json.FloatReads I) fun _ => True)
    (h : Service.Accepts I config s payload env task vpn) : Sendable I task vpn := by
  obtain ⟨⟨vehicle_raw, hraw, hvehicle⟩, ⟨vpn_raw, _, hvpn_raw, hvpn⟩,
    ⟨operation, hoperation, hname, htimeout⟩, hparams, -, hreq⟩ := build_task_parts h.built
  have hrender := (Security.fingerprint_request_ok_iff I payload).mp ⟨_, h.fingerprint⟩
  have hclean : Json.Clean I (.obj payload) := hrender.leaves
  have hvehicle_texts := scalar_build_vehicle (Json.All.get? hclean hraw) hvehicle
  have hvehicle_depth := Json.depth_get? hraw
  have hop : ∀ operation ∈ MVP_OPERATIONS, operation.name.py ≠ [] ∧
      (Nat.toDigits 10 operation.timeout_sec_default.natAbs).length ≤ 3 := by decide
  have hdigits := I.digits_min
  -- without a field `params` the worker puts an empty object there
  have hparams_ok : Json.Readable I (.obj task.params) ∧
      (Json.obj task.params).depth + 1 ≤ (Json.obj payload).depth := by
    cases hget : Json.get? payload "params".py with
    | some value =>
      rw [hget] at hparams
      obtain rfl : value = .obj task.params := hparams
      refine ⟨⟨Json.All.get? hclean hget, ?_⟩, Json.depth_get? hget⟩
      exact Json.Nodes.and (fun _ hreads _ => hreads) (fun _ _ hdistinct => hdistinct) _
        (hfloats.get? hget) (hread.nodes.get? hget)
    | none =>
      rw [hget] at hparams
      have hnone : task.params = [] := (Json.obj.inj hparams).symm
      rw [hnone]
      refine ⟨⟨trivial, List.nodup_nil, trivial⟩, ?_⟩
      simp only [Json.depth, Json.depthFields] at hvehicle_depth ⊢
      omega
  -- the request of the job is no deeper than the one that the worker has read
  have hdepth : (Json.obj (job_request task vpn)).depth ≤ (Json.obj payload).depth := by
    have hbody : (Json.obj (job_request task vpn)).depth =
        1 + max 1 (Json.obj task.params).depth := by
      simp [job_request, Vehicle.to_response, Json.depth, Json.depthFields]
    have hraw_depth : 1 ≤ (Json.obj vehicle_raw).depth := by simp [Json.depth]
    omega
  refine
    { request_id := ⟨(require_str_ok hreq).2, scalar_require_str hclean hreq⟩
      number := ⟨(build_vehicle_ok hvehicle).1, hvehicle_texts.1⟩
      ip := ⟨(build_vehicle_ok hvehicle).2, hvehicle_texts.2⟩
      credentials := build_vpn_ok (Json.All.get? hclean hvpn_raw) hvpn
      operation := by rw [hname]; exact ⟨(hop operation hoperation).1, PyStr.scalar_py _⟩
      params := hparams_ok.1
      loads_depth := le_trans hdepth hread.depth
      dumps_depth := le_trans hdepth hrender.depth
      timeout_sec := ?_ }
  cases hget : Json.get? payload "timeout_sec".py with
  | some value =>
    rw [hget] at htimeout
    exact Json.digitsWithin_toInt (Json.All.get? hclean hget) (hread.nodes.get? hget) htimeout
  | none =>
    rw [hget] at htimeout
    have hdefault : operation.timeout_sec_default = task.timeout_sec := Except.ok.inj htimeout
    rw [← hdefault]
    exact le_trans (hop operation hoperation).2 (by omega)

/-- The runner mode of an accepted task can be sent when one was named. -/
theorem namesMode_iff (h : Service.Accepts I config s payload env task vpn) :
    NamesMode config payload ↔ task.runner_mode ≠ [] ∧ task.runner_mode.Scalar := by
  obtain ⟨-, -, -, -, hmode, -⟩ := build_task_parts h.built
  unfold NamesMode
  cases hget : Json.get? payload "runner_mode".py with
  | some value =>
    rw [hget] at hmode
    obtain ⟨text, htext, hscalar⟩ := Json.Clean.toStr (Json.All.get? h.clean hget)
    have htask : text = task.runner_mode := Except.ok.inj (htext.symm.trans hmode)
    have hvalue : Json.strText I value = text := by
      unfold Json.toStr at htext
      split at htext
      · exact Except.ok.inj htext
      · cases htext
    rw [← htask]
    constructor
    · intro hne
      exact ⟨hvalue ▸ strText_ne_nil hne, hscalar⟩
    · rintro ⟨hne, -⟩ rfl
      exact hne hvalue.symm
  | none =>
    rw [hget] at hmode
    have htask : config.runner_mode = task.runner_mode := Except.ok.inj hmode
    rw [htask]

/-! ### The daemon's job -/

/-- The job is the one that the worker's task asks for. -/
structure Agrees (job : RunnerJob) (task : Task) (vpn : VpnCredentials) : Prop where
  request_id : job.request_id = task.request_id ∧ job.task.request_id = task.request_id
  runner_mode : job.task.runner_mode = task.runner_mode
  vehicle : job.task.vehicle = task.vehicle
  vpn : job.vpn = vpn
  operation : job.task.operation = task.operation
  params : job.task.params = task.params
  timeout_sec : job.task.timeout_sec = task.timeout_sec

/-- The request for the task can be sent, the daemon reads and accepts what it
    receives, and the job agrees with the task. -/
def Delivered (I : Interp) (task : Task) (vpn : VpnCredentials) (env : JobEnv) : Prop :=
  ∃ body received job, request_body I task vpn = .ok body ∧ load_json_body I body = .ok received ∧
    RunnerDaemon.build_job I received env = .ok job ∧ Agrees job task vpn

theorem require_str_of_get? {fields : Json.Fields} (key : String) {label : String} {value : PyStr}
    (hget : Json.get? fields key.py = some (.str value)) (hne : value ≠ []) :
    require_str fields key label = .ok value := by
  unfold require_str
  rw [hget]
  exact if_pos hne

theorem build_vpn_of_complete (h : Complete vpn) (unsupported : String) :
    build_vpn [("mode".py, .str vpn.mode), ("username".py, .str vpn.username),
      ("password".py, .str vpn.password)] unsupported = .ok vpn := by
  obtain ⟨mode, username, password⟩ := vpn
  rcases h with ⟨hmode, husername, hpassword⟩ | ⟨hmode, husername, hpassword⟩
  · obtain rfl : mode = "inline_once".py := hmode
    unfold build_vpn
    rw [require_str_of_get? "mode" rfl (show "inline_once".py ≠ [] by decide),
      require_str_of_get? "username" rfl husername,
      require_str_of_get? "password" rfl hpassword]
    rfl
  · obtain rfl : mode = "container_secret".py := hmode
    obtain rfl : username = [] := husername
    obtain rfl : password = [] := hpassword
    rfl

/-- The daemon's checks pass for what the worker has checked, but for the
    runner mode, which the worker has not. -/
theorem build_job_request (h : Sendable I task vpn) (hmode : task.runner_mode ≠ []) (env : JobEnv) :
    ∃ job, RunnerDaemon.build_job I (job_request task vpn) env = .ok job ∧ Agrees job task vpn := by
  have hvpn := build_vpn_of_complete h.credentials.1
    "vpn.mode должен быть inline_once или container_secret"
  have hvehicle : require_dict (job_request task vpn) "vehicle" =
      .ok [("number".py, .str task.vehicle.number), ("ip".py, .str task.vehicle.ip)] := rfl
  have hraw : require_dict (job_request task vpn) "vpn" =
      .ok [("mode".py, .str vpn.mode), ("username".py, .str vpn.username),
        ("password".py, .str vpn.password)] := rfl
  have hchecked : RunnerDaemon.check_job (job_request task vpn) =
      .ok { request_id := task.request_id, runner_mode := task.runner_mode,
            vehicle := task.vehicle, vpn := vpn, operation := task.operation } := by
    unfold RunnerDaemon.check_job
    rw [require_str_of_get? "request_id" rfl h.request_id.1,
      require_str_of_get? "runner_mode" rfl hmode, hvehicle, hraw,
      require_str_of_get? "operation" rfl h.operation.1]
    simp only [bind, Except.bind]
    rw [require_str_of_get? "number" rfl h.number.1,
      require_str_of_get? "ip" rfl h.ip.1, hvpn]
    rfl
  unfold RunnerDaemon.build_job
  rw [hchecked]
  exact ⟨_, rfl, ⟨rfl, rfl⟩, rfl, rfl, rfl, rfl, rfl, rfl⟩

theorem build_job_mode {received : Json.Fields} {env : JobEnv} {job : RunnerJob}
    (h : RunnerDaemon.build_job I received env = .ok job) : job.task.runner_mode ≠ [] := by
  obtain ⟨checked, timeout_sec, params, hchecked, -, rfl⟩ := RunnerDaemon.build_job_ok h
  unfold RunnerDaemon.check_job at hchecked
  obtain ⟨request_id, -, hchecked⟩ := bind_ok.mp hchecked
  obtain ⟨runner_mode, hmode, hchecked⟩ := bind_ok.mp hchecked
  obtain ⟨vehicle_raw, -, hchecked⟩ := bind_ok.mp hchecked
  obtain ⟨vpn_raw, -, hchecked⟩ := bind_ok.mp hchecked
  obtain ⟨number, -, hchecked⟩ := bind_ok.mp hchecked
  obtain ⟨ip, -, hchecked⟩ := bind_ok.mp hchecked
  obtain ⟨vpn, -, hchecked⟩ := bind_ok.mp hchecked
  obtain ⟨operation, -, hchecked⟩ := bind_ok.mp hchecked
  cases hchecked
  exact (require_str_ok hmode).2

theorem readable_request (h : Sendable I task vpn) (hmode : task.runner_mode.Scalar) :
    Json.Readable I (.obj (job_request task vpn)) := by
  obtain ⟨-, hvpn_mode, husername, hpassword⟩ := h.credentials
  have hkey : ∀ key : String, key.py.Scalar := PyStr.scalar_py
  refine ⟨?_, ?_⟩
  · have hparams := h.params.clean
    simp only [Json.Clean, job_request, Vehicle.to_response, Json.All, Json.AllFields, hkey,
      h.request_id.2, hmode, h.number.2, h.ip.2, hvpn_mode, husername, hpassword, h.operation.2,
      and_true, true_and] at hparams ⊢
    exact ⟨hparams, h.timeout_sec⟩
  · have hparams := h.params.nodes
    simp only [job_request, Vehicle.to_response, Json.Nodes, Json.NodesFields, and_true,
      true_and] at hparams ⊢
    refine ⟨?_, ?_, ?_, hparams⟩
    · exact show List.Nodup ["request_id".py, "runner_mode".py, "vehicle".py, "vpn".py,
        "operation".py, "params".py, "timeout_sec".py] by decide
    · exact show List.Nodup ["number".py, "ip".py] by decide
    · exact show List.Nodup ["mode".py, "username".py, "password".py] by decide

/-- A readable object can be sent as a body. -/
theorem load_json_body_dumps (h : Json.Readable I (.obj payload))
    (hloads : (Json.obj payload).depth ≤ I.loads_depth)
    (hdumps : (Json.obj payload).depth ≤ I.dumps_depth) :
    ∃ body, Json.dumpsUtf8 I requestOptions (.obj payload) = .ok body ∧
      load_json_body I body = .ok payload := by
  obtain ⟨body, hbody⟩ := (Json.dumpsUtf8_ok_iff (o := requestOptions) rfl _).mpr
    ⟨hdumps, h.clean⟩
  obtain ⟨text, htext, hload⟩ := Json.loads_dumpsUtf8 (o := requestOptions)
    ⟨⟨_, rfl, rfl⟩, ⟨_, rfl, rfl⟩, rfl⟩ h hloads hbody
  refine ⟨body, hbody, ?_⟩
  unfold load_json_body
  rw [htext]
  simp only [hload]

/-- A task is delivered when its runner mode is not empty and can be sent. -/
theorem delivered_iff (h : Sendable I task vpn) (env : JobEnv) :
    Delivered I task vpn env ↔ task.runner_mode ≠ [] ∧ task.runner_mode.Scalar := by
  constructor
  · rintro ⟨body, received, job, hbody, -, hjob, hagrees⟩
    have hclean := ((Json.dumpsUtf8_ok_iff rfl _).mp ⟨body, hbody⟩).leaves
    refine ⟨hagrees.runner_mode ▸ build_job_mode hjob, ?_⟩
    have hmode : Json.get? (job_request task vpn) "runner_mode".py = some (.str task.runner_mode) :=
      rfl
    exact Json.All.get? hclean hmode
  · rintro ⟨hne, hscalar⟩
    obtain ⟨body, hbody, hload⟩ :=
      load_json_body_dumps (readable_request h hscalar) h.loads_depth h.dumps_depth
    obtain ⟨job, hjob, hagrees⟩ := build_job_request h hne env
    exact ⟨body, job_request task vpn, job, hbody, hload, hjob, hagrees⟩

/-! ### Accepted requests -/

/-- For a request that the worker has answered with 201, the task and the
    credentials that it keeps are delivered to the daemon exactly when the
    request or the configuration names a runner mode. -/
theorem request_delivered_iff {raw_body : Bytes} (hbody : load_json_body I raw_body = .ok payload)
    (hfloats : (Json.obj payload).Nodes (Json.FloatReads I) fun _ => True) {s' : Service}
    {response : CreateResponse}
    (hcall : s.create_task I config payload env = (s', .ok (201, response))) :
    ∃ task vpn, s'.task? response.task_id = some task ∧
      s'.secrets_by_task_id.get? response.task_id = some vpn ∧
      ∀ job_env, Delivered I task vpn job_env ↔ NamesMode config payload := by
  have hread := read_load_json_body hbody
  rcases Service.create_task_cases I config s payload env with
    ⟨limiter, e, heq⟩ | ⟨request_id, t, -, heq⟩ | ⟨limiter, task, vpn, haccepts, heq⟩
  · rw [heq] at hcall
    cases hcall
  · rw [heq] at hcall
    cases hcall
  · rw [heq] at hcall
    cases hcall
    refine ⟨task, vpn, ?_, Dict.get?_set_self _ _ _, fun job_env => ?_⟩
    · show (((s.tasks_by_id.set task.task_id s.heap.next).get? task.task_id).bind
        (s.heap.alloc task).read) = some task
      rw [Dict.get?_set_self]
      exact Heap.read_alloc_next s.heap task
    · rw [delivered_iff (sendable_of_accepts hread hfloats haccepts), namesMode_iff haccepts]

/-- A request with a parameter that is a float. -/
def sampleModePayload (runner_mode : String) : Json.Fields :=
  [("request_id".py, .str "r1".py), ("telegram_user_id".py, .int 7),
    ("vehicle".py, .obj [("number".py, .str "1".py), ("ip".py, .str " 10.0.0.1".py)]),
    ("vpn".py, .obj [("mode".py, .str "container_secret".py)]),
    ("operation".py, .str "basic_status".py),
    ("params".py, .obj [("pause_sec".py, .float (.fin false 4503599627370496 (-53)))]),
    ("runner_mode".py, .str runner_mode.py)]

theorem floatReads_half :
    Json.FloatReads sampleInterp (.fin false 4503599627370496 (-53)) := by
  unfold Json.FloatReads
  rfl

theorem readable_sampleModePayload (runner_mode : String) :
    Json.Readable sampleInterp (.obj (sampleModePayload runner_mode)) := by
  have hkey : ∀ key : String, key.py.Scalar := PyStr.scalar_py
  have hseven : Json.DigitsWithin sampleInterp.int_max_str_digits 7 := by decide
  refine ⟨?_, ?_⟩
  · simp only [Json.Clean, sampleModePayload, Json.All, Json.AllFields, hkey, hseven, and_self]
  · simp only [sampleModePayload, Json.Nodes, Json.NodesFields, floatReads_half, and_true, true_and]
    refine ⟨?_, ?_, ?_, ?_⟩
    · exact show List.Nodup ["request_id".py, "telegram_user_id".py, "vehicle".py, "vpn".py,
        "operation".py, "params".py, "runner_mode".py] by decide
    · exact show List.Nodup ["number".py, "ip".py] by decide
    · exact show List.Nodup ["mode".py] by decide
    · exact show List.Nodup ["pause_sec".py] by decide

theorem sampleModePayload_body (runner_mode : String) :
    ∃ raw_body, load_json_body sampleInterp raw_body = .ok (sampleModePayload runner_mode) := by
  have hdepth : (Json.obj (sampleModePayload runner_mode)).depth = 2 := rfl
  obtain ⟨body, -, hload⟩ := load_json_body_dumps (readable_sampleModePayload runner_mode)
    (by rw [hdepth]; decide) (by rw [hdepth]; decide)
  exact ⟨body, hload⟩

set_option maxRecDepth 4000 in
theorem request_delivered_iff_sample :
    ∃ raw_body s' response task vpn,
      load_json_body sampleInterp raw_body = .ok (sampleModePayload "existing_container") ∧
      (Service.init sampleConfig).create_task sampleInterp sampleConfig
        (sampleModePayload "existing_container") (sampleEnv "t1") = (s', .ok (201, response)) ∧
      s'.task? response.task_id = some task ∧
      Delivered sampleInterp task vpn (sampleJobEnv "j1") := by
  obtain ⟨raw_body, hbody⟩ := sampleModePayload_body "existing_container"
  have hfloats : (Json.obj (sampleModePayload "existing_container")).Nodes
      (Json.FloatReads sampleInterp) fun _ => True :=
    Json.Nodes.and (fun _ hreads _ => hreads) (fun _ _ _ => trivial) _
      (readable_sampleModePayload _).nodes (readable_sampleModePayload _).nodes
  have hcall : ∃ s' response, (Service.init sampleConfig).create_task sampleInterp sampleConfig
      (sampleModePayload "existing_container") (sampleEnv "t1") = (s', .ok (201, response)) :=
    ⟨_, _, rfl⟩
  obtain ⟨s', response, hcall⟩ := hcall
  obtain ⟨task, vpn, htask, -, hdelivered⟩ := request_delivered_iff hbody hfloats hcall
  refine ⟨raw_body, s', response, task, vpn, hbody, hcall, htask, (hdelivered _).mpr ?_⟩
  exact show Json.str "existing_container".py ≠ .str [] from fun h => nomatch Json.str.inj h

/-- A task whose runner mode is the empty string is not delivered. -/
theorem not_delivered {env : JobEnv} (h : task.runner_mode = []) : ¬ Delivered I task vpn env := by
  rintro ⟨body, received, job, -, -, hjob, hagrees⟩
  exact build_job_mode hjob (hagrees.runner_mode.trans h)

set_option maxRecDepth 4000 in
/-- The worker accepts the empty runner mode, the daemon does not. -/
theorem blankMode_not_delivered :
    ∃ raw_body s' response task vpn,
      load_json_body sampleInterp raw_body = .ok (sampleModePayload "") ∧
      (Service.init sampleConfig).create_task sampleInterp sampleConfig (sampleModePayload "")
        (sampleEnv "t1") = (s', .ok (201, response)) ∧
      s'.task? response.task_id = some task ∧
      s'.secrets_by_task_id.get? response.task_id = some vpn ∧
      ∀ env, ¬ Delivered sampleInterp task vpn env := by
  obtain ⟨raw_body, hbody⟩ := sampleModePayload_body ""
  exact ⟨raw_body, _, _, _, _, hbody, rfl, rfl, rfl, fun _ => not_delivered rfl⟩

end RunnerDaemonClient

end BoVpnAgent

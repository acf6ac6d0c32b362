import BoVpnAgent.Executors.Agreement
import BoVpnAgent.Executors.Cleanup
import BoVpnAgent.Executors.PortProbe
import BoVpnAgent.Lib.Decimal

/-! # Normalized errors

    Whatever the commands answer, an executor should return a result or raise
    `RunnerFailure`, and it should call a vehicle reachable only when the
    probe has reported an open port.

    One answer is read as JSON: that of the probe.  Its text decides whether
    something else is raised: `probe.get` fails on a value that is no
    dictionary, and `json.loads` raises more than `JSONDecodeError`.  The
    executor inside the namespace has, besides, what its login comes to: texts
    that it writes, pauses, a deadline and the lookup of the control path.
-/

namespace BoVpnAgent

open ContainerNamespaceExecutor (raiseFailure)

/-! ### Verdicts -/

section verdicts

variable (I : Interp) (task : Task)

/-- The probe has reported port 22 or port 443 as `open`. -/
def ReportsOpen (probe : CommandResult) : Prop :=
  ∃ fields, Json.loads I probe.stdout = .ok (.obj fields) ∧
    (Json.get? fields "22".py = some (.str "open".py) ∨
      Json.get? fields "443".py = some (.str "open".py))

/-- The executor raises nothing but `RunnerFailure`, and it calls the vehicle
    reachable only with an open port. -/
def Sound (probe : CommandResult) : Except PyExc RunnerResult → Prop
  | .ok _ => task.operation = "vehicle_reachability".py → ReportsOpen I probe
  | .error exc => ∃ error_code message, exc = .runnerFailure error_code message

/-- The answer of the probe that the executors can read: one that they do not
    read, no JSON, or an object whose ports `str` can write out. -/
def ProbeReadable (probe : CommandResult) : Prop :=
  probe.timed_out = true ∨ probe.returncode ≠ 0 ∨
    Json.loads I probe.stdout = .error .jsonDecodeError ∨
    ∃ fields, Json.loads I probe.stdout = .ok (.obj fields) ∧
      ∀ port ∈ TCP_PORTS, ∀ value, Json.get? fields (Json.intRepr port) = some value →
        value.intsWithin I.int_max_str_digits = true

/-- The payload of the probe can be rendered. -/
def ScriptBuilt (config : RunnerDaemonConfig) : Prop :=
  ∃ command, tcp_probe_script I task.vehicle.ip TCP_PORTS
    (min config.nsenter_timeout_sec task.timeout_sec) = .ok command

/-- The SSH key can be looked up, and if it is there, the command can be
    rendered. -/
def SshBuilt (config : RunnerDaemonConfig) (key_present : Except Builtin Bool) : Prop :=
  ∃ found, key_present = .ok found ∧
    (found = true → Json.DigitsWithin I.int_max_str_digits config.nsenter_timeout_sec)

/-- Nothing but `RunnerFailure` stops the operation: the script of the probe
    can be built and its answer read, or the ssh command can be built. -/
structure OperationForeseen (config : RunnerDaemonConfig) (probe : CommandResult)
    (key_present : Except Builtin Bool) : Prop where
  probe : task.operation = "vehicle_reachability".py →
    ScriptBuilt I task config ∧ ProbeReadable I probe
  ssh : task.operation = "basic_status".py → SshBuilt I config key_present

/-- The text of a float begins with a digit, a sign, `inf` or `nan`, that of a
    list or a dictionary with a bracket: neither is `open`. -/
structure OpenIsText : Prop where
  float : ∀ x, (I.float_repr x).py ≠ "open".py
  container : ∀ j, (I.container_str j).py ≠ "open".py

variable {I task}

theorem sound_failure (probe : CommandResult) (error_code : String) (message : PyStr) :
    Sound I task probe (raiseFailure error_code message) := ⟨_, _, rfl⟩

theorem not_sound_builtin {probe : CommandResult} (kind : Builtin) :
    ¬Sound I task probe (raiseBuiltin kind) := by
  intro h
  obtain ⟨error_code, message, hfailure⟩ := h
  cases hfailure

/-- Only the string `open` is written as `open`. -/
theorem toStr_open (hopen : OpenIsText I) {value : Json}
    (h : Json.toStr I value = .ok "open".py) : value = .str "open".py := by
  unfold Json.toStr at h
  split at h
  · have htext : Json.strText I value = "open".py := Except.ok.inj h
    cases value with
    | str s => exact congrArg Json.str htext
    | float x => exact absurd htext (hopen.float x)
    | arr xs => exact absurd htext (hopen.container _)
    | obj fields => exact absurd htext (hopen.container _)
    | null =>
      have heq : "None".py = "open".py := htext
      exact absurd heq (by decide)
    | bool b =>
      have heq : (if b then "True".py else "False".py) = "open".py := htext
      have hne : ∀ b : Bool, (if b then "True".py else "False".py) ≠ "open".py := by decide
      exact absurd heq (hne b)
    | int n =>
      have hmem : (0x6F : CodePoint) ∈ Json.intRepr n := by
        have heq : Json.intRepr n = "open".py := htext
        rw [heq]
        decide
      have hval := Decimal.val_of_mem_intRepr hmem
      exact absurd hval (by decide)
  · cases h

/-- The text of a port is the one that the probe's object has for it. -/
theorem probe_port_ok {fields : Json.Fields} {port : Nat} {text : PyStr}
    (h : probe_port I (.obj fields) port = .ok text) :
    Json.toStr I ((Json.get? fields (Json.intRepr port)).getD (.str "closed".py)) = .ok text := by
  have hlift : liftBuiltin (Json.toStr I ((Json.get? fields (Json.intRepr port)).getD
    (.str "closed".py))) = .ok text := h
  unfold liftBuiltin at hlift
  split at hlift
  · next s hs =>
    cases hlift
    exact hs
  · cases hlift

/-- A port is open when the probe's object says so. -/
theorem open_of_probe_port (hopen : OpenIsText I) {fields : Json.Fields} {port : Nat}
    (h : probe_port I (.obj fields) port = .ok "open".py) :
    Json.get? fields (Json.intRepr port) = some (.str "open".py) := by
  have hvalue := toStr_open hopen (probe_port_ok h)
  cases hget : Json.get? fields (Json.intRepr port) with
  | none =>
    rw [hget] at hvalue
    have heq : "closed".py = "open".py := Json.str.inj hvalue
    exact absurd heq (by decide)
  | some value =>
    rw [hget] at hvalue
    exact congrArg some hvalue

theorem probe_port_readable {fields : Json.Fields} {port : Nat} :
    (∃ text, probe_port I (.obj fields) port = .ok text) ↔
      ∀ value, Json.get? fields (Json.intRepr port) = some value →
        value.intsWithin I.int_max_str_digits = true := by
  have hport : probe_port I (.obj fields) port = liftBuiltin (Json.toStr I
    ((Json.get? fields (Json.intRepr port)).getD (.str "closed".py))) := rfl
  rw [hport]
  cases hget : Json.get? fields (Json.intRepr port) with
  | none =>
    constructor
    · intro _ value hvalue
      cases hvalue
    · intro _
      exact ⟨"closed".py, rfl⟩
  | some value =>
    show (∃ text, liftBuiltin (Json.toStr I value) = .ok text) ↔ _
    unfold Json.toStr
    by_cases hints : value.intsWithin I.int_max_str_digits = true
    · rw [if_pos hints]
      constructor
      · intro _ value' hvalue
        cases hvalue
        exact hints
      · intro _
        exact ⟨_, rfl⟩
    · rw [if_neg hints]
      constructor
      · intro htext
        obtain ⟨text, htext⟩ := htext
        cases htext
      · intro hall
        exact absurd (hall value rfl) hints

theorem probe_port_raises {fields : Json.Fields} {port : Nat} {exc : PyExc}
    (h : probe_port I (.obj fields) port = .error exc) : ∃ kind, exc = .builtin kind [] := by
  have hlift : liftBuiltin (Json.toStr I ((Json.get? fields (Json.intRepr port)).getD
    (.str "closed".py))) = .error exc := h
  unfold liftBuiltin at hlift
  split at hlift
  · cases hlift
  · cases hlift
    exact ⟨_, rfl⟩

/-- What the executors make of the answer of the probe is sound exactly when
    they can read it. -/
theorem read_probe_sound_iff (hopen : OpenIsText I) (timeout failed summary : String)
    (probe : CommandResult) :
    Sound I task probe (read_probe I timeout failed summary probe) ↔ ProbeReadable I probe := by
  unfold read_probe ProbeReadable
  by_cases htime : probe.timed_out = true
  · rw [if_pos htime]
    exact iff_of_true (sound_failure _ _ _) (.inl htime)
  rw [if_neg htime]
  by_cases hcode : probe.returncode ≠ 0
  · rw [if_pos hcode]
    exact iff_of_true (sound_failure _ _ _) (.inr (.inl hcode))
  rw [if_neg hcode]
  cases hloads : Json.loads I probe.stdout with
  | error kind =>
    cases kind with
    | jsonDecodeError => exact iff_of_true (sound_failure _ _ _) (.inr (.inr (.inl rfl)))
    | _ =>
      refine iff_of_false (not_sound_builtin _) ?_
      rintro (h | h | h | ⟨fields, h, -⟩)
      · exact htime h
      · exact hcode h
      · cases h
      · cases h
  | ok value =>
    simp only
    cases value with
    | obj fields =>
      -- one port whose answer has too many digits is enough to raise a `ValueError`
      have hbad : (∃ port ∈ TCP_PORTS, ∃ exc, probe_port I (.obj fields) port = .error exc) →
          ¬(probe.timed_out = true ∨ probe.returncode ≠ 0 ∨
            (Except.ok (Json.obj fields) : Except Builtin Json) = .error .jsonDecodeError ∨
            ∃ fields', (Except.ok (Json.obj fields) : Except Builtin Json) = .ok (.obj fields') ∧
              ∀ port ∈ TCP_PORTS, ∀ value, Json.get? fields' (Json.intRepr port) = some value →
                value.intsWithin I.int_max_str_digits = true) := by
        intro hraise
        obtain ⟨port, hport, exc, hraise⟩ := hraise
        rintro (h | h | h | ⟨fields', h, hall⟩)
        · exact htime h
        · exact hcode h
        · cases h
        · cases h
          obtain ⟨text, htext⟩ := probe_port_readable.mpr (hall port hport)
          rw [hraise] at htext
          cases htext
      -- the ports are read in this order, and the first that raises ends the reading
      cases h22 : probe_port I (.obj fields) 22 with
      | error exc =>
        obtain ⟨kind, rfl⟩ := probe_port_raises h22
        exact iff_of_false (not_sound_builtin kind) (hbad ⟨22, by decide, _, h22⟩)
      | ok tcp_22 =>
        cases h443 : probe_port I (.obj fields) 443 with
        | error exc =>
          obtain ⟨kind, rfl⟩ := probe_port_raises h443
          exact iff_of_false (not_sound_builtin kind) (hbad ⟨443, by decide, _, h443⟩)
        | ok tcp_443 =>
          cases h80 : probe_port I (.obj fields) 80 with
          | error exc =>
            obtain ⟨kind, rfl⟩ := probe_port_raises h80
            exact iff_of_false (not_sound_builtin kind) (hbad ⟨80, by decide, _, h80⟩)
          | ok tcp_80 =>
            refine iff_of_true ?_ (.inr (.inr (.inr ⟨fields, rfl, ?_⟩)))
            · by_cases hclosed : tcp_22 ≠ "open".py ∧ tcp_443 ≠ "open".py
              · simp only [bind, Except.bind, if_pos hclosed]
                exact sound_failure _ _ _
              · simp only [bind, Except.bind, if_neg hclosed]
                -- one of the two texts is `open`
                intro _
                refine ⟨fields, hloads, ?_⟩
                rcases not_and_or.mp hclosed with h | h
                · rw [not_not.mp h] at h22
                  exact .inl (open_of_probe_port hopen h22)
                · rw [not_not.mp h] at h443
                  exact .inr (open_of_probe_port hopen h443)
            · intro port hport
              apply probe_port_readable.mp
              unfold TCP_PORTS at hport
              simp only [List.mem_cons, List.not_mem_nil, or_false] at hport
              rcases hport with rfl | rfl | rfl
              · exact ⟨_, h22⟩
              · exact ⟨_, h443⟩
              · exact ⟨_, h80⟩
    | _ =>
      -- `probe.get` fails on everything else
      refine iff_of_false (not_sound_builtin .attributeError) ?_
      rintro (h | h | h | ⟨fields, h, -⟩)
      · exact htime h
      · exact hcode h
      · cases h
      · cases h

theorem read_status_sound (hreach : task.operation ≠ "vehicle_reachability".py)
    (timeout failed : String) (probe result : CommandResult) :
    Sound I task probe (read_status timeout failed result) := by
  unfold read_status
  split
  · exact sound_failure _ _ _
  · split
    · exact sound_failure _ _ _
    · intro h
      exact absurd h hreach

end verdicts

/-! ### Through `nsenter` -/

/-- A command that runs the script of the probe. -/
def Command.isProbe : Command → Bool
  | .tcp_probe _ _ _ => true
  | .nsenter _ _ command => command.isProbe
  | _ => false

/-- Every probe is answered with `probe`. -/
def Probed (probe : CommandResult) (c : Invocation) (r : CommandResult) : Prop :=
  c.command.isProbe = true → r = probe

section existing

open ExistingContainerExecutor

variable {I : Interp} {config : RunnerDaemonConfig} {task : Task} {probe : CommandResult}

theorem isProbe_tcp_probe_script {host : PyStr} {ports : List Nat} {timeout : Int}
    {command : Command} (h : tcp_probe_script I host ports timeout = .ok command) :
    command.isProbe = true := by
  unfold tcp_probe_script at h
  split at h
  · cases h
    rfl
  · cases h

theorem tcp_probe_script_raises {host : PyStr} {ports : List Nat} {timeout : Int} {exc : PyExc}
    (h : tcp_probe_script I host ports timeout = .error exc) : ∃ kind, exc = .builtin kind [] := by
  unfold tcp_probe_script at h
  split at h
  · cases h
  · cases h
    exact ⟨_, rfl⟩

/-- A program that fails raises `RunnerFailure`. -/
def FailsNormally {α : Type} : Except PyExc α → Prop
  | .ok _ => True
  | .error exc => ∃ error_code message, exc = .runnerFailure error_code message

theorem container_pid_ensures : (container_pid config).Ensures (Probed probe) FailsNormally := by
  unfold container_pid run_command
  apply Script.Ensures.ask
  intro result _
  split
  · exact ⟨_, _, rfl⟩
  · simp only
    split
    · exact ⟨_, _, rfl⟩
    · trivial

theorem preflight_ensures (pid : PyStr) :
    (preflight config pid).Ensures (Probed probe) FailsNormally := by
  unfold preflight nsenter run_command
  apply Script.Ensures.ask
  intro addr _
  split
  · exact ⟨_, _, rfl⟩
  · split
    · exact ⟨_, _, rfl⟩
    · split
      · exact ⟨_, _, rfl⟩
      · -- the routes
        unfold preflight_routes nsenter run_command
        apply Script.Ensures.ask
        intro routes _
        split
        · exact ⟨_, _, rfl⟩
        · split
          · exact ⟨_, _, rfl⟩
          · split
            · exact ⟨_, _, rfl⟩
            · split
              · exact ⟨_, _, rfl⟩
              · trivial

/-- Behind its preflight the executor is sound when it can build the script
    and read the answer. -/
theorem existing_script_ensures (hopen : OpenIsText I)
    {key_present : Except Builtin Bool}
    (hforeseen : OperationForeseen I task config probe key_present) (pid : PyStr) :
    (existing_script I config key_present pid task).Ensures (Probed probe) (Sound I task probe) := by
  unfold existing_script
  by_cases hreach : task.operation = "vehicle_reachability".py
  · obtain ⟨⟨command, hscript⟩, hreadable⟩ := hforeseen.probe hreach
    rw [if_pos hreach]
    unfold ExistingContainerExecutor.vehicle_reachability
    rw [hscript]
    intro result hresult
    have hcommand : command.isProbe = true := isProbe_tcp_probe_script hscript
    have hanswer : result = probe := hresult hcommand
    rw [hanswer]
    exact (read_probe_sound_iff hopen _ _ _ probe).mpr hreadable
  rw [if_neg hreach]
  by_cases hstatus : task.operation = "basic_status".py
  · obtain ⟨found, rfl, hdigits⟩ := hforeseen.ssh hstatus
    rw [if_pos hstatus]
    unfold ExistingContainerExecutor.basic_status ssh_command
    cases found with
    | false => exact ⟨_, _, rfl⟩
    | true =>
      rw [if_pos (hdigits rfl)]
      intro result _
      exact read_status_sound hreach _ _ probe result
  · rw [if_neg hstatus]
    exact ⟨_, _, rfl⟩

/-- The run of the executor. -/
theorem existing_ensures (hopen : OpenIsText I)
    {key_present : Except Builtin Bool}
    (hforeseen : OperationForeseen I task config probe key_present) :
    (ExistingContainerExecutor.run I config key_present task).Ensures (Probed probe)
      (Sound I task probe) := by
  unfold ExistingContainerExecutor.run
  apply Script.Ensures.bind container_pid_ensures
  · intro pid _
    unfold run_in
    apply Script.Ensures.bind (preflight_ensures pid)
    · intro _ _
      exact existing_script_ensures hopen hforeseen pid
    · intro exc hexc
      exact hexc
  · intro exc hexc
    exact hexc

/-- A container with the PID 1 whose interface and route are there, with this
    answer to the probe. -/
def upAnswer (probe : CommandResult) (c : Invocation) : CommandResult :=
  if c.command.isProbe then probe
  else match c.command with
    | .docker_inspect _ _ => { returncode := 0, stdout := "1".py }
    | .nsenter _ _ (.interface_check _ _) => { returncode := 0, stdout := "cnem_vnic".py }
    | _ => { returncode := 0, stdout := REQUIRED_VPN_ROUTE }

variable (config task) in
/-- With these answers the executor comes to the operation. -/
theorem existing_reaches (key_present : Except Builtin Bool) :
    ((ExistingContainerExecutor.run I config key_present task).run
      (fun _ c => upAnswer probe c) 0).1 =
    ((existing_script I config key_present "1".py task).run (fun _ c => upAnswer probe c) 3).1 := by
  let inspect : Invocation :=
    { command := .docker_inspect config.docker_bin config.existing_container_name
      timeout_sec := config.nsenter_timeout_sec }
  let entered (command : Command) : Invocation :=
    { command := .nsenter config.nsenter_bin "1".py command
      timeout_sec := min config.nsenter_timeout_sec config.nsenter_timeout_sec }
  have hpid : (container_pid config).run (fun _ c => upAnswer probe c) 0 =
      (.ok "1".py, [(inspect, upAnswer probe inspect)]) := rfl
  have hpre : (preflight config "1".py).run (fun _ c => upAnswer probe c) 1 =
      (.ok (), [(entered (.interface_check false "cnem_vnic".py),
          upAnswer probe (entered (.interface_check false "cnem_vnic".py))),
        (entered .route_check, upAnswer probe (entered .route_check))]) := rfl
  calc ((ExistingContainerExecutor.run I config key_present task).run
        (fun _ c => upAnswer probe c) 0).1
      = ((run_in I config key_present "1".py task).run (fun _ c => upAnswer probe c) 1).1 :=
        Script.run_bind_ok hpid _
    _ = ((existing_script I config key_present "1".py task).run
          (fun _ c => upAnswer probe c) 3).1 := Script.run_bind_ok hpre _

/-- A sound look at the ports needs a script that can be built and an answer
    that can be read. -/
theorem existing_probe_needed (hopen : OpenIsText I) {key_present : Except Builtin Bool}
    (hreach : task.operation = "vehicle_reachability".py)
    (hsound : Sound I task probe ((existing_script I config key_present "1".py task).run
      (fun _ c => upAnswer probe c) 3).1) : ScriptBuilt I task config ∧ ProbeReadable I probe := by
  unfold existing_script ExistingContainerExecutor.vehicle_reachability at hsound
  rw [if_pos hreach] at hsound
  -- a payload that cannot be rendered raises before anything is answered
  cases hscript : tcp_probe_script I task.vehicle.ip TCP_PORTS
      (min config.nsenter_timeout_sec task.timeout_sec) with
  | error exc =>
    obtain ⟨kind, rfl⟩ := tcp_probe_script_raises hscript
    rw [hscript] at hsound
    exact absurd hsound (not_sound_builtin kind)
  | ok command =>
    have hcommand : command.isProbe = true := isProbe_tcp_probe_script hscript
    have hprobe : ∀ timeout_sec, upAnswer probe
        ⟨.nsenter config.nsenter_bin "1".py command, timeout_sec⟩ = probe := fun _ => if_pos hcommand
    rw [hscript] at hsound
    refine ⟨⟨command, hscript⟩, ?_⟩
    apply (read_probe_sound_iff hopen "TCP-проверка через nsenter превысила timeout"
      "TCP-проверка через nsenter завершилась ошибкой"
      "ТС доступно через existing UniVPN namespace" probe).mp
    have hread : Sound I task probe (read_probe I "TCP-проверка через nsenter превысила timeout"
      "TCP-проверка через nsenter завершилась ошибкой"
      "ТС доступно через existing UniVPN namespace" (upAnswer probe
        ⟨.nsenter config.nsenter_bin "1".py command,
          min task.timeout_sec config.nsenter_timeout_sec⟩)) := hsound
    rw [hprobe] at hread
    exact hread

/-- A sound status needs an ssh command that can be built. -/
theorem existing_ssh_needed {key_present : Except Builtin Bool}
    (hstatus : task.operation = "basic_status".py)
    (hsound : Sound I task probe ((existing_script I config key_present "1".py task).run
      (fun _ c => upAnswer probe c) 3).1) : SshBuilt I config key_present := by
  have hreach : task.operation ≠ "vehicle_reachability".py := by
    rw [hstatus]
    decide
  unfold existing_script ExistingContainerExecutor.basic_status ssh_command at hsound
  rw [if_neg hreach, if_pos hstatus] at hsound
  cases key_present with
  | error kind => exact absurd hsound (not_sound_builtin kind)
  | ok found =>
    -- with a key, `ConnectTimeout` is written out
    refine ⟨found, rfl, fun hfound => ?_⟩
    subst hfound
    by_contra hdigits
    rw [if_neg hdigits] at hsound
    exact not_sound_builtin .valueError hsound

/-- With a probe that is answered with `probe`, the executor is sound whatever
    else is answered exactly when nothing else stops its operation. -/
theorem existing_sound_iff (hopen : OpenIsText I) (key_present : Except Builtin Bool) :
    (∀ answer : Nat → Invocation → CommandResult, (∀ k c, Probed probe c (answer k c)) →
      Sound I task probe
        ((ExistingContainerExecutor.run I config key_present task).run answer 0).1) ↔
    OperationForeseen I task config probe key_present := by
  constructor
  · intro hall
    -- an environment in which everything before the operation succeeds
    have hanswer : ∀ (k : Nat) (c : Invocation), Probed probe c (upAnswer probe c) :=
      fun _ c hc => if_pos hc
    have hsound := hall (fun _ c => upAnswer probe c) hanswer
    rw [existing_reaches] at hsound
    exact
      { probe := fun hreach => existing_probe_needed hopen hreach hsound
        ssh := fun hstatus => existing_ssh_needed hstatus hsound }
  · intro hforeseen answer hanswer
    exact (existing_ensures hopen hforeseen).run hanswer 0

end existing

/-! ### Inside the namespace -/

section namespaced

open ContainerNamespaceExecutor

variable {I : Interp} {config : RunnerDaemonConfig} {task : Task} {vpn : VpnCredentials}
  {probe : CommandResult} {env : Environment}

/-- The operation is sound under the same condition. -/
theorem operation_ensures (hopen : OpenIsText I) (hknown : Known task)
    {key_present : Except Builtin Bool}
    (hforeseen : OperationForeseen I task config probe key_present) :
    (operation I config key_present task).Ensures (Probed probe) (Sound I task probe) := by
  unfold operation
  by_cases hreach : task.operation = "vehicle_reachability".py
  · obtain ⟨⟨command, hscript⟩, hreadable⟩ := hforeseen.probe hreach
    rw [if_pos hreach]
    unfold ContainerNamespaceExecutor.vehicle_reachability
    rw [hscript]
    intro result hresult
    have hanswer : result = probe := hresult (isProbe_tcp_probe_script hscript)
    rw [hanswer]
    exact (read_probe_sound_iff hopen _ _ _ probe).mpr hreadable
  · obtain ⟨found, rfl, hdigits⟩ := hforeseen.ssh (hknown.resolve_left hreach)
    rw [if_neg hreach]
    unfold ContainerNamespaceExecutor.basic_status ssh_command
    cases found with
    | false => exact ⟨_, _, rfl⟩
    | true =>
      rw [if_pos (hdigits rfl)]
      intro result _
      exact read_status_sound hreach _ _ probe result

/-- The operation is known where a run comes to it. -/
def Chosen (task : Task) (at_ : Session ⊕ Outcome) : Prop :=
  ∀ s, at_ = .inl s → s = .checking ∨ s = .operating → Known task

theorem chosen_advance {p : Progress} (h : Chosen task p.at_) :
    Chosen task (advance I config task vpn env p).at_ := by
  unfold advance
  rcases hat : p.at_ with s | outcome
  swap
  · exact h
  simp only
  split
  · exact h
  · next st hstep =>
    intro next hnext hoperation
    refine known_of_leads (leads_of_step hstep hnext) hoperation ?_
    rintro rfl
    exact h .checking hat (.inl rfl)

variable (I config task vpn env) in
theorem chosen_drive (n : Nat) : Chosen task (drive I config task vpn env n).at_ := by
  induction n with
  | zero =>
    intro s hat hs
    cases hat
    rcases hs with hs | hs <;> cases hs
  | succ n ih =>
    rw [drive_succ]
    exact chosen_advance ih

/-- Where the outcome of the `try` body is known, it is sound. -/
def Settled (I : Interp) (task : Task) (probe : CommandResult) : Session ⊕ Outcome → Prop
  | .inl (.cleanup outcome) => Sound I task probe outcome.result
  | .inl (.disconnecting outcome) => Sound I task probe outcome.result
  | .inl _ => True
  | .inr outcome => Sound I task probe outcome.result

theorem settled_of_body {s : Session} (h : ¬Closing (.inl s)) : Settled I task probe (.inl s) := by
  cases s with
  | cleanup outcome => exact absurd trivial h
  | disconnecting outcome => exact absurd trivial h
  | _ => trivial

theorem sound_warn {outcome : Outcome} (warning : Option String)
    (h : Sound I task probe outcome.result) : Sound I task probe (warn warning outcome).result := by
  cases outcome with
  | returned result => exact h
  | raised exc => exact h

theorem sound_outcomeOf (r : Except PyExc RunnerResult) :
    Sound I task probe (outcomeOf r).result ↔ Sound I task probe r := by
  cases r with
  | ok result => exact Iff.rfl
  | error exc => exact Iff.rfl

variable (I task probe) in
theorem sound_of_raises {exc : PyExc} (h : RaisesFailure (.raised exc)) :
    Sound I task probe (.error exc) := by
  obtain ⟨error_code, message, hfailure⟩ := h
  exact ⟨error_code, message, Outcome.raised.inj hfailure⟩

/-- One step keeps the outcome sound. -/
theorem settled_advance (hopen : OpenIsText I) (hclock : Monotone env.monotonic)
    (hforeseen : Foreseen config vpn env.secret_file (env.control_path config))
    (hoperation : OperationForeseen I task config probe (env.key_present config))
    (hanswer : ∀ k c, Probed probe c (env.command k c)) {p : Progress}
    (hdue : Due config env p) (hchosen : Chosen task p.at_)
    (hphase : Phase config vpn env p.at_ (commands p.trace) (writes p.trace))
    (h : Settled I task probe p.at_) :
    Settled I task probe (advance I config task vpn env p).at_ := by
  rcases hat : p.at_ with s | outcome
  · rw [hat] at h hphase
    by_cases hclosing : Closing (.inl s)
    -- the `finally` clause keeps the outcome, but for a sequence that cannot be encoded
    · cases s with
      | cleanup outcome =>
        rcases advance_cleanup I config task vpn env hat with ⟨warning, hnext, _⟩ | ⟨_, _, hnext, _⟩
        · rw [hnext]
          exact sound_warn warning h
        · rw [hnext]
          exact h
      | disconnecting outcome =>
        rcases (advance_disconnecting I config task vpn env hat).2.1 with
          ⟨warning, hnext⟩ | ⟨_, hscalar, _⟩
        · rw [hnext]
          exact sound_warn warning h
        · obtain ⟨hstop, hsequence, -⟩ := hphase
          exact absurd (hforeseen.encodable.disconnect hstop hsequence) hscalar
      | _ => exact hclosing.elim
    -- what stops the body otherwise is a `RunnerFailure`, or excluded by `Foreseen`
    · have hstep := bodyStep_advance I config task vpn env hat hclosing
      generalize (advance I config task vpn env p).at_ = next at hstep
      cases hstep with
      | goes_on next hnext => exact settled_of_body hnext
      | fails exc hfailure => exact sound_of_raises I task probe hfailure
      | refused exc hs herror =>
        subst hs
        exact sound_of_raises I task probe (hforeseen.encodable.raises hphase.1 herror)
      | unfound kind hs hcredentials hpath =>
        subst hs
        obtain ⟨found, hfound⟩ := hforeseen.control_path ⟨hphase.1, hcredentials⟩
        rw [hpath] at hfound
        cases hfound
      | no_pause username password written kind hs hpause =>
        subst hs
        obtain ⟨hmanage, -, hcredentials, hwritten, -⟩ := hphase
        rw [hforeseen.behindLine ⟨hmanage, username, password, hcredentials⟩ hwritten] at hpause
        cases hpause
      | no_interval kind hs hearly hsleep =>
        subst hs
        -- without time for the login the first poll would have been the last
        have htime : 0 < config.univpn_login_timeout_sec :=
          not_le.mp fun hnone => hearly (hdue hclock hat hnone)
        rw [hforeseen.poll_interval hphase.1 htime] at hsleep
        cases hsleep
      | unencodable username password line written hs hline hscalar =>
        subst hs
        obtain ⟨hmanage, -, hcredentials, -⟩ := hphase
        exact absurd (hforeseen.encodable.login hmanage username password hcredentials line hline)
          hscalar
      | operated hs =>
        subst hs
        exact (sound_outcomeOf _).mpr
          ((operation_ensures hopen (hchosen .operating hat (.inr rfl)) hoperation).run hanswer _)
  · rw [advance_ended hat, hat]
    rw [hat] at h
    exact h

/-- So does a whole run. -/
theorem settled_drive (hopen : OpenIsText I) (hclock : Monotone env.monotonic)
    (hforeseen : Foreseen config vpn env.secret_file (env.control_path config))
    (hoperation : OperationForeseen I task config probe (env.key_present config))
    (hanswer : ∀ k c, Probed probe c (env.command k c)) (n : Nat) :
    Settled I task probe (drive I config task vpn env n).at_ := by
  induction n with
  | zero => trivial
  | succ n ih =>
    rw [drive_succ]
    exact settled_advance hopen hclock hforeseen hoperation hanswer
      (due_drive I config task vpn env n) (chosen_drive I config task vpn env n)
      (phase_drive I config task vpn env n) ih

/-! ### Runs that need the condition -/

/-- A sound run that ends without a look at the routes has raised
    `RunnerFailure`: it has found no connection, so it returns nothing. -/
theorem failsDown_of_sound (h : ∀ n outcome, (drive I config task vpn env n).at_ = .inr outcome →
    Sound I task probe outcome.result) : FailsDown I config task vpn env := by
  intro n outcome hended hcalls
  have hphase := phase_drive I config task vpn env n
  have hsound := h n outcome hended
  rw [hended] at hphase
  rcases hphase.2 with hup | hfailure | ⟨⟨exc, hexc⟩, -⟩
  · exact absurd hup hcalls.not_hasUp
  · exact hfailure
  · rw [hexc] at hsound ⊢
    obtain ⟨error_code, message, hfailure⟩ := hsound
    exact ⟨error_code, message, congrArg Outcome.raised hfailure⟩

/-- An environment whose probes are answered with `probe`, with this SSH key,
    and all else as in `env`. -/
def ContainerNamespaceExecutor.Environment.probing (env : Environment) (probe : CommandResult)
    (key_present : Except Builtin Bool) : Environment :=
  { env with
    command := fun k c => if c.command.isProbe then probe else env.command k c
    is_file := fun _ => key_present }

theorem probed_probing (env : Environment) (probe : CommandResult)
    (key_present : Except Builtin Bool) (k : Nat) (c : Invocation) :
    Probed probe c ((env.probing probe key_present).command k c) := by
  intro hc
  exact if_pos hc

/-- Interface and route are there. -/
def upEnvironment (config : RunnerDaemonConfig) (secret_file : Except Builtin (List PyStr))
    (control_path : Except Builtin Bool) : Environment :=
  { downEnvironment with
    command := fun _ c =>
      match c.command with
      | .interface_check _ _ => { returncode := 0, stdout := config.univpn_interface }
      | _ => { returncode := 0, stdout := config.univpn_route_cidr }
    secret_file := secret_file
    path_exists := fun _ => control_path }

theorem includes_self (s : PyStr) : PyStr.includes s s = true := by
  unfold PyStr.includes
  rw [List.any_eq_true]
  exact ⟨s, (List.mem_tails _ _).mpr (List.suffix_refl s),
    List.isPrefixOf_iff_prefix.mpr (List.prefix_refl s)⟩

variable (I config task vpn) in
/-- A session that is up comes to the operation. -/
theorem operating_up (secret_file : Except Builtin (List PyStr))
    (control_path key_present : Except Builtin Bool) (probe : CommandResult) (hknown : Known task) :
    let env := (upEnvironment config secret_file control_path).probing probe key_present
    ∃ n, (drive I config task vpn env n).at_ = .inl .operating := by
  intro env
  have hstart : (drive I config task vpn env 1).at_ = .inl .preflight := rfl
  -- the check finds both texts in what the commands print
  have hup : ContainerNamespaceExecutor.probed config env (drive I config task vpn env 1).trace =
      .ok true := by
    have hinterface : (0 : Int) = 0 ∧
        PyStr.includes config.univpn_interface config.univpn_interface = true :=
      ⟨rfl, includes_self _⟩
    show (if (0 : Int) = 0 ∧ PyStr.includes config.univpn_interface config.univpn_interface = true
      then (Except.ok (PyStr.includes config.univpn_route_cidr config.univpn_route_cidr) :
        Except PyExc Bool) else .ok false) = .ok true
    rw [if_pos hinterface, includes_self]
  have htwo : (drive I config task vpn env 2).at_ = .inl .connected := by
    rw [drive_succ, (advance_preflight I config task vpn _ hstart).1, hup]
    rfl
  have hthree : (drive I config task vpn env 3).at_ = .inl .announced := by
    rw [drive_succ]
    exact (advance_report I config task vpn _ htwo rfl fun _ => rfl).1
  have hfour := (advance_announced I config task vpn env hthree).1
  rw [← drive_succ] at hfour
  by_cases hreach : task.operation = "vehicle_reachability".py
  · have hnext : afterAnnounced task = .operating := if_pos hreach
    rw [hnext] at hfour
    exact ⟨4, hfour⟩
  · have hnext : afterAnnounced task = .checking :=
      (if_neg hreach).trans (if_pos (hknown.resolve_left hreach))
    rw [hnext] at hfour
    refine ⟨5, ?_⟩
    rw [drive_succ]
    exact (advance_report I config task vpn _ hfour rfl fun _ => rfl).1

/-- A run that cleans up after an outcome ends soundly only if the outcome was
    sound. -/
theorem sound_of_cleanup {n : Nat} {outcome : Outcome}
    (hat : (drive I config task vpn env n).at_ = .inl (.cleanup outcome))
    (h : ∀ n outcome, (drive I config task vpn env n).at_ = .inr outcome →
      Sound I task probe outcome.result) : Sound I task probe outcome.result := by
  have hwarn : ∀ warning, Sound I task probe (warn warning outcome).result →
      Sound I task probe outcome.result := by
    intro warning hsound
    cases outcome with
    | returned result => exact hsound
    | raised exc => exact hsound
  rcases advance_cleanup I config task vpn env hat with ⟨warning, hnext, -⟩ | ⟨-, -, hnext, -⟩
  · rw [← drive_succ] at hnext
    exact hwarn warning (h _ _ hnext)
  · rw [← drive_succ] at hnext
    rcases (advance_disconnecting I config task vpn env hnext).2.1 with
      ⟨warning, hended⟩ | ⟨-, -, hended⟩
    · rw [← drive_succ] at hended
      exact hwarn warning (h _ _ hended)
    · rw [← drive_succ] at hended
      exact absurd (h _ _ hended) (not_sound_builtin .unicodeEncodeError)

/-- A sound look at the ports from inside needs the same. -/
theorem operated_probe_needed (hopen : OpenIsText I)
    (hanswer : ∀ k c, Probed probe c (env.command k c))
    (hreach : task.operation = "vehicle_reachability".py) {trace : List Effect}
    (hsound : Sound I task probe (operated I config task env trace).1) :
    ScriptBuilt I task config ∧ ProbeReadable I probe := by
  unfold operated operation ContainerNamespaceExecutor.vehicle_reachability at hsound
  rw [if_pos hreach] at hsound
  cases hscript : tcp_probe_script I task.vehicle.ip TCP_PORTS
      (min config.nsenter_timeout_sec task.timeout_sec) with
  | error exc =>
    obtain ⟨kind, rfl⟩ := tcp_probe_script_raises hscript
    rw [hscript] at hsound
    exact absurd hsound (not_sound_builtin kind)
  | ok command =>
    have hprobe : ∀ k, env.command k ⟨command, task.timeout_sec⟩ = probe :=
      fun k => hanswer k _ (isProbe_tcp_probe_script hscript)
    rw [hscript] at hsound
    refine ⟨⟨command, hscript⟩, ?_⟩
    apply (read_probe_sound_iff hopen "TCP-проверка в container namespace превысила timeout"
      "TCP-проверка в container namespace завершилась ошибкой"
      "ТС доступно через UniVPN container namespace" probe).mp
    have hread : Sound I task probe (read_probe I
      "TCP-проверка в container namespace превысила timeout"
      "TCP-проверка в container namespace завершилась ошибкой"
      "ТС доступно через UniVPN container namespace"
      (env.command _ ⟨command, task.timeout_sec⟩)) := hsound
    rw [hprobe] at hread
    exact hread

/-- So does a sound status. -/
theorem operated_ssh_needed (hstatus : task.operation = "basic_status".py) {trace : List Effect}
    (hsound : Sound I task probe (operated I config task env trace).1) :
    SshBuilt I config (env.key_present config) := by
  have hreach : task.operation ≠ "vehicle_reachability".py := by
    rw [hstatus]
    decide
  unfold operated operation ContainerNamespaceExecutor.basic_status ssh_command at hsound
  rw [if_neg hreach] at hsound
  cases hkey : env.key_present config with
  | error kind =>
    rw [hkey] at hsound
    exact absurd hsound (not_sound_builtin kind)
  | ok found =>
    -- with a key, `ConnectTimeout` is written out
    refine ⟨found, rfl, fun hfound => ?_⟩
    subst hfound
    by_contra hdigits
    rw [hkey, if_neg hdigits] at hsound
    exact not_sound_builtin .valueError hsound

/-- With a probe that is answered with `probe`, one secret file, control path
    and SSH key, the runs of the executor end soundly, and end when their clock
    passes every bound, exactly when nothing but `RunnerFailure` can stop them
    before the operation or in it. -/
theorem namespaced_sound_iff (hopen : OpenIsText I) (secret_file : Except Builtin (List PyStr))
    (control_path key_present : Except Builtin Bool) :
    (∀ env : Environment, Monotone env.monotonic → env.secret_file = secret_file →
      env.control_path config = control_path → env.key_present config = key_present →
      (∀ k c, Probed probe c (env.command k c)) →
      (∀ n outcome, (drive I config task vpn env n).at_ = .inr outcome →
        Sound I task probe outcome.result) ∧
      ((∀ b, ∃ k, b ≤ env.monotonic k) →
        ∃ n outcome, (drive I config task vpn env n).at_ = .inr outcome)) ↔
    Foreseen config vpn secret_file control_path ∧
      OperationForeseen I task config probe key_present := by
  constructor
  · intro hall
    -- an environment in which the VPN is up, so that the operation is reached
    let env := (upEnvironment config secret_file control_path).probing probe key_present
    have hsound := (hall env downEnvironment_monotone rfl rfl rfl
      (probed_probing _ probe key_present)).1
    have hoperated : Known task →
        ∃ trace, Sound I task probe (operated I config task env trace).1 := by
      intro hknown
      obtain ⟨n, hoperating⟩ :=
        operating_up I config task vpn secret_file control_path key_present probe hknown
      have hcleanup := (advance_operating I config task vpn env hoperating).1
      rw [← drive_succ] at hcleanup
      exact ⟨_, (sound_outcomeOf _).mp (sound_of_cleanup hcleanup hsound)⟩
    refine ⟨?_, ?_, ?_⟩
    -- two environments that reach the login and the disconnect sequence
    · have hdown := (hall ((downWith secret_file control_path).probing probe key_present)
        (downWith_monotone secret_file control_path) rfl rfl rfl
        (probed_probing _ probe key_present)).1
      have hsilent := (hall ((silentWith secret_file control_path).probing probe key_present)
        (downWith_monotone secret_file control_path) rfl rfl rfl
        (probed_probing _ probe key_present)).1
      exact foreseen_of_fails I config task
        ((downWith secret_file control_path).probing probe key_present)
        ((silentWith secret_file control_path).probing probe key_present)
        ⟨fun _ => rfl, fun _ => rfl, fun _ => rfl⟩ ⟨fun _ => rfl, fun _ => rfl⟩
        (failsDown_of_sound hdown) (failsDown_of_sound hsilent)
    · intro hreach
      obtain ⟨trace, hsound⟩ := hoperated (.inl hreach)
      exact operated_probe_needed hopen (probed_probing _ probe key_present) hreach hsound
    · intro hstatus
      obtain ⟨trace, hsound⟩ := hoperated (.inr hstatus)
      exact operated_ssh_needed hstatus hsound
  · intro hcondition env hclock hsecret hpath hkey hanswer
    obtain ⟨hforeseen, hoperation⟩ := hcondition
    subst hsecret
    subst hpath
    subst hkey
    constructor
    · intro n outcome hended
      have hsettled := settled_drive hopen hclock hforeseen hoperation hanswer n
      rw [hended] at hsettled
      exact hsettled
    · exact drive_ends I config task vpn env hclock

end namespaced

/-! ### Both executors -/

/-- Both executors return a result or raise `RunnerFailure`, whatever the
    commands answer, and call a vehicle reachable only with port 22 or 443
    reported as open, exactly when nothing else can stop them: the answer of
    the probe can be read and its payload rendered, or the SSH key can be
    looked up and the command rendered; and inside the namespace the texts can
    be encoded, the control path can be looked up, `time.sleep` accepts the
    delays, and the deadline can be computed.

    The answer of the probe and what the paths are is fixed; all other
    answers, the clock and the writes that fail are any. -/
theorem executors_sound_iff (I : Interp) (hopen : OpenIsText I) (config : RunnerDaemonConfig)
    (task : Task) (vpn : VpnCredentials) (secret_file : Except Builtin (List PyStr))
    (control_path key_present : Except Builtin Bool) (probe : CommandResult) :
    ((∀ answer : Nat → Invocation → CommandResult, (∀ k c, Probed probe c (answer k c)) →
        Sound I task probe
          ((ExistingContainerExecutor.run I config key_present task).run answer 0).1) ↔
      OperationForeseen I task config probe key_present) ∧
    ((∀ env : ContainerNamespaceExecutor.Environment, Monotone env.monotonic →
        env.secret_file = secret_file → env.control_path config = control_path →
        env.key_present config = key_present → (∀ k c, Probed probe c (env.command k c)) →
        (∀ n outcome,
          (ContainerNamespaceExecutor.drive I config task vpn env n).at_ = .inr outcome →
          Sound I task probe outcome.result) ∧
        ((∀ b, ∃ k, b ≤ env.monotonic k) →
          ∃ n outcome,
            (ContainerNamespaceExecutor.drive I config task vpn env n).at_ = .inr outcome)) ↔
      ContainerNamespaceExecutor.Foreseen config vpn secret_file control_path ∧
        OperationForeseen I task config probe key_present) :=
  ⟨existing_sound_iff hopen key_present,
    namespaced_sound_iff hopen secret_file control_path key_present⟩

theorem openIsText_sample : OpenIsText sampleInterp := by
  constructor
  · intro _
    show "0.5".py ≠ "open".py
    decide
  · intro _
    show "[]".py ≠ "open".py
    decide

/-- The probe of a vehicle that accepts on port 443. -/
def openProbe : CommandResult :=
  { returncode := 0, stdout := probe_output sampleInterp sampleFirewall TCP_PORTS }

theorem operationForeseen_openProbe (key_present : Except Builtin Bool) :
    OperationForeseen sampleInterp (sampleTask "vehicle_reachability" 5) sampleDaemonConfig openProbe
      key_present where
  probe _ := by
    refine ⟨⟨_, rfl⟩, .inr (.inr (.inr ⟨_, loads_probe_output, ?_⟩))⟩
    intro port _ value hvalue
    obtain ⟨_, _, hentry⟩ := List.mem_map.mp (Json.mem_of_get? hvalue)
    rw [← (Prod.mk.inj hentry).2]
    rfl
  ssh h := absurd h (by decide)

theorem foreseen_sampleDaemonConfig :
    ContainerNamespaceExecutor.Foreseen sampleDaemonConfig
      ContainerNamespaceExecutor.sampleCredentials (.error .osError) (.ok true) where
  encodable :=
    { readable := fun _ h => absurd h (by decide)
      login := by
        intro _ username password h
        obtain ⟨rfl, rfl⟩ := Prod.mk.inj (Except.ok.inj h)
        decide
      disconnect := fun h => absurd h (by decide) }
  control_path _ := ⟨true, rfl⟩
  login_delays _ := by decide
  deadline _ := by decide
  poll_interval _ _ := rfl

theorem executors_sound_sample :
    OpenIsText sampleInterp ∧
    (∀ answer : Nat → Invocation → CommandResult, (∀ k c, Probed openProbe c (answer k c)) →
      Sound sampleInterp (sampleTask "vehicle_reachability" 5) openProbe
        ((ExistingContainerExecutor.run sampleInterp sampleDaemonConfig (.error .osError)
          (sampleTask "vehicle_reachability" 5)).run answer 0).1) ∧
    ∀ env : ContainerNamespaceExecutor.Environment, Monotone env.monotonic →
      env.secret_file = .error .osError → env.control_path sampleDaemonConfig = .ok true →
      env.key_present sampleDaemonConfig = .error .osError →
      (∀ k c, Probed openProbe c (env.command k c)) →
      ∀ n outcome, (ContainerNamespaceExecutor.drive sampleInterp sampleDaemonConfig
          (sampleTask "vehicle_reachability" 5) ContainerNamespaceExecutor.sampleCredentials env
          n).at_ = .inr outcome →
        Sound sampleInterp (sampleTask "vehicle_reachability" 5) openProbe outcome.result := by
  have hsound := executors_sound_iff sampleInterp openIsText_sample sampleDaemonConfig
    (sampleTask "vehicle_reachability" 5) ContainerNamespaceExecutor.sampleCredentials
    (.error .osError) (.ok true) (.error .osError) openProbe
  have hoperation := operationForeseen_openProbe (.error .osError)
  refine ⟨openIsText_sample, hsound.1.mpr hoperation, ?_⟩
  intro env hclock hsecret hpath hkey hanswer
  exact (hsound.2.mpr ⟨foreseen_sampleDaemonConfig, hoperation⟩ env hclock hsecret hpath hkey
    hanswer).1

/-- A probe that prints a number: both executors fail with
    `AttributeError`. -/
theorem number_escapes :
    let probe : CommandResult := { returncode := 0, stdout := "1".py }
    let task := sampleTask "vehicle_reachability" 5
    ((ExistingContainerExecutor.run sampleInterp sampleDaemonConfig (.ok true) task).run
      (fun _ c => upAnswer probe c) 0).1 = .error (.builtin .attributeError []) ∧
    (ContainerNamespaceExecutor.drive sampleInterp sampleDaemonConfig task
      ContainerNamespaceExecutor.sampleCredentials
      ((upEnvironment sampleDaemonConfig (.error .osError) (.ok true)).probing probe (.ok true))
      6).at_ =
        .inr (.raised (.builtin .attributeError [])) :=
  ⟨rfl, rfl⟩

end BoVpnAgent

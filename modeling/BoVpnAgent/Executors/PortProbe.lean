import BoVpnAgent.Executors.ProbeScript
import BoVpnAgent.Lib.JsonRoundTrip
import Mathlib.Algebra.BigOperators.Group.List.Basic
import Mathlib.Algebra.Order.Ring.Int

/-! # Ports that drop

    The probe script tries its ports one after the other, and each port that
    silently drops holds it for a whole socket timeout.  The command that runs
    the script has a timeout of its own, and its clock starts before the script
    does: a script that is held for as long as its command may take is stopped.
    Here the behaviour of the ports is given, all other time is short but not
    zero, and the verdict of `vehicle_reachability` is compared with what the
    ports dictate.
-/

namespace BoVpnAgent

/-- What a port does with a connection. -/
inductive PortBehaviour where
  | accepts
  | refuses
  | drops
  deriving DecidableEq

section probe

variable (I : Interp) (ports : Nat → PortBehaviour)

/-- What the script notes about a port. -/
def port_text (port : Nat) : PyStr :=
  if ports port = .accepts then "open".py else "closed".py

/-- The seconds that the ports hold the script. -/
def probe_duration (probed : List Nat) (timeout : Int) : Int :=
  (probed.map fun port => if ports port = .drops then timeout else 0).sum

/-- The options of `json.dumps(out, sort_keys=True)`. -/
def scriptOptions : Json.DumpOptions :=
  { ensure_ascii := true, sort_keys := true, item_separator := ", ", key_separator := ": " }

/-- What the script prints. -/
def probe_output (probed : List Nat) : PyStr :=
  Json.render I scriptOptions
    (.obj (probed.map fun port : Nat => (Json.intRepr port, .str (port_text ports port)))) ++ [0x0A]

/-- The longest timeout in whole seconds that `poll` can wait for, which is
    `INT_MAX` milliseconds. -/
def POLL_MAX : Int := 2147483

/-- The ports and the socket timeout of a probe. -/
def Command.probed? : Command → Option (List Nat × Int)
  | tcp_probe _ probed timeout => some (probed, timeout)
  | nsenter _ _ command => command.probed?
  | _ => none

/-- `SubprocessCommandExecutor.run` for a probe of these ports; `other` answers
    all other commands.  The ports must hold the script for less than the
    timeout, since the interpreter has to start within it too. -/
def probing (other : Invocation → Except PyExc CommandResult) (c : Invocation) :
    Except PyExc CommandResult :=
  match c.command.probed? with
  | none => other c
  | some (probed, timeout) =>
    if POLL_MAX < c.timeout_sec then raiseBuiltin .overflowError
    else if c.timeout_sec ≤ probe_duration ports probed timeout then
      .ok { returncode := 124, stdout := [], timed_out := true }
    else .ok { returncode := 0, stdout := probe_output I ports probed }

/-- The verdict is the one that the ports dictate. -/
def Dictated (verdict : Except PyExc RunnerResult) : Prop :=
  if ports 22 = .accepts ∨ ports 443 = .accepts then ∃ result, verdict = .ok result
  else ∃ message, verdict = .error (.runnerFailure "vehicle_unreachable".py message)

/-- How many of the probed ports drop. -/
def dropping : Nat := TCP_PORTS.countP (ports · = .drops)

end probe

section verdict

variable {I : Interp} {ports : Nat → PortBehaviour}

/-- The script waits once for each port that drops. -/
theorem probe_duration_eq (timeout : Int) :
    probe_duration ports TCP_PORTS timeout = dropping ports * timeout := by
  unfold probe_duration dropping
  induction TCP_PORTS with
  | nil => simp
  | cons port probed ih =>
    rw [List.map_cons, List.sum_cons, ih, List.countP_cons]
    by_cases hport : ports port = .drops
    · rw [if_pos hport, if_pos (decide_eq_true hport), Nat.cast_add, Int.add_mul]
      simp [Int.add_comm]
    · rw [if_neg hport, if_neg (by simpa using hport)]
      simp

/-- The ports are printed in their order. -/
theorem probe_output_eq :
    probe_output I ports TCP_PORTS =
      Json.render I { scriptOptions with sort_keys := false }
        (.obj (TCP_PORTS.map fun port : Nat => (Json.intRepr port, .str (port_text ports port)))) ++
        [0x0A] := rfl

/-- What the script prints is what the executors read. -/
theorem loads_probe_output :
    Json.loads I (probe_output I ports TCP_PORTS) =
      .ok (.obj (TCP_PORTS.map fun port : Nat => (Json.intRepr port, .str (port_text ports port)))) := by
  have hplain : Json.DumpOptions.Plain { scriptOptions with sort_keys := false } :=
    { item := ⟨[0x20], rfl, rfl⟩, key := ⟨[0x20], rfl, rfl⟩, order := rfl }
  have htext : ∀ port, (port_text ports port).Scalar := by
    intro port
    unfold port_text
    split
    · exact PyStr.scalar_py _
    · exact PyStr.scalar_py _
  have hkeys : [Json.intRepr 22, Json.intRepr 443, Json.intRepr 80].Nodup := by decide
  have hreadable : Json.Readable I
      (.obj (TCP_PORTS.map fun port : Nat => (Json.intRepr port, .str (port_text ports port)))) :=
    { clean :=
        ⟨Json.scalar_intRepr _, htext 22, Json.scalar_intRepr _, htext 443, Json.scalar_intRepr _,
          htext 80, trivial⟩
      nodes := ⟨hkeys, trivial, trivial, trivial, trivial⟩ }
  rw [probe_output_eq]
  have hdepth : (Json.obj (TCP_PORTS.map fun port : Nat =>
      (Json.intRepr port, .str (port_text ports port)))).depth = 1 := rfl
  refine Json.loads_render_append hplain (hreadable.readsTree _) ?_ rfl (Json.ends_cons (by decide) [])
  rw [hdepth]
  exact le_trans (by decide) I.loads_min

/-- A result that did not time out gives the dictated verdict. -/
theorem read_probe_dictated (timeout failed summary : String) :
    Dictated ports (read_probe I timeout failed summary
      { returncode := 0, stdout := probe_output I ports TCP_PORTS }) := by
  have hport : ∀ port, port ∈ TCP_PORTS → probe_port I
      (.obj (TCP_PORTS.map fun port : Nat => (Json.intRepr port, .str (port_text ports port)))) port =
        .ok (port_text ports port) := by
    intro port hmem
    have hcases : port = 22 ∨ port = 443 ∨ port = 80 := by
      unfold TCP_PORTS at hmem
      simpa using hmem
    rcases hcases with h | h | h
    · subst h
      rfl
    · subst h
      rfl
    · subst h
      rfl
  have hopen : ∀ port, port_text ports port ≠ "open".py ↔ ports port ≠ .accepts := by
    intro port
    unfold port_text
    by_cases h : ports port = .accepts
    · simp [h]
    · rw [if_neg h]
      exact iff_of_true (by decide) h
  unfold read_probe
  rw [if_neg Bool.noConfusion, if_neg (not_not.mpr rfl)]
  simp only [loads_probe_output, hport 22 (by decide), hport 443 (by decide), hport 80 (by decide),
    bind, Except.bind, hopen]
  unfold Dictated
  -- the code gives up only when both 22 and 443 are closed; 80 alone is not enough
  by_cases hdead : ports 22 ≠ .accepts ∧ ports 443 ≠ .accepts
  · rw [if_pos hdead, if_neg (not_or.mpr hdead)]
    exact ⟨_, rfl⟩
  · have halive : ports 22 = .accepts ∨ ports 443 = .accepts := by
      by_cases h : ports 22 = .accepts
      · exact .inl h
      · exact .inr (not_not.mp fun h' => hdead ⟨h, h'⟩)
    rw [if_neg hdead, if_pos halive]
    exact ⟨_, rfl⟩

/-- An exception other than the one for an unreachable vehicle is no dictated
    verdict. -/
theorem not_dictated_error {exc : PyExc}
    (h : ∀ message, exc ≠ .runnerFailure "vehicle_unreachable".py message) :
    ¬Dictated ports (.error exc) := by
  intro hdictated
  unfold Dictated at hdictated
  split at hdictated
  · obtain ⟨_, hok⟩ := hdictated
    cases hok
  · obtain ⟨message, herror⟩ := hdictated
    exact h message (Except.error.inj herror)

/-- The script is built unless the timeout has too many digits. -/
theorem tcp_probe_script_cases (host : PyStr) {timeout : Int} (htimeout : 1 ≤ timeout) :
    tcp_probe_script I host TCP_PORTS timeout = .ok (.tcp_probe host TCP_PORTS timeout) ∨
    POLL_MAX < timeout ∧ ∃ kind, tcp_probe_script I host TCP_PORTS timeout = .error (.builtin kind []) := by
  unfold tcp_probe_script
  by_cases hlong : POLL_MAX < timeout
  · split
    · exact .inl rfl
    · next kind _ => exact .inr ⟨hlong, kind, rfl⟩
  · left
    have hdigits : Json.DigitsWithin I.int_max_str_digits timeout := by
      have hlimit := I.digits_min
      unfold Json.DigitsWithin
      rw [Nat.length_toDigits_le_iff (by decide) (by omega)]
      have hpow : 10 ^ 7 ≤ 10 ^ I.int_max_str_digits := Nat.pow_le_pow_right (by decide) (by omega)
      unfold POLL_MAX at hlong
      omega
    have htext := dumps_payload (I := I) host timeout
    rw [if_pos hdigits] at htext
    unfold probe_payload at htext
    rw [htext]

/-- A probe with the socket timeout `socket`, run by a command with the timeout
    `allowed`: its verdict is the dictated one exactly when the command may wait
    longer than the ports that drop take. -/
theorem probe_dictated_iff (other : Invocation → Except PyExc CommandResult)
    (timeout failed summary : String) {command : Command} {socket allowed : Int}
    (hcommand : command.probed? = some (TCP_PORTS, socket)) :
    Dictated ports
      (Script.eval (probing I ports other)
        (Script.call { command := command, timeout_sec := allowed } fun result =>
          .done (read_probe I timeout failed summary result))) ↔
      dropping ports * socket < allowed ∧ allowed ≤ POLL_MAX := by
  have hanswer : probing I ports other { command := command, timeout_sec := allowed } =
      if POLL_MAX < allowed then raiseBuiltin .overflowError
      else if allowed ≤ dropping ports * socket then
        .ok { returncode := 124, stdout := [], timed_out := true }
      else .ok { returncode := 0, stdout := probe_output I ports TCP_PORTS } := by
    unfold probing
    rw [hcommand]
    simp only [probe_duration_eq]
  simp only [Script.eval, hanswer]
  by_cases hlong : POLL_MAX < allowed
  · rw [if_pos hlong]
    refine iff_of_false (not_dictated_error fun message h => by cases h) fun h => ?_
    omega
  rw [if_neg hlong]
  by_cases hlate : allowed ≤ dropping ports * socket
  · rw [if_pos hlate]
    refine iff_of_false (not_dictated_error fun message h => ?_) fun h => ?_
    · exact absurd (PyExc.runnerFailure.inj h).1 (by decide)
    · exact absurd h.1 (not_lt.mpr hlate)
  · rw [if_neg hlate]
    exact iff_of_true (read_probe_dictated _ _ _) ⟨not_le.mp hlate, not_lt.mp hlong⟩

/-- How long the operation of each executor may wait decides its verdict: the
    silent ports must fit into the timeout of the command with time to spare.
    That timeout is the socket timeout for the one executor, so that no port may
    drop, and the timeout of the task for the other. -/
theorem verdicts_dictated_iff (config : RunnerDaemonConfig) (task : Task) (pid : PyStr)
    (other : Invocation → Except PyExc CommandResult) (hnsenter : 1 ≤ config.nsenter_timeout_sec)
    (htask : 1 ≤ task.timeout_sec) :
    let socket := min config.nsenter_timeout_sec task.timeout_sec
    (Dictated ports (Script.eval (probing I ports other)
        (ExistingContainerExecutor.vehicle_reachability I config pid task)) ↔
      dropping ports = 0 ∧ socket ≤ POLL_MAX) ∧
    (Dictated ports (Script.eval (probing I ports other)
        (ContainerNamespaceExecutor.vehicle_reachability I config task)) ↔
      dropping ports * socket < task.timeout_sec ∧ task.timeout_sec ≤ POLL_MAX) := by
  intro socket
  have hsocket : 1 ≤ socket := le_min hnsenter htask
  unfold ExistingContainerExecutor.vehicle_reachability
    ContainerNamespaceExecutor.vehicle_reachability ExistingContainerExecutor.nsenter run_command
  rcases tcp_probe_script_cases (I := I) task.vehicle.ip hsocket with hscript | ⟨hlong, kind, hscript⟩
  · rw [hscript]
    simp only [Script.done_ok_bind, Script.ask_bind]
    rw [probe_dictated_iff other _ _ _ rfl, probe_dictated_iff other _ _ _ rfl,
      min_comm task.timeout_sec]
    refine ⟨?_, Iff.rfl⟩
    -- the command waits as long as one port, and one port takes all of it
    have hnone : (dropping ports : Int) * socket < socket ↔ dropping ports = 0 := by
      constructor
      · intro h
        by_contra hsome
        have hmul : (1 : Int) * socket ≤ dropping ports * socket :=
          Int.mul_le_mul_of_nonneg_right (by omega) (by omega)
        omega
      · intro h
        rw [h, Nat.cast_zero, zero_mul]
        omega
    exact and_congr_left' hnone
  -- a timeout above the limit of `settimeout`: the script itself cannot be built
  · have hless : socket ≤ task.timeout_sec := min_le_right _ _
    rw [hscript]
    simp only [Script.done_error_bind, Script.eval]
    constructor
    · exact iff_of_false (not_dictated_error fun _ h => by cases h) fun h => by omega
    · exact iff_of_false (not_dictated_error fun _ h => by cases h) fun h => by omega

end verdict

/-! ### A vehicle behind a firewall -/

/-- Two of the ports drop and port 443 accepts. -/
def sampleFirewall (port : Nat) : PortBehaviour := if port = 443 then .accepts else .drops

def sampleOther (_ : Invocation) : Except PyExc CommandResult :=
  .ok { returncode := 0, stdout := [] }

theorem existing_firewall :
    Script.eval (probing sampleInterp sampleFirewall sampleOther)
      (ExistingContainerExecutor.vehicle_reachability sampleInterp {} "4711".py
        (sampleTask "vehicle_reachability" 10)) =
      .error (.runnerFailure "operation_timeout".py
        "TCP-проверка через nsenter превысила timeout".py) := rfl

theorem namespaced_firewall :
    Script.eval (probing sampleInterp sampleFirewall sampleOther)
      (ContainerNamespaceExecutor.vehicle_reachability sampleInterp {}
        (sampleTask "vehicle_reachability" 10)) =
      .error (.runnerFailure "operation_timeout".py
        "TCP-проверка в container namespace превысила timeout".py) := rfl

/-- With the default timeout of eight seconds and a task of ten, both executors
    report a timeout though port 443 accepts. -/
theorem firewall_times_out :
    ¬Dictated sampleFirewall (Script.eval (probing sampleInterp sampleFirewall sampleOther)
      (ExistingContainerExecutor.vehicle_reachability sampleInterp {} "4711".py
        (sampleTask "vehicle_reachability" 10))) ∧
    ¬Dictated sampleFirewall (Script.eval (probing sampleInterp sampleFirewall sampleOther)
      (ContainerNamespaceExecutor.vehicle_reachability sampleInterp {}
        (sampleTask "vehicle_reachability" 10))) := by
  rw [existing_firewall, namespaced_firewall]
  constructor
  · exact not_dictated_error fun _ h => absurd (PyExc.runnerFailure.inj h).1 (by decide)
  · exact not_dictated_error fun _ h => absurd (PyExc.runnerFailure.inj h).1 (by decide)

/-- A task of 120 seconds leaves the namespace executor the time it needs, and
    the other one not. -/
theorem verdicts_dictated_sample :
    let task := sampleTask "vehicle_reachability" 120
    ¬Dictated sampleFirewall (Script.eval (probing sampleInterp sampleFirewall sampleOther)
        (ExistingContainerExecutor.vehicle_reachability sampleInterp {} "4711".py task)) ∧
    Dictated sampleFirewall (Script.eval (probing sampleInterp sampleFirewall sampleOther)
        (ContainerNamespaceExecutor.vehicle_reachability sampleInterp {} task)) := by
  obtain ⟨hexisting, hnamespaced⟩ := @verdicts_dictated_iff sampleInterp
    sampleFirewall {} (sampleTask "vehicle_reachability" 120) "4711".py sampleOther
    (by decide) (by decide)
  exact ⟨fun h => absurd (hexisting.mp h).1 (by decide), hnamespaced.mpr (by decide)⟩

end BoVpnAgent

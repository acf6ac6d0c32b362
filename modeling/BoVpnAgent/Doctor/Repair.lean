import BoVpnAgent.Doctor.VpnDoctor
import BoVpnAgent.Lib.JsonRoundTrip
import BoVpnAgent.Lib.Precedence
import BoVpnAgent.Service

/-! # `VpnDoctor.repair`

    The decision procedure of `repair`, cut into the pieces between which the
    worker is asked whether it is busy.

    A container is recreated in four places.  Three of them come behind a
    check that the worker is not busy; the fourth one, which recreates the
    runner, does not look at it.  `no_restart_iff` says on which runs a
    container is recreated under a running diagnostic.
-/

namespace BoVpnAgent.VpnDoctor

/-! ### The procedure -/

section repair

variable (I : Interp) (clean : PyStr → PyStr) (compose : PyStr) (rounds : Nat)

/-- A container that does not run is started. -/
def start_univpn (actions : List PyStr) : Talk (List PyStr) := do
  let running ← docker_running clean "univpn-service".py
  if running then pure actions
  else
    log "ACTION" "start-univpn" []
    compose_up clean compose ["univpn-service".py] false
    pure (actions ++ ["started univpn-service".py])

def start_worker (actions : List PyStr) : Talk (List PyStr) := do
  let running ← docker_running clean "bo-vpn-worker".py
  if running then pure actions
  else
    log "ACTION" "start-worker" []
    compose_up clean compose ["bo-vpn-worker".py] false
    let _ ← wait_until rounds (worker_health I)
    pure (actions ++ ["started bo-vpn-worker".py])

/-- The list of `sidecars`. -/
def find_sidecars : Talk (List PyStr) := do
  let proxy ← proxy_exists clean
  pure (if proxy then ["bo-vpn-runner".py, "vpn-tcp-proxy".py] else ["bo-vpn-runner".py])

/-- The list of those in another namespace than UniVPN. -/
def find_stale (vpn_ns : Option PyStr) : List PyStr → Talk (List PyStr)
  | [] => pure []
  | name :: names => do
    let own_ns ← namespace_ clean
      (if name = "vpn-tcp-proxy".py then "bo-vpn-tcp-proxy".py else name)
    let stale ← find_stale vpn_ns names
    pure (if own_ns ≠ vpn_ns then name :: stale else stale)

/-- `stale or not self.docker_running("bo-vpn-runner")` -/
def sidecars_broken (stale : List PyStr) : Talk Bool :=
  if stale ≠ [] then pure true
  else do
    let running ← docker_running clean "bo-vpn-runner".py
    pure !running

/-- The sidecars are recreated, but not under a busy worker. -/
def recreate_sidecars (sidecars stale actions : List PyStr) : Talk (List PyStr) := do
  let health ← worker_health I
  if health.1 ∧ health.2 = "busy".py then fail "worker is busy; namespace repair deferred".py
  else
    log "ACTION" "recreate-sidecars"
      (PyStr.join ",".py (if stale ≠ [] then stale else ["bo-vpn-runner".py]))
    compose_up clean compose sidecars true
    let _ ← wait_until rounds (runner_health I clean)
    pure (actions ++ ["recreated VPN sidecars".py])

/-- `repair` up to its last look at the worker. -/
def repair_sidecars : Talk (List PyStr × List PyStr) := do
  let exists_ ← (.ask .compose_exists fun found => .done (.ok found) : Talk Bool)
  if exists_ then
    let report ← inspect I clean
    let actions ← start_univpn clean compose report.actions
    let actions ← start_worker I clean compose rounds actions
    let vpn_ns ← namespace_ clean "univpn-service".py
    let sidecars ← find_sidecars clean
    let stale ← find_stale clean vpn_ns sidecars
    let broken ← sidecars_broken clean stale
    let actions ← (if broken then recreate_sidecars I clean compose rounds sidecars stale actions
      else pure actions : Talk (List PyStr))
    pure (sidecars, actions)
  else fail ("compose file not found: ".py ++ compose)

/-- The runner is recreated. -/
def recreate_runner (runner_status : PyStr) (actions : List PyStr) : Talk (List PyStr) := do
  log "ACTION" "recreate-runner" runner_status
  compose_up clean compose ["bo-vpn-runner".py] true
  let runner ← wait_until rounds (runner_health I clean)
  if runner.1 then pure (actions ++ ["recreated runner".py])
  else fail ("runner unavailable after recreate: ".py ++ runner.2)

/-- UniVPN and its sidecars are recreated behind a login that did not help. -/
def reset_vpn (sidecars : List PyStr) (canary_ip : PyStr) (actions : List PyStr) :
    Talk (List PyStr) := do
  log "ACTION" "reset-vpn-container" "managed login did not establish route".py
  compose_up clean compose ["univpn-service".py] true
  compose_up clean compose sidecars true
  let runner ← wait_until rounds (runner_health I clean)
  if runner.1 then
    let detail ← trigger_login I rounds canary_ip
    pure (actions ++ ["reset UniVPN container after failed login".py,
      "retried managed login (".py ++ detail ++ ")".py])
  else fail ("runner unavailable after VPN reset: ".py ++ runner.2)

/-- A missing connection is brought up, but not under a busy worker. -/
def repair_vpn (worker_status : PyStr) (canary_ip : Option PyStr) (sidecars actions : List PyStr) :
    Talk (List PyStr) := do
  let vpn ← vpn_health clean
  if vpn.1 then pure actions
  else if worker_status = "busy".py then fail "worker is busy; VPN login deferred".py
  else
    match canary_ip with
    | some (c :: ip) => do
      log "ACTION" "trigger-managed-login" []
      let detail ← trigger_login I rounds (c :: ip)
      let actions := actions ++ ["triggered managed login (".py ++ detail ++ ")".py]
      let vpn ← vpn_health clean
      if vpn.1 then pure actions
      else reset_vpn I clean compose rounds sidecars (c :: ip) actions
    | _ => fail "VPN is disconnected; pass --canary-ip or BO_VPN_DOCTOR_CANARY_IP".py

/-- `repair` behind its last look at the worker, with the actions so far. -/
def repair_connection (worker_status : PyStr) (canary_ip : Option PyStr)
    (sidecars actions : List PyStr) : Talk Report := do
  let actions ← repair_vpn I clean compose rounds worker_status canary_ip sidecars actions
  let final ← inspect I clean
  pure { final with actions := actions }

/-- `repair` from its last look at the worker on. -/
def repair_runner (canary_ip : Option PyStr) (sidecars actions : List PyStr) : Talk Report := do
  let worker ← worker_health I
  if worker.1 then
    let runner ← runner_health I clean
    let actions ← (if runner.1 then pure actions
      else recreate_runner I clean compose rounds runner.2 actions : Talk (List PyStr))
    repair_connection I clean compose rounds worker.2 canary_ip sidecars actions
  else fail ("worker unavailable after repair: ".py ++ worker.2)

/-- `repair` -/
def repair (canary_ip : Option PyStr) : Talk Report := do
  let (sidecars, actions) ← repair_sidecars I clean compose rounds
  repair_runner I clean compose rounds canary_ip sidecars actions

end repair

/-! ### What a run shows -/

/-- `compose_up` with `force=True` -/
def recreates : Question → Bool
  | .command (.compose_up _ _ force) => force
  | _ => false

/-- Neither a recreation nor a look at the worker. -/
def isQuiet : Question → Bool
  | .worker .health => false
  | q => !recreates q

section law

variable (I : Interp)

/-- What `worker_health` returned last. -/
def observe (last : Option (Except Exc (Bool × PyStr))) :
    Event → Option (Except Exc (Bool × PyStr))
  | ⟨.worker .health, response⟩ => some (worker_status I response)
  | _ => last

def last_health (history : List Event) : Option (Except Exc (Bool × PyStr)) :=
  history.foldl (observe I) none

/-- The worker was looked at, and it was not healthy and busy. -/
def NotBusy (history : List Event) : Prop :=
  ∃ observed, last_health I history = some observed ∧ observed ≠ .ok (true, "busy".py)

/-- Every recreation comes behind a look at the worker, and the last one did
    not find it busy. -/
def Lawful (trace : List Event) : Prop :=
  Trace.Preceded (fun e => recreates e.1 = true) (NotBusy I) trace

/-- What may be asked after a history. -/
def allowed (history : List Event) (q : Question) : Prop := recreates q = true → NotBusy I history

theorem last_health_snoc (history : List Event) (e : Event) :
    last_health I (history ++ [e]) = observe I (last_health I history) e := by
  unfold last_health
  rw [List.foldl_append]
  rfl

theorem last_health_quiet (history : List Event) {q : Question} (a : Answer q)
    (hq : isQuiet q = true) : last_health I (history ++ [⟨q, a⟩]) = last_health I history := by
  rw [last_health_snoc]
  cases q with
  | worker r =>
    cases r with
    | health => cases hq
    | _ => rfl
  | _ => rfl

theorem recreates_of_quiet {q : Question} (hq : isQuiet q = true) : recreates q = false := by
  unfold isQuiet at hq
  split at hq
  · cases hq
  · exact (Bool.not_eq_true' _).mp hq

variable {I}

/-! ### Methods that recreate nothing -/

variable {clean : PyStr → PyStr} {compose : PyStr} {rounds : Nat}

theorem command_asks {K : Question → Prop} {c : Command} (hc : K (.command c)) (check : Bool) :
    (command clean c check).Asks K := ⟨hc, fun _ => trivial⟩

section asks

variable {K : Question → Prop} (hcommand : ∀ c, recreates (.command c) = false → K (.command c))
  (hlog : ∀ level event detail, K (.log level event detail)) (hclock : K .monotonic)

include hcommand

theorem docker_running_asks (name : PyStr) : (docker_running clean name).Asks K :=
  (command_asks (hcommand (.running name) rfl) _).bind fun _ => trivial

theorem namespace_asks (name : PyStr) : (namespace_ clean name).Asks K :=
  (command_asks (hcommand (.readlink name) rfl) _).bind fun _ => trivial

theorem proxy_exists_asks : (proxy_exists clean).Asks K :=
  (command_asks (hcommand (.inspect _) rfl) _).bind fun _ => trivial

theorem runner_health_asks : (runner_health I clean).Asks K :=
  (command_asks (hcommand .runner_health rfl) _).bind fun _ => trivial

theorem vpn_health_asks : (vpn_health clean).Asks K :=
  (command_asks (hcommand .vpn_interface rfl) _).bind fun _ =>
    (command_asks (hcommand .vpn_route rfl) _).bind fun _ => trivial

theorem host_isolated_asks : (host_isolated clean).Asks K :=
  (command_asks (hcommand .host_interface rfl) _).bind fun _ =>
    (command_asks (hcommand .host_route rfl) _).bind fun _ => trivial

theorem compose_up_asks (services : List PyStr) : (compose_up clean compose services false).Asks K :=
  (command_asks (hcommand (.compose_up compose services false) rfl) _).bind fun _ => trivial

omit hcommand
include hlog

theorem log_asks (level event : String) (detail : PyStr) : (log level event detail).Asks K :=
  ⟨hlog level event detail, fun _ => trivial⟩

omit hlog
include hclock

theorem wait_until_asks {check : Talk (Bool × PyStr)} (hcheck : check.Asks K) :
    (wait_until rounds check).Asks K := by
  have hloop : ∀ deadline rounds result, (wait_loop check deadline rounds result).Asks K := by
    intro deadline rounds
    induction rounds with
    | zero => exact fun _ => trivial
    | succ rounds ih =>
      intro result
      refine ⟨hclock, fun (now : Int) => ?_⟩
      show Dialogue.Asks K (if now < deadline then _ else _)
      exact Dialogue.Asks.ite (hcheck.bind fun result' => Dialogue.Asks.ite trivial (ih result'))
        trivial
  exact ⟨hclock, fun now => hloop _ _ _⟩

variable (hid : K .uuid4) (hworker : ∀ r, r ≠ .health → K (.worker r))

include hid hworker

theorem trigger_login_asks (canary_ip : PyStr) : (trigger_login I rounds canary_ip).Asks K := by
  have hrequest : ∀ r, r ≠ Request.health → (worker_request I r).Asks K :=
    fun r hr => ⟨hworker r hr, fun _ => trivial⟩
  have hloop : ∀ task_id request_id deadline rounds,
      (canary_loop I task_id request_id deadline rounds).Asks K := by
    intro task_id request_id deadline rounds
    induction rounds with
    | zero => trivial
    | succ rounds ih =>
      refine ⟨hclock, fun (now : Int) => ?_⟩
      show Dialogue.Asks K (if now < deadline then _ else _)
      refine Dialogue.Asks.ite ((hrequest _ (by simp)).bind fun result => ?_) trivial
      refine Dialogue.Asks.bind trivial fun detail => ?_
      cases detail with
      | some detail => trivial
      | none => exact ih
  unfold trigger_login
  split
  · exact Dialogue.Asks.ite trivial trivial
  · refine Dialogue.Asks.ite ⟨hid, fun (id : PyStr) => ?_⟩ trivial
    refine (hrequest (.tasks _ _) (by simp)).bind fun task => ?_
    refine Dialogue.Asks.bind trivial fun task_id => ?_
    exact ⟨hclock, fun (now : Int) => hloop _ _ _ _⟩

end asks

/-- `inspect` recreates nothing, although it looks at the worker. -/
theorem inspect_asks : (inspect I clean).Asks fun q => recreates q = false := by
  have hcommand : ∀ c, recreates (.command c) = false → recreates (.command c) = false :=
    fun _ h => h
  have hrunning : ∀ name report, (inspect_container clean name report).Asks
      fun q => recreates q = false :=
    fun name _ => (docker_running_asks hcommand name).bind fun _ => trivial
  have hsame : ∀ vpn_ns name report, (inspect_namespace clean vpn_ns name report).Asks
      fun q => recreates q = false :=
    fun _ name _ => (namespace_asks hcommand name).bind fun _ => trivial
  unfold inspect
  refine (hrunning _ _).bind fun report => (hrunning _ _).bind fun report => ?_
  refine (hrunning _ _).bind fun report => (proxy_exists_asks hcommand).bind fun proxy => ?_
  refine Dialogue.Asks.bind (Dialogue.Asks.ite (hrunning _ _) (.pure _)) fun report => ?_
  refine (namespace_asks hcommand _).bind fun vpn_ns => (hsame _ _ _).bind fun report => ?_
  refine Dialogue.Asks.bind (Dialogue.Asks.ite (hsame _ _ _) (.pure _)) fun report => ?_
  refine Dialogue.Asks.bind ⟨rfl, fun _ => trivial⟩ fun worker => ?_
  refine Dialogue.Asks.bind (Dialogue.Asks.ite (runner_health_asks hcommand) (.pure _))
    fun runner => ?_
  refine (docker_running_asks hcommand _).bind fun running => ?_
  refine Dialogue.Asks.bind (Dialogue.Asks.ite (vpn_health_asks hcommand) (.pure _)) fun vpn => ?_
  exact (host_isolated_asks hcommand).bind fun isolated => trivial

/-! ### The pieces of `repair` -/

/-- Programs that recreate nothing may run anywhere. -/
theorem harmless_triple {α : Type} {p : Talk α} (hp : p.Asks fun q => recreates q = false) :
    Dialogue.Triple (allowed I) (fun _ => True) p fun _ _ => True :=
  hp.triple (fun _ _ _ hq h => absurd h (by rw [hq]; exact Bool.false_ne_true))
    fun _ _ _ _ _ => trivial

/-- Programs that do not look at the worker either keep what is known of it. -/
theorem quiet_triple {α : Type} {p : Talk α} (hp : p.Asks fun q => isQuiet q = true) :
    Dialogue.Triple (allowed I) (NotBusy I) p fun _ => NotBusy I := by
  refine hp.triple ?_ ?_
  · intro h q _ hq hrecreates
    rw [recreates_of_quiet hq] at hrecreates
    cases hrecreates
  · intro h q a hbusy hq
    unfold NotBusy
    rw [last_health_quiet I h a hq]
    exact hbusy

/-- A recreation behind a look at a worker that was not busy. -/
theorem recreate_triple (services : List PyStr) :
    Dialogue.Triple (allowed I) (NotBusy I) (compose_up clean compose services true)
      fun _ => NotBusy I := by
  refine Dialogue.Triple.ask (fun _ h _ => h) fun result => ?_
  refine Dialogue.Triple.bind (Dialogue.Triple.done fun _ h _ hP => hP) fun _ => ?_
  refine Dialogue.Triple.pure ?_
  intro h ⟨before, hbusy, hh⟩
  unfold NotBusy
  rw [hh, last_health_snoc]
  exact hbusy

/-- The methods that neither recreate nor look at the worker. -/
theorem command_quiet : ∀ c, recreates (.command c) = false → isQuiet (.command c) = true := by
  intro c hc
  show (!recreates (.command c)) = true
  rw [hc]
  rfl

theorem wait_runner_quiet :
    (wait_until rounds (runner_health I clean)).Asks fun q => isQuiet q = true :=
  wait_until_asks (by exact rfl) (runner_health_asks command_quiet)

theorem login_quiet (canary_ip : PyStr) :
    (trigger_login I rounds canary_ip).Asks fun q => isQuiet q = true := by
  refine trigger_login_asks (by exact rfl) (by exact rfl) ?_ canary_ip
  intro r hr
  cases r with
  | health => exact absurd rfl hr
  | _ => rfl

theorem log_quiet (level event : String) (detail : PyStr) :
    (log level event detail).Asks fun q => isQuiet q = true :=
  log_asks (fun _ _ _ => rfl) level event detail

/-- What the worker said when it was looked at is known afterwards. -/
theorem health_triple :
    Dialogue.Triple (allowed I) (fun _ => True) (worker_health I)
      fun health history => last_health I history = some (.ok health) := by
  refine Dialogue.Triple.ask (fun _ _ h => absurd h Bool.false_ne_true) fun response => ?_
  refine Dialogue.Triple.done ?_
  intro health h hhealth hbefore
  obtain ⟨before, -, hh⟩ := hbefore
  rw [hh, last_health_snoc]
  exact congrArg some hhealth

theorem notBusy_of_health {history : List Event} {health : Bool × PyStr}
    (h : last_health I history = some (.ok health))
    (hbusy : ¬(health.1 = true ∧ health.2 = "busy".py)) : NotBusy I history := by
  refine ⟨_, h, fun heq => hbusy ?_⟩
  rw [Except.ok.inj heq]
  exact ⟨rfl, rfl⟩

variable (I clean compose rounds)

/-- The recreation of the sidecars comes behind a check. -/
theorem recreate_sidecars_triple (sidecars stale actions : List PyStr) :
    Dialogue.Triple (allowed I) (fun _ => True)
      (recreate_sidecars I clean compose rounds sidecars stale actions) fun _ _ => True := by
  refine health_triple.bind fun health => ?_
  refine Dialogue.Triple.ite (fun _ => Dialogue.Triple.raise _) fun hbusy => ?_
  have hcheck : Dialogue.Triple (allowed I) (NotBusy I)
      (do
        log "ACTION" "recreate-sidecars"
          (PyStr.join ",".py (if stale ≠ [] then stale else ["bo-vpn-runner".py]))
        compose_up clean compose sidecars true
        let _ ← wait_until rounds (runner_health I clean)
        pure (actions ++ ["recreated VPN sidecars".py]) : Talk (List PyStr)) fun _ _ => True := by
    refine (quiet_triple (log_quiet _ _ _)).bind fun _ => ?_
    refine (recreate_triple _).bind fun _ => ?_
    refine (quiet_triple wait_runner_quiet).bind fun _ => ?_
    exact Dialogue.Triple.pure fun _ _ => trivial
  exact hcheck.weaken (fun _ h => notBusy_of_health h hbusy) fun _ _ h => h

theorem repair_sidecars_triple :
    Dialogue.Triple (allowed I) (fun _ => True) (repair_sidecars I clean compose rounds)
      fun _ _ => True := by
  have hcommand : ∀ c, recreates (.command c) = false → recreates (.command c) = false :=
    fun _ h => h
  have hwait : (wait_until rounds (worker_health I)).Asks fun q => recreates q = false :=
    wait_until_asks (by exact rfl) ⟨rfl, fun _ => trivial⟩
  have hlog : ∀ level event detail, (log level event detail).Asks fun q => recreates q = false :=
    log_asks fun _ _ _ => rfl
  have hunivpn : ∀ actions, (start_univpn clean compose actions).Asks
      fun q => recreates q = false := by
    intro actions
    refine (docker_running_asks hcommand _).bind fun running => Dialogue.Asks.ite trivial ?_
    refine (hlog _ _ _).bind fun _ => ?_
    exact (compose_up_asks hcommand _).bind fun _ => trivial
  have hworker : ∀ actions, (start_worker I clean compose rounds actions).Asks
      fun q => recreates q = false := by
    intro actions
    refine (docker_running_asks hcommand _).bind fun running => Dialogue.Asks.ite trivial ?_
    refine (hlog _ _ _).bind fun _ => (compose_up_asks hcommand _).bind fun _ => ?_
    exact hwait.bind fun _ => trivial
  have hstale : ∀ vpn_ns names, (find_stale clean vpn_ns names).Asks
      fun q => recreates q = false := by
    intro vpn_ns names
    induction names with
    | nil => trivial
    | cons name names ih =>
      exact (namespace_asks hcommand _).bind fun own_ns => ih.bind fun stale => trivial
  have hbroken : ∀ stale, (sidecars_broken clean stale).Asks fun q => recreates q = false :=
    fun stale => Dialogue.Asks.ite trivial
      ((docker_running_asks hcommand _).bind fun running => trivial)
  -- all that comes before the sidecars recreates nothing
  refine Dialogue.Triple.bind (harmless_triple ⟨rfl, fun _ => trivial⟩) fun found => ?_
  refine Dialogue.Triple.ite (fun _ => ?_) fun _ => Dialogue.Triple.raise _
  refine (harmless_triple inspect_asks).bind fun report => ?_
  refine (harmless_triple (hunivpn _)).bind fun actions => ?_
  refine (harmless_triple (hworker _)).bind fun actions => ?_
  refine (harmless_triple (namespace_asks hcommand _)).bind fun vpn_ns => ?_
  refine (harmless_triple ((proxy_exists_asks hcommand).bind fun _ => .pure _)).bind
    fun sidecars => ?_
  refine (harmless_triple (hstale _ _)).bind fun stale => ?_
  refine (harmless_triple (hbroken _)).bind fun broken => ?_
  refine Dialogue.Triple.bind (Dialogue.Triple.ite
    (fun _ => recreate_sidecars_triple I clean compose rounds _ _ _)
    fun _ => Dialogue.Triple.pure fun _ _ => trivial) fun actions => ?_
  exact Dialogue.Triple.pure fun _ _ => trivial

/-- Behind a look at a worker that is not busy everything goes. -/
theorem repair_connection_triple (worker_status : PyStr) (canary_ip : Option PyStr)
    (sidecars actions : List PyStr) :
    Dialogue.Triple (allowed I) (NotBusy I)
      (repair_connection I clean compose rounds worker_status canary_ip sidecars actions)
      fun _ _ => True := by
  have hreset : ∀ ip actions, Dialogue.Triple (allowed I) (NotBusy I)
      (reset_vpn I clean compose rounds sidecars ip actions) fun _ => NotBusy I := by
    intro ip actions
    refine (quiet_triple (log_quiet _ _ _)).bind fun _ => ?_
    refine (recreate_triple _).bind fun _ => (recreate_triple _).bind fun _ => ?_
    refine (quiet_triple wait_runner_quiet).bind fun runner => ?_
    refine Dialogue.Triple.ite (fun _ => ?_) fun _ => Dialogue.Triple.raise _
    refine (quiet_triple (login_quiet _)).bind fun detail => ?_
    exact Dialogue.Triple.pure fun _ h => h
  have hvpn : Dialogue.Triple (allowed I) (NotBusy I)
      (repair_vpn I clean compose rounds worker_status canary_ip sidecars actions)
      fun _ => NotBusy I := by
    refine (quiet_triple (vpn_health_asks command_quiet)).bind fun vpn => ?_
    refine Dialogue.Triple.ite (fun _ => Dialogue.Triple.pure fun _ h => h) fun _ => ?_
    refine Dialogue.Triple.ite (fun _ => Dialogue.Triple.raise _) fun _ => ?_
    split
    · refine (quiet_triple (log_quiet _ _ _)).bind fun _ => ?_
      refine (quiet_triple (login_quiet _)).bind fun detail => ?_
      refine (quiet_triple (vpn_health_asks command_quiet)).bind fun vpn => ?_
      exact Dialogue.Triple.ite (fun _ => Dialogue.Triple.pure fun _ h => h) fun _ => hreset _ _
    · exact Dialogue.Triple.raise _
  refine hvpn.bind fun actions => ?_
  refine Dialogue.Triple.bind ((harmless_triple inspect_asks).weaken (fun _ _ => trivial)
    fun _ _ h => h) fun final => ?_
  exact Dialogue.Triple.pure fun _ _ => trivial

/-- Under a busy worker the connection is looked at and left alone. -/
theorem repair_connection_busy (canary_ip : Option PyStr) (sidecars actions : List PyStr) :
    (repair_connection I clean compose rounds "busy".py canary_ip sidecars actions).Asks
      fun q => recreates q = false := by
  have hvpn : (repair_vpn I clean compose rounds "busy".py canary_ip sidecars actions).Asks
      fun q => recreates q = false := by
    refine (vpn_health_asks fun _ h => h).bind fun vpn => Dialogue.Asks.ite trivial ?_
    rw [if_pos rfl]
    trivial
  exact hvpn.bind fun actions => inspect_asks.bind fun final => trivial

/-- The runner is recreated behind a look at a worker that is not busy. -/
theorem recreate_runner_triple (detail : PyStr) (actions : List PyStr) :
    Dialogue.Triple (allowed I) (NotBusy I)
      (recreate_runner I clean compose rounds detail actions) fun _ => NotBusy I := by
  refine (quiet_triple (log_quiet _ _ _)).bind fun _ => (recreate_triple _).bind fun _ => ?_
  refine (quiet_triple wait_runner_quiet).bind fun runner => ?_
  exact Dialogue.Triple.ite (fun _ => Dialogue.Triple.pure fun _ h => h)
    fun _ => Dialogue.Triple.raise _

/-! ### All runs -/

/-- The run of a program behind a history is lawful with it. -/
def LawfulBehind {α : Type} (answer : Nat → (q : Question) → Answer q) (history : List Event)
    (p : Talk α) : Prop :=
  Lawful I (history ++ (p.run answer history.length).2)

variable {I clean compose rounds} {answer : Nat → (q : Question) → Answer q}
  {history : List Event}

theorem LawfulBehind.of_meets (h : Lawful I history) {α : Type} {p : Talk α}
    {post : α → List Event → Prop} (hp : Dialogue.Meets (allowed I) p history post) :
    LawfulBehind I answer history p :=
  Trace.Preceded.append_of h (hp.run answer history.length).1

theorem LawfulBehind.done (h : Lawful I history) {α : Type} (r : Except Exc α) :
    LawfulBehind I answer history (.done r) := by
  unfold LawfulBehind
  rw [Dialogue.run_done, List.append_nil]
  exact h

/-- Two programs in sequence. -/
theorem LawfulBehind.bind {α β : Type} {p : Talk α} {f : α → Talk β}
    (hp : LawfulBehind I answer history p)
    (hf : ∀ a, (p.run answer history.length).1 = .ok a →
      LawfulBehind I answer (history ++ (p.run answer history.length).2) (f a)) :
    LawfulBehind I answer history (p >>= f) := by
  rcases hrun : p.run answer history.length with ⟨r, t⟩
  unfold LawfulBehind at hp hf ⊢
  rw [hrun] at hp hf
  cases r with
  | error e =>
    rw [Dialogue.run_bind_error hrun]
    exact hp
  | ok a =>
    have hlater := hf a rfl
    rw [List.length_append, List.append_assoc] at hlater
    rw [Dialogue.run_bind_ok hrun]
    exact hlater

/-- A program that recreates nothing. -/
theorem LawfulBehind.of_asks (h : Lawful I history) {α : Type} {p : Talk α}
    (hp : p.Asks fun q => recreates q = false) : LawfulBehind I answer history p :=
  .of_meets h (harmless_triple hp history trivial)

/-- `runner_health` is one question. -/
theorem runner_health_run (asked : Nat) :
    (runner_health I clean).run answer asked =
      ((completed clean .runner_health false (answer asked (.command .runner_health))).bind
        (runner_status I clean), [⟨.command .runner_health, answer asked _⟩]) := by
  unfold runner_health command
  rw [Dialogue.ask_bind, Dialogue.run_ask]
  cases completed clean .runner_health false (answer asked (.command .runner_health)) with
  | ok result => rfl
  | error exc => rfl

variable (I clean compose rounds)

/-- The answers of a run bring it to a recreation of the runner under a
    running diagnostic: `repair` gets to its last look at the worker, which is
    healthy and busy, then finds the runner not healthy, and can log that. -/
def RecreatesUnderBusy (answer : Nat → (q : Question) → Answer q) : Prop :=
  ∃ sidecars actions history detail,
    (repair_sidecars I clean compose rounds).run answer 0 = (.ok (sidecars, actions), history) ∧
    worker_status I (answer history.length (.worker .health)) = .ok (true, "busy".py) ∧
    (completed clean .runner_health false
      (answer (history.length + 1) (.command .runner_health))).bind (runner_status I clean) =
        .ok (false, detail) ∧
    lift (answer (history.length + 2) (.log "ACTION" "recreate-runner" detail)) = .ok ()

/-- `repair` from its last look at the worker on, unless it recreates the
    runner under a busy one. -/
theorem repair_runner_lawful (h : Lawful I history) (canary_ip : Option PyStr)
    (sidecars actions : List PyStr)
    (hfree : ∀ detail,
      worker_status I (answer history.length (.worker .health)) = .ok (true, "busy".py) →
      (completed clean .runner_health false
        (answer (history.length + 1) (.command .runner_health))).bind (runner_status I clean) =
          .ok (false, detail) →
      lift (answer (history.length + 2) (.log "ACTION" "recreate-runner" detail)) ≠ .ok ()) :
    LawfulBehind I answer history
      (repair_runner I clean compose rounds canary_ip sidecars actions) := by
  have hlook : LawfulBehind I answer history (worker_health I) :=
    .of_asks h ⟨rfl, fun _ => trivial⟩
  refine hlook.bind fun worker hworker => ?_
  generalize hh₁ : history ++ ((worker_health I).run answer history.length).2 = h₁
  have hlawful₁ : Lawful I h₁ := hh₁ ▸ hlook
  have hlast : last_health I h₁ = some (.ok worker) := by
    rw [← hh₁, ← hworker]
    exact last_health_snoc I history _
  have hlength₁ : h₁.length = history.length + 1 := by
    rw [← hh₁]
    exact List.length_append
  -- without an answer of the worker nothing is repaired
  by_cases hok : worker.1 = true
  swap
  · rw [if_neg hok]
    exact .done hlawful₁ _
  rw [if_pos hok]
  by_cases hbusy : worker.1 = true ∧ worker.2 = "busy".py
  swap
  · -- with this look everything that follows is allowed
    have hrest : Dialogue.Triple (allowed I) (NotBusy I)
        (do
          let runner ← runner_health I clean
          let actions ← (if runner.1 then pure actions
            else recreate_runner I clean compose rounds runner.2 actions : Talk (List PyStr))
          repair_connection I clean compose rounds worker.2 canary_ip sidecars actions)
        fun _ _ => True := by
      refine (quiet_triple (runner_health_asks command_quiet)).bind fun runner => ?_
      refine Dialogue.Triple.bind (Dialogue.Triple.ite (fun _ => Dialogue.Triple.pure fun _ h => h)
        fun _ => recreate_runner_triple I clean compose rounds _ _) fun actions => ?_
      exact repair_connection_triple I clean compose rounds _ _ _ _
    exact .of_meets hlawful₁ (hrest h₁ (notBusy_of_health hlast hbusy))
  -- the worker is busy: nothing may be recreated
  · have hworker' : worker = (true, "busy".py) := Prod.ext hbusy.1 hbusy.2
    subst hworker'
    have hlook₂ : LawfulBehind I answer h₁ (runner_health I clean) :=
      .of_asks hlawful₁ (runner_health_asks fun _ h => h)
    refine hlook₂.bind fun runner hrunner => ?_
    unfold LawfulBehind at hlook₂
    rw [runner_health_run] at hrunner hlook₂ ⊢
    by_cases hup : runner.1 = true
    · rw [if_pos hup]
      exact .of_asks hlook₂ (repair_connection_busy I clean compose rounds _ _ _)
    · rw [if_neg hup]
      -- the runner would be recreated, but that cannot be logged
      have hdown : runner = (false, runner.2) := Prod.ext (Bool.eq_false_iff.mpr hup) rfl
      have hdetail := hfree runner.2 hworker (by
        rw [← hlength₁, ← hdown]
        exact hrunner)
      have hlogged : LawfulBehind I answer _ (log "ACTION" "recreate-runner" runner.2) :=
        .of_asks hlook₂ (log_asks (fun _ _ _ => rfl) _ _ _)
      have hstops : ∀ a, ((log "ACTION" "recreate-runner" runner.2).run answer
          (h₁ ++ [(⟨.command .runner_health, answer h₁.length _⟩ : Event)]).length).1 ≠ .ok a := by
        intro a ha
        rw [List.length_append, hlength₁] at ha
        exact hdetail ha
      have hrecreate : LawfulBehind I answer _
          (recreate_runner I clean compose rounds runner.2 actions) :=
        hlogged.bind fun a ha => absurd ha (hstops a)
      exact hrecreate.bind fun actions' hactions =>
        absurd hactions (Dialogue.run_bind_ne_ok hstops _ _)

/-- The recreation of the runner under a busy worker. -/
theorem not_lawful_of_busy (canary_ip : Option PyStr) (sidecars actions : List PyStr) {detail : PyStr}
    (hworker : worker_status I (answer history.length (.worker .health)) = .ok (true, "busy".py))
    (hrunner : (completed clean .runner_health false
      (answer (history.length + 1) (.command .runner_health))).bind (runner_status I clean) =
        .ok (false, detail))
    (hlog : lift (answer (history.length + 2) (.log "ACTION" "recreate-runner" detail)) = .ok ()) :
    ¬LawfulBehind I answer history
      (repair_runner I clean compose rounds canary_ip sidecars actions) := by
  have hlook : (worker_health I).run answer history.length =
      (.ok (true, "busy".py), [⟨.worker .health, answer history.length _⟩]) :=
    Prod.ext hworker rfl
  have hcheck : (runner_health I clean).run answer (history.length + 1) =
      (.ok (false, detail), [⟨.command .runner_health, answer (history.length + 1) _⟩]) := by
    rw [runner_health_run, hrunner]
  have hlogged : (log "ACTION" "recreate-runner" detail).run answer (history.length + 2) =
      (.ok (), [⟨.log _ _ _, answer (history.length + 2) _⟩]) := Prod.ext hlog rfl
  obtain ⟨later, hrecreate⟩ : ∃ later,
      ((recreate_runner I clean compose rounds detail actions).run answer (history.length + 2)).2 =
        ⟨.log "ACTION" "recreate-runner" detail, answer (history.length + 2) _⟩ ::
          ⟨.command (.compose_up compose ["bo-vpn-runner".py] true),
            answer (history.length + 3) _⟩ :: later := by
    unfold recreate_runner
    rw [Dialogue.run_bind_ok hlogged]
    exact ⟨_, rfl⟩
  obtain ⟨later', htrace⟩ := Dialogue.run_bind_exchanges answer (history.length + 2)
    (recreate_runner I clean compose rounds detail actions)
    fun actions => repair_connection I clean compose rounds "busy".py canary_ip sidecars actions
  rw [hrecreate] at htrace
  intro hlawful
  unfold LawfulBehind repair_runner at hlawful
  rw [Dialogue.run_bind_ok hlook, if_pos rfl, List.length_singleton, Dialogue.run_bind_ok hcheck,
    if_neg Bool.false_ne_true, List.length_singleton, htrace] at hlawful
  -- the recreation is the fourth event of this part
  have hbusy : NotBusy I (history ++ [⟨.worker .health, answer history.length _⟩,
      ⟨.command .runner_health, answer (history.length + 1) _⟩,
      ⟨.log "ACTION" "recreate-runner" detail, answer (history.length + 2) _⟩]) :=
    hlawful _ ⟨.command (.compose_up compose ["bo-vpn-runner".py] true), _⟩ (later ++ later')
      (List.append_assoc history [_, _, _] (_ :: (later ++ later'))).symm rfl
  obtain ⟨observed, hlast, hnot⟩ := hbusy
  rw [List.append_cons, List.append_cons, last_health_quiet I _ _ rfl, last_health_quiet I _ _ rfl,
    last_health_snoc] at hlast
  exact hnot ((Option.some.inj hlast).symm.trans hworker)

/-- On a run of `repair`, every recreation of a container comes behind a look
    at the worker that did not find it busy, exactly when the run does not come
    to recreate the runner under a running diagnostic. -/
theorem no_restart_iff (canary_ip : Option PyStr) (answer : Nat → (q : Question) → Answer q) :
    Lawful I ((repair I clean compose rounds canary_ip).run answer 0).2 ↔
      ¬RecreatesUnderBusy I clean compose rounds answer := by
  have hbefore : LawfulBehind I answer [] (repair_sidecars I clean compose rounds) :=
    .of_meets (Trace.Preceded.nil _ _) (repair_sidecars_triple I clean compose rounds [] trivial)
  constructor
  · rintro hlawful ⟨sidecars, actions, history, detail, hrun, hworker, hrunner, hlog⟩
    refine not_lawful_of_busy I clean compose rounds canary_ip sidecars actions hworker hrunner hlog ?_
    unfold repair at hlawful
    rw [Dialogue.run_bind_ok hrun, Nat.zero_add] at hlawful
    exact hlawful
  · intro hfree
    refine LawfulBehind.bind hbefore fun found hfound => ?_
    obtain ⟨sidecars, actions⟩ := found
    refine repair_runner_lawful I clean compose rounds hbefore canary_ip sidecars actions ?_
    intro detail hworker hrunner hlog
    exact hfree ⟨sidecars, actions, _, detail, Prod.ext hfound rfl, hworker, hrunner, hlog⟩

end law

/-! ### A diagnostic is cut off -/

/-- What the worker says of its health during a task. -/
def busyHealth : Json.Fields := [("ok".py, .bool true), ("status".py, .str "busy".py)]

/-- All containers run in one namespace.  The worker does not answer the
    inspection in time; afterwards it is busy with a task, and the runner does
    not answer. -/
def busyAnswers : Nat → (q : Question) → Answer q
  | _, .compose_exists => true
  | _, .command (.running _) => .ok { returncode := 0, stdout := "true\n".py, stderr := [] }
  | _, .command (.inspect _) => .ok { returncode := 1, stdout := [], stderr := "No such object".py }
  | _, .command .runner_health => .ok { returncode := 1, stdout := [], stderr := "timed out".py }
  | _, .command _ => .ok { returncode := 0, stdout := "net:[4026531840]".py, stderr := [] }
  | asked, .worker _ =>
    if asked < 12 then .failed "TimeoutError".py
    else .body (Json.render sampleInterp dumpDefaults (.obj busyHealth))
  | _, .log _ _ _ => .ok ()
  | _, .monotonic => (0 : Int)
  | _, .uuid4 => []

theorem busyHealth_status :
    worker_status sampleInterp (.body (Json.render sampleInterp dumpDefaults (.obj busyHealth))) =
      .ok (true, "busy".py) := by
  have hplain : dumpDefaults.Plain :=
    { item := ⟨[0x20], rfl, rfl⟩, key := ⟨[0x20], rfl, rfl⟩, order := rfl }
  have hkeys : ["ok".py, "status".py].Nodup := by decide
  have hreadable : Json.Readable sampleInterp (.obj busyHealth) :=
    { clean := ⟨PyStr.scalar_py _, trivial, PyStr.scalar_py _, PyStr.scalar_py _, trivial⟩
      nodes := ⟨hkeys, trivial, trivial, trivial⟩ }
  have hloads := Json.loads_render hplain hreadable (by decide)
  unfold worker_status respond
  simp only [hloads]
  rfl

/-- The runner is recreated under the task. -/
theorem runner_recreated_under_busy :
    ¬Lawful sampleInterp
      ((repair sampleInterp id "docker-compose.full.yml".py 1 none).run busyAnswers 0).2 := by
  obtain ⟨history, hrun, hlength⟩ : ∃ history,
      (repair_sidecars sampleInterp id "docker-compose.full.yml".py 1).run busyAnswers 0 =
        (.ok (["bo-vpn-runner".py], []), history) ∧ history.length = 19 := ⟨_, rfl, rfl⟩
  have hbusy : ¬LawfulBehind sampleInterp busyAnswers history (repair_runner sampleInterp id
      "docker-compose.full.yml".py 1 none ["bo-vpn-runner".py] []) :=
    not_lawful_of_busy sampleInterp id _ 1 none _ _ (by rw [hlength]; exact busyHealth_status) rfl rfl
  unfold repair
  rw [Dialogue.run_bind_ok hrun, Nat.zero_add]
  exact hbusy

end BoVpnAgent.VpnDoctor

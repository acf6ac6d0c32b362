import BoVpnAgent.Daemon.Jobs

/-! # The UniVPN control channel

    A login is four appends to the control file, with pauses between them,
    and the cleanup may append a disconnect sequence.  The writes of one job
    always have this form.  The daemon does nothing to keep two sessions
    apart: two jobs that log in at the same time mix their lines.  As long as
    the sessions follow each other, the file is made of whole blocks.

    A login is cut short by a write that fails, and by a pause that
    `time.sleep` refuses.
-/

namespace BoVpnAgent.Daemon

open ContainerNamespaceExecutor (Session SessionAction SessionStep append loginLines controlSequence)

variable {I : Interp} {config : RunnerDaemonConfig}

/-! ### Blocks -/

section blocks

variable (config : RunnerDaemonConfig) (job_id username password : PyStr)

/-- The first `n` writes of a login. -/
def loginBlock (n : Nat) : List ControlWrite :=
  ((loginLines config username password).take n).map fun text =>
    { job_id := job_id, block := .login, text := text }

/-- The write of a cleanup. -/
def disconnectBlock : List ControlWrite :=
  [{ job_id := job_id, block := .disconnect,
     text := controlSequence (config.univpn_disconnect_sequence.getD []) }]

theorem loginBlock_zero : loginBlock config job_id username password 0 = [] := rfl

variable {config username password}

theorem loginBlock_succ {n : Nat} {line : PyStr}
    (h : (loginLines config username password)[n]? = some line) :
    loginBlock config job_id username password (n + 1) =
      loginBlock config job_id username password n ++
        [{ job_id := job_id, block := .login, text := line }] := by
  simp [loginBlock, List.take_add_one, h]

end blocks

/-- A login of at most four lines; of none or all of them when it is
    `whole`. -/
def LoginPart (config : RunnerDaemonConfig) (job_id : PyStr) (whole : Prop)
    (ws : List ControlWrite) : Prop :=
  ∃ username password n, n ≤ 4 ∧ (whole → n = 0 ∨ n = 4) ∧
    ws = loginBlock config job_id username password n

theorem LoginPart.nil (job_id : PyStr) (whole : Prop) : LoginPart config job_id whole [] :=
  ⟨[], [], 0, by omega, fun _ => .inl rfl, rfl⟩

theorem LoginPart.weaken {job_id : PyStr} {whole : Prop} {ws : List ControlWrite}
    (h : LoginPart config job_id True ws) : LoginPart config job_id whole ws := by
  obtain ⟨username, password, n, hn, hwhole, rfl⟩ := h
  exact ⟨username, password, n, hn, fun _ => hwhole trivial, rfl⟩

/-! ### The writes of one job -/

section session

variable (config : RunnerDaemonConfig) (job_id : PyStr) (whole : Prop) (ws : List ControlWrite)

/-- The blocks of one job: a login and at most one disconnect. -/
def JobBlocks : Prop :=
  ∃ login, LoginPart config job_id whole login ∧
    (ws = login ∨ ws = login ++ disconnectBlock config job_id)

/-- What a session has written when it stands at a point of `run`. -/
def Wrote : Session → Prop
  | .begun | .preflight | .login => ws = []
  | .writing username password n => n < 4 ∧ ws = loginBlock config job_id username password n
  | .polling | .connected | .announced | .checking | .operating =>
    LoginPart config job_id True ws
  | .cleanup _ | .disconnecting _ => LoginPart config job_id whole ws

/-- What a session has written after a step. -/
def WroteNext : Session ⊕ Outcome → Prop
  | .inl at_ => Wrote config job_id whole ws at_
  | .inr _ => JobBlocks config job_id whole ws

/-- What a job has written, by where its runner stands. -/
def JobWrote : RunnerThread → Prop
  | .unborn | .started | .in_run => ws = []
  | .session _ at_ => Wrote config job_id whole ws at_
  | .leaving _ | .ended _ => JobBlocks config job_id whole ws

/-- The step is not a write of `_login` that fails. -/
def loginWritten (at_ : Session) (a : SessionAction) : Bool :=
  match a, at_ with
  | .write fault, .writing username password n =>
    ((loginLines config username password)[n]?).all fun line => (append line fault).toOption.isSome
  | _, _ => true

end session

/-- `time.sleep` accepts the pauses between the writes of a login. -/
def PausesAccepted (config : RunnerDaemonConfig) : Prop :=
  ∀ n < 3, sleep (ContainerNamespaceExecutor.loginDelay config n) = .ok ()

/-- The write of a step of the session of `job_id`. -/
def sessionWrites (job_id : PyStr) (st : SessionStep) : List ControlWrite :=
  (st.write.map fun w => { job_id := job_id, block := w.1, text := w.2 }).toList

section step

variable {job_id : PyStr} {whole : Prop} {ws : List ControlWrite} {st : SessionStep}

theorem append_ok {text line : PyStr} {fault : Bool} (h : append line fault = .ok text) :
    text = line := by
  unfold append at h
  split_ifs at h
  exact (Except.ok.inj h).symm

theorem login_write_wrote {username password : PyStr} {n : Nat} {fault : Bool} (hn : n < 4)
    (hok : whole → loginWritten config (.writing username password n) (.write fault) = true)
    (hpauses : whole → PausesAccepted config)
    (h : ContainerNamespaceExecutor.login_write config username password n fault = some st) :
    WroteNext config job_id whole
      (loginBlock config job_id username password n ++ sessionWrites job_id st) st.next := by
  have hcut : ∀ line kind, (loginLines config username password)[n]? = some line →
      append line fault = .error kind → LoginPart config job_id whole
        (loginBlock config job_id username password n) := by
    intro line kind hline herror
    refine ⟨username, password, n, hn.le, fun hwhole => ?_, rfl⟩
    have hwritten := hok hwhole
    simp [loginWritten, hline, herror, Except.toOption] at hwritten
  unfold ContainerNamespaceExecutor.login_write at h
  split at h
  · cases h
  · next line hline =>
    split at h
    · next text happend =>
      obtain rfl := append_ok happend
      have hblock := loginBlock_succ job_id hline
      cases h
      simp only [sessionWrites, Option.map_some, Option.toList_some, ← hblock]
      rcases ContainerNamespaceExecutor.pausedThen_cases
        (ContainerNamespaceExecutor.behindLine config n) (if n + 1 < 4 then
          .writing username password (n + 1) else .polling) with ⟨-, hnext⟩ | ⟨kind, hpause, hnext⟩
      · rw [hnext]
        split_ifs with hlast
        · exact ⟨hlast, rfl⟩
        · exact ⟨username, password, n + 1, hn, fun _ => .inr (by omega), rfl⟩
      · -- the pause is refused, and the login ends here
        rw [hnext]
        refine ⟨username, password, n + 1, hn, fun hwhole => .inr ?_, rfl⟩
        by_contra hcut
        rw [(ContainerNamespaceExecutor.behindLine_ok_iff config n).mpr
          ⟨hpauses hwhole n (by omega), fun hlast => absurd hlast (by omega)⟩] at hpause
        cases hpause
    · next happend =>
      cases h
      simpa [sessionWrites, WroteNext, Wrote] using hcut line _ hline happend
    · next kind _ happend =>
      cases h
      simpa [sessionWrites, WroteNext, Wrote] using hcut line _ hline happend

/-- A step that writes nothing keeps what is written. -/
theorem WroteNext.silent (hst : st.write = none) (h : WroteNext config job_id whole ws st.next) :
    WroteNext config job_id whole (ws ++ sessionWrites job_id st) st.next := by
  simpa [sessionWrites, hst] using h

/-- One step of a session, with what it writes. -/
theorem wrote_step {task : Task} {vpn : VpnCredentials} {at_ : Session} {a : SessionAction}
    (h : ContainerNamespaceExecutor.step config task vpn at_ a = some st)
    (hok : whole → loginWritten config at_ a = true) (hpauses : whole → PausesAccepted config)
    (hw : Wrote config job_id whole ws at_) :
    WroteNext config job_id whole (ws ++ sessionWrites job_id st) st.next := by
  unfold ContainerNamespaceExecutor.step at h
  split at h
  · -- `set_state`, before the preflight
    cases h
    exact .silent rfl hw
  · -- the preflight
    obtain rfl := hw
    split at h
    · cases h
      exact .silent rfl (.nil job_id True)
    · split at h <;> cases h
      · exact .silent rfl rfl
      · exact .silent rfl (.nil job_id whole)
    · cases h
      exact .silent rfl (.nil job_id whole)
  · -- the credentials of a login
    obtain rfl := hw
    split at h
    · next username password _ =>
      split at h <;> cases h
      · exact .silent rfl ⟨by omega, (loginBlock_zero config job_id username password).symm⟩
      · exact .silent rfl (.nil job_id whole)
    · cases h
      exact .silent rfl (.nil job_id whole)
  · -- a write of a login
    obtain ⟨hn, rfl⟩ := hw
    exact login_write_wrote hn hok hpauses h
  · -- a poll
    split at h
    · cases h
      exact .silent rfl hw
    · split at h <;> cases h
      · exact .silent rfl (LoginPart.weaken hw)
      · refine .silent rfl ?_
        rcases ContainerNamespaceExecutor.pausedThen_cases (sleep config.univpn_connect_poll_interval_sec)
          .polling with ⟨-, hnext⟩ | ⟨kind, -, hnext⟩
        · rw [hnext]
          exact hw
        · rw [hnext]
          exact LoginPart.weaken hw
    · cases h
      exact .silent rfl (LoginPart.weaken hw)
  · cases h
    exact .silent rfl hw
  · -- the branch on the operation
    split_ifs at h <;> cases h
    · exact .silent rfl hw
    · exact .silent rfl hw
    · exact .silent rfl (LoginPart.weaken hw)
  · cases h
    exact .silent rfl hw
  · cases h
    exact .silent rfl (LoginPart.weaken hw)
  · -- the `finally` clause
    split_ifs at h <;> cases h
    · exact .silent rfl ⟨ws, hw, .inl rfl⟩
    · exact .silent rfl ⟨ws, hw, .inl rfl⟩
    · exact .silent rfl hw
  · -- the disconnect sequence
    split at h
    · next text happend =>
      obtain rfl := append_ok happend
      cases h
      exact ⟨ws, hw, .inr rfl⟩
    · cases h
      exact .silent rfl ⟨ws, hw, .inl rfl⟩
    · cases h
      exact .silent rfl ⟨ws, hw, .inl rfl⟩
  · cases h

end step

/-- No write of the login of the job `id` fails. -/
def loginsWritten (config : RunnerDaemonConfig) (id : PyStr) (x : Execution) (a : Action) : Bool :=
  match a, x.runner with
  | .session a, .session _ at_ => x.job.job_id ≠ id || loginWritten config at_ a
  | _, _ => true

/-- What holds of a job and its writes. -/
structure Writing (config : RunnerDaemonConfig) (id : PyStr) (whole : Prop) (x : Execution)
    (ws : List ControlWrite) : Prop where
  unborn : x.executor = .begun → x.runner = .unborn
  wrote : JobWrote config id whole ws x.runner

theorem Writing.step {x x' : Execution} {a : Action} {written ws : List ControlWrite}
    {id : PyStr} {whole : Prop} (hid : x.job.job_id = id)
    (hok : whole → loginsWritten config id x a = true) (hpauses : whole → PausesAccepted config)
    (hx : Writing config id whole x ws)
    (h : Advance I config x a x' written) : Writing config id whole x' (ws ++ written) := by
  obtain ⟨hunborn, hw⟩ := hx
  -- a thread that has been started keeps the executor from starting it again
  have hborn : x.runner ≠ .unborn → x.executor ≠ .begun := fun hr hpc => hr (hunborn hpc)
  cases h with
  | selected hpc hmode =>
    rw [hunborn hpc] at hw
    exact ⟨nofun, by rwa [List.append_nil]⟩
  | enter_session hr hmode =>
    rw [hr] at hw hborn
    exact ⟨fun hpc => absurd hpc (hborn nofun), by rwa [List.append_nil]⟩
  | enter_run hr hmode =>
    rw [hr] at hw hborn
    exact ⟨fun hpc => absurd hpc (hborn nofun), by rwa [List.append_nil]⟩
  | session a vpn at_ st hr hst =>
    rw [hr] at hw hborn
    have hnext := wrote_step hst (fun hwhole => by
      simpa [loginsWritten, hr, hid] using hok hwhole) hpauses hw
    refine ⟨fun hpc => absurd hpc (hborn nofun), ?_⟩
    rw [show (take x vpn st).2 = sessionWrites id st by rw [← hid]; rfl]
    unfold take
    cases hst : st.next <;> simpa [hst, WroteNext, JobWrote] using hnext
  | leave outcome hr =>
    rw [hr] at hw hborn
    obtain rfl := hw
    exact ⟨fun hpc => absurd hpc (hborn nofun), [], .nil id whole, .inl rfl⟩
  | die outcome hr =>
    rw [hr] at hw hborn
    exact ⟨fun hpc => absurd hpc (hborn nofun), by rwa [List.append_nil]⟩
  | unselected | join_over | join_raise | conclude | wipe =>
    exact ⟨nofun, by rwa [List.append_nil]⟩
  | report | cancel => exact ⟨hunborn, by rwa [List.append_nil]⟩

/-- What every job has written, in runs in which no write of its login fails
    when it is to be `whole`. -/
theorem job_writing {D : Execution → Action → Bool} {id : PyStr} {whole : Prop}
    (hD : whole → ∀ x a, D x a = true → loginsWritten config id x a = true)
    (hpauses : whole → PausesAccepted config) {s : State}
    (h : Lts.Reachable (runs I config D) s) {x : Execution} (hx : s.view id = some x) :
    Writing config id whole x (s.writes id) := by
  refine job_invariant (P := fun x ws => x.job.job_id = id → Writing config id whole x ws)
    ?_ ?_ h hx ((well_formed h.of_restrict).ids id _ (view_eq_some.mp hx).2)
  · intro payload env job _ _
    exact ⟨fun _ => rfl, rfl⟩
  · intro x a x' written ws ha hx hadv hid'
    have hid := (advance_request hadv).1.symm.trans hid'
    exact (hx hid).step hid (fun hwhole => hD hwhole x a ha) hpauses hadv

/-- In all runs, each job has written the lines of a login as far as it came. -/
theorem daemon_writing {s : State} (h : Lts.Reachable (daemon I config) s) {id : PyStr}
    {x : Execution} (hx : s.view id = some x) : Writing config id False x (s.writes id) :=
  job_writing (fun hfalse => hfalse.elim) (fun hfalse => hfalse.elim) (star_runs h) hx

/-! ### One session at a time -/

/-- The thread is inside `ContainerNamespaceExecutor.run`. -/
def RunnerThread.inSession : RunnerThread → Bool
  | .session _ _ => true
  | _ => false

/-- The thread has called a runner. -/
def RunnerThread.entered : RunnerThread → Bool
  | .unborn | .started => false
  | _ => true

/-- No job but `id` is in a session. -/
def sessionFree (s : State) (id : PyStr) : Bool :=
  s.threads.entries.all fun e => e.1 = id || !e.2.runner.inSession

/-- A job of the mode `container_namespace` enters `run` only when no other
    is inside. -/
def oneSession (s : State) : Label → Bool
  | .job id .enter =>
    ((s.jobs.get? id).all fun j => j.task.runner_mode ≠ "container_namespace".py) ||
      sessionFree s id
  | _ => true

/-- The runs in which the sessions follow each other. -/
def oneAtATime (I : Interp) (config : RunnerDaemonConfig) : Lts.System State Label :=
  (daemon I config).restrict fun s l => oneSession s l = true

theorem runner_of_sessionFree {s : State} {id id' : PyStr} {x : Execution}
    (h : sessionFree s id = true) (hx : s.view id' = some x)
    (hin : x.runner.inSession = true) : id' = id := by
  have hmem := (Dict.mem_entries_iff _ _ _).mpr (view_eq_some.mp hx).1
  have hentry := List.all_eq_true.mp h _ hmem
  simpa [hin] using hentry

section advance

variable {x x' : Execution} {a : Action} {written : List ControlWrite}

theorem advance_entered (h : Advance I config x a x' written) (hx : x.executor = .begun → x.runner = .unborn)
    (hentered : x.runner.entered = true) : x'.runner.entered = true := by
  cases h with
  | selected hpc hmode =>
    rw [hx hpc] at hentered
    cases hentered
  | session a vpn at_ st =>
    unfold take
    cases st.next <;> rfl
  | enter_session | enter_run | leave | die => rfl
  | _ => exact hentered

/-- A step writes only in a session, and it leads into one only by `enter`. -/
theorem advance_session (h : Advance I config x a x' written) :
    x.runner.inSession = true ∨
    (written = [] ∧ x'.runner.inSession = false) ∨
    (written = [] ∧ a = .enter ∧ x.runner = .started ∧
      x.job.task.runner_mode = "container_namespace".py) := by
  cases h with
  | session a vpn at_ st hr hst => exact .inl (by rw [hr]; rfl)
  | enter_session hr hmode => exact .inr (.inr ⟨rfl, rfl, hr, hmode⟩)
  | selected | enter_run | leave | die => exact .inr (.inl ⟨rfl, rfl⟩)
  | unselected | join_over | join_raise | conclude | wipe | report | cancel =>
    cases x.runner.inSession
    · exact .inr (.inl ⟨rfl, rfl⟩)
    · exact .inl rfl

end advance

/-- The job `id` is in a session. -/
def State.inSession (s : State) (id : PyStr) : Bool := (s.view id).any fun x => x.runner.inSession

/-- The job `id` has called its runner. -/
def State.entered (s : State) (id : PyStr) : Bool := (s.view id).any fun x => x.runner.entered

section put

variable {s : State} {id id' : PyStr} {x' : Execution} {written : List ControlWrite}

theorem inSession_put : (s.put id x' written).inSession id' =
    if id = id' then x'.runner.inSession else s.inSession id' := by
  unfold State.inSession
  split_ifs with heq
  · subst heq
    rw [view_put_self, Option.any_some]
  · rw [view_put_ne heq]

theorem entered_put : (s.put id x' written).entered id' =
    if id = id' then x'.runner.entered else s.entered id' := by
  unfold State.entered
  split_ifs with heq
  · subst heq
    rw [view_put_self, Option.any_some]
  · rw [view_put_ne heq]

theorem writes_put_nil : (s.put id x' []).writes = s.writes := by
  funext id
  simp [State.writes, State.put]

end put

/-- The writes of the jobs follow each other in the order `ids`, and a job in
    a session is the last one. -/
structure InOrder (s : State) (ids : List PyStr) : Prop where
  nodup : ids.Nodup
  log : s.control_log = ids.flatMap s.writes
  entered : ∀ id ∈ ids, s.entered id = true
  last : ∀ id, s.inSession id = true → ids.getLast? = some id

theorem InOrder.start {s : State} {ids : List PyStr} (h : InOrder s ids) {job : RunnerJob}
    (hfresh : s.jobs.get? job.job_id = none) : InOrder (s.start job) ids := by
  refine ⟨h.nodup, h.log, ?_, ?_⟩
  · intro id hmem
    have hentered := h.entered id hmem
    by_cases heq : job.job_id = id
    · simp [State.entered, State.view, ← heq, hfresh] at hentered
    · rwa [State.entered, view_start_ne heq]
  · intro id hin
    by_cases heq : job.job_id = id
    · rw [State.inSession, ← heq, view_start_self] at hin
      cases hin
    · rw [State.inSession, view_start_ne heq] at hin
      exact h.last id hin

theorem InOrder.put {s : State} {ids : List PyStr} {id : PyStr} {x x' : Execution} {a : Action}
    {written : List ControlWrite} (h : InOrder s ids) (hwf : WellFormed s)
    (hx : s.view id = some x) (hwriting : Writing config id False x (s.writes id))
    (hone : oneSession s (.job id a) = true) (hadv : Advance I config x a x' written) :
    ∃ ids', InOrder (s.put id x' written) ids' := by
  have hjob := (view_eq_some.mp hx).2
  have hwritten : ∀ w ∈ written, w.job_id = id := fun w hw =>
    (advance_written hadv w hw).trans (hwf.ids id _ hjob)
  have hx_in : s.inSession id = x.runner.inSession := by simp [State.inSession, hx]
  have hx_entered : s.entered id = x.runner.entered := by simp [State.entered, hx]
  have hentered : ∀ id' ∈ ids, (s.put id x' written).entered id' = true := by
    intro id' hmem
    have hold := h.entered id' hmem
    rw [entered_put]
    split_ifs with heq
    · rw [← heq, hx_entered] at hold
      exact advance_entered hadv hwriting.unborn hold
    · exact hold
  -- a step inside a session, one outside, or the one that begins a session
  obtain hin | ⟨rfl, hout⟩ | ⟨rfl, rfl, hstarted, hmode⟩ := advance_session hadv
  · -- the job is the last of the order, and its new write comes last
    have hlast := h.last id (hx_in.trans hin)
    obtain ⟨earlier, rfl⟩ := List.getLast?_eq_some_iff.mp hlast
    have hearlier : ∀ id' ∈ earlier, (s.put id x' written).writes id' = s.writes id' := by
      intro id' hmem
      refine writes_put_ne hwritten ?_
      rintro rfl
      exact (List.nodup_append.mp h.nodup).2.2 id hmem id (List.mem_singleton_self id) rfl
    refine ⟨earlier ++ [id], h.nodup, ?_, hentered, ?_⟩
    · have hlog : (s.put id x' written).control_log = s.control_log ++ written := rfl
      rw [hlog, h.log, List.flatMap_append, List.flatMap_append, List.flatMap_congr hearlier,
        List.flatMap_singleton, List.flatMap_singleton, writes_put hwritten, List.append_assoc]
    · intro id' hin'
      rw [inSession_put] at hin'
      split_ifs at hin' with heq
      · rwa [← heq]
      · exact h.last id' hin'
  · -- nothing is written, and no session begins
    refine ⟨ids, h.nodup, ?_, hentered, ?_⟩
    · rw [writes_put_nil, ← h.log]
      exact List.append_nil _
    · intro id' hin'
      rw [inSession_put] at hin'
      split_ifs at hin' with heq
      · rw [hout] at hin'
        cases hin'
      · exact h.last id' hin'
  · -- a session begins: the job has written nothing, and no other is in one
    have hnew : id ∉ ids := by
      intro hmem
      have hold := h.entered id hmem
      rw [hx_entered, hstarted] at hold
      cases hold
    have hnone : s.writes id = [] := by
      have hwrote := hwriting.wrote
      rwa [hstarted] at hwrote
    have hfree : sessionFree s id = true := by
      simpa [oneSession, hjob, hmode] using hone
    refine ⟨ids ++ [id], ?_, ?_, ?_, ?_⟩
    · exact List.nodup_append.mpr ⟨h.nodup, List.nodup_singleton id, by
        rintro id' hmem _ hid rfl
        exact hnew (List.mem_singleton.mp hid ▸ hmem)⟩
    · rw [writes_put_nil, List.flatMap_append, List.flatMap_singleton, hnone, List.append_nil,
        ← h.log]
      exact List.append_nil _
    · intro id' hmem
      rcases List.mem_append.mp hmem with hold | hself
      · exact hentered id' hold
      · obtain rfl := List.mem_singleton.mp hself
        rw [entered_put, if_pos rfl]
        cases hadv
        · rfl
        · rfl
    · intro id' hin'
      rw [inSession_put] at hin'
      split_ifs at hin' with heq
      · simp [heq]
      · obtain ⟨y, hy, hyin⟩ := (Option.any_eq_true _ _).mp hin'
        exact absurd (runner_of_sessionFree hfree hy hyin).symm heq

/-! ### The result -/

/-- The job `id` is in `_login`, between its first and its last write. -/
def State.loggingIn (s : State) (id : PyStr) : Bool :=
  (s.view id).any fun x => match x.runner with
    | .session _ (.writing _ _ _) => true
    | _ => false

/-- A session that is not writing a login has written its blocks. -/
theorem JobWrote.blocks {id : PyStr} {whole : Prop} {ws : List ControlWrite} {x : Execution}
    {s : State} (hx : s.view id = some x) (hw : JobWrote config id whole ws x.runner)
    (hlogin : whole → s.loggingIn id = false) : JobBlocks config id whole ws := by
  have hnone : ws = [] → JobBlocks config id whole ws := by
    rintro rfl
    exact ⟨[], .nil id whole, .inl rfl⟩
  cases hr : x.runner with
  | unborn | started | in_run => rw [hr] at hw; exact hnone hw
  | session vpn at_ =>
    rw [hr] at hw
    cases at_ with
    | begun | preflight | login => exact hnone hw
    | writing username password n =>
      obtain ⟨hn, rfl⟩ := hw
      have hnot : ¬ whole := by
        intro hwhole
        have hout := hlogin hwhole
        simp [State.loggingIn, hx, hr] at hout
      exact ⟨_, ⟨username, password, n, hn.le, fun hwhole => absurd hwhole hnot, rfl⟩, .inl rfl⟩
    | polling | connected | announced | checking | operating =>
      exact ⟨ws, LoginPart.weaken hw, .inl rfl⟩
    | cleanup | disconnecting => exact ⟨ws, hw, .inl rfl⟩
  | leaving outcome | ended outcome => rw [hr] at hw; exact hw

/-- The writes of each job are whole blocks, a login being cut short only by
    a write that fails or a pause that is refused.  And when the sessions
    follow each other, so do the writes of the jobs. -/
structure ChannelOfBlocks (I : Interp) (config : RunnerDaemonConfig) (s : State) : Prop where
  in_order : Lts.Reachable (oneAtATime I config) s →
    ∃ ids : List PyStr, ids.Nodup ∧ s.control_log = ids.flatMap s.writes
  blocks : ∀ id, JobBlocks config id False (s.writes id)
  uncut : PausesAccepted config → ∀ id, Lts.Reachable (runs I config (loginsWritten config id)) s →
    s.loggingIn id = false → JobBlocks config id True (s.writes id)

theorem writes_of_no_job {s : State} (h : WellFormed s) {id : PyStr} (hid : s.view id = none) :
    s.writes id = [] := by
  refine List.filter_eq_nil_iff.mpr fun w hw hwid => ?_
  obtain ⟨j, hj⟩ := Option.isSome_iff_exists.mp (h.writes w hw)
  rw [of_decide_eq_true hwid] at hj
  obtain ⟨x, hx, -⟩ := h.view_of_job hj
  rw [hid] at hx
  cases hx

theorem in_order {s : State} (h : Lts.Reachable (oneAtATime I config) s) :
    ∃ ids, InOrder s ids := by
  refine h.invariant (P := fun s => ∃ ids, InOrder s ids) ?_ ?_
  · refine ⟨[], List.nodup_nil, rfl, by simp, ?_⟩
    intro id hin
    simp [State.inSession, State.view, oneAtATime, Lts.System.restrict, daemon] at hin
  · rintro s l s' hr ⟨ids, hids⟩ hrstep
    obtain ⟨hone, hstep⟩ := Lts.restrict_step.mp hrstep
    obtain rfl | ⟨_, _, job, _, hfresh, rfl⟩ | ⟨id, a, x, x', written, rfl, hx, hadv, rfl⟩ :=
      step_cases hstep
    · exact ⟨ids, hids⟩
    · exact ⟨ids, hids.start hfresh⟩
    · have hr := hr.of_restrict
      exact hids.put (well_formed hr) hx (daemon_writing hr hx) hone hadv

/-- The control file is made of blocks, and in every run in which the sessions
    follow each other no write falls into a block of another job. -/
theorem control_channel_of_blocks {s : State} (h : Lts.Reachable (daemon I config) s) :
    ChannelOfBlocks I config s := by
  have hwf := well_formed h
  refine ⟨?_, ?_, ?_⟩
  · intro hone
    obtain ⟨ids, hids⟩ := in_order hone
    exact ⟨ids, hids.nodup, hids.log⟩
  · intro id
    cases hx : s.view id with
    | none => exact ⟨[], .nil id False, .inl (writes_of_no_job hwf hx)⟩
    | some x => exact (daemon_writing h hx).wrote.blocks hx False.elim
  · intro hpauses id hwhole hlogin
    cases hx : s.view id with
    | none => exact ⟨[], .nil id True, .inl (writes_of_no_job hwf hx)⟩
    | some x =>
      have hwriting : Writing config id True x (s.writes id) :=
        job_writing (fun _ _ _ hD => hD) (fun _ => hpauses) hwhole hx
      exact hwriting.wrote.blocks hx fun _ => hlogin

/-- A job up to the first write of its login. -/
def loginStarted (id : String) : List Label :=
  let down := .ok { returncode := 1, stdout := [] }
  [.create_job (sampleJobPayload "container_namespace" 5) (sampleJobEnv id), .job id.py .select,
    .job id.py .enter, .job id.py (.session .set_state),
    .job id.py (.session (.probe down down false)),
    .job id.py (.session (.read_credentials (.ok []) (.ok true))),
    .job id.py (.session (.write false))]

/-- A job whose login is written to its end, and whose operation fails. -/
def sessionOf (id : String) : List Label :=
  let up := .ok { returncode := 0, stdout := "cnem_vnic UP".py }
  let routes := .ok { returncode := 0, stdout := "172.26.0.0/15 dev cnem_vnic".py }
  let operated := .raised (.runnerFailure "ssh_auth_failed".py [])
  loginStarted id ++
    [.job id.py (.session (.write false)), .job id.py (.session (.write false)),
      .job id.py (.session (.write false)), .job id.py (.session (.probe up routes false)),
      .job id.py (.session .set_state), .job id.py (.session .set_state),
      .job id.py (.session .set_state), .job id.py (.session (.operate operated)),
      .job id.py (.session .cleanup), .job id.py .die, .job id.py .join_over,
      .job id.py .conclude]

/-- Two sessions follow each other, with four lines each. -/
theorem control_channel_of_blocks_sample :
    let s := (oneAtATime sampleInterp sampleDaemonConfig).play (sessionOf "j1" ++ sessionOf "j2")
    ((s.writes "j1".py).length = 4 ∧ (s.writes "j2".py).length = 4) ∧
      ∃ ids : List PyStr, ids.Nodup ∧ s.control_log = ids.flatMap s.writes := by
  intro s
  have hrun : Lts.Reachable (oneAtATime sampleInterp sampleDaemonConfig) s := Lts.reachable_play _
  exact ⟨by decide +kernel, (control_channel_of_blocks hrun.of_restrict).in_order hrun⟩

theorem job_id_of_mem_writes {s : State} {id : PyStr} {w : ControlWrite} (h : w ∈ s.writes id) :
    w.job_id = id :=
  of_decide_eq_true (List.mem_filter.mp h).2

/-- In an order of the jobs, the writes of one job are together. -/
theorem infix_of_order {s : State} {ids : List PyStr} (hlog : s.control_log = ids.flatMap s.writes)
    (id : PyStr) : s.writes id <:+: s.control_log := by
  by_cases hid : id ∈ ids
  · obtain ⟨before, after, rfl⟩ := List.append_of_mem hid
    refine ⟨before.flatMap s.writes, after.flatMap s.writes, ?_⟩
    rw [hlog]
    simp
  · have hnone : s.writes id = [] := by
      refine List.eq_nil_iff_forall_not_mem.mpr fun w hw => hid ?_
      have hmem := (List.mem_filter.mp hw).1
      rw [hlog] at hmem
      obtain ⟨id', hid', hw'⟩ := List.mem_flatMap.mp hmem
      rwa [← job_id_of_mem_writes hw, job_id_of_mem_writes hw']
    rw [hnone]
    exact List.nil_infix

/-- Two jobs that log in at the same time: the first line of the second login
    lies between the first two of the first. -/
theorem control_channel_mixed :
    ∃ s, Lts.Reachable (daemon sampleInterp sampleDaemonConfig) s ∧
      ¬ ∃ ids : List PyStr, ids.Nodup ∧ s.control_log = ids.flatMap s.writes := by
  refine ⟨(daemon sampleInterp sampleDaemonConfig).play (loginStarted "j1" ++ loginStarted "j2" ++
    [.job "j1".py (.session (.write false))]), Lts.reachable_play _, ?_⟩
  rintro ⟨ids, -, hlog⟩
  exact absurd (infix_of_order hlog "j1".py) (by decide +kernel)

end BoVpnAgent.Daemon

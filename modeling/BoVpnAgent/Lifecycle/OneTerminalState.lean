import BoVpnAgent.Lib.Fairness
import BoVpnAgent.Lifecycle.NeverBackwards

/-! # Every task takes exactly one terminal state

    A task takes at most one terminal state, since that is the last one of
    its history.  It takes one at all because the thread of `_execute_task`
    waits for no one longer than the timeout of its task: when the scheduler
    does not pass it over for ever, it comes to its end, whatever the runner
    and the daemon do.
-/

namespace BoVpnAgent.Deployment

variable {I : Interp} {config : WorkerConfig} {daemon_config : RunnerDaemonConfig} {s s' : State}

/-! ### The worker by itself -/

theorem star_call_set_state {id : PyStr} {now : Time} {report : Option (PyStr × PyStr)}
    (h : call_set_state I config s id now report = some s') :
    Lts.Star (Worker.worker I config) s.worker s'.worker := by
  cases report with
  | none =>
    obtain rfl := Option.some.inj h
    exact .refl _
  | some r => exact .tail (.refl _) (move_step h).1

theorem star_go_on {id : PyStr} {next : Position ⊕ Outcome}
    (h : go_on I config s id next = some s') :
    Lts.Star (Worker.worker I config) s.worker s'.worker := by
  cases next with
  | inl position =>
    obtain rfl := Option.some.inj h
    exact .refl _
  | inr outcome => exact .tail (.refl _) (move_step h).1

/-- A step of the deployment is, for the worker, a few steps of its own. -/
theorem worker_star {l : Label} (hstep : (system I config daemon_config).step s l s') :
    Lts.Star (Worker.worker I config) s.worker s'.worker := by
  cases l with
  | worker l =>
    obtain ⟨-, t, ht, rfl⟩ := worker_step_cases hstep
    exact .tail (.refl _) (move_step ht).1
  | daemon l =>
    obtain ⟨d, -, rfl⟩ := Option.map_eq_some_iff.mp hstep
    exact .refl _
  | runner id now e =>
    cases e with
    | post payload env =>
      obtain ⟨-, d, -, rfl⟩ := post_cases hstep
      exact .refl _
    | _ =>
      obtain ⟨position, t, s₁, -, -, hreport, hgo⟩ := take_turn_cases hstep
      exact (star_call_set_state hreport).trans (star_go_on hgo)

/-! ### The executor's thread in a fair run -/

/-- The steps of the thread of `_execute_task` of the task `id`. -/
def executes (id : PyStr) : Label → Prop
  | .worker (.thread id' a) => id' = id ∧ a.byRunner = false
  | _ => False

/-- The most steps that this thread still has to take. -/
def State.left (s : State) (id : PyStr) : Nat := (s.worker.view id).elim 0 fun x => x.executor.left

theorem left_of_view {id : PyStr} {x : Worker.Execution} (hx : s.worker.view id = some x) :
    s.left id = x.executor.left := by
  rw [State.left, hx]
  rfl

/-- The thread takes a step of its own. -/
theorem executes_step {id : PyStr} {l : Label} (hl : executes id l)
    (hstep : (system I config daemon_config).step s l s') : s'.left id < s.left id := by
  cases l with
  | daemon | runner => cases hl
  | worker l =>
    cases l with
    | create_task => cases hl
    | thread id' a =>
      obtain ⟨rfl, ha⟩ := hl
      obtain ⟨-, t, ht, rfl⟩ := worker_step_cases hstep
      obtain ⟨x, x', written, hx, hadv, rfl⟩ := move_thread ht
      rw [left_of_view hx, left_of_view (Worker.view_put_self hx)]
      exact Worker.left_step hadv ha

theorem executes_enabled {id : PyStr} {x : Worker.Execution} (hx : s.worker.view id = some x)
    (hpc : x.executor ≠ .ended) :
    ∃ l s', executes id l ∧ (system I config daemon_config).step s l s' := by
  obtain ⟨a, ⟨x', written⟩, ha, hadv⟩ := Worker.executor_enabled I config hpc
  have houtside : inside (.thread id a) = false := by
    cases a with
    | report | leave => cases ha
    | _ => rfl
  have hnext : Worker.next I config s.worker (.thread id a) = some (s.worker.put id x' written) := by
    simp [Worker.next, hx, hadv]
  refine ⟨.worker (.thread id a), ?_, ⟨rfl, ha⟩, ?_⟩
  · exact { worker := s.worker.put id x' written, daemon := s.daemon
            positions := begin_run config s.positions s.worker (.thread id a)
            taken := record s.taken s.worker (s.worker.put id x' written) (.thread id a) }
  · simp [Lts.System.step, system, next, houtside, move, hnext]

/-- A state of a run in which the task `id` is there. -/
def Running (I : Interp) (config : WorkerConfig) (daemon_config : RunnerDaemonConfig) (id : PyStr)
    (s : State) : Prop :=
  Lts.Reachable (system I config daemon_config) s ∧ ∃ x, s.worker.view id = some x

/-- No step takes the task away, or gives its executor more to do. -/
theorem Running.step {id : PyStr} {l : Label} (h : Running I config daemon_config id s)
    (hstep : (system I config daemon_config).step s l s') :
    Running I config daemon_config id s' ∧ s'.left id ≤ s.left id := by
  obtain ⟨hr, x, hx⟩ := h
  obtain ⟨x', hx', hle⟩ := Worker.left_star (invariant hr).worker (worker_star hstep) hx
  refine ⟨⟨hr.step hstep, x', hx'⟩, ?_⟩
  rw [left_of_view hx, left_of_view hx']
  exact hle

/-- In a fair run the thread comes to its end. -/
theorem Running.executor_ends {run : Lts.Run (system I config daemon_config)} {id : PyStr}
    (h : Running I config daemon_config id (run.states 0)) (hfair : run.Fair (executes id)) :
    ∃ n, ∀ m ≥ n, Lts.Reachable (system I config daemon_config) (run.states m) ∧
      ∃ x, (run.states m).worker.view id = some x ∧ x.executor = .ended := by
  have henabled : ∀ s, Running I config daemon_config id s → s.left id ≠ 0 →
      ∃ l s', executes id l ∧ (system I config daemon_config).step s l s' := by
    rintro s ⟨-, x, hx⟩ hleft
    refine executes_enabled hx fun hended => hleft ?_
    exact (left_of_view hx).trans (Worker.Executor.left_eq_zero.mpr hended)
  have halways : ∀ n, Running I config daemon_config id (run.states n) :=
    Lts.Run.always (fun _ _ _ hs hstep => (hs.step hstep).1) h
  obtain ⟨n, hn⟩ := hfair.comes_to_rest halways (fun _ _ _ hs hstep => (hs.step hstep).2)
    (fun _ _ _ _ hl hstep => executes_step hl hstep) henabled
  refine ⟨n, fun m hm => ?_⟩
  obtain ⟨hr, x, hx⟩ := halways m
  have hleft : x.executor.left = 0 := (left_of_view hx).symm.trans (hn m hm)
  exact ⟨hr, x, hx, Worker.Executor.left_eq_zero.mp hleft⟩

/-! ### The lifecycle -/

/-- The terminal states that the task `id` has taken. -/
def State.terminals (s : State) (id : PyStr) : List TaskState :=
  (s.states id).filter fun st => st.terminal

theorem terminals_of_ended (hr : Lts.Reachable (system I config daemon_config) s) {id : PyStr}
    {x : Worker.Execution} (hx : s.worker.view id = some x) (hpc : x.executor = .ended) :
    (s.terminals id).length = 1 := by
  have horder := (invariant hr).tasks id x hx
  have hterm : x.task.state.terminal = true := by
    rw [horder.done, hpc]
    rfl
  exact horder.history.terminals.trans (if_pos hterm)

/-- The states of a task run in the order of the lifecycle, and exactly one of
    them is terminal once its executor has ended; in every fair run that goes
    on from here, it does end. -/
theorem lifecycle_never_backwards (hr : Lts.Reachable (system I config daemon_config) s)
    {id : PyStr} {x : Worker.Execution} (hx : s.worker.view id = some x) :
    (s.states id).head? = some .created ∧ (s.states id).getLast? = some x.task.state ∧
      .queued ∉ s.states id ∧
      (s.states id).Pairwise (fun st st' => st.rank ≤ st'.rank) ∧
      (s.terminals id).length ≤ 1 ∧
      (x.executor = .ended → (s.terminals id).length = 1) ∧
      ∀ run : Lts.Run (system I config daemon_config), run.states 0 = s →
        run.Fair (executes id) → ∃ n, ∀ m ≥ n, ((run.states m).terminals id).length = 1 := by
  have hhistory := ((invariant hr).tasks id x hx).history
  refine ⟨hhistory.head, hhistory.last, hhistory.listed, hhistory.sorted, ?_,
    terminals_of_ended hr hx, ?_⟩
  · have hcount := hhistory.terminals
    split at hcount
    · exact hcount.le
    · exact hcount.le.trans (Nat.zero_le 1)
  -- a fair run ends the thread of `_execute_task`, and nothing comes after its last state
  · rintro run rfl hfair
    have hrunning : Running I config daemon_config id (run.states 0) := ⟨hr, x, hx⟩
    obtain ⟨n, hn⟩ := hrunning.executor_ends hfair
    refine ⟨n, fun m hm => ?_⟩
    obtain ⟨hrm, y, hy, hended⟩ := hn m hm
    exact terminals_of_ended hrm hy hended

/-! ### A task whose daemon is too slow -/

def sampleWorkerConfig : WorkerConfig :=
  { sampleConfig with runner_url := some "http://127.0.0.1:8090".py }

def sampleAnswer : (q : RunnerQuery) → q.Answer
  | .set_state _ _ | .sleep => ()
  | .tcp_connect _ _ _ => true
  | .create_text_artifact _ _ => .ok .null
  | .existing_container => .error (.builtin .typeError [])

/-- The job reports two phases, of which the client sees the second; after
    the timeout of the worker the client goes on polling. -/
def slowDaemon : List Label :=
  [.worker (.create_task (("runner_mode".py, .str "runner_daemon".py) :: samplePayload "r1")
      (sampleEnv "t1")),
    .worker (.thread "t1".py .fetch), .worker (.thread "t1".py .launch),
    .worker (.thread "t1".py .enter),
    .runner "t1".py sampleNow (.post (sampleJobPayload "dry_run" 5) (sampleJobEnv "j1")),
    .runner "t1".py sampleNow (.created fun _ => 0), .runner "t1".py sampleNow .report,
    .runner "t1".py sampleNow .turn, .daemon (.daemon (.job "j1".py .select)),
    .daemon (.daemon (.job "j1".py .enter)), .daemon (.program "j1".py sampleAnswer),
    .daemon (.program "j1".py sampleAnswer), .daemon (.program "j1".py sampleAnswer),
    .runner "t1".py sampleNow .poll, .runner "t1".py sampleNow .report,
    .runner "t1".py sampleNow .turn, .worker (.thread "t1".py .join_over),
    .worker (.thread "t1".py .check_alive), .worker (.thread "t1".py (.settle sampleNow)),
    .runner "t1".py sampleNow .poll, .runner "t1".py sampleNow .report,
    .worker (.thread "t1".py (.close sampleNow false))]

example :
    ((system sampleInterp sampleWorkerConfig sampleDaemonConfig).play slowDaemon).states "t1".py =
      [.created, .vpn_connected, .cleanup, .timeout] := by decide +kernel

theorem lifecycle_never_backwards_sample :
    let s := (system sampleInterp sampleWorkerConfig sampleDaemonConfig).play slowDaemon
    ∃ x, s.worker.view "t1".py = some x ∧ (s.states "t1".py).head? = some .created ∧
      (s.states "t1".py).getLast? = some x.task.state ∧ .queued ∉ s.states "t1".py ∧
      (s.states "t1".py).Pairwise (fun st st' => st.rank ≤ st'.rank) ∧
      (s.terminals "t1".py).length ≤ 1 ∧
      (x.executor = .ended → (s.terminals "t1".py).length = 1) ∧
      ∀ run : Lts.Run (system sampleInterp sampleWorkerConfig sampleDaemonConfig),
        run.states 0 = s → run.Fair (executes "t1".py) →
        ∃ n, ∀ m ≥ n, ((run.states m).terminals "t1".py).length = 1 := by
  have hview : (((system sampleInterp sampleWorkerConfig sampleDaemonConfig).play
      slowDaemon).worker.view "t1".py).isSome := by decide +kernel
  obtain ⟨x, hx⟩ := Option.isSome_iff_exists.mp hview
  exact ⟨x, hx, lifecycle_never_backwards (Lts.reachable_play _) hx⟩

end BoVpnAgent.Deployment

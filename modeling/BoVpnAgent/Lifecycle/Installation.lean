import BoVpnAgent.Bot.Attempts
import BoVpnAgent.Bot.Stops
import BoVpnAgent.Lib.Records
import BoVpnAgent.Lifecycle.OneTerminalState

/-! # The bot in front of the worker

    The bot, the worker and its daemon together.  The thread of a playback
    goes through its check with requests to the worker: behind the message in
    front of the check it waits for `_ensure_vehicle_ready`, which comes out
    as ready or raises.  Everything else of the three goes on meanwhile, and
    other clients of the worker do too.

    This file shows:
    - a check starts at most three tasks, of its vehicle, and the next only
      after the one before has ended with `vehicle_unreachable`
    - no two playbacks share a task
    - a player is started only behind a check that came out as ready
-/

namespace BoVpnAgent

/-! ### The stages around a check -/

namespace Playback

/-- The thread is behind its check, and has not launched its player. -/
def Stage.Checked (stage : Stage) : Prop :=
  stage = .ready ∨ stage = .announcing ∨ stage = .launching

theorem Stage.not_checked_initial : ¬Stage.Checked .unborn ∧ ¬Stage.Checked .downloading := by
  simp [Stage.Checked]

section steps

variable {s s' : State} {l : Label} {r : Ref} {job job' : Job}

theorem checked_returned {stage stage' : Stage} (h : stage.returned = some stage')
    (hchecked : stage'.Checked) : stage.Checked ∨ stage = .checking := by
  cases stage <;> cases h <;> simp_all [Stage.Checked]

theorem not_checked_raised {stage stage' : Stage} (h : stage.raised = some stage') :
    ¬stage'.Checked := by
  cases stage <;> cases h <;> simp [Stage.Checked]

theorem checked_looked {cancelled : Bool} {stage stage' : Stage}
    (h : stage.looked cancelled = some stage') (hchecked : stage'.Checked) : stage.Checked := by
  cases cancelled <;> cases stage <;> cases h <;> simp_all [Stage.Checked]

/-- A step of a thread replaces its job; behind the check it comes from the
    check, or was there before. -/
theorem checked_thread {action : Action} (h : thread_next s r job action = some s') :
    ∃ job', s'.heap = s.heap.write r job' ∧
      (job'.stage.Checked → job.stage.Checked ∨ job.stage = .checking ∧ action = .returns) := by
  cases thread_next_step h with
  | returns hstage =>
    refine ⟨_, rfl, fun hchecked => ?_⟩
    exact (checked_returned hstage hchecked).imp_right fun h => ⟨h, rfl⟩
  | raises hstage => exact ⟨_, rfl, fun hchecked => absurd hchecked (not_checked_raised hstage)⟩
  | look hstage => exact ⟨_, rfl, fun hchecked => .inl (checked_looked hstage hchecked)⟩
  | clear hstage =>
    refine ⟨_, rfl, fun hchecked => ?_⟩
    rename_i failed
    cases failed <;> simp [Stage.Checked] at hchecked
  | _ => exact ⟨_, rfl, fun hchecked => by simp [Stage.Checked] at hchecked⟩

/-- The main loop moves no thread behind its check. -/
theorem checked_main (h : main_next s l = some s') (hr' : s'.heap.read r = some job')
    (hchecked : job'.stage.Checked) :
    ∃ job, s.heap.read r = some job ∧ job.stage.Checked := by
  cases main_next_step h with
  | register =>
    obtain hold | ⟨-, rfl⟩ := Heap.read_alloc_cases hr'
    · exact ⟨job', hold, hchecked⟩
    · exact absurd hchecked Stage.not_checked_initial.1
  | start hmain hr =>
    rename_i ok r₀ job₀
    obtain ⟨rfl, rfl⟩ | ⟨-, hold⟩ := Heap.read_write_cases hr'
    · cases ok with
      | true => exact absurd hchecked Stage.not_checked_initial.2
      | false => exact ⟨job₀, hr, hchecked⟩
    · exact ⟨job', hold, hchecked⟩
  | stop hmain hreg hr =>
    obtain ⟨rfl, rfl⟩ | ⟨-, hold⟩ := Heap.read_write_cases hr'
    · exact ⟨_, hr, hchecked⟩
    · exact ⟨job', hold, hchecked⟩
  | _ => exact ⟨job', hr', hchecked⟩

/-- A thread gets behind its check only when the calls of the check return. -/
theorem checked_step (h : next s l = some s') (hr' : s'.heap.read r = some job')
    (hchecked : job'.stage.Checked) :
    ∃ job, s.heap.read r = some job ∧
      (job.stage.Checked ∨ job.stage = .checking ∧ l = .thread r .returns) := by
  obtain ⟨r₀, action, job₀, rfl, hr, h⟩ | ⟨p, process, ok, -, rfl⟩ | h := next_cases h
  · obtain ⟨job₁, heq, hstage⟩ := checked_thread h
    rw [heq] at hr'
    obtain ⟨rfl, rfl⟩ | ⟨-, hold⟩ := Heap.read_write_cases hr'
    · refine ⟨job₀, hr, (hstage hchecked).imp_right ?_⟩
      rintro ⟨hchecking, rfl⟩
      exact ⟨hchecking, rfl⟩
    · exact ⟨job', hold, .inl hchecked⟩
  · exact ⟨job', hr', .inl hchecked⟩
  · obtain ⟨job, hr, hold⟩ := checked_main h hr' hchecked
    exact ⟨job, hr, .inl hold⟩

/-- A process of the step is an old one, or was started by it. -/
theorem player_thread {action : Action} (h : thread_next s r job action = some s') {p : Ref}
    {process' : Process} (hp : s'.processes.read p = some process')
    (hplayer : process'.kind = .player) :
    (∃ process, s.processes.read p = some process ∧ process.kind = .player ∧
      process.job = process'.job) ∨ process'.job = r ∧ job.stage = .launching := by
  cases thread_next_step h with
  | terminate hstage hq =>
    obtain ⟨rfl, rfl⟩ | ⟨-, hp⟩ := Heap.read_write_cases hp
    · exact .inl ⟨_, hq, hplayer, rfl⟩
    · exact .inl ⟨process', hp, hplayer, rfl⟩
  | timeout hstage hq =>
    obtain ⟨rfl, rfl⟩ | ⟨-, hp⟩ := Heap.read_write_cases hp
    · exact .inl ⟨_, hq, hplayer, rfl⟩
    · exact .inl ⟨process', hp, hplayer, rfl⟩
  | spawn hstage =>
    obtain hp | ⟨-, rfl⟩ := Heap.read_alloc_cases hp
    · exact .inl ⟨process', hp, hplayer, rfl⟩
    · cases hplayer
  | launch hstage hcancelled =>
    obtain hp | ⟨-, rfl⟩ := Heap.read_alloc_cases hp
    · exact .inl ⟨process', hp, hplayer, rfl⟩
    · exact .inr ⟨rfl, hstage⟩
  | _ => exact .inl ⟨process', hp, hplayer, rfl⟩

/-- A new player is launched by a thread that is behind its check. -/
theorem player_step (h : next s l = some s') {p : Ref} {process' : Process}
    (hp : s'.processes.read p = some process') (hplayer : process'.kind = .player) :
    (∃ process, s.processes.read p = some process ∧ process.kind = .player ∧
      process.job = process'.job) ∨
      ∃ job, s.heap.read process'.job = some job ∧ job.stage.Checked := by
  obtain ⟨r₀, action, job₀, -, hr, h⟩ | ⟨q, process, ok, hq, rfl⟩ | h := next_cases h
  · obtain hold | ⟨rfl, hlaunching⟩ := player_thread h hp hplayer
    · exact .inl hold
    · exact .inr ⟨job₀, hr, .inr (.inr hlaunching)⟩
  · obtain ⟨rfl, rfl⟩ | ⟨-, hp⟩ := Heap.read_write_cases hp
    · exact .inl ⟨process, hq, hplayer, rfl⟩
    · exact .inl ⟨process', hp, hplayer, rfl⟩
  · obtain heq | ⟨q, process, -, -, hq, heq⟩ := main_next_processes h
    · rw [heq] at hp
      exact .inl ⟨process', hp, hplayer, rfl⟩
    · rw [heq] at hp
      obtain ⟨rfl, rfl⟩ | ⟨-, hp⟩ := Heap.read_write_cases hp
      · exact .inl ⟨process, hq, hplayer, rfl⟩
      · exact .inl ⟨process', hp, hplayer, rfl⟩

end steps

end Playback

namespace Installation

open Readiness

/-! ### The system -/

structure State where
  deployment : Deployment.State
  playback : Playback.State
  /-- the checks that have begun -/
  checks : Dict Ref Check

/-- The check of the job. -/
def State.check (s : State) (r : Ref) : Check := (s.checks.get? r).getD {}

inductive Label where
  /-- the worker or the daemon -/
  | deployment (l : Deployment.Label)
  | playback (l : Playback.Label)
  /-- a call of the check of a job returns -/
  | check (job : Ref) (e : Event)

/-- Whether the calls at the check have come to the end of the action. -/
def admits (c : Check) : Playback.Action → Bool
  | .returns =>
    match c.position with
    | .ready => true
    | _ => false
  | .raises =>
    match c.position with
    -- the message in front of the check
    | .begun => c.tasks.isEmpty
    | .failed _ => true
    | _ => false
  | _ => true

/-- At its check, a thread takes the way that the check has come out. -/
def State.allows (s : State) : Playback.Label → Bool
  | .thread r action =>
    match s.playback.heap.read r with
    | some job => job.stage ≠ .checking || admits (s.check r) action
    | none => true
  | _ => true

section system

variable (I : Interp) (config : WorkerConfig) (daemon_config : RunnerDaemonConfig)
  (subject : Ref → Subject)

/-- The worker handles a POST request. -/
def send (d : Deployment.State) : Option (Json.Fields × CreateEnv) → Option Deployment.State
  | some (payload, env) =>
    Deployment.next I config daemon_config d (.worker (.create_task payload env))
  | none => some d

/-- A call of the check of the job `r` returns; the thread of the job is at its
    check. -/
def check_next (s : State) (r : Ref) (e : Event) : Option State := do
  let job ← s.playback.heap.read r
  if job.stage ≠ .checking then none
  else do
    let c ← (s.check r).next I config s.deployment.worker.service (subject r) e
    let deployment ← send I config daemon_config s.deployment
      ((s.check r).creates (subject r) e)
    some { s with deployment := deployment, checks := s.checks.set r c }

def next (s : State) : Label → Option State
  | .deployment l => (Deployment.next I config daemon_config s.deployment l).map fun d =>
      { s with deployment := d }
  | .playback l =>
    if s.allows l then (Playback.next s.playback l).map fun p => { s with playback := p } else none
  | .check r e => check_next I config daemon_config subject s r e

/-- The installation, with what the thread of each job checks. -/
def system : Lts.System State Label where
  init :=
    { deployment := (Deployment.system I config daemon_config).init
      playback := Playback.initial
      checks := Dict.empty }
  next := next I config daemon_config subject

end system

variable {I : Interp} {config : WorkerConfig} {daemon_config : RunnerDaemonConfig}
  {subject : Ref → Subject} {s s' : State}

/-- The request ids of the bot are new to the worker. -/
def New (s : State) : Label → Prop
  | .check r (.post _) => ∀ request_id, (s.check r).position = .posting request_id →
      s.deployment.worker.service.request? request_id = none
  | _ => True

/-- What holds of the checks in every state of a run. -/
structure Invariant (subject : Ref → Subject) (s : State) : Prop where
  checks : ∀ r, (s.check r).Inv s.deployment.worker (subject r)
  apart : ∀ r r', r ≠ r' → ∀ id ∈ (s.check r).tasks, id ∉ (s.check r').tasks
  passed : ∀ r job, s.playback.heap.read r = some job → job.stage.Checked →
    (s.check r).position = .ready
  players : ∀ p process, s.playback.processes.read p = some process → process.kind = .player →
    (s.check process.job).position = .ready

theorem check_set_self {r : Ref} {c : Check} :
    ({ s with checks := s.checks.set r c } : State).check r = c := by
  simp [State.check]

theorem check_set_ne {r r' : Ref} {c : Check} (hne : r ≠ r') :
    ({ s with checks := s.checks.set r c } : State).check r' = s.check r' := by
  simp [State.check, hne]

theorem Invariant.init :
    Invariant subject (system I config daemon_config subject).init where
  checks := fun r => .new
  apart := fun r r' _ id hid => by cases hid
  passed := fun r job hr => by cases hr
  players := fun p process hp => by cases hp

/-- The worker goes on by itself. -/
theorem Invariant.deployment_step (h : Invariant subject s) {d : Deployment.State}
    (hr : Lts.Reachable (Worker.worker I config) s.deployment.worker)
    (hlater : Lts.Star (Worker.worker I config) s.deployment.worker d.worker) :
    Invariant subject { s with deployment := d } where
  checks := fun r => (h.checks r).star hr hlater
  apart := h.apart
  passed := h.passed
  players := h.players

/-- A thread that gets behind its check finds it ready. -/
theorem Invariant.playback_step (h : Invariant subject s) {l : Playback.Label} {p : Playback.State}
    (hallows : s.allows l = true) (hstep : Playback.next s.playback l = some p) :
    Invariant subject { s with playback := p } where
  checks := h.checks
  apart := h.apart
  passed := by
    intro r job' hr' hchecked
    obtain ⟨job, hr, hbefore | ⟨hchecking, rfl⟩⟩ := Playback.checked_step hstep hr' hchecked
    · exact h.passed r job hr hbefore
    · simp only [State.allows, hr, hchecking, ne_eq, not_true_eq_false, decide_false,
        Bool.false_or, admits] at hallows
      split at hallows
      · assumption
      · cases hallows
  players := by
    intro q process' hq hplayer
    obtain ⟨process, hold, hkind, hjob⟩ | ⟨job, hr, hchecked⟩ :=
      Playback.player_step hstep hq hplayer
    · exact hjob ▸ h.players q process hold hkind
    · exact h.passed _ job hr hchecked

/-- The check of the job `r` goes on. -/
theorem Invariant.set_check (h : Invariant subject s) {r : Ref} {c : Check}
    (hc : c.Inv s.deployment.worker (subject r))
    (htasks : ∀ id ∈ c.tasks, id ∈ (s.check r).tasks ∨ ∀ r', id ∉ (s.check r').tasks)
    (hready : (s.check r).position ≠ .ready) :
    Invariant subject { s with checks := s.checks.set r c } where
  checks := by
    intro k
    by_cases heq : r = k
    · subst heq
      rw [check_set_self]
      exact hc
    · rw [check_set_ne heq]
      exact h.checks k
  apart := by
    intro k k' hne id hid hid'
    by_cases heq : r = k
    · subst heq
      rw [check_set_self] at hid
      rw [check_set_ne hne] at hid'
      rcases htasks id hid with hold | hnew
      · exact h.apart r k' hne id hold hid'
      · exact hnew k' hid'
    · rw [check_set_ne heq] at hid
      by_cases heq' : r = k'
      · subst heq'
        rw [check_set_self] at hid'
        rcases htasks id hid' with hold | hnew
        · exact h.apart k r hne id hid hold
        · exact hnew k hid
      · rw [check_set_ne heq'] at hid'
        exact h.apart k k' hne id hid hid'
  passed := by
    intro k job hk hchecked
    have hpassed := h.passed k job hk hchecked
    by_cases heq : r = k
    · exact absurd (heq ▸ hpassed) hready
    · rw [check_set_ne heq]
      exact hpassed
  players := by
    intro p process hp hplayer
    have hpassed := h.players p process hp hplayer
    by_cases heq : r = process.job
    · exact absurd (heq ▸ hpassed) hready
    · rw [check_set_ne heq]
      exact hpassed

/-- A call of a check is an answer of the worker to its POST request, or leaves
    the deployment as it is. -/
theorem check_next_cases {r : Ref} {e : Event}
    (h : check_next I config daemon_config subject s r e = some s') :
    (∃ request_id env d, (s.check r).position = .posting request_id ∧ e = .post env ∧
      (Deployment.system I config daemon_config).step s.deployment
        (.worker (.create_task (check_payload (subject r) request_id) env)) d ∧
      s' = { s with
        deployment := d
        checks := s.checks.set r ((s.check r).created I request_id
          (s.deployment.worker.service.create_task I config
            (check_payload (subject r) request_id) env).2) }) ∨
    ∃ c, (s.check r).next I config s.deployment.worker.service (subject r) e = some c ∧
      (s.check r).creates (subject r) e = none ∧ (s.check r).position ≠ .ready ∧
      s' = { s with checks := s.checks.set r c } := by
  obtain ⟨job, -, hjob⟩ := Option.bind_eq_some_iff.mp h
  by_cases hstage : job.stage ≠ .checking
  · rw [if_pos hstage] at hjob
    cases hjob
  rw [if_neg hstage] at hjob
  obtain ⟨c, hc, hsend⟩ := Option.bind_eq_some_iff.mp hjob
  obtain ⟨d, hd, hset⟩ := Option.bind_eq_some_iff.mp hsend
  obtain rfl := Option.some.inj hset
  cases hcreates : (s.check r).creates (subject r) e with
  | none =>
    rw [hcreates] at hd
    obtain rfl := Option.some.inj hd
    refine .inr ⟨c, hc, rfl, fun hready => ?_, rfl⟩
    unfold Check.next at hc
    rw [hready] at hc
    cases hc
  | some sent =>
    rw [hcreates] at hd
    unfold Check.creates at hcreates
    split at hcreates
    · next request_id env hposition =>
      obtain rfl := Option.some.inj hcreates
      unfold Check.next at hc
      rw [hposition] at hc
      obtain rfl := Option.some.inj hc
      exact .inl ⟨request_id, env, d, hposition, rfl, hd, rfl⟩
    · cases hcreates

theorem Invariant.check_step (h : Invariant subject s)
    (hd : Deployment.Invariant I config daemon_config s.deployment) {r : Ref} {e : Event}
    (hnew : New s (.check r e))
    (hstep : check_next I config daemon_config subject s r e = some s') :
    Invariant subject s' := by
  have hwf := Worker.well_formed hd.worker
  obtain ⟨request_id, env, d, hposition, rfl, hcreate, rfl⟩ | ⟨c, hc, halone, hready, rfl⟩ :=
    check_next_cases hstep
  · -- the worker handles the request of the check
    have hworker : (Worker.worker I config).step s.deployment.worker
        (.create_task (check_payload (subject r) request_id) env) d.worker := by
      obtain ⟨-, t, ht, rfl⟩ := Deployment.worker_step_cases hcreate
      exact (Deployment.move_step ht).1
    have hfresh := hnew request_id hposition
    have hc := (h.checks r).post hd.worker hposition hfresh hworker
    refine (h.deployment_step hd.worker (.tail (.refl _) hworker)).set_check hc ?_ ?_
    · intro id hid
      obtain ⟨exc, heq⟩ | ⟨limiter, task, vpn, hview, -, -, heq⟩ :=
        created_cases (c := s.check r) hd.worker hfresh hworker
      · rw [heq] at hid
        exact .inl hid
      · rw [heq] at hid
        rcases List.mem_append.mp hid with hold | hsame
        · exact .inl hold
        · refine .inr fun r' hid' => ?_
          obtain rfl := List.mem_singleton.mp hsame
          obtain ⟨x, hx, -⟩ := (h.checks r').checks _ hid'
          rw [hview] at hx
          cases hx
    · intro hready
      have hready : (s.check r).position = .ready := hready
      rw [hposition] at hready
      cases hready
  · have hc' := (h.checks r).next hwf (fun id x hx => (hd.tasks id x hx).done) hc halone
    refine h.set_check hc' (fun id hid => .inl ?_) hready
    rw [← tasks_next hc halone]
    exact hid

/-- What holds of every state of a run with new request ids. -/
structure Installed (I : Interp) (config : WorkerConfig) (daemon_config : RunnerDaemonConfig)
    (subject : Ref → Subject) (s : State) : Prop where
  deployment : Deployment.Invariant I config daemon_config s.deployment
  checks : Invariant subject s

theorem Installed.step (h : Installed I config daemon_config subject s) {l : Label}
    (hstep : (system I config daemon_config subject).step s l s') (hnew : New s l) :
    Installed I config daemon_config subject s' := by
  cases l with
  | deployment l =>
    obtain ⟨d, hd, rfl⟩ := Option.map_eq_some_iff.mp hstep
    exact ⟨h.deployment.step hd,
      h.checks.deployment_step h.deployment.worker (Deployment.worker_star hd)⟩
  | playback l =>
    simp only [Lts.System.step, system, next] at hstep
    split at hstep
    · next hallows =>
      obtain ⟨p, hp, rfl⟩ := Option.map_eq_some_iff.mp hstep
      exact ⟨h.deployment, h.checks.playback_step hallows hp⟩
    · cases hstep
  | check r e =>
    refine ⟨?_, h.checks.check_step h.deployment hnew hstep⟩
    obtain ⟨_, _, d, -, -, hcreate, rfl⟩ | ⟨c, -, -, -, rfl⟩ := check_next_cases hstep
    · exact h.deployment.step hcreate
    · exact h.deployment

theorem installed_play {ls : List Label} (hnew : (system I config daemon_config subject).Along New
      (system I config daemon_config subject).init ls) :
    Installed I config daemon_config subject
      ((system I config daemon_config subject).play ls) :=
  Lts.along_rule (P := Installed I config daemon_config subject)
    (fun _ _ _ h hl hstep => h.step hstep hl) ⟨.init, .init⟩ hnew

end Installation

end BoVpnAgent

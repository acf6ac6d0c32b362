import BoVpnAgent.Bot.Stops

/-! # The shutdown

    `stop_all` runs in a signal handler of the main loop, which goes no
    further meanwhile.  It holds the lock only while it copies the jobs, and
    then cancels and interrupts one after the other, next to their threads.

    Here the locked launch of `_play` has the steps that another thread can
    come between when it does not take the lock: the check of `cancelled`,
    the `Popen` of the player, and the assignment of `job.process`.

    This file shows that a player is missed only if `stop_all` reads
    `job.process` between the check and the assignment.
-/

namespace BoVpnAgent.Playback

open Lts

/-! ### What a step keeps -/

/-- What every step keeps of a job. -/
structure Job.Kept (job job' : Job) : Prop where
  cancelled : job.cancelled = true → job'.cancelled = true
  launched : job.stage.Launched → job'.stage.Launched ∧ job'.process = job.process

section kept

variable {s s' : State} {l : Label} {r : Ref} {job job' : Job}

theorem Job.Kept.refl (job : Job) : job.Kept job := ⟨fun h => h, fun h => ⟨h, rfl⟩⟩

theorem Job.Kept.early (hcancelled : job'.cancelled = job.cancelled) (hstage : ¬job.stage.Launched) :
    job.Kept job' :=
  ⟨fun h => hcancelled.trans h, fun h => absurd h hstage⟩

theorem Job.Kept.advance {stage : Stage} (hstage : job.stage.Launched → stage.Launched) :
    job.Kept { job with stage := stage } :=
  ⟨fun h => h, fun h => ⟨hstage h, rfl⟩⟩

theorem thread_kept {action : Action} (h : thread_next s r job action = some s') :
    ∃ job', s'.heap = s.heap.write r job' ∧ job.Kept job' := by
  cases thread_next_step h with
  | returns hstage => exact ⟨_, rfl, .advance (follows_returned hstage).launched⟩
  | raises hstage => exact ⟨_, rfl, .advance (follows_raised hstage).launched⟩
  | look hstage => exact ⟨_, rfl, .advance (follows_looked hstage).launched⟩
  | eof => exact ⟨_, rfl, .advance fun _ => trivial⟩
  | wait_player => exact ⟨_, rfl, .advance fun _ => trivial⟩
  | skip_launch => exact ⟨_, rfl, .advance fun _ => trivial⟩
  | close => exact ⟨_, rfl, .advance fun _ => trivial⟩
  | spawn hstage | store hstage | terminate hstage | wait_preparation hstage | timeout hstage
  | clear hstage | launch hstage =>
    exact ⟨_, rfl, .early rfl (by rw [hstage]; exact fun h => h)⟩

/-- A replaced job is kept if the new one keeps it. -/
theorem read_write_kept {h : Heap Job} {r r' : Ref} {job job' job₀ : Job} (hr : h.read r = some job)
    (hkept : job.Kept job') (hr' : h.read r' = some job₀) :
    ∃ job₁, (h.write r job').read r' = some job₁ ∧ job₀.Kept job₁ := by
  by_cases heq : r' = r
  · rw [heq, hr] at hr'
    rw [heq, ← Option.some.inj hr']
    exact ⟨job', Heap.read_write_self hr job', hkept⟩
  · exact ⟨job₀, (Heap.read_write_ne _ _ (Ne.symm heq)).trans hr', .refl _⟩

/-- The job whose thread is about to be started has none. -/
def StartsUnborn (s : State) : Prop :=
  ∀ r job, s.main = .starting r → s.heap.read r = some job → job.stage = .unborn

theorem main_kept (hs : StartsUnborn s) (h : main_next s l = some s') {job₀ : Job}
    (hr : s.heap.read r = some job₀) : ∃ job₁, s'.heap.read r = some job₁ ∧ job₀.Kept job₁ := by
  cases main_next_step h with
  | take | inspect_process | inspect_none | kill => exact ⟨job₀, hr, .refl _⟩
  | register => exact ⟨job₀, Heap.read_alloc_of_some hr _, .refl _⟩
  | start hmain hstart =>
    have hunborn := hs _ _ hmain hstart
    exact read_write_kept hstart (.early rfl (by rw [hunborn]; exact fun h => h)) hr
  | stop hmain hreg hstop =>
    exact read_write_kept hstop ⟨fun _ => rfl, fun h => ⟨h, rfl⟩⟩ hr

theorem next_kept (hs : StartsUnborn s) (h : next s l = some s') {job₀ : Job}
    (hr : s.heap.read r = some job₀) : ∃ job₁, s'.heap.read r = some job₁ ∧ job₀.Kept job₁ := by
  obtain ⟨r', action, job, _, hr', h⟩ | ⟨_, _, _, _, rfl⟩ | h := next_cases h
  · obtain ⟨job', heap, hkept⟩ := thread_kept h
    rw [heap]
    exact read_write_kept hr' hkept hr
  · exact ⟨job₀, hr, .refl _⟩
  · exact main_kept hs h hr

/-- A step that is not one of its thread leaves a job that is about to launch
    where it is. -/
theorem next_launching (hs : StartsUnborn s) (h : next s l = some s')
    (hl : ∀ action, l ≠ .thread r action) {job₀ : Job} (hr : s.heap.read r = some job₀)
    (hstage : job₀.stage = .launching) :
    ∃ job₁, s'.heap.read r = some job₁ ∧ job₁.stage = .launching := by
  obtain ⟨r', action, job, rfl, hr', h⟩ | ⟨_, _, _, _, rfl⟩ | h := next_cases h
  · obtain ⟨job', heap, _⟩ := thread_kept h
    have hne : r' ≠ r := fun heq => hl action (by rw [heq])
    exact ⟨job₀, by rw [heap, Heap.read_write_ne _ _ hne]; exact hr, hstage⟩
  · exact ⟨job₀, hr, hstage⟩
  · cases main_next_step h with
    | take | inspect_process | inspect_none | kill => exact ⟨job₀, hr, hstage⟩
    | register => exact ⟨job₀, Heap.read_alloc_of_some hr _, hstage⟩
    | @start ok r' job hmain hstart =>
      have hne : r' ≠ r := by
        rintro rfl
        have hunborn := hs _ _ hmain hr
        rw [hstage] at hunborn
        cases hunborn
      exact ⟨job₀, (Heap.read_write_ne _ _ hne).trans hr, hstage⟩
    | @stop user_id r' job hmain hreg hstop =>
      by_cases heq : r' = r
      · rw [heq] at hstop ⊢
        refine ⟨_, Heap.read_write_self hr _, ?_⟩
        rw [hr] at hstop
        rw [← Option.some.inj hstop]
        exact hstage
      · exact ⟨job₀, (Heap.read_write_ne _ _ heq).trans hr, hstage⟩

/-- A step that launches nothing starts no player. -/
theorem next_player (h : next s l = some s') (hl : ∀ r, l ≠ .thread r .launch) {p : Ref}
    {process' : Process} (hp : s'.processes.read p = some process') (hplayer : process'.kind = .player) :
    ∃ process, s.processes.read p = some process ∧ process.kind = .player ∧
      process.job = process'.job := by
  have hmark : ∀ {q : Ref} {process process'' : Process}, s.processes.read q = some process →
      (s.processes.write q process'').read p = some process' →
      process''.kind = process.kind → process''.job = process.job →
      ∃ process, s.processes.read p = some process ∧ process.kind = .player ∧
        process.job = process'.job := by
    intro q process process'' hq hread hkind hjob
    obtain ⟨rfl, rfl⟩ | ⟨_, hread⟩ := Heap.read_write_cases hread
    · exact ⟨process, hq, hkind.symm.trans hplayer, hjob.symm⟩
    · exact ⟨process', hread, hplayer, rfl⟩
  obtain ⟨r, action, job, rfl, hr, h⟩ | ⟨q, process, ok, hq, rfl⟩ | h := next_cases h
  · cases thread_next_step h with
    | returns | raises | look | store | wait_preparation | wait_player | clear | skip_launch | eof
    | close => exact ⟨process', hp, hplayer, rfl⟩
    | spawn hstage =>
      obtain hp | ⟨_, rfl⟩ := Heap.read_alloc_cases hp
      · exact ⟨process', hp, hplayer, rfl⟩
      · cases hplayer
    | terminate hstage hq => exact hmark hq hp rfl rfl
    | timeout hstage hq => exact hmark hq hp rfl rfl
    | launch => exact absurd rfl (hl r)
  · exact hmark hq hp rfl rfl
  · obtain heq | ⟨q, process, _, _, hq, heq⟩ := main_next_processes h
    · exact ⟨process', heq ▸ hp, hplayer, rfl⟩
    · rw [heq] at hp
      exact hmark hq hp rfl rfl

theorem thread_born {action : Action} (h : thread_next s r job action = some s') :
    job.stage ≠ .unborn := by
  intro hunborn
  cases action <;> simp [thread_next, hunborn, Stage.returned, Stage.raised, Stage.looked] at h

theorem startsUnborn_step (hs : StartsUnborn s) (h : next s l = some s') : StartsUnborn s' := by
  intro r job hmain hr
  obtain ⟨r', action, job₀, _, hr', h⟩ | ⟨_, _, _, _, rfl⟩ | h := next_cases h
  · obtain ⟨job', heap, _, hsame, _⟩ := thread_next_cases h
    rw [hsame] at hmain
    rw [heap] at hr
    obtain ⟨rfl, _⟩ | ⟨_, hr⟩ := Heap.read_write_cases hr
    · -- a thread that takes a step was started
      exact absurd (hs r job₀ hmain hr') (thread_born h)
    · exact hs r job hmain hr
  · exact hs r job hmain hr
  · cases main_next_step h with
    | register =>
      cases hmain
      rw [Heap.read_alloc_next] at hr
      rw [← Option.some.inj hr]
    | take | start | stop | inspect_none | kill => cases hmain
    | @inspect_process r' p =>
      replace hmain : (if s.alive p then Main.killing p else .idle) = .starting r := hmain
      split at hmain <;> cases hmain

theorem StartsUnborn.put (hs : StartsUnborn s) {job' : Job} (hr : s.heap.read r = some job)
    (hstage : job.stage = .unborn → job'.stage = .unborn) : StartsUnborn (s.put r job') := by
  intro r' job₀ hmain hr'
  obtain ⟨rfl, rfl⟩ | ⟨_, hr'⟩ := Heap.read_write_cases hr'
  · exact hstage (hs r' job hmain hr)
  · exact hs r' job₀ hmain hr'

end kept

end BoVpnAgent.Playback

namespace BoVpnAgent.Shutdown

open Lts

/-! ### State -/

/-- The thread in the locked launch, and the player it has started. -/
structure Launch where
  job : Ref
  process : Option Ref
  deriving DecidableEq

/-- Where `stop_all` stands with one job. -/
inductive Visit where
  /-- `job.cancelled = True` is next -/
  | top
  /-- `job.process is not None` is next -/
  | marked
  /-- `job.process` is read again, for `poll` -/
  | tested
  /-- `poll` of what was read -/
  | loaded (process : Ref)
  /-- `job.process` is read again, for its pid -/
  | alive
  /-- `os.killpg` of what was read -/
  | found (process : Ref)
  deriving DecidableEq

inductive StopAll where
  /-- The copy of the jobs, under the lock, is next. -/
  | waiting
  /-- At the index `k` of the copy. -/
  | visiting (jobs : List Ref) (k : Nat) (visit : Visit)
  | finished (jobs : List Ref)
  /-- An `AttributeError`: `job.process` was `None` when it was read again. -/
  | raised (jobs : List Ref)
  deriving DecidableEq

structure State where
  play : Playback.State
  /-- whoever is in the locked launch holds the lock -/
  launch : Option Launch
  stop_all : StopAll

def initial : State := ⟨Playback.initial, none, .waiting⟩

/-! ### Steps -/

inductive Label where
  /-- A step of the playback that is no launch. -/
  | play (l : Playback.Label)
  /-- The launch begins: `if job.cancelled`. -/
  | check (job : Ref)
  /-- The `Popen` of the player, which may raise. -/
  | popen (ok : Bool)
  /-- `job.process = process`, and the lock is released. -/
  | store
  /-- `stop_all` goes on. -/
  | stop_all
  deriving DecidableEq

/-- The step is none of the launch, has the lock if it needs it, and is none
    of the main loop while `stop_all` runs. -/
def State.permits (s : State) : Playback.Label → Bool
  | .thread r action =>
    match s.play.heap.read r with
    | some job =>
      action ≠ .launch && (s.launch = none || (action ≠ .close && job.stage ≠ .launching))
    | none => false
  | .exits _ _ => true
  | .take _ | .register | .stop _ => s.stop_all = .waiting && s.launch = none
  | .start _ | .inspect | .kill => s.stop_all = .waiting

def check_next (s : State) (r : Ref) : Option State := do
  let job ← s.play.heap.read r
  if s.launch = none ∧ job.stage = .launching then
    if job.cancelled then some { s with play := s.play.put r { job with stage := .closing } }
    else some { s with launch := some ⟨r, none⟩ }
  else none

def popen_next (s : State) (ok : Bool) : Option State :=
  match s.launch with
  | some ⟨r, none⟩ => do
    let job ← s.play.heap.read r
    if ok then
      some { s with play := s.play.popen .player r, launch := some ⟨r, some s.play.processes.next⟩ }
    else some { s with play := s.play.put r { job with stage := .failing }, launch := none }
  | _ => none

def store_next (s : State) : Option State :=
  match s.launch with
  | some ⟨r, some p⟩ => do
    let job ← s.play.heap.read r
    some { s with play := s.play.put r { job with process := some p, stage := .reading p }
                  launch := none }
  | _ => none

/-- The visit of the job `r`, the one at the index `k`. -/
def visit_next (s : State) (jobs : List Ref) (k : Nat) (r : Ref) (visit : Visit) : Option State := do
  let job ← s.play.heap.read r
  match visit with
  | .top =>
    some { s with play := s.play.put r { job with cancelled := true }
                  stop_all := .visiting jobs k .marked }
  | .marked =>
    match job.process with
    | some _ => some { s with stop_all := .visiting jobs k .tested }
    | none => some { s with stop_all := .visiting jobs (k + 1) .top }
  | .tested =>
    match job.process with
    | some p => some { s with stop_all := .visiting jobs k (.loaded p) }
    | none => some { s with stop_all := .raised jobs }
  | .loaded p =>
    if s.play.alive p then some { s with stop_all := .visiting jobs k .alive }
    else some { s with stop_all := .visiting jobs (k + 1) .top }
  | .alive =>
    match job.process with
    | some p => some { s with stop_all := .visiting jobs k (.found p) }
    | none => some { s with stop_all := .raised jobs }
  | .found p => do
    let process ← s.play.processes.read p
    some { s with play := s.play.mark p { process with interrupted := true }
                  stop_all := .visiting jobs (k + 1) .top }

def stop_all_next (s : State) : Option State :=
  match s.stop_all with
  | .waiting =>
    if s.launch = none then some { s with stop_all := .visiting s.play.jobs.values 0 .top } else none
  | .visiting jobs k visit =>
    match jobs[k]? with
    | some r => visit_next s jobs k r visit
    | none => some { s with stop_all := .finished jobs }
  | .finished _ => none
  | .raised _ => none

def next (s : State) : Label → Option State
  | .play l =>
    if s.permits l then (Playback.next s.play l).map fun play => { s with play := play } else none
  | .check r => check_next s r
  | .popen ok => popen_next s ok
  | .store => store_next s
  | .stop_all => stop_all_next s

def system : System State Label := ⟨initial, next⟩

/-! ### What a step does -/

/-- The holder of the lock is at its launch. -/
def HolderLaunches (s : State) : Prop :=
  ∀ launch, s.launch = some launch →
    ∃ job, s.play.heap.read launch.job = some job ∧ job.stage = .launching

/-- What a step does to the launch in progress. -/
inductive LaunchStep (s s' : State) : Prop where
  | stays (hsame : s'.launch = s.launch) (hholder : HolderLaunches s')
  | checks (r : Ref) (job : Playback.Job) (hbefore : s.launch = none)
      (hafter : s'.launch = some ⟨r, none⟩) (hr : s'.play.heap.read r = some job)
      (hstage : job.stage = .launching) (hcancelled : job.cancelled = false)
  | starts (r : Ref) (hbefore : s.launch = some ⟨r, none⟩)
      (hafter : s'.launch = some ⟨r, some s.play.processes.next⟩) (hholder : HolderLaunches s')
  | fails (r : Ref) (hbefore : s.launch = some ⟨r, none⟩) (hafter : s'.launch = none)
  | stores (r p : Ref) (job : Playback.Job) (hbefore : s.launch = some ⟨r, some p⟩)
      (hafter : s'.launch = none) (hr : s'.play.heap.read r = some job)
      (hprocess : job.process = some p) (hstage : job.stage.Launched)

/-- What a step does, whichever it is. -/
structure Effect (s s' : State) : Prop where
  starts : Playback.StartsUnborn s.play → Playback.StartsUnborn s'.play
  jobs : ∀ r job, s.play.heap.read r = some job →
    ∃ job', s'.play.heap.read r = some job' ∧ job.Kept job'
  processes : Playback.Keeps s.play.processes s'.play.processes
  /-- a new player is the one of the launch -/
  players : ∀ p process', s'.play.processes.read p = some process' → process'.kind = .player →
    (∃ process, s.play.processes.read p = some process ∧ process.kind = .player ∧
      process.job = process'.job) ∨
    s.launch = some ⟨process'.job, none⟩ ∧ s'.launch = some ⟨process'.job, some p⟩
  launch : LaunchStep s s'

section effects

variable {s s' : State}

theorem keeps_refl (h : Heap Playback.Process) : Playback.Keeps h h :=
  fun _ process hp => ⟨process, hp, .refl process⟩

/-- The lock and the playback stay as they are. -/
theorem Effect.same (hholder : HolderLaunches s) (hplay : s'.play = s.play)
    (hlaunch : s'.launch = s.launch) : Effect s s' where
  starts := by rw [hplay]; exact fun h => h
  jobs := fun r job hr => ⟨job, by rw [hplay]; exact hr, .refl job⟩
  processes := by rw [hplay]; exact keeps_refl _
  players := fun p process' hp hplayer => .inl ⟨process', by rw [← hplay]; exact hp, hplayer, rfl⟩
  launch := .stays hlaunch (by unfold HolderLaunches; rw [hlaunch, hplay]; exact hholder)

/-- A step of the playback, next to a launch. -/
theorem effect_play (hs : Playback.StartsUnborn s.play) (hholder : HolderLaunches s) {l : Playback.Label}
    (hpermits : s.permits l = true) {play : Playback.State} (h : Playback.next s.play l = some play) :
    Effect s { s with play := play } where
  starts := fun hs => Playback.startsUnborn_step hs h
  jobs := fun r job hr => Playback.next_kept hs h hr
  processes := Playback.keeps_step h
  players := by
    intro p process' hp hplayer
    refine .inl (Playback.next_player h ?_ hp hplayer)
    rintro r rfl
    simp only [State.permits] at hpermits
    split at hpermits <;> simp at hpermits
  launch := by
    refine .stays rfl ?_
    intro launch hlaunch
    obtain ⟨job, hr, hstage⟩ := hholder launch hlaunch
    refine Playback.next_launching hs h ?_ hr hstage
    rintro action rfl
    -- the holder's thread takes no other step
    simp [State.permits, hr, hstage, show s.launch = some launch from hlaunch] at hpermits

theorem effect_check {r : Ref} (h : check_next s r = some s') :
    Effect s s' := by
  obtain ⟨job, hr, h⟩ := Option.bind_eq_some_iff.mp h
  split at h
  · next hguard =>
    split at h
    · next hcancelled =>
      cases h
      refine ⟨fun hs => hs.put hr (by rw [hguard.2]; exact nofun),
        fun r' job₀ hr' => Playback.read_write_kept hr (.advance fun _ => trivial) hr', keeps_refl _,
        fun p process' hp hplayer => .inl ⟨process', hp, hplayer, rfl⟩, .stays rfl ?_⟩
      intro launch hlaunch
      rw [hguard.1] at hlaunch
      cases hlaunch
    · next hcancelled =>
      cases h
      refine ⟨fun hs => hs, fun r' job₀ hr' => ⟨job₀, hr', .refl job₀⟩, keeps_refl _,
        fun p process' hp hplayer => .inl ⟨process', hp, hplayer, rfl⟩, ?_⟩
      exact .checks r job hguard.1 rfl hr hguard.2 (Bool.eq_false_iff.mpr hcancelled)
  · cases h

theorem effect_popen (hholder : HolderLaunches s) {ok : Bool} (h : popen_next s ok = some s') :
    Effect s s' := by
  unfold popen_next at h
  split at h
  · next r hlaunch =>
    obtain ⟨job, hr, h⟩ := Option.bind_eq_some_iff.mp h
    obtain ⟨job₀, hr₀, hstage⟩ := hholder _ hlaunch
    rw [hr] at hr₀
    cases hr₀
    split at h
    · cases h
      refine ⟨fun hs => hs, fun r' job₀ hr' => ⟨job₀, hr', .refl job₀⟩, Playback.keeps_alloc _ _, ?_, ?_⟩
      · intro p process' hp hplayer
        obtain hp | ⟨rfl, rfl⟩ := Heap.read_alloc_cases hp
        · exact .inl ⟨process', hp, hplayer, rfl⟩
        · exact .inr ⟨hlaunch, rfl⟩
      · refine .starts r hlaunch rfl ?_
        intro launch hafter
        cases hafter
        exact ⟨job, hr, hstage⟩
    · cases h
      have hkept : job.Kept { job with stage := .failing } := .advance fun _ => trivial
      exact ⟨fun hs => hs.put hr (by rw [hstage]; exact nofun),
        fun r' job₀ hr' => Playback.read_write_kept hr hkept hr', keeps_refl _,
        fun p process' hp hplayer => .inl ⟨process', hp, hplayer, rfl⟩, .fails r hlaunch rfl⟩
  · cases h

theorem effect_store (hholder : HolderLaunches s) (h : store_next s = some s') : Effect s s' := by
  unfold store_next at h
  split at h
  · next r p hlaunch =>
    obtain ⟨job, hr, h⟩ := Option.bind_eq_some_iff.mp h
    obtain ⟨job₀, hr₀, hstage⟩ := hholder _ hlaunch
    rw [hr] at hr₀
    cases hr₀
    cases h
    have hkept : job.Kept { job with process := some p, stage := .reading p } :=
      .early rfl (by rw [hstage]; exact fun h => h)
    exact ⟨fun hs => hs.put hr (by rw [hstage]; exact nofun),
      fun r' job₀ hr' => Playback.read_write_kept hr hkept hr', keeps_refl _,
      fun p process' hp hplayer => .inl ⟨process', hp, hplayer, rfl⟩,
      .stores r p _ hlaunch rfl (Heap.read_write_self hr _) rfl trivial⟩
  · cases h

end effects

/-! ### The visit of a job -/

/-- The cases of `visit_next`. -/
inductive VisitStep (s : State) (jobs : List Ref) (k : Nat) (r : Ref) (job : Playback.Job) :
    Visit → State → Prop where
  | mark :
    VisitStep s jobs k r job .top
      { s with play := s.play.put r { job with cancelled := true }
               stop_all := .visiting jobs k .marked }
  | test {p : Ref} (hprocess : job.process = some p) :
    VisitStep s jobs k r job .marked { s with stop_all := .visiting jobs k .tested }
  | skip (hprocess : job.process = none) :
    VisitStep s jobs k r job .marked { s with stop_all := .visiting jobs (k + 1) .top }
  | load {p : Ref} (hprocess : job.process = some p) :
    VisitStep s jobs k r job .tested { s with stop_all := .visiting jobs k (.loaded p) }
  | poll_alive {p : Ref} (halive : s.play.alive p = true) :
    VisitStep s jobs k r job (.loaded p) { s with stop_all := .visiting jobs k .alive }
  | poll_exited {p : Ref} (hexited : s.play.alive p = false) :
    VisitStep s jobs k r job (.loaded p) { s with stop_all := .visiting jobs (k + 1) .top }
  | load_again {p : Ref} (hprocess : job.process = some p) :
    VisitStep s jobs k r job .alive { s with stop_all := .visiting jobs k (.found p) }
  | lose (visit : Visit) (hprocess : job.process = none) :
    VisitStep s jobs k r job visit { s with stop_all := .raised jobs }
  | kill {p : Ref} {process : Playback.Process} (hp : s.play.processes.read p = some process) :
    VisitStep s jobs k r job (.found p)
      { s with play := s.play.mark p { process with interrupted := true }
               stop_all := .visiting jobs (k + 1) .top }

section visits

variable {s s' : State} {jobs : List Ref} {k : Nat} {r : Ref} {job : Playback.Job} {visit : Visit}

theorem visit_next_step (h : visit_next s jobs k r visit = some s') :
    ∃ job, s.play.heap.read r = some job ∧ VisitStep s jobs k r job visit s' := by
  obtain ⟨job, hr, h⟩ := Option.bind_eq_some_iff.mp h
  refine ⟨job, hr, ?_⟩
  cases visit with
  | top => cases h; exact .mark
  | marked =>
    simp only at h
    split at h
    · next p hprocess => cases h; exact .test hprocess
    · next hprocess => cases h; exact .skip hprocess
  | tested =>
    simp only at h
    split at h
    · next p hprocess => cases h; exact .load hprocess
    · next hprocess => cases h; exact .lose _ hprocess
  | loaded p =>
    simp only at h
    split at h
    · next halive => cases h; exact .poll_alive halive
    · next hexited => cases h; exact .poll_exited (Bool.eq_false_iff.mpr hexited)
  | alive =>
    simp only at h
    split at h
    · next p hprocess => cases h; exact .load_again hprocess
    · next hprocess => cases h; exact .lose _ hprocess
  | found p =>
    obtain ⟨process, hp, h⟩ := Option.bind_eq_some_iff.mp h
    cases h
    exact .kill hp

theorem effect_visit (hholder : HolderLaunches s) (hr : s.play.heap.read r = some job)
    (h : VisitStep s jobs k r job visit s') : Effect s s' := by
  cases h with
  | mark =>
    have hkept : job.Kept { job with cancelled := true } := ⟨fun _ => rfl, fun h => ⟨h, rfl⟩⟩
    refine ⟨fun hs => hs.put hr fun h => h,
      fun r' job₀ hr' => Playback.read_write_kept hr hkept hr', keeps_refl _,
      fun p process' hp hplayer => .inl ⟨process', hp, hplayer, rfl⟩, .stays rfl ?_⟩
    intro launch hlaunch
    obtain ⟨job₀, hr₀, hstage⟩ := hholder launch hlaunch
    by_cases heq : r = launch.job
    · rw [← heq] at hr₀ ⊢
      rw [hr] at hr₀
      cases hr₀
      exact ⟨_, Heap.read_write_self hr _, hstage⟩
    · exact ⟨job₀, (Heap.read_write_ne _ _ heq).trans hr₀, hstage⟩
  | kill hp =>
    refine ⟨fun hs => hs, fun r' job₀ hr' => ⟨job₀, hr', .refl job₀⟩,
      Playback.keeps_write hp ⟨rfl, rfl, fun h => h, fun _ => rfl, fun h => h⟩, ?_, .stays rfl hholder⟩
    intro q process' hq hplayer
    obtain ⟨rfl, rfl⟩ | ⟨_, hq⟩ := Heap.read_write_cases hq
    · exact .inl ⟨_, hp, hplayer, rfl⟩
    · exact .inl ⟨process', hq, hplayer, rfl⟩
  | test | skip | load | poll_alive | poll_exited | load_again | lose => exact .same hholder rfl rfl

/-- The cases of `stop_all_next`. -/
inductive StopAllStep (s : State) : State → Prop where
  | copy (hbefore : s.stop_all = .waiting) (hfree : s.launch = none) :
    StopAllStep s { s with stop_all := .visiting s.play.jobs.values 0 .top }
  | visit {jobs : List Ref} {k : Nat} {visit : Visit} {r : Ref} {job : Playback.Job} {s' : State}
      (hbefore : s.stop_all = .visiting jobs k visit) (hk : jobs[k]? = some r)
      (hr : s.play.heap.read r = some job) (hvisit : VisitStep s jobs k r job visit s') :
    StopAllStep s s'
  | finish {jobs : List Ref} {k : Nat} {visit : Visit} (hbefore : s.stop_all = .visiting jobs k visit)
      (hk : jobs[k]? = none) :
    StopAllStep s { s with stop_all := .finished jobs }

theorem stop_all_next_step (h : stop_all_next s = some s') : StopAllStep s s' := by
  unfold stop_all_next at h
  split at h
  · next hbefore =>
    split at h
    · next hfree => cases h; exact .copy hbefore hfree
    · cases h
  · next jobs k visit hbefore =>
    split at h
    · next r hk =>
      obtain ⟨job, hr, hvisit⟩ := visit_next_step h
      exact .visit hbefore hk hr hvisit
    · next hk => cases h; exact .finish hbefore hk
  · cases h
  · cases h

theorem effect_stop_all (hholder : HolderLaunches s) (h : StopAllStep s s') : Effect s s' := by
  cases h with
  | copy | finish => exact .same hholder rfl rfl
  | visit hbefore hk hr hvisit => exact effect_visit hholder hr hvisit

end visits

section steps

variable {s s' : State} {l : Label}

theorem effect_step (hs : Playback.StartsUnborn s.play) (hholder : HolderLaunches s)
    (h : next s l = some s') : Effect s s' := by
  cases l with
  | play l =>
    simp only [next] at h
    split at h
    · next hpermits =>
      obtain ⟨play, hplay, rfl⟩ := Option.map_eq_some_iff.mp h
      exact effect_play hs hholder hpermits hplay
    · cases h
  | check r => exact effect_check h
  | popen ok => exact effect_popen hholder h
  | store => exact effect_store hholder h
  | stop_all => exact effect_stop_all hholder (stop_all_next_step h)

end steps

/-! ### Invariants -/

/-- What holds at any time. -/
structure Inv (s : State) : Prop where
  starts : Playback.StartsUnborn s.play
  holder : HolderLaunches s
  /-- a player is the process of its job, or in the launch -/
  players : ∀ p process, s.play.processes.read p = some process → process.kind = .player →
    s.launch = some ⟨process.job, some p⟩ ∨
    ∃ job, s.play.heap.read process.job = some job ∧ job.process = some p ∧ job.stage.Launched

section invariants

variable {s s' : State} {l : Label}

theorem inv_initial : Inv initial where
  starts := by
    intro r job hmain
    cases hmain
  holder := by
    intro launch h
    cases h
  players := by
    intro p process hp
    simp [initial, Playback.initial] at hp

theorem Effect.inv (he : Effect s s') (hs : Inv s) : Inv s' where
  starts := he.starts hs.starts
  holder := by
    intro launch hlaunch
    cases he.launch with
    | stays hsame hholder => exact hholder launch hlaunch
    | checks r job hbefore hafter hr hstage hcancelled =>
      rw [hafter] at hlaunch
      cases hlaunch
      exact ⟨job, hr, hstage⟩
    | starts r hbefore hafter hholder => exact hholder launch hlaunch
    | fails r hbefore hafter =>
      rw [hafter] at hlaunch
      cases hlaunch
    | stores r p job hbefore hafter =>
      rw [hafter] at hlaunch
      cases hlaunch
  players := by
    intro p process' hp hplayer
    -- an older player, or one that the launch has just started
    obtain ⟨process, hp₀, hplayer₀, hjob⟩ | ⟨_, hlaunch⟩ := he.players p process' hp hplayer
    · rw [← hjob]
      obtain hlaunch | ⟨job, hr, hprocess, hstage⟩ := hs.players p process hp₀ hplayer₀
      · cases he.launch with
        | stays hsame hholder => exact .inl (hsame.trans hlaunch)
        | checks r job hbefore => rw [hbefore] at hlaunch; cases hlaunch
        | starts r hbefore => rw [hbefore] at hlaunch; cases hlaunch
        | fails r hbefore => rw [hbefore] at hlaunch; cases hlaunch
        | stores r q job hbefore hafter hr hprocess hstage =>
          -- the launch hands its player over to the job
          rw [hbefore] at hlaunch
          cases hlaunch
          exact .inr ⟨job, hr, hprocess, hstage⟩
      · obtain ⟨job', hr', hkept⟩ := he.jobs _ job hr
        obtain ⟨hstage', hsame⟩ := hkept.launched hstage
        exact .inr ⟨job', hr', hsame.trans hprocess, hstage'⟩
    · exact .inl hlaunch

theorem inv_reachable (h : Reachable system s) : Inv s := by
  apply h.invariant inv_initial
  intro s l s' _ hs hstep
  exact (effect_step hs.starts hs.holder hstep).inv hs

end invariants

/-! ### Jobs that launch nothing any more -/

/-- The job is cancelled, and its thread is behind the launch or in front of
    its check. -/
structure Blocked (s : State) (r : Ref) : Prop where
  cancelled : s.play.cancelled r
  outside : ∀ process, s.launch ≠ some ⟨r, process⟩

/-- The process is a player of the job. -/
def State.Plays (s : State) (r p : Ref) (process : Playback.Process) : Prop :=
  s.play.processes.read p = some process ∧ process.kind = .player ∧ process.job = r

/-- Every player of a job that is blocked has exited or was interrupted. -/
structure Settled (s : State) (r : Ref) : Prop where
  blocked : Blocked s r
  players : ∀ p process, s.Plays r p process → process.status.isSome = true ∨ process.interrupted = true

/-- The job is blocked and has no other player. -/
structure Only (s : State) (r p : Ref) : Prop where
  blocked : Blocked s r
  players : ∀ q process, s.Plays r q process → q = p

section blocked

variable {s s' : State} {r p : Ref}

theorem cancelled_step (he : Effect s s') (h : s.play.cancelled r) : s'.play.cancelled r := by
  obtain ⟨job, hr, hcancelled⟩ := h
  obtain ⟨job', hr', hkept⟩ := he.jobs r job hr
  exact ⟨job', hr', hkept.cancelled hcancelled⟩

theorem Blocked.step (he : Effect s s') (h : Blocked s r) : Blocked s' r where
  cancelled := cancelled_step he h.cancelled
  outside := by
    intro process hlaunch
    cases he.launch with
    | stays hsame _ => exact h.outside process (hsame.symm.trans hlaunch)
    | checks r' job hbefore hafter hr hstage hcancelled =>
      rw [hafter] at hlaunch
      cases hlaunch
      -- the check has found the job not cancelled
      obtain ⟨job', hr', hcancelled'⟩ := cancelled_step he h.cancelled
      rw [hr] at hr'
      rw [← Option.some.inj hr', hcancelled] at hcancelled'
      cases hcancelled'
    | starts r' hbefore hafter hholder =>
      rw [hafter] at hlaunch
      cases hlaunch
      exact h.outside _ hbefore
    | fails r' hbefore hafter => rw [hafter] at hlaunch; cases hlaunch
    | stores r' p job hbefore hafter => rw [hafter] at hlaunch; cases hlaunch

/-- A blocked job has no new player. -/
theorem Blocked.plays (he : Effect s s') (h : Blocked s r) {process' : Playback.Process}
    (hp : s'.Plays r p process') : ∃ process, s.Plays r p process ∧ process.Later process' := by
  obtain ⟨hread', hplayer', rfl⟩ := hp
  obtain ⟨process, hread, hplayer, hjob⟩ | ⟨hlaunch, _⟩ := he.players p process' hread' hplayer'
  · obtain ⟨process'', hread'', hlater⟩ := he.processes p process hread
    rw [hread'] at hread''
    rw [← Option.some.inj hread''] at hlater
    exact ⟨process, ⟨hread, hplayer, hjob⟩, hlater⟩
  · exact absurd hlaunch (h.outside _)

theorem Settled.step (he : Effect s s') (h : Settled s r) : Settled s' r where
  blocked := h.blocked.step he
  players := by
    intro p process' hp
    obtain ⟨process, hp₀, hlater⟩ := h.blocked.plays he hp
    exact (h.players p process hp₀).imp hlater.status hlater.interrupted

theorem Only.step (he : Effect s s') (h : Only s r p) : Only s' r p where
  blocked := h.blocked.step he
  players := by
    intro q process' hq
    obtain ⟨process, hq₀, _⟩ := h.blocked.plays he hq
    exact h.players q process hq₀

/-- A player of a blocked job is the process of the job. -/
theorem Inv.process_eq (hs : Inv s) (hr : Blocked s r) {job : Playback.Job}
    (hread : s.play.heap.read r = some job) {process : Playback.Process} (hp : s.Plays r p process) :
    job.process = some p := by
  obtain ⟨hp, hplayer, rfl⟩ := hp
  obtain hlaunch | ⟨job', hread', hprocess, _⟩ := hs.players p process hp hplayer
  · exact absurd hlaunch (hr.outside _)
  · rw [hread] at hread'
    rw [Option.some.inj hread']
    exact hprocess

end blocked

/-! ### The loop of `stop_all` -/

/-- `job.process` is not read while the thread of the job is between the check
    of `cancelled` and the assignment of `job.process`. -/
def careful (s : State) : Label → Bool
  | .stop_all =>
    match s.stop_all, s.launch with
    | .visiting jobs k .marked, some launch => jobs[k]? ≠ some launch.job
    | _, _ => true
  | _ => true

def Careful (s : State) (l : Label) : Prop := careful s l = true

instance (s : State) (l : Label) : Decidable (Careful s l) :=
  inferInstanceAs (Decidable (_ = true))

/-- What `stop_all` has achieved for the job it is at. -/
def Visit.Ready (s : State) (r : Ref) : Visit → Prop
  | .top => True
  | .marked => s.play.cancelled r
  | .tested | .alive => Blocked s r
  | .loaded p | .found p => Only s r p

/-- The jobs that it has visited are settled. -/
def StopAll.Swept (s : State) : StopAll → Prop
  | .waiting => True
  | .visiting jobs k visit =>
    (∀ r ∈ jobs.take k, Settled s r) ∧ ∀ r, jobs[k]? = some r → visit.Ready s r
  | .finished jobs => ∀ r ∈ jobs, Settled s r
  | .raised _ => True

section sweep

variable {s s' : State} {jobs : List Ref} {k : Nat} {r : Ref} {job : Playback.Job} {visit : Visit}

theorem Visit.Ready.step (he : Effect s s') (h : visit.Ready s r) : visit.Ready s' r := by
  cases visit with
  | top => trivial
  | marked => exact cancelled_step he h
  | tested | alive => exact Blocked.step he h
  | loaded p | found p => exact Only.step he h

/-- The threads undo nothing of what `stop_all` has done. -/
theorem StopAll.Swept.step (he : Effect s s') {stop_all : StopAll} (h : stop_all.Swept s) :
    stop_all.Swept s' := by
  cases stop_all with
  | waiting | raised jobs => trivial
  | visiting jobs k visit =>
    exact ⟨fun r hr => (h.1 r hr).step he, fun r hk => (h.2 r hk).step he⟩
  | finished jobs => exact fun r hr => (h r hr).step he

/-- The next job. -/
theorem swept_succ (hk : jobs[k]? = some r) (hbefore : ∀ r ∈ jobs.take k, Settled s r)
    (hr : Settled s r) : (StopAll.visiting jobs (k + 1) .top).Swept s := by
  refine ⟨fun r' hr' => ?_, fun _ _ => trivial⟩
  rw [List.take_add_one, hk, Option.toList_some, List.mem_append, List.mem_singleton] at hr'
  obtain hr' | rfl := hr'
  · exact hbefore r' hr'
  · exact hr

/-- A job is settled when its only player is. -/
theorem Only.settled {p : Ref} (h : Only s r p)
    (hp : ∀ process, s.play.processes.read p = some process →
      process.status.isSome = true ∨ process.interrupted = true) : Settled s r where
  blocked := h.blocked
  players := by
    intro q process hq
    have heq := h.players q process hq
    rw [heq] at hq
    exact hp process hq.1

/-- `job.process` is read outside of a launch of the job. -/
theorem blocked_of_careful (hcareful : Careful s .stop_all) (hbefore : s.stop_all = .visiting jobs k .marked)
    (hk : jobs[k]? = some r) (hcancelled : s.play.cancelled r) : Blocked s r where
  cancelled := hcancelled
  outside := by
    intro process hlaunch
    simp [Careful, careful, hbefore, hlaunch, hk] at hcareful

/-- The process that a blocked job holds is its only player, if it has any. -/
theorem Blocked.only (hs : Inv s) (h : Blocked s r) (hread : s.play.heap.read r = some job) {p : Ref}
    (hprocess : job.process = some p) : Only s r p where
  blocked := h
  players := by
    intro q process hq
    have heq := hs.process_eq h hread hq
    rw [hprocess] at heq
    exact (Option.some.inj heq).symm

theorem Blocked.settled (hs : Inv s) (h : Blocked s r) (hread : s.play.heap.read r = some job)
    (hprocess : job.process = none) : Settled s r where
  blocked := h
  players := by
    intro q process hq
    have heq := hs.process_eq h hread hq
    rw [hprocess] at heq
    cases heq

theorem swept_visit (hs : Inv s) (hcareful : Careful s .stop_all)
    (hbefore : s.stop_all = .visiting jobs k visit) (hk : jobs[k]? = some r)
    (hread : s.play.heap.read r = some job) (hswept : s.stop_all.Swept s)
    (h : VisitStep s jobs k r job visit s') : s'.stop_all.Swept s' := by
  rw [hbefore] at hswept
  have he := effect_visit hs.holder hread h
  have hsettled : ∀ r ∈ jobs.take k, Settled s' r := fun r hr => (hswept.1 r hr).step he
  have hready : visit.Ready s' r := (hswept.2 r hk).step he
  have hstays : ∀ v : Visit, v.Ready s' r → (StopAll.visiting jobs k v).Swept s' := by
    intro v hready'
    refine ⟨hsettled, fun r' hr' => ?_⟩
    rw [hk] at hr'
    rw [← Option.some.inj hr']
    exact hready'
  cases h with
  | mark => exact hstays .marked ⟨_, Heap.read_write_self hread _, rfl⟩
  | test hprocess =>
    have hblocked := blocked_of_careful hcareful hbefore hk (hswept.2 r hk)
    exact hstays .tested (hblocked.step he)
  | skip hprocess =>
    have hblocked := blocked_of_careful hcareful hbefore hk (hswept.2 r hk)
    exact swept_succ hk hsettled ((hblocked.settled hs hread hprocess).step he)
  | load hprocess =>
    have hblocked : Blocked s r := hswept.2 r hk
    exact hstays _ ((hblocked.only hs hread hprocess).step he)
  | poll_alive halive => exact hstays .alive hready.blocked
  | @poll_exited p hexited =>
    refine swept_succ hk hsettled (Only.settled hready fun process hp => .inl ?_)
    have hexited' : s.play.alive p = false := hexited
    have hp' : s.play.processes.read p = some process := hp
    unfold Playback.State.alive at hexited'
    rw [hp'] at hexited'
    simpa using hexited'
  | load_again hprocess =>
    have hblocked : Blocked s r := hswept.2 r hk
    exact hstays _ ((hblocked.only hs hread hprocess).step he)
  | lose hprocess => trivial
  | @kill p process₀ hp =>
    refine swept_succ hk hsettled (Only.settled hready fun process hread' => .inr ?_)
    have hself := Heap.read_write_self hp { process₀ with interrupted := true }
    rw [← Option.some.inj (hself.symm.trans hread')]

/-- Only `stop_all` moves `stop_all`. -/
theorem next_stop_all {l : Label} (h : next s l = some s') :
    s'.stop_all = s.stop_all ∨ l = .stop_all ∧ StopAllStep s s' := by
  cases l with
  | play l =>
    simp only [next] at h
    split at h
    · obtain ⟨play, _, rfl⟩ := Option.map_eq_some_iff.mp h
      exact .inl rfl
    · cases h
  | check r =>
    obtain ⟨job, _, h⟩ := Option.bind_eq_some_iff.mp h
    split at h
    · split at h <;> cases h <;> exact .inl rfl
    · cases h
  | popen ok =>
    simp only [next, popen_next] at h
    split at h
    · obtain ⟨job, _, h⟩ := Option.bind_eq_some_iff.mp h
      split at h <;> cases h <;> exact .inl rfl
    · cases h
  | store =>
    simp only [next, store_next] at h
    split at h
    · obtain ⟨job, _, h⟩ := Option.bind_eq_some_iff.mp h
      cases h
      exact .inl rfl
    · cases h
  | stop_all => exact .inr ⟨rfl, stop_all_next_step h⟩

theorem swept_step (hs : Inv s) {l : Label} (hcareful : Careful s l) (hswept : s.stop_all.Swept s)
    (h : next s l = some s') : s'.stop_all.Swept s' := by
  have he := effect_step hs.starts hs.holder h
  obtain hsame | ⟨rfl, hstep⟩ := next_stop_all h
  · rw [hsame]
    exact hswept.step he
  · cases hstep with
    | copy hbefore hfree => exact ⟨fun r hr => absurd hr (by simp), fun _ _ => trivial⟩
    | visit hbefore hk hread hvisit => exact swept_visit hs hcareful hbefore hk hread hswept hvisit
    | finish hbefore hk =>
      rw [hbefore] at hswept
      intro r hr
      have hall := hswept.1 r
      rw [List.take_of_length_le (List.getElem?_eq_none_iff.mp hk)] at hall
      exact (hall hr).step he

theorem swept (h : Reachable (system.restrict Careful) s) : s.stop_all.Swept s := by
  apply h.invariant (P := fun s => s.stop_all.Swept s) trivial
  intro s l s' hr hs hstep
  obtain ⟨hcareful, hnext⟩ := restrict_step.mp hstep
  exact swept_step (inv_reachable hr.of_restrict) hcareful hs hnext

/-- `stop_all` works with this copy of the jobs. -/
def StopAll.Copied (jobs : List Ref) : StopAll → Prop
  | .waiting => False
  | .visiting jobs' _ _ => jobs' = jobs
  | .finished jobs' => jobs' = jobs
  | .raised jobs' => jobs' = jobs

theorem copied_step {l : Label} (hcopied : s.stop_all.Copied jobs) (h : next s l = some s') :
    s'.stop_all.Copied jobs := by
  obtain hsame | ⟨_, hstep⟩ := next_stop_all h
  · rw [hsame]
    exact hcopied
  · cases hstep with
    | copy hbefore => rw [hbefore] at hcopied; exact hcopied.elim
    | finish hbefore => rw [hbefore] at hcopied; exact hcopied
    | visit hbefore hk hread hvisit =>
      rw [hbefore] at hcopied
      cases hvisit <;> exact hcopied

end sweep

/-! ### Every player is stopped -/

/-- In the runs of the system, from the copy of the jobs in `s` on: when
    `stop_all` has finished, every player of a job that was registered in `s`
    has exited or was sent `SIGINT`, and there are no more of them later. -/
def StopsPlayers (sys : System State Label) : Prop :=
  ∀ s s' t u, Reachable sys s → s.stop_all = .waiting → sys.step s .stop_all s' → Star sys s' t →
    (∃ jobs, t.stop_all = .finished jobs) → Star sys t u →
    ∀ user_id r, s.play.jobs.get? user_id = some r → ∀ p process, u.Plays r p process →
      (process.status.isSome = true ∨ process.interrupted = true) ∧ ∃ process₀, t.Plays r p process₀

section players

variable {s t u : State} {r p : Ref}

/-- A blocked job has only the players it had. -/
theorem Blocked.run (h : Blocked t r) (ht : Reachable system t) (hrun : Star system t u)
    {process : Playback.Process} (hp : u.Plays r p process) : ∃ process₀, t.Plays r p process₀ := by
  suffices hu : Blocked u r ∧ ∀ process, u.Plays r p process → ∃ process₀, t.Plays r p process₀ from
    hu.2 process hp
  apply hrun.stable (P := fun u => Blocked u r ∧
    ∀ process, u.Plays r p process → ∃ process₀, t.Plays r p process₀) ?_ ht
  · exact ⟨h, fun process hp => ⟨process, hp⟩⟩
  · intro v l v' hv hblocked hstep
    have hinv := inv_reachable hv
    have he := effect_step hinv.starts hinv.holder hstep
    refine ⟨hblocked.1.step he, fun process hp => ?_⟩
    obtain ⟨process', hp', _⟩ := hblocked.1.plays he hp
    exact hblocked.2 process' hp'

theorem finished_settled {jobs : List Ref} (hr : Reachable (system.restrict Careful) s)
    (hcopied : s.stop_all.Copied jobs) (hfinished : ∃ jobs, s.stop_all = .finished jobs)
    (hmem : r ∈ jobs) : Settled s r := by
  obtain ⟨jobs', hstop⟩ := hfinished
  have hswept := swept hr
  rw [hstop] at hcopied hswept
  rw [← (show jobs' = jobs from hcopied)] at hmem
  exact hswept r hmem

/-- With no job in its launch when `stop_all` looks for its process,
    `stop_all` stops the players. -/
theorem players_stopped {s' : State} (hs : Reachable (system.restrict Careful) s)
    (hwaiting : s.stop_all = .waiting) (hcopy : (system.restrict Careful).step s .stop_all s')
    (hrun : Star (system.restrict Careful) s' t) (hfinished : ∃ jobs, t.stop_all = .finished jobs)
    (hlater : Star (system.restrict Careful) t u) {user_id : Int}
    (hreg : s.play.jobs.get? user_id = some r) {process : Playback.Process}
    (hp : u.Plays r p process) :
    (process.status.isSome = true ∨ process.interrupted = true) ∧
      ∃ process₀, t.Plays r p process₀ := by
  have hmem : r ∈ s.play.jobs.values := (Dict.mem_values_iff _ r).mpr ⟨user_id, hreg⟩
  have ht : Reachable (system.restrict Careful) t := (hs.step hcopy).star hrun
  have hcopied : s'.stop_all.Copied s.play.jobs.values := by
    cases stop_all_next_step (restrict_step.mp hcopy).2 with
    | copy => rfl
    | visit hbefore => rw [hwaiting] at hbefore; cases hbefore
    | finish hbefore => rw [hwaiting] at hbefore; cases hbefore
  have hcopiedt : t.stop_all.Copied s.play.jobs.values := by
    apply hrun.preserves (P := fun t => t.stop_all.Copied s.play.jobs.values) ?_ hcopied
    intro v l v' h hstep
    exact copied_step h (restrict_step.mp hstep).2
  have hsettled := finished_settled ht hcopiedt hfinished hmem
  -- what is settled stays so
  have hu : Settled u r := by
    apply hlater.stable (P := fun u => Settled u r) ?_ ht hsettled
    intro v l v' hv hsettled hstep
    have hinv := inv_reachable hv.of_restrict
    exact hsettled.step (effect_step hinv.starts hinv.holder (restrict_step.mp hstep).2)
  exact ⟨hu.players p process hp, hsettled.blocked.run ht.of_restrict hlater.of_restrict hp⟩

end players

/-- A job up to its launch. -/
def announced : List Label := Playback.playing.dropLast.map .play

def launching : List Label := [.popen true, .store]

/-- With the player launched first, it is interrupted. -/
theorem players_stopped_sample :
    ∃ process, ((system.restrict Careful).play (announced ++ .check 0 :: launching ++
        List.replicate 8 .stop_all)).Plays 0 1 process ∧
      (process.status.isSome = true ∨ process.interrupted = true) := by
  let started := announced ++ .check 0 :: launching
  let finished := started ++ [.stop_all] ++ List.replicate 7 .stop_all
  have hcopy : (system.restrict Careful).step ((system.restrict Careful).play started) .stop_all
      ((system.restrict Careful).play (started ++ [.stop_all])) := step_play (by decide +kernel)
  have hregistered : ((system.restrict Careful).play started).play.jobs.get? 7 = some 0 := by
    decide +kernel
  have hplays : ((system.restrict Careful).play finished).Plays 0 1
      ⟨.player, 0, none, true, false⟩ := ⟨by decide +kernel, rfl, rfl⟩
  exact ⟨_, hplays, (players_stopped (reachable_play started) (by decide +kernel) hcopy
    (star_play _ _) ⟨[0], by decide +kernel⟩ (Star.refl _) hregistered hplays).1⟩

/-! ### A player that is missed -/

/-- `stop_all` cancels the job behind the check of its thread, and finds no
    process. -/
def missing : List Label := [.check 0, .stop_all, .stop_all, .stop_all]

theorem player_missed : ¬StopsPlayers system := by
  intro h
  have hcopy : system.step (system.play announced) .stop_all (system.play (announced ++ [.stop_all])) :=
    step_play (by decide)
  have hrun : Star system (system.play (announced ++ [.stop_all]))
      (system.play (announced ++ [.stop_all] ++ missing)) := star_play _ _
  have hlater : Star system (system.play (announced ++ [.stop_all] ++ missing))
      (system.play (announced ++ [.stop_all] ++ missing ++ launching)) := star_play _ _
  have hplays : (system.play (announced ++ [.stop_all] ++ missing ++ launching)).Plays 0 1
      ⟨.player, 0, none, false, false⟩ := ⟨by decide, rfl, rfl⟩
  obtain ⟨hstopped, _⟩ := h _ _ _ _ (reachable_play announced) (by decide) hcopy hrun
    ⟨[0], by decide⟩ hlater 7 0 (by decide) 1 _ hplays
  revert hstopped
  decide

end BoVpnAgent.Shutdown

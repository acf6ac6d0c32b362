import BoVpnAgent.Lib.Dict
import BoVpnAgent.Lib.Heap
import BoVpnAgent.Lib.Transition

/-! # Playback jobs and their threads

    The main loop of the bot registers a `PlaybackJob` for a user and starts a
    thread that runs `_play`; `/stop` runs in the main loop again.  The thread
    prepares the file with one process and plays it with another one, the
    player.

    A step is one critical section, or one event outside of the lock that
    another thread can observe: in every state of this system the lock is
    free.  The labels carry what the code does not decide: which calls to
    Telegram and to the worker raise, and when and how a process exits.
-/

namespace BoVpnAgent.Playback

open Lts

/-! ### State -/

/-- What a process was started for: `_prepare_audio`, or `audio_script`. -/
inductive Kind where
  | preparation
  | player
  deriving DecidableEq

/-- A process, with the job whose thread has started it. -/
structure Process where
  kind : Kind
  job : Ref
  /-- whether it exited with status 0; `none` while it is alive -/
  status : Option Bool
  /-- `SIGINT` was sent to its process group -/
  interrupted : Bool
  /-- `terminate()` was called on it -/
  terminated : Bool
  deriving DecidableEq

/-- Where the thread of a job stands in `_play`. -/
inductive Stage where
  /-- registered, the thread is not running -/
  | unborn
  /-- the message in front of the download, and the download -/
  | downloading
  /-- `if job.cancelled` behind the download -/
  | downloaded
  /-- the message in front of `_prepare_audio`, and its `Popen` -/
  | preparing
  /-- `job.process = process` is next -/
  | spawned (process : Ref)
  /-- `if job.cancelled: process.terminate()` is next -/
  | stored (process : Ref)
  /-- in `process.wait(timeout=120)` -/
  | converting (process : Ref)
  /-- the `finally` clause of `_prepare_audio`; `failed` when it raises -/
  | clearing (failed : Bool)
  /-- `if job.cancelled` behind the preparation -/
  | prepared
  /-- the message in front of `_ensure_vehicle_ready`, and that -/
  | checking
  /-- `if job.cancelled` behind the check -/
  | ready
  /-- the message in front of the launch -/
  | announcing
  /-- the locked launch is next -/
  | launching
  /-- in the loop over `process.stdout` -/
  | reading (process : Ref)
  /-- in `process.wait()` -/
  | waiting (process : Ref)
  /-- the message behind the playback -/
  | reporting
  /-- the message of a job that was cancelled -/
  | cancelling
  /-- the message of the `except` clause -/
  | failing
  /-- the `finally` clause -/
  | closing
  | ended
  deriving DecidableEq

/-- `PlaybackJob`, with its user and its thread. -/
structure Job where
  user_id : Int
  cancelled : Bool
  process : Option Ref
  stage : Stage
  deriving DecidableEq

/-- Where the main loop stands. -/
inductive Main where
  | idle
  /-- `handle_message` has found no job of the user -/
  | registering (user_id : Int)
  /-- the job is registered, its thread is not started -/
  | starting (job : Ref)
  /-- `_stop` is behind its critical section -/
  | inspecting (job : Ref) (process : Option Ref)
  /-- `_stop` has found the process alive -/
  | killing (process : Ref)
  deriving DecidableEq

structure State where
  /-- `self.jobs` -/
  jobs : Dict Int Ref
  heap : Heap Job
  processes : Heap Process
  main : Main

def initial : State := ⟨Dict.empty, Heap.empty, Heap.empty, .idle⟩

/-! ### Stages -/

/-- The calls in front of the next statement return. -/
def Stage.returned : Stage → Option Stage
  | .downloading => some .downloaded
  | .checking => some .ready
  | .announcing => some .launching
  | .reading process => some (.reading process)
  | .reporting => some .closing
  | .cancelling => some .closing
  | .failing => some .closing
  | _ => none

/-- A call raises. -/
def Stage.raised : Stage → Option Stage
  | .downloading | .preparing | .checking | .announcing | .launching | .reading _ | .reporting
  | .cancelling => some .failing
  -- the message of the `except` clause is not caught again
  | .failing => some .closing
  -- a file that cannot be removed, in front of the critical section
  | .closing => some .ended
  | _ => none

/-- `if job.cancelled`, outside of the lock. -/
def Stage.looked (cancelled : Bool) : Stage → Option Stage
  | .downloaded => some (if cancelled then .cancelling else .preparing)
  | .prepared => some (if cancelled then .cancelling else .checking)
  | .ready => some (if cancelled then .cancelling else .announcing)
  | _ => none

/-! ### Steps -/

/-- The steps of a job's thread. -/
inductive Action where
  | returns
  | raises
  | look
  /-- the `Popen` of `_prepare_audio` -/
  | spawn
  | store
  | terminate
  /-- `process.wait` returns -/
  | wait
  | timeout
  | clear
  /-- the critical section with the `Popen` of the player -/
  | launch
  /-- the output of the player ends -/
  | eof
  /-- the critical section of the `finally` clause -/
  | close
  deriving DecidableEq

inductive Label where
  /-- `handle_message` looks for a job of the user and finds none. -/
  | take (user_id : Int)
  | register
  | start (ok : Bool)
  /-- The critical section of `_stop`, for a user with a job. -/
  | stop (user_id : Int)
  /-- `process.poll()` -/
  | inspect
  /-- `os.killpg(process.pid, signal.SIGINT)` -/
  | kill
  | thread (job : Ref) (action : Action)
  | exits (process : Ref) (ok : Bool)
  deriving DecidableEq

/-- The object of a job is replaced. -/
def State.put (s : State) (r : Ref) (job : Job) : State := { s with heap := s.heap.write r job }

/-- A process is replaced. -/
def State.mark (s : State) (p : Ref) (process : Process) : State :=
  { s with processes := s.processes.write p process }

/-- `subprocess.Popen` -/
def State.popen (s : State) (kind : Kind) (r : Ref) : State :=
  { s with processes := s.processes.alloc ⟨kind, r, none, false, false⟩ }

/-- `process.poll() is None` -/
def State.alive (s : State) (p : Ref) : Bool :=
  match s.processes.read p with
  | some process => process.status.isNone
  | none => false

/-- A step of the thread of `job`. -/
def thread_next (s : State) (r : Ref) (job : Job) : Action → Option State
  | .returns => job.stage.returned.map fun stage => s.put r { job with stage := stage }
  | .raises => job.stage.raised.map fun stage => s.put r { job with stage := stage }
  | .look => (job.stage.looked job.cancelled).map fun stage => s.put r { job with stage := stage }
  | .spawn =>
    if job.stage = .preparing then
      some ((s.popen .preparation r).put r { job with stage := .spawned s.processes.next })
    else none
  | .store =>
    match job.stage with
    | .spawned p => some (s.put r { job with process := some p, stage := .stored p })
    | _ => none
  | .terminate =>
    match job.stage with
    | .stored p => do
      let process ← s.processes.read p
      some ((s.mark p { process with terminated := process.terminated || job.cancelled }).put r
        { job with stage := .converting p })
    | _ => none
  | .wait =>
    match job.stage with
    | .converting p => do
      let process ← s.processes.read p
      let ok ← process.status
      some (s.put r { job with stage := .clearing (!ok && !job.cancelled) })
    | .waiting p => do
      let process ← s.processes.read p
      if process.status.isSome then some (s.put r { job with stage := .reporting }) else none
    | _ => none
  | .timeout =>
    match job.stage with
    | .converting p => do
      let process ← s.processes.read p
      some ((s.mark p { process with status := some (process.status.getD false) }).put r
        { job with stage := .clearing true })
    | _ => none
  | .clear =>
    match job.stage with
    | .clearing failed =>
      some (s.put r { job with process := none, stage := if failed then .failing else .prepared })
    | _ => none
  | .launch =>
    if job.stage = .launching then
      if job.cancelled then some (s.put r { job with stage := .closing })
      else
        some ((s.popen .player r).put r
          { job with process := some s.processes.next, stage := .reading s.processes.next })
    else none
  | .eof =>
    match job.stage with
    | .reading p => some (s.put r { job with stage := .waiting p })
    | _ => none
  | .close =>
    if job.stage = .closing then
      let jobs := if s.jobs.get? job.user_id = some r then s.jobs.pop job.user_id else s.jobs
      some ({ s with jobs := jobs }.put r { job with stage := .ended })
    else none

/-- A step of the main loop. -/
def main_next (s : State) : Label → Option State
  | .take user_id =>
    if s.main = .idle ∧ s.jobs.get? user_id = none then
      some { s with main := .registering user_id }
    else none
  | .register =>
    match s.main with
    | .registering user_id =>
      some { s with jobs := s.jobs.set user_id s.heap.next
                    heap := s.heap.alloc ⟨user_id, false, none, .unborn⟩
                    main := .starting s.heap.next }
    | _ => none
  | .start ok =>
    match s.main with
    | .starting r => do
      let job ← s.heap.read r
      let stage := if ok then .downloading else job.stage
      some { s.put r { job with stage := stage } with main := .idle }
    | _ => none
  | .stop user_id =>
    if s.main = .idle then do
      let r ← s.jobs.get? user_id
      let job ← s.heap.read r
      some { s.put r { job with cancelled := true } with main := .inspecting r job.process }
    else none
  | .inspect =>
    match s.main with
    | .inspecting _ process =>
      match process with
      | some p => some { s with main := if s.alive p then .killing p else .idle }
      | none => some { s with main := .idle }
    | _ => none
  | .kill =>
    match s.main with
    | .killing p => do
      let process ← s.processes.read p
      some { s.mark p { process with interrupted := true } with main := .idle }
    | _ => none
  | _ => none

def next (s : State) : Label → Option State
  | .thread r action => do
    let job ← s.heap.read r
    thread_next s r job action
  | .exits p ok => do
    let process ← s.processes.read p
    if process.status = none then some (s.mark p { process with status := some ok }) else none
  | l => main_next s l

def system : System State Label := ⟨initial, next⟩

/-! ### The cases of a step -/

/-- The cases of `thread_next`, with what each one needs. -/
inductive ThreadStep (s : State) (r : Ref) (job : Job) : Action → State → Prop where
  | returns {stage : Stage} (hstage : job.stage.returned = some stage) :
    ThreadStep s r job .returns (s.put r { job with stage := stage })
  | raises {stage : Stage} (hstage : job.stage.raised = some stage) :
    ThreadStep s r job .raises (s.put r { job with stage := stage })
  | look {stage : Stage} (hstage : job.stage.looked job.cancelled = some stage) :
    ThreadStep s r job .look (s.put r { job with stage := stage })
  | spawn (hstage : job.stage = .preparing) :
    ThreadStep s r job .spawn
      ((s.popen .preparation r).put r { job with stage := .spawned s.processes.next })
  | store {p : Ref} (hstage : job.stage = .spawned p) :
    ThreadStep s r job .store (s.put r { job with process := some p, stage := .stored p })
  | terminate {p : Ref} {process : Process} (hstage : job.stage = .stored p)
      (hp : s.processes.read p = some process) :
    ThreadStep s r job .terminate
      ((s.mark p { process with terminated := process.terminated || job.cancelled }).put r
        { job with stage := .converting p })
  | wait_preparation {p : Ref} {process : Process} {ok : Bool} (hstage : job.stage = .converting p)
      (hp : s.processes.read p = some process) (hok : process.status = some ok) :
    ThreadStep s r job .wait (s.put r { job with stage := .clearing (!ok && !job.cancelled) })
  | wait_player {p : Ref} {process : Process} (hstage : job.stage = .waiting p)
      (hp : s.processes.read p = some process) (hexited : process.status.isSome = true) :
    ThreadStep s r job .wait (s.put r { job with stage := .reporting })
  | timeout {p : Ref} {process : Process} (hstage : job.stage = .converting p)
      (hp : s.processes.read p = some process) :
    ThreadStep s r job .timeout
      ((s.mark p { process with status := some (process.status.getD false) }).put r
        { job with stage := .clearing true })
  | clear {failed : Bool} (hstage : job.stage = .clearing failed) :
    ThreadStep s r job .clear
      (s.put r { job with process := none, stage := if failed then .failing else .prepared })
  | skip_launch (hstage : job.stage = .launching) (hcancelled : job.cancelled = true) :
    ThreadStep s r job .launch (s.put r { job with stage := .closing })
  | launch (hstage : job.stage = .launching) (hcancelled : job.cancelled = false) :
    ThreadStep s r job .launch
      ((s.popen .player r).put r
        { job with process := some s.processes.next, stage := .reading s.processes.next })
  | eof {p : Ref} (hstage : job.stage = .reading p) :
    ThreadStep s r job .eof (s.put r { job with stage := .waiting p })
  | close (hstage : job.stage = .closing) :
    ThreadStep s r job .close
      ({ s with jobs := if s.jobs.get? job.user_id = some r then s.jobs.pop job.user_id
                        else s.jobs }.put r { job with stage := .ended })

theorem thread_next_step {s s' : State} {r : Ref} {job : Job} {action : Action}
    (h : thread_next s r job action = some s') : ThreadStep s r job action s' := by
  cases action with
  | returns =>
    obtain ⟨stage, hstage, rfl⟩ := Option.map_eq_some_iff.mp h
    exact .returns hstage
  | raises =>
    obtain ⟨stage, hstage, rfl⟩ := Option.map_eq_some_iff.mp h
    exact .raises hstage
  | look =>
    obtain ⟨stage, hstage, rfl⟩ := Option.map_eq_some_iff.mp h
    exact .look hstage
  | spawn =>
    simp only [thread_next] at h
    split at h
    · next hstage => cases h; exact .spawn hstage
    · cases h
  | store =>
    simp only [thread_next] at h
    split at h
    · next p hstage => cases h; exact .store hstage
    · cases h
  | terminate =>
    simp only [thread_next] at h
    split at h
    · next p hstage =>
      obtain ⟨process, hp, h⟩ := Option.bind_eq_some_iff.mp h
      cases h
      exact .terminate hstage hp
    · cases h
  -- the same call waits for the conversion and for the player
  | wait =>
    simp only [thread_next] at h
    split at h
    · next p hstage =>
      obtain ⟨process, hp, h⟩ := Option.bind_eq_some_iff.mp h
      obtain ⟨ok, hok, h⟩ := Option.bind_eq_some_iff.mp h
      cases h
      exact .wait_preparation hstage hp hok
    · next p hstage =>
      obtain ⟨process, hp, h⟩ := Option.bind_eq_some_iff.mp h
      split at h
      · next hexited => cases h; exact .wait_player hstage hp hexited
      · cases h
    · cases h
  | timeout =>
    simp only [thread_next] at h
    split at h
    · next p hstage =>
      obtain ⟨process, hp, h⟩ := Option.bind_eq_some_iff.mp h
      cases h
      exact .timeout hstage hp
    · cases h
  | clear =>
    simp only [thread_next] at h
    split at h
    · next failed hstage => cases h; exact .clear hstage
    · cases h
  | launch =>
    simp only [thread_next] at h
    split at h
    · next hstage =>
      split at h
      · next hcancelled => cases h; exact .skip_launch hstage hcancelled
      · next hcancelled => cases h; exact .launch hstage (Bool.eq_false_iff.mpr hcancelled)
    · cases h
  | eof =>
    simp only [thread_next] at h
    split at h
    · next p hstage => cases h; exact .eof hstage
    · cases h
  | close =>
    simp only [thread_next] at h
    split at h
    · next hstage => cases h; exact .close hstage
    · cases h

/-- The cases of `main_next`. -/
inductive MainStep (s : State) : Label → State → Prop where
  | take {user_id : Int} (hmain : s.main = .idle) (hfree : s.jobs.get? user_id = none) :
    MainStep s (.take user_id) { s with main := .registering user_id }
  | register {user_id : Int} (hmain : s.main = .registering user_id) :
    MainStep s .register
      { s with jobs := s.jobs.set user_id s.heap.next
               heap := s.heap.alloc ⟨user_id, false, none, .unborn⟩
               main := .starting s.heap.next }
  | start {ok : Bool} {r : Ref} {job : Job} (hmain : s.main = .starting r)
      (hr : s.heap.read r = some job) :
    MainStep s (.start ok)
      { s.put r { job with stage := if ok then .downloading else job.stage } with main := .idle }
  | stop {user_id : Int} {r : Ref} {job : Job} (hmain : s.main = .idle)
      (hreg : s.jobs.get? user_id = some r) (hr : s.heap.read r = some job) :
    MainStep s (.stop user_id)
      { s.put r { job with cancelled := true } with main := .inspecting r job.process }
  | inspect_process {r p : Ref} (hmain : s.main = .inspecting r (some p)) :
    MainStep s .inspect { s with main := if s.alive p then .killing p else .idle }
  | inspect_none {r : Ref} (hmain : s.main = .inspecting r none) :
    MainStep s .inspect { s with main := .idle }
  | kill {p : Ref} {process : Process} (hmain : s.main = .killing p)
      (hp : s.processes.read p = some process) :
    MainStep s .kill { s.mark p { process with interrupted := true } with main := .idle }

theorem main_next_step {s s' : State} {l : Label} (h : main_next s l = some s') : MainStep s l s' := by
  cases l with
  | take user_id =>
    simp only [main_next] at h
    split at h
    · next hguard => cases h; exact .take hguard.1 hguard.2
    · cases h
  | register =>
    simp only [main_next] at h
    split at h
    · next user_id hmain => cases h; exact .register hmain
    · cases h
  | start ok =>
    simp only [main_next] at h
    split at h
    · next r hmain =>
      obtain ⟨job, hr, h⟩ := Option.bind_eq_some_iff.mp h
      cases h
      exact .start hmain hr
    · cases h
  | stop user_id =>
    simp only [main_next] at h
    split at h
    · next hmain =>
      obtain ⟨r, hreg, h⟩ := Option.bind_eq_some_iff.mp h
      obtain ⟨job, hr, h⟩ := Option.bind_eq_some_iff.mp h
      cases h
      exact .stop hmain hreg hr
    · cases h
  | inspect =>
    simp only [main_next] at h
    split at h
    · next r process hmain =>
      cases process with
      | some p => cases h; exact .inspect_process hmain
      | none => cases h; exact .inspect_none hmain
    · cases h
  | kill =>
    simp only [main_next] at h
    split at h
    · next p hmain =>
      obtain ⟨process, hp, h⟩ := Option.bind_eq_some_iff.mp h
      cases h
      exact .kill hmain hp
    · cases h
  | thread r action => cases h
  | exits p ok => cases h

/-! ### Invariants -/

/-- The stages at which `job.process` is the process the thread works with. -/
def Stage.Holds (p : Ref) (stage : Stage) : Prop :=
  stage = .stored p ∨ stage = .converting p ∨ stage = .reading p ∨ stage = .waiting p

/-- The stages behind the launch. -/
def Stage.Launched : Stage → Prop
  | .reading _ | .waiting _ | .reporting | .failing | .closing | .ended => True
  | _ => False

/-- What the threads and the main loop keep. -/
structure Inv (s : State) : Prop where
  /-- a job is registered until its thread has ended -/
  registered : ∀ r job, s.heap.read r = some job → job.stage ≠ .ended →
    s.jobs.get? job.user_id = some r
  held : ∀ r job, s.heap.read r = some job → ∀ p, job.stage.Holds p → job.process = some p
  refs : ∀ user_id r, s.jobs.get? user_id = some r →
    ∃ job, s.heap.read r = some job ∧ job.user_id = user_id
  /-- a player is the process of the job that has launched it -/
  players : ∀ p process, s.processes.read p = some process → process.kind = .player →
    ∃ job, s.heap.read process.job = some job ∧ job.process = some p ∧ job.stage.Launched
  free : ∀ user_id, s.main = .registering user_id → s.jobs.get? user_id = none
  unborn : ∀ r, s.main = .starting r → ∃ job, s.heap.read r = some job ∧ job.stage = .unborn

theorem inv_initial : Inv initial where
  registered := by
    intro r job h
    simp [initial] at h
  held := by
    intro r job h
    simp [initial] at h
  refs := by
    intro user_id r h
    simp [initial] at h
  players := by
    intro p process h
    simp [initial] at h
  free := by
    intro user_id h
    cases h
  unborn := by
    intro r h
    cases h

section updates

variable {s : State}

/-- The job that is about to be started has no thread yet. -/
theorem Inv.stage_starting (hs : Inv s) {r : Ref} {job : Job} (hr : s.heap.read r = some job)
    (hmain : s.main = .starting r) : job.stage = .unborn := by
  obtain ⟨job', hread, hunborn⟩ := hs.unborn r hmain
  rw [hr] at hread
  rw [← Option.some.inj hread] at hunborn
  exact hunborn

theorem Inv.not_starting (hs : Inv s) {r : Ref} {job : Job} (hr : s.heap.read r = some job)
    (hborn : job.stage ≠ .unborn) : s.main ≠ .starting r := by
  intro hmain
  exact hborn (hs.stage_starting hr hmain)

/-- A thread goes on. -/
theorem Inv.put (hs : Inv s) {r : Ref} {job job' : Job} (hr : s.heap.read r = some job)
    (huser : job'.user_id = job.user_id) (hended : job.stage = .ended → job'.stage = .ended)
    (hheld : ∀ p, job'.stage.Holds p → job'.process = some p)
    (hlaunched : job.stage.Launched → job'.stage.Launched ∧ job'.process = job.process)
    (hunborn : s.main = .starting r → job'.stage = .unborn) : Inv (s.put r job') where
  registered := by
    intro r' job'' h hne
    obtain ⟨rfl, rfl⟩ | ⟨_, h⟩ := Heap.read_write_cases h
    · rw [huser]
      exact hs.registered r' job hr fun h => hne (hended h)
    · exact hs.registered r' job'' h hne
  held := by
    intro r' job'' h
    obtain ⟨rfl, rfl⟩ | ⟨_, h⟩ := Heap.read_write_cases h
    · exact hheld
    · exact hs.held r' job'' h
  refs := by
    intro user_id r' h
    obtain ⟨job'', hread, hid⟩ := hs.refs user_id r' h
    by_cases heq : r' = r
    · rw [heq, hr] at hread
      rw [heq]
      exact ⟨job', Heap.read_write_self hr job', huser.trans (Option.some.inj hread ▸ hid)⟩
    · exact ⟨job'', (Heap.read_write_ne _ _ (Ne.symm heq)).trans hread, hid⟩
  players := by
    intro p process h hkind
    obtain ⟨job'', hread, hprocess, hstage⟩ := hs.players p process h hkind
    by_cases heq : process.job = r
    · rw [heq, hr] at hread
      rw [heq]
      rw [← Option.some.inj hread] at hprocess hstage
      obtain ⟨hstage', hsame⟩ := hlaunched hstage
      exact ⟨job', Heap.read_write_self hr job', hsame.trans hprocess, hstage'⟩
    · exact ⟨job'', (Heap.read_write_ne _ _ (Ne.symm heq)).trans hread, hprocess, hstage⟩
  free := hs.free
  unborn := by
    intro r' h
    obtain ⟨job'', hread, hstage⟩ := hs.unborn r' h
    by_cases heq : r' = r
    · rw [heq]
      exact ⟨job', Heap.read_write_self hr job', hunborn (heq ▸ h)⟩
    · exact ⟨job'', (Heap.read_write_ne _ _ (Ne.symm heq)).trans hread, hstage⟩

/-- A process is signalled, or exits. -/
theorem Inv.mark (hs : Inv s) {p : Ref} {process process' : Process}
    (hp : s.processes.read p = some process) (hkind : process'.kind = process.kind)
    (hjob : process'.job = process.job) : Inv (s.mark p process') where
  registered := hs.registered
  held := hs.held
  refs := hs.refs
  players := by
    intro q process'' h hplayer
    obtain ⟨rfl, rfl⟩ | ⟨_, h⟩ := Heap.read_write_cases h
    · rw [hjob]
      exact hs.players q process hp (hkind ▸ hplayer)
    · exact hs.players q process'' h hplayer
  free := hs.free
  unborn := hs.unborn

/-- A process that is not a player is started. -/
theorem Inv.popen_preparation (hs : Inv s) (r : Ref) : Inv (s.popen .preparation r) where
  registered := hs.registered
  held := hs.held
  refs := hs.refs
  players := by
    intro p process h hplayer
    obtain h | ⟨_, rfl⟩ := Heap.read_alloc_cases h
    · exact hs.players p process h hplayer
    · cases hplayer
  free := hs.free
  unborn := hs.unborn

/-- The main loop goes on. -/
theorem Inv.move (hs : Inv s) {main : Main}
    (hfree : ∀ user_id, main = .registering user_id → s.jobs.get? user_id = none)
    (hunborn : ∀ r, main = .starting r → ∃ job, s.heap.read r = some job ∧ job.stage = .unborn) :
    Inv { s with main := main } where
  registered := hs.registered
  held := hs.held
  refs := hs.refs
  players := hs.players
  free := hfree
  unborn := hunborn

/-- What every step from one stage to another keeps. -/
structure Stage.Follows (stage stage' : Stage) : Prop where
  not_ended : stage ≠ .ended
  born : stage ≠ .unborn
  launched : stage.Launched → stage'.Launched
  held : ∀ p, stage'.Holds p → stage.Holds p

theorem follows_returned {stage stage' : Stage} (h : stage.returned = some stage') :
    stage.Follows stage' where
  not_ended := by
    intro hended
    rw [hended] at h
    cases h
  born := by
    intro hunborn
    rw [hunborn] at h
    cases h
  launched := by
    intro hlaunched
    cases stage <;> cases h <;> first | exact hlaunched | trivial
  held := by
    intro p hp
    cases stage <;> cases h <;> simp_all [Stage.Holds]

theorem follows_raised {stage stage' : Stage} (h : stage.raised = some stage') :
    stage.Follows stage' where
  not_ended := by
    intro hended
    rw [hended] at h
    cases h
  born := by
    intro hunborn
    rw [hunborn] at h
    cases h
  launched := by
    intro hlaunched
    cases stage <;> cases h <;> first | exact hlaunched | trivial
  held := by
    intro p hp
    cases stage <;> cases h <;> simp_all [Stage.Holds]

theorem follows_looked {cancelled : Bool} {stage stage' : Stage}
    (h : stage.looked cancelled = some stage') : stage.Follows stage' where
  not_ended := by
    intro hended
    rw [hended] at h
    cases h
  born := by
    intro hunborn
    rw [hunborn] at h
    cases h
  launched := by
    intro hlaunched
    cases stage <;> first | exact hlaunched.elim | cases h
  held := by
    intro p hp
    cases cancelled <;> cases stage <;> cases h <;> simp_all [Stage.Holds]

theorem Inv.advance (hs : Inv s) {r : Ref} {job : Job} (hr : s.heap.read r = some job)
    {stage : Stage} (hstage : job.stage.Follows stage) :
    Inv (s.put r { job with stage := stage }) := by
  apply hs.put hr
  · rfl
  · intro hended
    exact absurd hended hstage.not_ended
  · intro p hp
    exact hs.held r job hr p (hstage.held p hp)
  · intro hlaunched
    exact ⟨hstage.launched hlaunched, rfl⟩
  · intro hmain
    obtain ⟨job', hread, hunborn⟩ := hs.unborn r hmain
    rw [hr] at hread
    rw [← Option.some.inj hread] at hunborn
    exact absurd hunborn hstage.born

/-- The player is launched. -/
theorem Inv.launch (hs : Inv s) {r : Ref} {job : Job} (hr : s.heap.read r = some job)
    (hstage : job.stage = .launching) :
    Inv ((s.popen .player r).put r
      { job with process := some s.processes.next, stage := .reading s.processes.next }) where
  registered := by
    intro r' job' h hne
    obtain ⟨rfl, rfl⟩ | ⟨_, h⟩ := Heap.read_write_cases h
    · exact hs.registered r' job hr (by rw [hstage]; decide)
    · exact hs.registered r' job' h hne
  held := by
    intro r' job' h p hp
    obtain ⟨rfl, rfl⟩ | ⟨_, h⟩ := Heap.read_write_cases h
    · obtain hp | hp | hp | hp := hp
      · cases hp
      · cases hp
      · cases hp
        rfl
      · cases hp
    · exact hs.held r' job' h p hp
  refs := by
    intro user_id r' h
    obtain ⟨job', hread, hid⟩ := hs.refs user_id r' h
    by_cases heq : r' = r
    · rw [heq, hr] at hread
      rw [heq]
      exact ⟨_, Heap.read_write_self hr _, Option.some.inj hread ▸ hid⟩
    · exact ⟨job', (Heap.read_write_ne _ _ (Ne.symm heq)).trans hread, hid⟩
  players := by
    intro p process h hplayer
    -- an older player, or the one that is started here
    obtain h | ⟨rfl, rfl⟩ := Heap.read_alloc_cases h
    · -- a job in front of its launch has no player
      obtain ⟨job', hread, hprocess, hlaunched⟩ := hs.players p process h hplayer
      have hne : process.job ≠ r := by
        intro heq
        rw [heq, hr] at hread
        rw [← Option.some.inj hread, hstage] at hlaunched
        exact hlaunched
      exact ⟨job', (Heap.read_write_ne _ _ hne.symm).trans hread, hprocess, hlaunched⟩
    · exact ⟨_, Heap.read_write_self hr _, rfl, trivial⟩
  free := hs.free
  unborn := by
    intro r' h
    obtain ⟨job', hread, hunborn⟩ := hs.unborn r' h
    have hne : r' ≠ r := by
      intro heq
      rw [heq] at h
      exact hs.not_starting hr (by rw [hstage]; simp) h
    exact ⟨job', (Heap.read_write_ne _ _ hne.symm).trans hread, hunborn⟩

/-- The job is taken out of `self.jobs`. -/
theorem Inv.close (hs : Inv s) {r : Ref} {job : Job} (hr : s.heap.read r = some job)
    (hstage : job.stage = .closing) :
    Inv ({ s with jobs := s.jobs.pop job.user_id }.put r { job with stage := .ended }) where
  registered := by
    intro r' job' h hne
    obtain ⟨rfl, rfl⟩ | ⟨hr', h⟩ := Heap.read_write_cases h
    · exact absurd rfl hne
    · -- another open job belongs to another user
      have hother := hs.registered r' job' h hne
      have hself := hs.registered r job hr (by rw [hstage]; decide)
      have huser : job'.user_id ≠ job.user_id := by
        intro heq
        rw [heq, hself] at hother
        exact hr' (Option.some.inj hother).symm
      exact (Dict.get?_pop_ne s.jobs huser.symm).trans hother
  held := by
    intro r' job' h p hp
    obtain ⟨rfl, rfl⟩ | ⟨_, h⟩ := Heap.read_write_cases h
    · obtain hp | hp | hp | hp := hp
      · cases hp
      · cases hp
      · cases hp
      · cases hp
    · exact hs.held r' job' h p hp
  refs := by
    intro user_id r' h
    have hne : job.user_id ≠ user_id := by
      intro heq
      rw [← heq] at h
      exact absurd ((Dict.get?_pop_self s.jobs job.user_id).symm.trans h) (by simp)
    obtain ⟨job', hread, hid⟩ := hs.refs user_id r' ((Dict.get?_pop_ne s.jobs hne).symm.trans h)
    have hr' : r' ≠ r := by
      intro heq
      rw [heq, hr] at hread
      exact hne (Option.some.inj hread ▸ hid)
    exact ⟨job', (Heap.read_write_ne _ _ hr'.symm).trans hread, hid⟩
  players := by
    intro p process h hplayer
    obtain ⟨job', hread, hprocess, hlaunched⟩ := hs.players p process h hplayer
    by_cases heq : process.job = r
    · rw [heq, hr] at hread
      rw [heq]
      rw [← Option.some.inj hread] at hprocess
      exact ⟨_, Heap.read_write_self hr _, hprocess, trivial⟩
    · exact ⟨job', (Heap.read_write_ne _ _ (Ne.symm heq)).trans hread, hprocess, hlaunched⟩
  free := by
    intro user_id h
    by_cases heq : job.user_id = user_id
    · rw [← heq]
      exact Dict.get?_pop_self s.jobs job.user_id
    · exact (Dict.get?_pop_ne s.jobs heq).trans (hs.free user_id h)
  unborn := by
    intro r' h
    obtain ⟨job', hread, hunborn⟩ := hs.unborn r' h
    have hne : r' ≠ r := by
      intro heq
      rw [heq] at h
      exact hs.not_starting hr (by rw [hstage]; simp) h
    exact ⟨job', (Heap.read_write_ne _ _ hne.symm).trans hread, hunborn⟩

/-- A job is registered for a user who has none. -/
theorem Inv.register (hs : Inv s) {user_id : Int} (hfree : s.jobs.get? user_id = none) :
    Inv { s with jobs := s.jobs.set user_id s.heap.next
                 heap := s.heap.alloc ⟨user_id, false, none, .unborn⟩
                 main := .starting s.heap.next } where
  registered := by
    intro r job h hne
    obtain h | ⟨rfl, rfl⟩ := Heap.read_alloc_cases h
    · have hold := hs.registered r job h hne
      have huser : user_id ≠ job.user_id := by
        intro heq
        rw [← heq, hfree] at hold
        cases hold
      exact (Dict.get?_set_ne s.jobs _ huser).trans hold
    · exact Dict.get?_set_self s.jobs user_id _
  held := by
    intro r job h p hp
    obtain h | ⟨rfl, rfl⟩ := Heap.read_alloc_cases h
    · exact hs.held r job h p hp
    · obtain hp | hp | hp | hp := hp
      · cases hp
      · cases hp
      · cases hp
      · cases hp
  refs := by
    intro user_id' r h
    by_cases heq : user_id = user_id'
    · rw [heq, Dict.get?_set_self] at h
      rw [← Option.some.inj h]
      exact ⟨_, Heap.read_alloc_next _ _, heq⟩
    · rw [Dict.get?_set_ne s.jobs _ heq] at h
      obtain ⟨job, hread, hid⟩ := hs.refs user_id' r h
      exact ⟨job, Heap.read_alloc_of_some hread _, hid⟩
  players := by
    intro p process h hplayer
    obtain ⟨job, hread, hprocess, hlaunched⟩ := hs.players p process h hplayer
    exact ⟨job, Heap.read_alloc_of_some hread _, hprocess, hlaunched⟩
  free := by
    intro user_id' h
    cases h
  unborn := by
    intro r h
    cases h
    exact ⟨_, Heap.read_alloc_next _ _, rfl⟩

/-- A step of a thread. -/
theorem Inv.thread (hs : Inv s) {r : Ref} {job : Job} (hr : s.heap.read r = some job)
    {action : Action} {s' : State} (h : thread_next s r job action = some s') : Inv s' := by
  -- most steps only move the stage on, as `Follows` allows
  cases thread_next_step h with
  | returns hstage => exact hs.advance hr (follows_returned hstage)
  | raises hstage => exact hs.advance hr (follows_raised hstage)
  | look hstage => exact hs.advance hr (follows_looked hstage)
  | spawn hstage =>
    have hfollows : job.stage.Follows (.spawned s.processes.next) := by
      rw [hstage]
      exact ⟨by decide, by decide, fun h => h.elim, by simp [Stage.Holds]⟩
    exact (hs.popen_preparation r).advance hr hfollows
  | store hstage =>
    apply hs.put hr
    · rfl
    · intro hended
      rw [hstage] at hended
      cases hended
    · -- `job.process` holds the process from here on
      intro q hq
      obtain hq | hq | hq | hq := hq
      · cases hq
        rfl
      · cases hq
      · cases hq
      · cases hq
    · intro hlaunched
      rw [hstage] at hlaunched
      exact hlaunched.elim
    · intro hmain
      exact absurd hmain (hs.not_starting hr (by rw [hstage]; simp))
  | terminate hstage hp =>
    rename_i p process
    have hfollows : job.stage.Follows (.converting p) := by
      rw [hstage]
      exact ⟨by simp, by simp, fun h => h.elim, by simp [Stage.Holds]⟩
    have hmarked : Inv (s.mark p
        { process with terminated := process.terminated || job.cancelled }) :=
      hs.mark hp rfl rfl
    exact hmarked.advance hr hfollows
  | wait_preparation hstage hp hok =>
    apply hs.advance hr
    rw [hstage]
    exact ⟨by simp, by simp, fun h => h.elim, by simp [Stage.Holds]⟩
  | wait_player hstage hp hexited =>
    apply hs.advance hr
    rw [hstage]
    exact ⟨by simp, by simp, fun _ => trivial, by simp [Stage.Holds]⟩
  | timeout hstage hp =>
    rename_i p process
    have hfollows : job.stage.Follows (.clearing true) := by
      rw [hstage]
      exact ⟨by simp, by simp, fun h => h.elim, by simp [Stage.Holds]⟩
    have hmarked : Inv (s.mark p { process with status := some (process.status.getD false) }) :=
      hs.mark hp rfl rfl
    exact hmarked.advance hr hfollows
  | clear hstage =>
    rename_i failed
    apply hs.put hr
    · rfl
    · intro hended
      rw [hstage] at hended
      cases hended
    · intro q hq
      cases failed <;> simp [Stage.Holds] at hq
    · intro hlaunched
      rw [hstage] at hlaunched
      exact hlaunched.elim
    · intro hmain
      exact absurd hmain (hs.not_starting hr (by rw [hstage]; simp))
  | skip_launch hstage hcancelled =>
    apply hs.advance hr
    rw [hstage]
    exact ⟨by simp, by simp, fun h => h.elim, by simp [Stage.Holds]⟩
  | launch hstage hcancelled => exact hs.launch hr hstage
  | eof hstage =>
    apply hs.advance hr
    rw [hstage]
    exact ⟨by simp, by simp, fun _ => trivial, by simp [Stage.Holds]⟩
  | close hstage =>
    have hreg := hs.registered r job hr (by rw [hstage]; decide)
    rw [if_pos hreg]
    exact hs.close hr hstage

/-- A step of the main loop. -/
theorem Inv.main_step (hs : Inv s) {l : Label} {s' : State} (h : main_next s l = some s') :
    Inv s' := by
  -- the main thread changes one job at most, and its own place
  cases main_next_step h with
  | take hmain hfree =>
    apply hs.move
    · intro user_id' heq
      cases heq
      exact hfree
    · intro r heq
      cases heq
  | register hmain => exact hs.register (hs.free _ hmain)
  | start hmain hr =>
    rename_i ok r job
    have hunborn : job.stage = .unborn := hs.stage_starting hr hmain
    have hidle : Inv { s with main := .idle } := hs.move (by simp) (by simp)
    apply hidle.put hr
    · rfl
    · intro hended
      rw [hunborn] at hended
      cases hended
    · intro p hp
      cases ok <;> simp [Stage.Holds, hunborn] at hp
    · intro hlaunched
      rw [hunborn] at hlaunched
      exact hlaunched.elim
    · intro hmain
      cases hmain
  | stop hmain hreg hr =>
    rename_i user_id r job
    have hmoved : Inv { s with main := .inspecting r job.process } := hs.move (by simp) (by simp)
    apply hmoved.put hr
    · rfl
    · intro hended
      exact hended
    · intro p hp
      exact hs.held r job hr p hp
    · intro hlaunched
      exact ⟨hlaunched, rfl⟩
    · intro hmain
      cases hmain
  | inspect_process hmain =>
    apply hs.move
    · intro user_id heq
      split at heq <;> cases heq
    · intro r heq
      split at heq <;> cases heq
  | inspect_none hmain => exact hs.move (by simp) (by simp)
  | kill hmain hp =>
    have hidle : Inv { s with main := .idle } := hs.move (by simp) (by simp)
    exact hidle.mark hp rfl rfl

theorem Inv.step (hs : Inv s) {l : Label} {s' : State} (h : next s l = some s') : Inv s' := by
  cases l with
  | thread r action =>
    obtain ⟨job, hr, h⟩ := Option.bind_eq_some_iff.mp h
    exact hs.thread hr h
  | exits p ok =>
    obtain ⟨process, hp, h⟩ := Option.bind_eq_some_iff.mp h
    split at h
    · cases h
      exact hs.mark hp rfl rfl
    · cases h
  | take user_id => exact hs.main_step (l := .take user_id) h
  | register => exact hs.main_step (l := .register) h
  | start ok => exact hs.main_step (l := .start ok) h
  | stop user_id => exact hs.main_step (l := .stop user_id) h
  | inspect => exact hs.main_step (l := .inspect) h
  | kill => exact hs.main_step (l := .kill) h

end updates

/-- The invariants hold in every state of every run. -/
theorem inv_reachable {s : State} (hr : Reachable system s) : Inv s := by
  apply hr.invariant
  · exact inv_initial
  · intro s l s' _ hs hstep
    exact hs.step hstep

end BoVpnAgent.Playback

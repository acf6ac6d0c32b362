import BoVpnAgent.Bot.Playback

/-! # Players and registered jobs

    `/stop` reaches a player through `self.jobs`.  A thread that runs `_play`
    takes its job out of the table in its `finally` clause, also when a call to
    Telegram raises while the player is running.

    This file shows:
    - where no call raises under a running player, each player is the process
      of its user's registered job
    - a run in which one raises, and the player is out of reach
-/

namespace BoVpnAgent.Playback

open Lts

/-- `p` is a running player that the job `r` of the user has launched. -/
structure State.Plays (s : State) (user_id : Int) (r p : Ref) : Prop where
  process : ∃ process, s.processes.read p = some process ∧ process.kind = .player ∧
    process.job = r ∧ process.status = none
  job : ∃ job, s.heap.read r = some job ∧ job.user_id = user_id

/-- Every running player can be stopped. -/
structure NoOrphan (s : State) : Prop where
  /-- the job that has launched it is registered, and has its process -/
  registered : ∀ user_id r p, s.Plays user_id r p →
    s.jobs.get? user_id = some r ∧ ∃ job, s.heap.read r = some job ∧ job.process = some p
  single : ∀ user_id r p r' p', s.Plays user_id r p → s.Plays user_id r' p' → p = p'

/-! ### Threads that stay with their player -/

/-- The thread reads the output of `p` or waits for its end. -/
def Stage.Attends (p : Ref) (stage : Stage) : Prop := stage = .reading p ∨ stage = .waiting p

/-- The thread of a running player has not left it. -/
def Attended (s : State) : Prop :=
  ∀ p process, s.processes.read p = some process → process.kind = .player →
    process.status = none → ∃ job, s.heap.read process.job = some job ∧ job.stage.Attends p

/-- The thread of the job is in the output loop of a running player. -/
def State.listening (s : State) (r : Ref) : Bool :=
  match (s.heap.read r).map Job.stage with
  | some (.reading p) => s.alive p
  | _ => false

/-- No call raises in the output loop while the player is running. -/
def quiet (s : State) : Label → Bool
  | .thread r .raises => !s.listening r
  | _ => true

def Quiet (s : State) (l : Label) : Prop := quiet s l = true

instance (s : State) (l : Label) : Decidable (Quiet s l) := inferInstanceAs (Decidable (_ = _))

section attended

variable {s : State}

theorem alive_of_read {p : Ref} {process : Process} (hp : s.processes.read p = some process)
    (hstatus : process.status = none) : s.alive p = true := by
  unfold State.alive
  rw [hp]
  simp only [hstatus, Option.isNone_none]

/-- A thread goes on, and not away from its player. -/
theorem Attended.put (hs : Attended s) {r : Ref} {job job' : Job} (hr : s.heap.read r = some job)
    (hstays : ∀ p, s.alive p = true → job.stage.Attends p → job'.stage.Attends p) :
    Attended (s.put r job') := by
  intro p process hp hplayer hstatus
  obtain ⟨job'', hread, hattends⟩ := hs p process hp hplayer hstatus
  by_cases heq : process.job = r
  · rw [heq, hr] at hread
    rw [← Option.some.inj hread] at hattends
    rw [heq]
    exact ⟨job', Heap.read_write_self hr job', hstays p (alive_of_read hp hstatus) hattends⟩
  · exact ⟨job'', (Heap.read_write_ne _ _ (Ne.symm heq)).trans hread, hattends⟩

/-- A process that has not exited had not exited before. -/
theorem Attended.mark (hs : Attended s) {p : Ref} {process process' : Process}
    (hp : s.processes.read p = some process) (hkind : process'.kind = process.kind)
    (hjob : process'.job = process.job) (hstatus : process'.status = none → process.status = none) :
    Attended (s.mark p process') := by
  intro q process'' hq hplayer hrunning
  obtain ⟨rfl, rfl⟩ | ⟨_, hq⟩ := Heap.read_write_cases hq
  · rw [hjob]
    exact hs q process hp (hkind ▸ hplayer) (hstatus hrunning)
  · exact hs q process'' hq hplayer hrunning

theorem Attended.popen_preparation (hs : Attended s) (r : Ref) :
    Attended (s.popen .preparation r) := by
  intro p process hp hplayer hstatus
  obtain hp | ⟨_, rfl⟩ := Heap.read_alloc_cases hp
  · exact hs p process hp hplayer hstatus
  · cases hplayer

/-- The thread of a new player attends it. -/
theorem Attended.launch (hs : Attended s) {r : Ref} {job : Job} (hr : s.heap.read r = some job)
    (hstage : job.stage = .launching) :
    Attended ((s.popen .player r).put r
      { job with process := some s.processes.next, stage := .reading s.processes.next }) := by
  intro p process hp hplayer hstatus
  obtain hp | ⟨rfl, rfl⟩ := Heap.read_alloc_cases hp
  · obtain ⟨job', hread, hattends⟩ := hs p process hp hplayer hstatus
    have hne : process.job ≠ r := by
      intro heq
      rw [heq, hr] at hread
      rw [← Option.some.inj hread, hstage] at hattends
      obtain h | h := hattends
      · cases h
      · cases h
    exact ⟨job', (Heap.read_write_ne _ _ hne.symm).trans hread, hattends⟩
  · exact ⟨_, Heap.read_write_self hr _, .inl rfl⟩

/-- A stage that attends no process can be left for any other. -/
theorem Attended.leave (hs : Attended s) {r : Ref} {job : Job} (hr : s.heap.read r = some job)
    (job' : Job) (hleaves : ∀ p, ¬job.stage.Attends p) : Attended (s.put r job') :=
  hs.put hr fun p _ hattends => absurd hattends (hleaves p)

theorem attends_returned {stage stage' : Stage} (h : stage.returned = some stage') {p : Ref}
    (hattends : stage.Attends p) : stage'.Attends p := by
  obtain rfl | rfl := hattends
  · cases h
    exact .inl rfl
  · cases h

/-- A step of a thread. -/
theorem Attended.thread (hs : Attended s) {r : Ref} {job : Job} (hr : s.heap.read r = some job)
    {action : Action} (hquiet : Quiet s (.thread r action)) {s' : State}
    (h : thread_next s r job action = some s') : Attended s' := by
  -- a process is attended by the thread that reads its output or waits for it
  cases thread_next_step h with
  | returns hstage => exact hs.put hr fun p _ hattends => attends_returned hstage hattends
  | raises hstage =>
    apply hs.put hr
    intro p halive hattends
    obtain hreading | hwaiting := hattends
    · -- this is what the condition is about
      have hlistening : s.listening r = true := by
        unfold State.listening
        rw [hr, Option.map_some, hreading]
        exact halive
      have hraises : (!s.listening r) = true := hquiet
      rw [hlistening] at hraises
      cases hraises
    · rw [hwaiting] at hstage
      cases hstage
  | look hstage =>
    apply hs.leave hr
    intro p hattends
    rcases hattends with hattends | hattends
    · rw [hattends] at hstage
      cases hstage
    · rw [hattends] at hstage
      cases hstage
  | spawn hstage => exact (hs.popen_preparation r).leave hr _ (by simp [Stage.Attends, hstage])
  | terminate hstage hp =>
    rename_i p process
    have hmarked : Attended (s.mark p
        { process with terminated := process.terminated || job.cancelled }) :=
      hs.mark hp rfl rfl fun h => h
    exact hmarked.leave hr _ (by simp [Stage.Attends, hstage])
  | wait_player hstage hp hexited =>
    rename_i p process
    -- the player has exited
    apply hs.put hr
    intro q halive hattends
    have hq : q = p := by
      rw [hstage] at hattends
      obtain hattends | hattends := hattends
      · cases hattends
      · cases hattends
        rfl
    unfold State.alive at halive
    rw [hq, hp] at halive
    simp [Option.isNone_iff_eq_none.mp halive] at hexited
  | timeout hstage hp =>
    rename_i p process
    have hmarked : Attended (s.mark p { process with status := some (process.status.getD false) }) :=
      hs.mark hp rfl rfl fun h => by cases h
    exact hmarked.leave hr _ (by simp [Stage.Attends, hstage])
  | launch hstage hcancelled => exact hs.launch hr hstage
  | eof hstage =>
    -- from reading the output to waiting for the exit of the same process
    apply hs.put hr
    intro q _ hattends
    rw [hstage] at hattends
    obtain hattends | hattends := hattends
    · cases hattends
      exact .inr rfl
    · cases hattends
  | close hstage =>
    exact Attended.leave (s := { s with jobs := _ }) hs hr _ (by simp [Stage.Attends, hstage])
  | store hstage | wait_preparation hstage | clear hstage | skip_launch hstage =>
    exact hs.leave hr _ (by simp [Stage.Attends, hstage])

/-- A step of the main loop: it launches nothing. -/
theorem Attended.main_step (hs : Attended s) (hinv : Inv s) {l : Label} {s' : State}
    (h : main_next s l = some s') : Attended s' := by
  cases main_next_step h with
  | register hmain =>
    intro p process hp hplayer hstatus
    obtain ⟨job, hread, hattends⟩ := hs p process hp hplayer hstatus
    exact ⟨job, Heap.read_alloc_of_some hread _, hattends⟩
  | start hmain hr =>
    have hunborn := hinv.stage_starting hr hmain
    exact Attended.leave (s := { s with main := _ }) hs hr _ (by simp [Stage.Attends, hunborn])
  | stop hmain hreg hr =>
    exact Attended.put (s := { s with main := _ }) hs hr fun p _ hattends => hattends
  | kill hmain hp => exact Attended.mark (s := { s with main := _ }) hs hp rfl rfl fun h => h
  | take | inspect_process | inspect_none => exact hs

theorem Attended.step (hs : Attended s) (hinv : Inv s) {l : Label} {s' : State}
    (hquiet : Quiet s l) (h : next s l = some s') : Attended s' := by
  cases l with
  | thread r action =>
    obtain ⟨job, hr, h⟩ := Option.bind_eq_some_iff.mp h
    exact hs.thread hr hquiet h
  | exits p ok =>
    obtain ⟨process, hp, h⟩ := Option.bind_eq_some_iff.mp h
    split at h
    · cases h
      exact hs.mark hp rfl rfl fun h => by cases h
    · cases h
  | take user_id => exact hs.main_step hinv (l := .take user_id) h
  | register => exact hs.main_step hinv (l := .register) h
  | start ok => exact hs.main_step hinv (l := .start ok) h
  | stop user_id => exact hs.main_step hinv (l := .stop user_id) h
  | inspect => exact hs.main_step hinv (l := .inspect) h
  | kill => exact hs.main_step hinv (l := .kill) h

end attended

/-! ### No orphan -/

/-- A thread that has not left its player has not closed its job. -/
theorem noOrphan_of_attended {s : State} (hinv : Inv s) (hs : Attended s) : NoOrphan s := by
  have hregistered : ∀ user_id r p, s.Plays user_id r p →
      s.jobs.get? user_id = some r ∧ ∃ job, s.heap.read r = some job ∧ job.process = some p := by
    intro user_id r p hplays
    obtain ⟨process, hp, hplayer, rfl, hstatus⟩ := hplays.process
    obtain ⟨job, hr, rfl⟩ := hplays.job
    obtain ⟨job', hread, hattends⟩ := hs p process hp hplayer hstatus
    obtain ⟨job'', hread', hprocess, _⟩ := hinv.players p process hp hplayer
    rw [hr] at hread hread'
    rw [← Option.some.inj hread] at hattends
    have hne : job.stage ≠ .ended := by
      obtain h | h := hattends
      · rw [h]
        exact fun h => by cases h
      · rw [h]
        exact fun h => by cases h
    exact ⟨hinv.registered _ job hr hne, job, hr, Option.some.inj hread' ▸ hprocess⟩
  refine ⟨hregistered, ?_⟩
  intro user_id r p r' p' hplays hplays'
  obtain ⟨hreg, job, hr, hprocess⟩ := hregistered user_id r p hplays
  obtain ⟨hreg', job', hr', hprocess'⟩ := hregistered user_id r' p' hplays'
  have hrefs : r = r' := Option.some.inj (hreg.symm.trans hreg')
  rw [← hrefs, hr] at hr'
  rw [← Option.some.inj hr', hprocess] at hprocess'
  exact Option.some.inj hprocess'

/-- Where no call raises in the output loop of a running player, every running
    player can be stopped. -/
theorem no_orphan {s : State} (h : Reachable (system.restrict Quiet) s) : NoOrphan s := by
  have hinv := inv_reachable h.of_restrict
  refine noOrphan_of_attended hinv ?_
  apply h.invariant
  · intro p process hp
    simp [system, System.restrict, initial] at hp
  · intro s l s' hr hs hstep
    obtain ⟨hquiet, hnext⟩ := restrict_step.mp hstep
    exact hs.step (inv_reachable hr.of_restrict) hquiet hnext

/-! ### A message that Telegram refuses -/

/-- A job of the user 7, up to the launch of its player. -/
def playing : List Label :=
  [.take 7, .register, .start true] ++
    ([.returns, .look, .spawn, .store, .terminate] : List Action).map (.thread 0) ++
    [.exits 0 true] ++
    ([.wait, .clear, .look, .returns, .look, .returns, .launch] : List Action).map (.thread 0)

/-- A message of the output loop raises, and the thread ends. -/
def refused : List Label := ([.raises, .returns, .close] : List Action).map (.thread 0)

theorem playing_plays : (system.play (playing ++ refused)).Plays 7 0 1 where
  process := ⟨⟨.player, 0, none, false, false⟩, rfl, rfl, rfl, rfl⟩
  job := ⟨⟨7, false, some 1, .ended⟩, rfl, rfl⟩

/-- The player is running and no job is registered. -/
theorem orphan_after_refused_message : ¬∀ s, Reachable system s → NoOrphan s := by
  intro h
  have hplays := playing_plays
  obtain ⟨hreg, _⟩ := (h _ (reachable_play (playing ++ refused))).registered 7 0 1 hplays
  have hnone : (system.play (playing ++ refused)).jobs.get? 7 = none := rfl
  rw [hnone] at hreg
  cases hreg

theorem no_orphan_playing : NoOrphan ((system.restrict Quiet).play playing) :=
  no_orphan (reachable_play playing)

end BoVpnAgent.Playback

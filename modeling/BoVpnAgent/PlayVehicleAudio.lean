import BoVpnAgent.Lib.Transition

/-! # The audio script and its remote files

    `play_vehicle_audio.sh` uploads a file with a background `ssh`, plays it
    with a second one, and removes what it left on the vehicle with a third
    one, in its exit trap.  The three reach the vehicle each in their own time.

    This file defines:
    - the script's variables and where it stands, the remote sides of the three
      sessions, and the files on the vehicle
    - the system of their steps, in any order

    and shows when a stop during the upload leaves nothing on the vehicle.
-/

namespace BoVpnAgent.PlayVehicleAudio

open Lts

/-! ### State -/

/-- The signals that the script traps. -/
inductive Signal where
  | HUP
  | INT
  | TERM
  deriving DecidableEq

/-- The status of the script's traps. -/
def Signal.status : Signal → Nat
  | HUP => 129
  | INT => 130
  | TERM => 143

/-- `cat > remote_file` on the vehicle. -/
inductive RemoteCat where
  /-- Its shell has not opened the file. -/
  | connecting
  | writing
  | over (written : Bool)
  deriving DecidableEq

/-- One upload in the background. -/
structure Upload where
  cat : RemoteCat
  /-- Whether `ssh` succeeded; `none` while it runs. -/
  ssh : Option Bool
  deriving DecidableEq

/-- The script `REMOTE_PLAY` on the vehicle. -/
inductive Player where
  | absent
  | connecting
  | playing
  | over (ok : Bool)
  deriving DecidableEq

/-- The script `REMOTE_CLEANUP` on the vehicle. -/
inductive Cleaner where
  | absent
  | connecting
  /-- The player was sent `TERM`. -/
  | stopping
  | checked
  /-- The first of the two files of `rm -f` is gone. -/
  | unlinked
  | removed
  | failed
  deriving DecidableEq

/-- Where the script stands. -/
inductive Phase where
  | starting
  | attempting (attempt : Nat)
  /-- Polling `transfer_pid` every ten seconds. -/
  | waiting (attempt : Nat)
  /-- Sleeping after an attempt that failed. -/
  | retrying (attempt : Nat)
  | playing
  /-- In `on_exit`, before `cleanup_remote`. -/
  | exiting (rc : Nat)
  | cleaning (rc : Nat)
  | exited (rc : Nat)
  deriving DecidableEq

structure State where
  phase : Phase
  uploaded : Bool
  cleaned : Bool
  uploads : List Upload
  player : Player
  cleaner : Cleaner
  remote_file : Bool
  remote_pid_file : Bool
  deriving DecidableEq

def initial : State where
  phase := .starting
  uploaded := false
  cleaned := false
  uploads := []
  player := .absent
  cleaner := .absent
  remote_file := false
  remote_pid_file := false

/-! ### Steps -/

/-- One step of the script, of one of its sessions or of the user. -/
inductive Label where
  /-- The script goes on by itself. -/
  | script
  /-- A signal reaches the script's process group. -/
  | signal (sig : Signal)
  | cat_opens (k : Nat)
  | cat_ends (k : Nat) (written : Bool)
  | ssh_ends (k : Nat) (ok : Bool)
  /-- The player has set its traps and written its pid. -/
  | player_starts
  | player_ends (ok : Bool)
  | play_ends (ok : Bool)
  /-- The pid file is read; `ours` when the process looks like the player. -/
  | cleaner_reads (ours : Bool)
  | cleaner_waits
  | cleaner_unlinks
  | cleanup_ends (ok : Bool)
  deriving DecidableEq

/-- The upload that the script waits for. -/
def State.transfer (s : State) : Option Upload := s.uploads.getLast?

/-- The line behind the one the script has just run. -/
def script_next (s : State) : Option State :=
  match s.phase with
  | .starting => some { s with phase := .attempting 1, uploaded := true }
  | .attempting n =>
    some { s with phase := .waiting n, uploads := s.uploads ++ [⟨.connecting, none⟩] }
  | .waiting n =>
    match s.transfer.bind Upload.ssh with
    | some true => some { s with phase := .playing, player := .connecting }
    | some false => some { s with phase := .retrying n }
    | none => none
  | .retrying n =>
    if n < 2 then some { s with phase := .attempting (n + 1) }
    else some { s with phase := .exiting 20 }
  | .exiting rc =>
    -- `cleanup_remote` returns at once when there is nothing to remove
    if s.uploaded ∧ s.cleaned = false then
      some { s with phase := .cleaning rc, cleaner := .connecting }
    else some { s with phase := .exited rc }
  | _ => none

/-- A background `ssh` ignores `SIGINT`, but not the other signals. -/
def Upload.signalled (sig : Signal) (u : Upload) : Upload :=
  if sig ≠ .INT ∧ u.ssh = none then { u with ssh := some false } else u

/-- What a signal does to the script and to the sessions in its process
    group. -/
def signal_next (s : State) (sig : Signal) : Option State :=
  match s.phase with
  | .exited _ => none
  -- the traps are gone by then
  | .exiting _ | .cleaning _ =>
    some { s with phase := .exited sig.status, uploads := s.uploads.map (Upload.signalled sig) }
  | _ =>
    some { s with phase := .exiting sig.status, uploads := s.uploads.map (Upload.signalled sig) }

/-- The shell of an upload opens the remote file, or is gone. -/
def cat_next (s : State) (k : Nat) (cat : RemoteCat) : Option State := do
  let u ← s.uploads[k]?
  match u.cat, cat with
  | .connecting, .writing =>
    some { s with uploads := s.uploads.set k { u with cat := .writing }, remote_file := true }
  | .connecting, .over false =>
    some { s with uploads := s.uploads.set k { u with cat := .over false } }
  | .writing, .over written =>
    some { s with uploads := s.uploads.set k { u with cat := .over written } }
  | _, _ => none

/-- `ssh` reports the status of `cat`, or that the connection was lost. -/
def ssh_next (s : State) (k : Nat) (ok : Bool) : Option State := do
  let u ← s.uploads[k]?
  if u.ssh = none ∧ (ok = true → u.cat = .over true) then
    some { s with uploads := s.uploads.set k { u with ssh := some ok } }
  else none

/-- The remote scripts. -/
def remote_next (s : State) : Label → Option State
  | .player_starts =>
    if s.player = .connecting then some { s with player := .playing, remote_pid_file := true }
    else none
  | .player_ends ok =>
    if s.player = .playing then
      some { s with player := .over ok, remote_file := false, remote_pid_file := false }
    else if s.player = .connecting ∧ ok = false then some { s with player := .over false }
    else none
  | .cleaner_reads ours =>
    if s.cleaner = .connecting then
      if s.remote_pid_file ∧ s.player = .playing then
        some { s with cleaner := if ours then .stopping else .failed }
      else some { s with cleaner := .checked }
    else none
  | .cleaner_waits =>
    if s.cleaner = .stopping then
      some { s with cleaner := if s.player = .playing then .failed else .checked }
    else none
  | .cleaner_unlinks =>
    if s.cleaner = .checked then some { s with cleaner := .unlinked, remote_file := false }
    else if s.cleaner = .unlinked then
      some { s with cleaner := .removed, remote_pid_file := false }
    else none
  | _ => none

/-- The foreground `ssh` of the playback or of the cleanup ends. -/
def foreground_next (s : State) : Label → Option State
  | .play_ends ok =>
    if s.phase = .playing then
      if ok then
        if s.player = .over true then some { s with phase := .exiting 0, cleaned := true } else none
      else some { s with phase := .exiting 21 }
    else none
  | .cleanup_ends ok =>
    match s.phase with
    | .cleaning rc =>
      if ok then
        if s.cleaner = .removed then some { s with phase := .exited rc, cleaned := true } else none
      else some { s with phase := .exited (if rc = 0 then 1 else rc) }
    | _ => none
  | _ => none

def next (s : State) : Label → Option State
  | .script => script_next s
  | .signal sig => signal_next s sig
  | .cat_opens k => cat_next s k .writing
  | .cat_ends k written => cat_next s k (.over written)
  | .ssh_ends k ok => ssh_next s k ok
  | .player_starts => remote_next s .player_starts
  | .player_ends ok => remote_next s (.player_ends ok)
  | .cleaner_reads ours => remote_next s (.cleaner_reads ours)
  | .cleaner_waits => remote_next s .cleaner_waits
  | .cleaner_unlinks => remote_next s .cleaner_unlinks
  | .play_ends ok => foreground_next s (.play_ends ok)
  | .cleanup_ends ok => foreground_next s (.cleanup_ends ok)

def system : System State Label := ⟨initial, next⟩

/-! ### What the steps change -/

/-- The script has not left its upload loop. -/
def Phase.InLoop : Phase → Prop
  | .starting | .attempting _ | .waiting _ | .retrying _ => True
  | _ => False

section steps

variable {s s' : State}

/-- A remote `cat` changes its upload; opening the file is what creates it. -/
theorem cat_next_cases {k : Nat} {cat : RemoteCat} (h : cat_next s k cat = some s') :
    (∃ uploads, s' = { s with uploads := uploads, remote_file := true }) ∧ cat = .writing ∨
      (∃ uploads, s' = { s with uploads := uploads }) ∧ cat ≠ .writing := by
  obtain ⟨u, -, h⟩ := Option.bind_eq_some_iff.mp h
  split at h
  · left
    exact ⟨⟨_, (Option.some.inj h).symm⟩, rfl⟩
  · right
    exact ⟨⟨_, (Option.some.inj h).symm⟩, by simp⟩
  · right
    exact ⟨⟨_, (Option.some.inj h).symm⟩, by simp⟩
  · cases h

theorem ssh_next_cases {k : Nat} {ok : Bool} (h : ssh_next s k ok = some s') :
    ∃ uploads, s' = { s with uploads := uploads } := by
  obtain ⟨u, -, h⟩ := Option.bind_eq_some_iff.mp h
  split at h
  · exact ⟨_, (Option.some.inj h).symm⟩
  · cases h

/-- A signal makes the script leave: through its exit trap, or at once when it
    is there already. -/
theorem signal_next_cases {sig : Signal} (h : signal_next s sig = some s') :
    ∃ phase uploads, s' = { s with phase := phase, uploads := uploads } ∧
      ((phase = .exiting sig.status ∧ (s.phase.InLoop ∨ s.phase = .playing)) ∨
        phase = .exited sig.status) := by
  unfold signal_next at h
  split at h
  · cases h
  · exact ⟨_, _, (Option.some.inj h).symm, .inr rfl⟩
  · exact ⟨_, _, (Option.some.inj h).symm, .inr rfl⟩
  · next hexited hexiting hcleaning =>
    have hphase : s.phase.InLoop ∨ s.phase = .playing := by
      cases hp : s.phase with
      | exiting rc => exact absurd hp (hexiting rc)
      | cleaning rc => exact absurd hp (hcleaning rc)
      | exited rc => exact absurd hp (hexited rc)
      | playing => exact .inr rfl
      | _ => exact .inl trivial
    exact ⟨_, _, (Option.some.inj h).symm, .inl ⟨rfl, hphase⟩⟩

/-- The script stays in its loop, or goes on to the playback or to its exit
    trap, or goes through that. -/
theorem script_next_cases (h : script_next s = some s') :
    (s.phase.InLoop ∧ ∃ phase uploaded uploads,
        s' = { s with phase := phase, uploaded := uploaded, uploads := uploads }) ∨
      (s.phase.InLoop ∧ s' = { s with phase := .playing, player := .connecting }) ∨
      (∃ rc, s.phase = .exiting rc ∧ s.cleaned = false ∧
        s' = { s with phase := .cleaning rc, cleaner := .connecting }) ∨
      ∃ rc, s.phase = .exiting rc ∧ s' = { s with phase := .exited rc } := by
  unfold script_next at h
  split at h
  · next hphase => exact .inl ⟨by rw [hphase]; trivial, _, _, _, (Option.some.inj h).symm⟩
  · next hphase => exact .inl ⟨by rw [hphase]; trivial, _, _, _, (Option.some.inj h).symm⟩
  · next hphase =>
    have hloop : s.phase.InLoop := by rw [hphase]; trivial
    split at h
    · exact .inr (.inl ⟨hloop, (Option.some.inj h).symm⟩)
    · exact .inl ⟨hloop, _, _, _, (Option.some.inj h).symm⟩
    · cases h
  · next hphase =>
    have hloop : s.phase.InLoop := by rw [hphase]; trivial
    split at h
    · exact .inl ⟨hloop, _, _, _, (Option.some.inj h).symm⟩
    · exact .inl ⟨hloop, _, _, _, (Option.some.inj h).symm⟩
  · next rc hphase =>
    split at h
    · next hclean => exact .inr (.inr (.inl ⟨rc, hphase, hclean.2, (Option.some.inj h).symm⟩))
    · exact .inr (.inr (.inr ⟨rc, hphase, (Option.some.inj h).symm⟩))
  · cases h

/-- The remote scripts do not move the script on. -/
theorem remote_next_phase {l : Label} (h : remote_next s l = some s') : s'.phase = s.phase := by
  unfold remote_next at h
  split at h <;> (try split_ifs at h) <;> cases h <;> rfl

/-- Without a player, the remote scripts are those of the cleanup. -/
theorem remote_next_cases {l : Label} (hplayer : s.player = .absent)
    (h : remote_next s l = some s') :
    ((s.cleaner = .connecting ∨ s.cleaner = .stopping) ∧ ∃ cleaner,
        s' = { s with cleaner := cleaner } ∧ (cleaner = .checked ∨ cleaner = .failed)) ∨
      (s.cleaner = .checked ∧ s' = { s with cleaner := .unlinked, remote_file := false }) ∨
      (s.cleaner = .unlinked ∧ s' = { s with cleaner := .removed, remote_pid_file := false }) := by
  have hplaying : ¬s.player = .playing := by simp [hplayer]
  cases l with
  | player_starts => simp [remote_next, hplayer] at h
  | player_ends ok => simp [remote_next, hplayer] at h
  | cleaner_reads ours =>
    simp only [remote_next] at h
    split at h
    · next hc =>
      rw [if_neg fun hpid => hplaying hpid.2] at h
      exact .inl ⟨.inl hc, _, (Option.some.inj h).symm, .inl rfl⟩
    · cases h
  | cleaner_waits =>
    simp only [remote_next] at h
    split at h
    · next hc => exact .inl ⟨.inr hc, _, (Option.some.inj h).symm, .inl rfl⟩
    · cases h
  | cleaner_unlinks =>
    simp only [remote_next] at h
    split at h
    · next hc => exact .inr (.inl ⟨hc, (Option.some.inj h).symm⟩)
    · split at h
      · next hc => exact .inr (.inr ⟨hc, (Option.some.inj h).symm⟩)
      · cases h
  | _ => cases h

/-- The end of a foreground `ssh`. -/
theorem foreground_next_cases {l : Label} (h : foreground_next s l = some s') :
    (s.phase = .playing ∧ ∃ rc cleaned, s' = { s with phase := .exiting rc, cleaned := cleaned }) ∨
      ∃ rc, s.phase = .cleaning rc ∧
        ((s.cleaner = .removed ∧ s' = { s with phase := .exited rc, cleaned := true }) ∨
          ∃ rc', s' = { s with phase := .exited rc' }) := by
  cases l with
  | play_ends ok =>
    simp only [foreground_next] at h
    split at h
    · next hphase =>
      split at h
      · split at h
        · exact .inl ⟨hphase, _, _, (Option.some.inj h).symm⟩
        · cases h
      · exact .inl ⟨hphase, _, _, (Option.some.inj h).symm⟩
    · cases h
  | cleanup_ends ok =>
    simp only [foreground_next] at h
    split at h
    · next rc hphase =>
      split at h
      · split at h
        · next hc => exact .inr ⟨rc, hphase, .inl ⟨hc, (Option.some.inj h).symm⟩⟩
        · cases h
      · exact .inr ⟨rc, hphase, .inr ⟨_, (Option.some.inj h).symm⟩⟩
    · cases h
  | _ => cases h

end steps

/-- A step is one of the script, a signal, one of an upload, one of a remote
    script or the end of a foreground session. -/
theorem next_cases {s s' : State} {l : Label} (h : next s l = some s') :
    script_next s = some s' ∨ (∃ sig, l = .signal sig ∧ signal_next s sig = some s') ∨
      (∃ k cat, cat_next s k cat = some s' ∧ (cat = .writing → l = .cat_opens k)) ∨
      (∃ k ok, ssh_next s k ok = some s') ∨ remote_next s l = some s' ∨
      foreground_next s l = some s' := by
  cases l with
  | script => exact .inl h
  | signal sig => exact .inr (.inl ⟨sig, rfl, h⟩)
  | cat_opens k => exact .inr (.inr (.inl ⟨k, _, h, fun _ => rfl⟩))
  | cat_ends k written => exact .inr (.inr (.inl ⟨k, _, h, by simp⟩))
  | ssh_ends k ok => exact .inr (.inr (.inr (.inl ⟨k, ok, h⟩)))
  | play_ends ok => exact .inr (.inr (.inr (.inr (.inr h))))
  | cleanup_ends ok => exact .inr (.inr (.inr (.inr (.inr h))))
  | _ => exact .inr (.inr (.inr (.inr (.inl h))))

/-! ### A stop during the upload -/

/-- No other session than the uploads was started. -/
structure OnlyUploads (s : State) : Prop where
  player : s.player = .absent
  cleaner : s.cleaner = .absent
  cleaned : s.cleaned = false
  pid_file : s.remote_pid_file = false

/-- Inside the loop there are only uploads. -/
theorem only_uploads_step {s s' : State} {l : Label} (hs : s.phase.InLoop → OnlyUploads s)
    (h : next s l = some s') (hloop : s'.phase.InLoop) : OnlyUploads s' := by
  -- inside the loop nothing runs but the uploads: the remote side has no step
  obtain h | ⟨_, -, h⟩ | ⟨_, _, h, -⟩ | ⟨_, _, h⟩ | h | h := next_cases h
  · obtain ⟨hin, _, _, _, rfl⟩ | ⟨_, rfl⟩ | ⟨_, _, _, rfl⟩ | ⟨_, _, rfl⟩ := script_next_cases h
    · have hs := hs hin
      exact ⟨hs.player, hs.cleaner, hs.cleaned, hs.pid_file⟩
    · cases hloop
    · cases hloop
    · cases hloop
  · obtain ⟨_, _, rfl, ⟨rfl, _⟩ | rfl⟩ := signal_next_cases h
    · cases hloop
    · cases hloop
  · obtain ⟨⟨_, rfl⟩, _⟩ | ⟨⟨_, rfl⟩, _⟩ := cat_next_cases h
    · have hs := hs hloop
      exact ⟨hs.player, hs.cleaner, hs.cleaned, hs.pid_file⟩
    · have hs := hs hloop
      exact ⟨hs.player, hs.cleaner, hs.cleaned, hs.pid_file⟩
  · obtain ⟨_, rfl⟩ := ssh_next_cases h
    have hs := hs hloop
    exact ⟨hs.player, hs.cleaner, hs.cleaned, hs.pid_file⟩
  · have hs := hs (remote_next_phase h ▸ hloop)
    have hc := hs.cleaner
    obtain ⟨hrun | hrun, _⟩ | ⟨hrun, _⟩ | ⟨hrun, _⟩ := remote_next_cases hs.player h
    · rw [hrun] at hc
      cases hc
    · rw [hrun] at hc
      cases hc
    · rw [hrun] at hc
      cases hc
    · rw [hrun] at hc
      cases hc
  · obtain ⟨_, _, _, rfl⟩ | ⟨_, _, ⟨_, rfl⟩ | ⟨_, rfl⟩⟩ := foreground_next_cases h
    · cases hloop
    · cases hloop
    · cases hloop

theorem only_uploads {s : State} (hr : Reachable system s) : s.phase.InLoop → OnlyUploads s := by
  apply hr.invariant (P := fun s => s.phase.InLoop → OnlyUploads s)
  · intro _
    exact ⟨rfl, rfl, rfl, rfl⟩
  · intro s l s' _ hs hstep
    exact only_uploads_step hs hstep

/-- The cleanup's `rm` has reached the audio file. -/
def Cleaner.Unlinked (c : Cleaner) : Prop := c = .unlinked ∨ c = .removed

instance (c : Cleaner) : Decidable c.Unlinked := inferInstanceAs (Decidable (_ ∨ _))

/-- The script was stopped in its loop and is on its way out. -/
structure Stopped (s : State) : Prop where
  leaving : (∃ rc, s.phase = .exiting rc) ∨ (∃ rc, s.phase = .cleaning rc) ∨
    ∃ rc, s.phase = .exited rc
  player : s.player = .absent
  cleaner : ∀ rc, s.phase = .exiting rc → s.cleaner = .absent
  pid_file : s.remote_pid_file = false
  cleaned : s.cleaned = true → s.cleaner = .removed

/-- A signal in the loop stops the script. -/
theorem stopped_of_signal {s s' : State} {sig : Signal} (hs : OnlyUploads s)
    (h : next s (.signal sig) = some s') : Stopped s' := by
  have hcleaned : ¬s.cleaned = true := by
    rw [hs.cleaned]
    decide
  obtain ⟨_, _, rfl, ⟨rfl, _⟩ | rfl⟩ := signal_next_cases h
  · exact ⟨.inl ⟨_, rfl⟩, hs.player, fun _ _ => hs.cleaner, hs.pid_file,
      fun hc => absurd hc hcleaned⟩
  · exact ⟨.inr (.inr ⟨_, rfl⟩), hs.player, fun _ _ => hs.cleaner, hs.pid_file,
      fun hc => absurd hc hcleaned⟩

theorem Stopped.not_inLoop {s : State} (hs : Stopped s) : ¬s.phase.InLoop := by
  intro hloop
  obtain ⟨_, hphase⟩ | ⟨_, hphase⟩ | ⟨_, hphase⟩ := hs.leaving
  · rw [hphase] at hloop
    cases hloop
  · rw [hphase] at hloop
    cases hloop
  · rw [hphase] at hloop
    cases hloop

theorem Stopped.not_playing {s : State} (hs : Stopped s) : s.phase ≠ .playing := by
  intro hphase
  obtain ⟨_, hleaving⟩ | ⟨_, hleaving⟩ | ⟨_, hleaving⟩ := hs.leaving
  · rw [hphase] at hleaving
    cases hleaving
  · rw [hphase] at hleaving
    cases hleaving
  · rw [hphase] at hleaving
    cases hleaving

/-- It stays on its way out, and `rm` is all that happens on the vehicle but
    for the uploads. -/
theorem stopped_step {s s' : State} {l : Label} (hs : Stopped s) (h : next s l = some s') :
    Stopped s' := by
  obtain h | ⟨_, -, h⟩ | ⟨_, _, h, -⟩ | ⟨_, _, h⟩ | h | h := next_cases h
  · obtain ⟨hin, _⟩ | ⟨hin, _⟩ | ⟨rc, _, hc, rfl⟩ | ⟨rc, hphase, rfl⟩ := script_next_cases h
    · exact absurd hin hs.not_inLoop
    · exact absurd hin hs.not_inLoop
    · have hcleaned : ¬s.cleaned = true := by
        rw [hc]
        decide
      exact ⟨.inr (.inl ⟨rc, rfl⟩), hs.player, by simp, hs.pid_file, fun h => absurd h hcleaned⟩
    · exact ⟨.inr (.inr ⟨rc, rfl⟩), hs.player, by simp, hs.pid_file, hs.cleaned⟩
  · obtain ⟨_, _, rfl, ⟨_, hin | hplaying⟩ | rfl⟩ := signal_next_cases h
    · exact absurd hin hs.not_inLoop
    · exact absurd hplaying hs.not_playing
    · exact ⟨.inr (.inr ⟨_, rfl⟩), hs.player, by simp, hs.pid_file, hs.cleaned⟩
  · obtain ⟨⟨_, rfl⟩, _⟩ | ⟨⟨_, rfl⟩, _⟩ := cat_next_cases h
    · exact ⟨hs.leaving, hs.player, hs.cleaner, hs.pid_file, hs.cleaned⟩
    · exact ⟨hs.leaving, hs.player, hs.cleaner, hs.pid_file, hs.cleaned⟩
  · obtain ⟨_, rfl⟩ := ssh_next_cases h
    exact ⟨hs.leaving, hs.player, hs.cleaner, hs.pid_file, hs.cleaned⟩
  · -- the cleanup has not succeeded before its last file is gone
    have hrunning : s.cleaner ≠ .removed → ¬s.cleaned = true := fun hne hc => hne (hs.cleaned hc)
    have hstarted : s.cleaner ≠ .absent → ∀ rc, s.phase ≠ .exiting rc :=
      fun hne rc hphase => hne (hs.cleaner rc hphase)
    obtain ⟨hc, _, rfl, _⟩ | ⟨hc, rfl⟩ | ⟨hc, rfl⟩ := remote_next_cases hs.player h
    · have hne : s.cleaner ≠ .removed ∧ s.cleaner ≠ .absent := by
        obtain hc | hc := hc
        · simp [hc]
        · simp [hc]
      exact ⟨hs.leaving, hs.player, fun rc hphase => absurd hphase (hstarted hne.2 rc), hs.pid_file,
        fun h => absurd h (hrunning hne.1)⟩
    · have hne : s.cleaner ≠ .removed ∧ s.cleaner ≠ .absent := by simp [hc]
      exact ⟨hs.leaving, hs.player, fun rc hphase => absurd hphase (hstarted hne.2 rc), hs.pid_file,
        fun h => absurd h (hrunning hne.1)⟩
    · have hne : s.cleaner ≠ .absent := by simp [hc]
      exact ⟨hs.leaving, hs.player, fun rc hphase => absurd hphase (hstarted hne rc), rfl,
        fun _ => rfl⟩
  · obtain ⟨hphase, _⟩ | ⟨_, _, ⟨hc, rfl⟩ | ⟨rc', rfl⟩⟩ := foreground_next_cases h
    · exact absurd hphase hs.not_playing
    · exact ⟨.inr (.inr ⟨_, rfl⟩), hs.player, by simp, hs.pid_file, fun _ => hc⟩
    · exact ⟨.inr (.inr ⟨rc', rfl⟩), hs.player, by simp, hs.pid_file, hs.cleaned⟩

/-- After `rm`, the file is gone. -/
def Gone (s : State) : Prop := s.cleaner.Unlinked → s.remote_file = false

/-- No upload opens the file behind the cleanup's `rm`. -/
def Timely (s : State) (l : Label) : Prop :=
  ∀ k, l = .cat_opens k → ¬s.cleaner.Unlinked

theorem gone_step {s s' : State} {l : Label} (hs : Stopped s) (hgone : Gone s)
    (htimely : Timely s l) (h : next s l = some s') : Gone s' := by
  obtain h | ⟨_, -, h⟩ | ⟨k, _, h, hopens⟩ | ⟨_, _, h⟩ | h | h := next_cases h
  · obtain ⟨_, _, _, _, rfl⟩ | ⟨_, rfl⟩ | ⟨_, _, _, rfl⟩ | ⟨_, _, rfl⟩ := script_next_cases h
    · exact hgone
    · exact hgone
    -- a cleanup that begins has unlinked nothing yet
    · intro hunlinked
      obtain hc | hc := hunlinked
      · cases hc
      · cases hc
    · exact hgone
  · obtain ⟨_, _, rfl, _⟩ := signal_next_cases h
    exact hgone
  -- a late upload would bring the file back; this is what the condition rules out
  · obtain ⟨⟨_, rfl⟩, hwriting⟩ | ⟨⟨_, rfl⟩, _⟩ := cat_next_cases h
    · intro hunlinked
      exact absurd hunlinked (htimely k (hopens hwriting))
    · exact hgone
  · obtain ⟨_, rfl⟩ := ssh_next_cases h
    exact hgone
  · obtain ⟨_, _, rfl, hc⟩ | ⟨_, rfl⟩ | ⟨hc, rfl⟩ := remote_next_cases hs.player h
    · rintro (hunlinked | hunlinked)
      · obtain rfl | rfl := hc
        · cases hunlinked
        · cases hunlinked
      · obtain rfl | rfl := hc
        · cases hunlinked
        · cases hunlinked
    · intro _
      rfl
    · intro _
      exact hgone (.inl hc)
  · obtain ⟨_, _, _, rfl⟩ | ⟨_, _, ⟨_, rfl⟩ | ⟨_, rfl⟩⟩ := foreground_next_cases h
    · exact hgone
    · exact hgone
    · exact hgone

/-! ### What is left on the vehicle -/

/-- The upload is running: the script waits for its `ssh`. -/
def UploadRunning (s : State) : Prop :=
  (∃ n, s.phase = .waiting n) ∧ ∃ u, s.transfer = some u ∧ u.ssh = none

instance : DecidablePred (Timely s) := fun l =>
  match l with
  | .cat_opens _ => decidable_of_iff (¬s.cleaner.Unlinked) ⟨fun h _ _ => h, fun h => h _ rfl⟩
  | .script | .signal _ | .cat_ends _ _ | .ssh_ends _ _ | .player_starts | .player_ends _
  | .play_ends _ | .cleaner_reads _ | .cleaner_waits | .cleaner_unlinks | .cleanup_ends _ =>
    .isTrue fun _ h => by cases h

/-- `remote_file` and the pid file are gone. -/
def NothingLeft (s : State) : Prop := s.remote_file = false ∧ s.remote_pid_file = false

/-- Both sides of an upload have ended. -/
def Upload.Ended (u : Upload) : Prop := u.ssh.isSome ∧ ∃ written, u.cat = .over written

/-- The script was stopped during the upload, in `s`.  At `t` it and the uploads
    have ended, and its cleanup has succeeded. -/
structure CleanedUp (s s' t : State) : Prop where
  reachable : Reachable system s
  running : UploadRunning s
  stop : system.step s (.signal .INT) s'
  exited : ∃ rc, t.phase = .exited rc
  uploads : ∀ u ∈ t.uploads, u.Ended
  cleaned : t.cleaned = true

/-- The signal finds nothing but the upload. -/
theorem CleanedUp.stopped {s s' t : State} (h : CleanedUp s s' t) : Stopped s' ∧ Gone s' := by
  obtain ⟨⟨n, hphase⟩, _⟩ := h.running
  have honly := only_uploads h.reachable (by rw [hphase]; trivial)
  constructor
  · exact stopped_of_signal honly h.stop
  · intro hunlinked
    obtain ⟨_, _, rfl, _⟩ := signal_next_cases h.stop
    have habsent := honly.cleaner
    obtain hc | hc := hunlinked
    · exact absurd (habsent.symm.trans hc) (by decide)
    · exact absurd (habsent.symm.trans hc) (by decide)

/-- The file was opened again behind the cleanup's `rm`. -/
structure LeftBehind (s : State) : Prop where
  unlinked : s.cleaner.Unlinked
  file : s.remote_file = true

/-- Such a file stays. -/
theorem leftBehind_step {s s' : State} {l : Label} (hs : Stopped s) (hleft : LeftBehind s)
    (h : next s l = some s') : LeftBehind s' := by
  have hunlinked := hleft.unlinked
  obtain h | ⟨_, -, h⟩ | ⟨_, _, h, -⟩ | ⟨_, _, h⟩ | h | h := next_cases h
  · obtain ⟨_, _, _, _, rfl⟩ | ⟨_, rfl⟩ | ⟨rc, hphase, _, _⟩ | ⟨_, _, rfl⟩ := script_next_cases h
    · exact ⟨hunlinked, hleft.file⟩
    · exact ⟨hunlinked, hleft.file⟩
    · -- there is one cleanup only
      rw [hs.cleaner rc hphase] at hunlinked
      exact absurd hunlinked (by decide)
    · exact ⟨hunlinked, hleft.file⟩
  · obtain ⟨_, _, rfl, _⟩ := signal_next_cases h
    exact ⟨hunlinked, hleft.file⟩
  · obtain ⟨⟨_, rfl⟩, _⟩ | ⟨⟨_, rfl⟩, _⟩ := cat_next_cases h
    · exact ⟨hunlinked, rfl⟩
    · exact ⟨hunlinked, hleft.file⟩
  · obtain ⟨_, rfl⟩ := ssh_next_cases h
    exact ⟨hunlinked, hleft.file⟩
  · -- `rm` goes on to the pid file only
    obtain ⟨hc | hc, _⟩ | ⟨hc, _⟩ | ⟨_, rfl⟩ := remote_next_cases hs.player h
    · rw [hc] at hunlinked
      exact absurd hunlinked (by decide)
    · rw [hc] at hunlinked
      exact absurd hunlinked (by decide)
    · rw [hc] at hunlinked
      exact absurd hunlinked (by decide)
    · exact ⟨.inr rfl, hleft.file⟩
  · obtain ⟨_, _, _, rfl⟩ | ⟨_, _, ⟨_, rfl⟩ | ⟨_, rfl⟩⟩ := foreground_next_cases h
    · exact ⟨hunlinked, hleft.file⟩
    · exact ⟨hunlinked, hleft.file⟩
    · exact ⟨hunlinked, hleft.file⟩

/-- An upload that opens the file behind the `rm` leaves it behind. -/
theorem leftBehind_of_late {s s' : State} {l : Label} (hlate : ¬Timely s l)
    (h : next s l = some s') : LeftBehind s' := by
  obtain ⟨k, rfl, hunlinked⟩ : ∃ k, l = .cat_opens k ∧ s.cleaner.Unlinked := by
    unfold Timely at hlate
    push Not at hlate
    exact hlate
  obtain ⟨⟨_, rfl⟩, _⟩ | ⟨_, hcat⟩ := cat_next_cases h
  · exact ⟨hunlinked, rfl⟩
  · exact absurd rfl hcat

/-- A run behind the signal has no late upload, or has left a file behind. -/
theorem timely_or_leftBehind {s t : State} (hs : Stopped s) (hrun : Star system s t) :
    Star (system.restrict Timely) s t ∨ LeftBehind t := by
  suffices hend : Stopped t ∧ (Star (system.restrict Timely) s t ∨ LeftBehind t) from hend.2
  apply hrun.preserves
    (P := fun t => Stopped t ∧ (Star (system.restrict Timely) s t ∨ LeftBehind t)) ?_
    ⟨hs, .inl (Star.refl s)⟩
  intro u l u' ⟨hu, hor⟩ hstep
  refine ⟨stopped_step hu hstep, ?_⟩
  obtain hsofar | hleft := hor
  · by_cases htimely : Timely u l
    · exact .inl (hsofar.tail (restrict_step.mpr ⟨htimely, hstep⟩))
    · exact .inr (leftBehind_of_late htimely hstep)
  · exact .inr (leftBehind_step hu hleft hstep)

/-- Where no upload opens the file behind the `rm`, the `rm` was the end of
    it. -/
theorem gone_of_timely {s t : State} (hs : Stopped s) (hgone : Gone s)
    (hrun : Star (system.restrict Timely) s t) : Stopped t ∧ Gone t := by
  apply hrun.preserves (P := fun s => Stopped s ∧ Gone s) ?_ ⟨hs, hgone⟩
  intro u l u' hu hstep
  obtain ⟨htimely, hnext⟩ := restrict_step.mp hstep
  exact ⟨stopped_step hu.1 hnext, gone_step hu.1 hu.2 htimely hnext⟩

/-- After a stop during the upload, nothing is left on the vehicle exactly when
    no upload has opened the file behind the cleanup's `rm`. -/
theorem nothing_left_iff {s s' t : State} (h : CleanedUp s s' t) (hrun : Star system s' t) :
    NothingLeft t ↔ Star (system.restrict Timely) s' t := by
  obtain ⟨hstopped, hgone⟩ := h.stopped
  constructor
  · intro hnothing
    obtain htimely | hleft := timely_or_leftBehind hstopped hrun
    · exact htimely
    · exact absurd (hleft.file.symm.trans hnothing.1) (by decide)
  · intro htimely
    obtain ⟨hstopped', hgone'⟩ := gone_of_timely hstopped hgone htimely
    have hremoved : t.cleaner = .removed := hstopped'.cleaned h.cleaned
    exact ⟨hgone' (.inr hremoved), hstopped'.pid_file⟩

/-! ### A stop while the upload connects -/

/-- The upload has just been started. -/
def uploading : List Label := [.script, .script]

/-- The cleanup is through before the upload's remote shell opens the file. -/
def late : List Label :=
  [.script, .cleaner_reads true, .cleaner_unlinks, .cleaner_unlinks, .cleanup_ends true,
    .cat_opens 0, .cat_ends 0 true, .ssh_ends 0 true]

/-- The same with the file opened in time. -/
def timely : List Label :=
  [.cat_opens 0, .script, .cleaner_reads true, .cleaner_unlinks, .cleaner_unlinks,
    .cleanup_ends true, .cat_ends 0 true, .ssh_ends 0 true]

/-- The states of such a run. -/
theorem cleanedUp_play (rest : List Label)
    (hexited : (system.play (uploading ++ [.signal .INT] ++ rest)).phase = .exited 130)
    (huploads : (system.play (uploading ++ [.signal .INT] ++ rest)).uploads =
      [⟨.over true, some true⟩])
    (hcleaned : (system.play (uploading ++ [.signal .INT] ++ rest)).cleaned = true) :
    CleanedUp (system.play uploading) (system.play (uploading ++ [.signal .INT]))
      (system.play (uploading ++ [.signal .INT] ++ rest)) where
  reachable := reachable_play _
  running := ⟨⟨1, rfl⟩, ⟨.connecting, none⟩, rfl, rfl⟩
  stop := rfl
  exited := ⟨130, hexited⟩
  uploads := by
    rw [huploads]
    intro u hu
    rw [List.mem_singleton.mp hu]
    exact ⟨rfl, true, rfl⟩
  cleaned := hcleaned

/-- An upload that is stopped before it has opened the file opens it
    afterwards. -/
theorem file_left_after_stop : ¬∀ s s' t, CleanedUp s s' t → Star system s' t → NothingLeft t := by
  intro h
  have hcleaned := cleanedUp_play late rfl rfl rfl
  have hnothing := h _ _ _ hcleaned (star_play _ late)
  exact absurd hnothing.1 (by decide)

theorem nothing_left_timely :
    NothingLeft (system.play (uploading ++ [.signal .INT] ++ timely)) ↔
      Star (system.restrict Timely) (system.play (uploading ++ [.signal .INT]))
        (system.play (uploading ++ [.signal .INT] ++ timely)) :=
  nothing_left_iff (cleanedUp_play timely rfl rfl rfl) (star_play _ timely)

end BoVpnAgent.PlayVehicleAudio

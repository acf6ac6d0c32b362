import BoVpnAgent.Bot.Orphans

/-! # Stops

    `_stop` sets `job.cancelled` under the lock and looks at the process of the
    job outside of it, while the thread of the job goes on.

    This file shows, for every interleaving of the two:
    - a job that was cancelled launches no player
    - `_stop` interrupts the player that was launched before
    - the thread does not wait for a preparation that was not signalled
-/

namespace BoVpnAgent.Playback

open Lts

/-! ### What a step of a thread does -/

/-- The thread is in `_prepare_audio` with the process. -/
def Stage.Prepares (q : Ref) (stage : Stage) : Prop :=
  stage = .spawned q ∨ stage = .stored q ∨ stage = .converting q

/-- What a step of the thread of `r` does to the processes. -/
inductive Work (s : State) (r : Ref) (job job' : Job) : Heap Process → Prop where
  | none : (∀ q, job'.stage.Prepares q → job.stage.Prepares q ∧ job'.stage = .stored q) →
      Work s r job job' s.processes
  | terminate {q : Ref} {process : Process} :
    s.processes.read q = some process → job'.stage = .converting q →
      Work s r job job' (s.processes.write q
        { process with terminated := process.terminated || job.cancelled })
  | timeout {q : Ref} {process : Process} :
    s.processes.read q = some process → (∀ q, ¬job'.stage.Prepares q) →
      Work s r job job' (s.processes.write q
        { process with status := some (process.status.getD false) })
  | prepare : job'.stage = .spawned s.processes.next →
      Work s r job job' (s.processes.alloc ⟨.preparation, r, .none, false, false⟩)
  | launch : job.cancelled = false → (∀ q, ¬job'.stage.Prepares q) →
      Work s r job job' (s.processes.alloc ⟨.player, r, .none, false, false⟩)

section work

variable {s s' : State} {r : Ref} {job job' : Job}

/-- The stage has nothing to do with a preparation. -/
theorem Work.other (h : ∀ q, ¬job'.stage.Prepares q) : Work s r job job' s.processes :=
  .none fun q hq => absurd hq (h q)

theorem returned_not_prepares {stage stage' : Stage} (h : stage.returned = some stage') (q : Ref) :
    ¬stage'.Prepares q := by
  cases stage <;> cases h <;> simp [Stage.Prepares]

theorem raised_not_prepares {stage stage' : Stage} (h : stage.raised = some stage') (q : Ref) :
    ¬stage'.Prepares q := by
  cases stage <;> cases h <;> simp [Stage.Prepares]

theorem looked_not_prepares {cancelled : Bool} {stage stage' : Stage}
    (h : stage.looked cancelled = some stage') (q : Ref) : ¬stage'.Prepares q := by
  cases cancelled <;> cases stage <;> cases h <;> simp [Stage.Prepares]

/-- A thread writes its own job, and does not touch `cancelled`. -/
theorem thread_next_cases {action : Action} (h : thread_next s r job action = some s') :
    ∃ job', s'.heap = s.heap.write r job' ∧ job'.cancelled = job.cancelled ∧ s'.main = s.main ∧
      Work s r job job' s'.processes := by
  cases thread_next_step h with
  | returns hstage => exact ⟨_, rfl, rfl, rfl, .other (returned_not_prepares hstage)⟩
  | raises hstage => exact ⟨_, rfl, rfl, rfl, .other (raised_not_prepares hstage)⟩
  | look hstage => exact ⟨_, rfl, rfl, rfl, .other (looked_not_prepares hstage)⟩
  | spawn hstage => exact ⟨_, rfl, rfl, rfl, .prepare rfl⟩
  | store hstage =>
    rename_i p
    refine ⟨_, rfl, rfl, rfl, .none ?_⟩
    intro q hq
    have heq : q = p := by
      obtain hq | hq | hq := hq
      · cases hq
      · cases hq
        rfl
      · cases hq
    rw [heq]
    exact ⟨.inl hstage, rfl⟩
  | terminate hstage hp => exact ⟨_, rfl, rfl, rfl, .terminate hp rfl⟩
  | timeout hstage hp => exact ⟨_, rfl, rfl, rfl, .timeout hp (by simp [Stage.Prepares])⟩
  | clear hstage =>
    rename_i failed
    exact ⟨_, rfl, rfl, rfl, .other (by cases failed <;> simp [Stage.Prepares])⟩
  | launch hstage hcancelled =>
    exact ⟨_, rfl, rfl, rfl, .launch hcancelled (by simp [Stage.Prepares])⟩
  | wait_preparation | wait_player | skip_launch | eof | close =>
    exact ⟨_, rfl, rfl, rfl, .other (by simp [Stage.Prepares])⟩

/-- What is known of a process stays known of it. -/
structure Process.Later (process process' : Process) : Prop where
  kind : process'.kind = process.kind
  job : process'.job = process.job
  status : process.status.isSome → process'.status.isSome
  interrupted : process.interrupted = true → process'.interrupted = true
  terminated : process.terminated = true → process'.terminated = true

theorem Process.Later.refl (process : Process) : process.Later process :=
  ⟨rfl, rfl, fun h => h, fun h => h, fun h => h⟩

/-- Processes that are there stay. -/
def Keeps (h h' : Heap Process) : Prop :=
  ∀ p process, h.read p = some process → ∃ process', h'.read p = some process' ∧
    process.Later process'

theorem keeps_write {h : Heap Process} {q : Ref} {process process' : Process}
    (hq : h.read q = some process) (hlater : process.Later process') :
    Keeps h (h.write q process') := by
  intro p process'' hp
  by_cases heq : p = q
  · rw [heq, hq] at hp
    rw [heq, ← Option.some.inj hp]
    exact ⟨process', Heap.read_write_self hq process', hlater⟩
  · exact ⟨process'', (Heap.read_write_ne _ _ (Ne.symm heq)).trans hp, .refl _⟩

theorem keeps_alloc (h : Heap Process) (process : Process) : Keeps h (h.alloc process) :=
  fun _ _ hp => ⟨_, Heap.read_alloc_of_some hp process, .refl _⟩

theorem Work.keeps {h : Heap Process} (hwork : Work s r job job' h) : Keeps s.processes h := by
  cases hwork with
  | none _ => exact fun _ process hp => ⟨process, hp, .refl _⟩
  | terminate hq _ =>
    refine keeps_write hq ⟨rfl, rfl, fun h => h, fun h => h, fun h => ?_⟩
    rw [Bool.or_eq_true]
    exact .inl h
  | timeout hq _ => exact keeps_write hq ⟨rfl, rfl, fun _ => rfl, fun h => h, fun h => h⟩
  | prepare _ => exact keeps_alloc _ _
  | launch _ _ => exact keeps_alloc _ _

/-- A new player is that of a job that was not cancelled. -/
theorem Work.new_player {h : Heap Process} (hwork : Work s r job job' h) {p : Ref}
    {process' : Process} (hp : h.read p = some process') (hplayer : process'.kind = .player) :
    (∃ process, s.processes.read p = some process ∧ process.kind = .player ∧
      process.job = process'.job) ∨ process'.job = r ∧ job.cancelled = false := by
  cases hwork with
  | none _ => exact .inl ⟨process', hp, hplayer, rfl⟩
  | terminate hq _ =>
    obtain ⟨rfl, rfl⟩ | ⟨_, hp⟩ := Heap.read_write_cases hp
    · exact .inl ⟨_, hq, hplayer, rfl⟩
    · exact .inl ⟨process', hp, hplayer, rfl⟩
  | timeout hq _ =>
    obtain ⟨rfl, rfl⟩ | ⟨_, hp⟩ := Heap.read_write_cases hp
    · exact .inl ⟨_, hq, hplayer, rfl⟩
    · exact .inl ⟨process', hp, hplayer, rfl⟩
  | prepare _ =>
    obtain hp | ⟨_, rfl⟩ := Heap.read_alloc_cases hp
    · exact .inl ⟨process', hp, hplayer, rfl⟩
    · cases hplayer
  | launch hcancelled _ =>
    obtain hp | ⟨_, rfl⟩ := Heap.read_alloc_cases hp
    · exact .inl ⟨process', hp, hplayer, rfl⟩
    · exact .inr ⟨rfl, hcancelled⟩

/-- The process of a preparation was there, or is now. -/
theorem Work.known {h : Heap Process} (hwork : Work s r job job' h) {q : Ref}
    (hq : job'.stage.Prepares q) :
    job.stage.Prepares q ∨ ∃ process, h.read q = some process := by
  cases hwork with
  | none hnone => exact .inl (hnone q hq).1
  | terminate hp hstage =>
    rw [hstage] at hq
    obtain hq | hq | hq := hq
    · cases hq
    · cases hq
    · cases hq
      exact .inr ⟨_, Heap.read_write_self hp _⟩
  | timeout hp hnone => exact absurd hq (hnone q)
  | prepare hstage =>
    rw [hstage] at hq
    obtain hq | hq | hq := hq
    · cases hq
      exact .inr ⟨_, Heap.read_alloc_next _ _⟩
    · cases hq
    · cases hq
  | launch _ hnone => exact absurd hq (hnone q)

/-- A thread that goes on to wait for its preparation terminates it if the job
    was cancelled. -/
theorem Work.converting {h : Heap Process} (hwork : Work s r job job' h) {q : Ref}
    (hq : job'.stage = .converting q) :
    ∃ process, h.read q = some process ∧ (job.cancelled = true → process.terminated = true) := by
  cases hwork with
  | none hnone =>
    have hstored := (hnone q (.inr (.inr hq))).2
    rw [hq] at hstored
    cases hstored
  | terminate hp hstage =>
    rw [hstage] at hq
    cases hq
    refine ⟨_, Heap.read_write_self hp _, fun hcancelled => ?_⟩
    rw [hcancelled, Bool.or_true]
  | timeout _ hnone => exact absurd (.inr (.inr hq)) (hnone q)
  | prepare hstage =>
    rw [hstage] at hq
    cases hq
  | launch _ hnone => exact absurd (.inr (.inr hq)) (hnone q)

end work

/-! ### What any step does -/

section steps

variable {s s' : State} {l : Label}

/-- The main loop starts no process, and signals one. -/
theorem main_next_processes (h : main_next s l = some s') :
    s'.processes = s.processes ∨ ∃ p process, s.main = .killing p ∧ s'.main = .idle ∧
      s.processes.read p = some process ∧
      s'.processes = s.processes.write p { process with interrupted := true } := by
  cases main_next_step h with
  | kill hmain hp => exact .inr ⟨_, _, hmain, rfl, hp, rfl⟩
  | take | register | start | stop | inspect_process | inspect_none => exact .inl rfl

/-- The main loop adds a job, starts the thread of a new one or cancels one. -/
theorem main_next_heap (h : main_next s l = some s') :
    s'.heap = s.heap ∨ (∃ job, s'.heap = s.heap.alloc job ∧ job.stage = .unborn) ∨
      ∃ r job job', s.heap.read r = some job ∧ s'.heap = s.heap.write r job' ∧
        (job.cancelled = true → job'.cancelled = true) ∧
        ∀ q, job'.stage.Prepares q → job'.stage = job.stage := by
  cases main_next_step h with
  | register => exact .inr (.inl ⟨_, rfl, rfl⟩)
  | start hmain hr =>
    rename_i ok r job
    refine .inr (.inr ⟨r, job, _, hr, rfl, fun h => h, ?_⟩)
    intro q hq
    cases ok
    · rfl
    · simp [Stage.Prepares] at hq
  | stop hmain hreg hr => exact .inr (.inr ⟨_, _, _, hr, rfl, fun _ => rfl, fun _ _ => rfl⟩)
  | take | inspect_process | inspect_none | kill => exact .inl rfl

/-- A step is one of a thread, the exit of a process or one of the main
    loop. -/
theorem next_cases (h : next s l = some s') :
    (∃ r action job, l = .thread r action ∧ s.heap.read r = some job ∧
        thread_next s r job action = some s') ∨
      (∃ p process ok, s.processes.read p = some process ∧
        s' = s.mark p { process with status := some ok }) ∨
      main_next s l = some s' := by
  cases l with
  | thread r action =>
    obtain ⟨job, hr, h⟩ := Option.bind_eq_some_iff.mp h
    exact .inl ⟨r, action, job, rfl, hr, h⟩
  | exits p ok =>
    obtain ⟨process, hp, h⟩ := Option.bind_eq_some_iff.mp h
    split at h
    · cases h
      exact .inr (.inl ⟨p, process, ok, hp, rfl⟩)
    · cases h
  | take user_id => exact .inr (.inr h)
  | register => exact .inr (.inr h)
  | start ok => exact .inr (.inr h)
  | stop user_id => exact .inr (.inr h)
  | inspect => exact .inr (.inr h)
  | kill => exact .inr (.inr h)

/-- No step forgets what is known of a process. -/
theorem keeps_step (h : next s l = some s') : Keeps s.processes s'.processes := by
  obtain ⟨r, action, job, _, _, h⟩ | ⟨p, process, ok, hp, rfl⟩ | h := next_cases h
  · obtain ⟨job', _, _, _, hwork⟩ := thread_next_cases h
    exact hwork.keeps
  · exact keeps_write hp ⟨rfl, rfl, fun _ => rfl, fun h => h, fun h => h⟩
  · obtain heq | ⟨p, process, _, _, hp, heq⟩ := main_next_processes h
    · rw [heq]
      exact fun _ process hp => ⟨process, hp, .refl _⟩
    · rw [heq]
      exact keeps_write hp ⟨rfl, rfl, fun h => h, fun _ => rfl, fun h => h⟩

/-- A new player is that of a job that was not cancelled. -/
theorem new_player_step (h : next s l = some s') {p : Ref} {process' : Process}
    (hp : s'.processes.read p = some process') (hplayer : process'.kind = .player) :
    (∃ process, s.processes.read p = some process ∧ process.kind = .player ∧
      process.job = process'.job) ∨
      ∃ job, s.heap.read process'.job = some job ∧ job.cancelled = false := by
  obtain ⟨r, action, job, _, hr, h⟩ | ⟨q, process, ok, hq, rfl⟩ | h := next_cases h
  · obtain ⟨job', _, _, _, hwork⟩ := thread_next_cases h
    obtain hold | ⟨rfl, hcancelled⟩ := hwork.new_player hp hplayer
    · exact .inl hold
    · exact .inr ⟨job, hr, hcancelled⟩
  · obtain ⟨rfl, rfl⟩ | ⟨_, hp⟩ := Heap.read_write_cases hp
    · exact .inl ⟨process, hq, hplayer, rfl⟩
    · exact .inl ⟨process', hp, hplayer, rfl⟩
  · obtain heq | ⟨q, process, _, _, hq, heq⟩ := main_next_processes h
    · rw [heq] at hp
      exact .inl ⟨process', hp, hplayer, rfl⟩
    · rw [heq] at hp
      obtain ⟨rfl, rfl⟩ | ⟨_, hp⟩ := Heap.read_write_cases hp
      · exact .inl ⟨process, hq, hplayer, rfl⟩
      · exact .inl ⟨process', hp, hplayer, rfl⟩

/-- The job was cancelled. -/
def State.cancelled (s : State) (r : Ref) : Prop :=
  ∃ job, s.heap.read r = some job ∧ job.cancelled = true

/-- It stays cancelled. -/
theorem cancelled_step (h : next s l = some s') {r : Ref} (hr : s.cancelled r) :
    s'.cancelled r := by
  obtain ⟨job, hread, hcancelled⟩ := hr
  -- the cell of `r` is kept or written by a step that keeps `cancelled`
  have hwrite : ∀ r' job₀ job', s.heap.read r' = some job₀ →
      s'.heap = s.heap.write r' job' → (job₀.cancelled = true → job'.cancelled = true) →
      s'.cancelled r := by
    intro r' job₀ job' hr' heq hkeeps
    unfold State.cancelled
    rw [heq]
    by_cases hsame : r = r'
    · rw [← hsame, hread] at hr'
      rw [← Option.some.inj hr'] at hkeeps
      rw [← hsame]
      exact ⟨job', Heap.read_write_self hread job', hkeeps hcancelled⟩
    · exact ⟨job, (Heap.read_write_ne _ _ (Ne.symm hsame)).trans hread, hcancelled⟩
  obtain ⟨r', action, job₀, _, hr', h⟩ | ⟨_, _, _, _, rfl⟩ | h := next_cases h
  · obtain ⟨job', heq, hkeeps, _⟩ := thread_next_cases h
    exact hwrite r' job₀ job' hr' heq fun h => hkeeps.trans h
  · exact ⟨job, hread, hcancelled⟩
  · obtain heq | ⟨job', heq, _⟩ | ⟨r', job₀, job', hr', heq, hkeeps, _⟩ := main_next_heap h
    · exact ⟨job, heq ▸ hread, hcancelled⟩
    · exact ⟨job, heq ▸ Heap.read_alloc_of_some hread _, hcancelled⟩
    · exact hwrite r' job₀ job' hr' heq hkeeps

end steps

/-! ### What holds at any time -/

/-- The process of `_prepare_audio` was started. -/
def Known (s : State) : Prop :=
  ∀ r job, s.heap.read r = some job → ∀ q, job.stage.Prepares q →
    ∃ process, s.processes.read q = some process

theorem known_step {s s' : State} {l : Label} (hs : Known s) (h : next s l = some s') :
    Known s' := by
  have hkeeps := keeps_step h
  have hold : ∀ r job q, s.heap.read r = some job → job.stage.Prepares q →
      ∃ process, s'.processes.read q = some process := by
    intro r job q hr hq
    obtain ⟨process, hp⟩ := hs r job hr q hq
    obtain ⟨process', hp', _⟩ := hkeeps q process hp
    exact ⟨process', hp'⟩
  intro r job' hr' q hq
  obtain ⟨r₀, action, job₀, _, hr₀, h⟩ | ⟨_, _, _, _, rfl⟩ | h := next_cases h
  · obtain ⟨job₁, heq, _, _, hwork⟩ := thread_next_cases h
    rw [heq] at hr'
    obtain ⟨rfl, rfl⟩ | ⟨_, hr'⟩ := Heap.read_write_cases hr'
    · obtain hprepares | hknown := hwork.known hq
      · exact hold r job₀ q hr₀ hprepares
      · exact hknown
    · exact hold r job' q hr' hq
  · exact hold r job' q hr' hq
  · obtain heq | ⟨job₁, heq, hunborn⟩ | ⟨r₀, job₀, job₁, hr₀, heq, _, hsame⟩ := main_next_heap h
    · rw [heq] at hr'
      exact hold r job' q hr' hq
    · rw [heq] at hr'
      obtain hr' | ⟨_, rfl⟩ := Heap.read_alloc_cases hr'
      · exact hold r job' q hr' hq
      · rw [hunborn] at hq
        simp [Stage.Prepares] at hq
    · rw [heq] at hr'
      obtain ⟨rfl, rfl⟩ | ⟨_, hr'⟩ := Heap.read_write_cases hr'
      · rw [hsame q hq] at hq
        exact hold r job₀ q hr₀ hq
      · exact hold r job' q hr' hq

theorem known {s : State} (hr : Reachable system s) : Known s := by
  apply hr.invariant
  · intro r job h
    simp [system, initial] at h
  · intro s l s' _ hs hstep
    exact known_step hs hstep

/-- `_stop` looks at a job that it has cancelled, and at its player if there is
    one. -/
def Inspected (s : State) : Prop :=
  ∀ r found, s.main = .inspecting r found → s.cancelled r ∧
    ∀ p process, s.processes.read p = some process → process.kind = .player →
      process.job = r → found = some p

theorem inspected_step {s s' : State} {l : Label} (hinv : Inv s) (hs : Inspected s)
    (h : next s l = some s') : Inspected s' := by
  -- a step that leaves `_stop` where it is
  have hsame : s'.main = s.main → Inspected s' := by
    intro hmain r found hfound
    rw [hmain] at hfound
    obtain ⟨hcancelled, hplayer⟩ := hs r found hfound
    refine ⟨cancelled_step h hcancelled, ?_⟩
    intro p process' hp hkind hjob
    obtain ⟨process, hp₀, hkind₀, hjob₀⟩ | ⟨job, hr, hnot⟩ := new_player_step h hp hkind
    · exact hplayer p process hp₀ hkind₀ (hjob₀.trans hjob)
    · obtain ⟨job', hr', hcancelled'⟩ := hcancelled
      rw [hjob, hr'] at hr
      rw [← Option.some.inj hr, hcancelled'] at hnot
      cases hnot
  obtain ⟨_, _, _, _, _, hthread⟩ | ⟨_, _, _, _, rfl⟩ | hmain := next_cases h
  · obtain ⟨_, _, _, hmain, _⟩ := thread_next_cases hthread
    exact hsame hmain
  · exact hsame rfl
  · intro r found hfound
    cases main_next_step hmain with
    | stop _ _ hr =>
      cases hfound
      refine ⟨⟨_, Heap.read_write_self hr _, rfl⟩, ?_⟩
      intro p process hp hkind hjob
      obtain ⟨job', hr', hprocess, _⟩ := hinv.players p process hp hkind
      rw [hjob, hr] at hr'
      rw [Option.some.inj hr']
      exact hprocess
    | @inspect_process r' p _ =>
      have hne : (if s.alive p then Main.killing p else Main.idle) ≠ .inspecting r found := by
        split <;> simp
      exact absurd hfound hne
    | take | register | start | inspect_none | kill => cases hfound

theorem inspected {s : State} (hr : Reachable system s) : Inspected s := by
  apply hr.invariant
  · intro r found h
    cases h
  · intro s l s' hr hs hstep
    exact inspected_step (inv_reachable hr) hs hstep

/-! ### Behind the critical section of `_stop` -/

/-- The process has exited, or a signal was sent to it. -/
def State.Signalled (s : State) (q : Ref) : Prop :=
  ∃ process, s.processes.read q = some process ∧
    (process.status.isSome ∨ process.interrupted = true ∨ process.terminated = true)

theorem signalled_step {s s' : State} {l : Label} (h : next s l = some s') {q : Ref}
    (hq : s.Signalled q) : s'.Signalled q := by
  obtain ⟨process, hp, hsignal⟩ := hq
  obtain ⟨process', hp', hlater⟩ := keeps_step h q process hp
  refine ⟨process', hp', ?_⟩
  obtain hstatus | hinterrupted | hterminated := hsignal
  · exact .inl (hlater.status hstatus)
  · exact .inr (.inl (hlater.interrupted hinterrupted))
  · exact .inr (.inr (hlater.terminated hterminated))

/-- `_stop` looks at the process and kills it if it is alive. -/
theorem main_inspecting {s s' : State} {l : Label} {r p : Ref}
    (hmain : s.main = .inspecting r (some p)) (h : main_next s l = some s') :
    s.alive p = true ∧ s'.main = .killing p ∨ s.alive p = false := by
  cases main_next_step h with
  | inspect_process hinspecting =>
    rw [hmain] at hinspecting
    cases hinspecting
    by_cases halive : s.alive p = true
    · exact .inl ⟨halive, if_pos halive⟩
    · exact .inr (Bool.not_eq_true _ ▸ halive)
  | take hother | register hother | start hother | stop hother | inspect_none hother | kill hother =>
    rw [hmain] at hother
    cases hother

theorem main_killing {s s' : State} {l : Label} {p : Ref} (hmain : s.main = .killing p)
    (h : main_next s l = some s') :
    ∃ process, s'.processes.read p = some process ∧ process.interrupted = true := by
  cases main_next_step h with
  | kill hkilling hp =>
    rw [hmain] at hkilling
    cases hkilling
    exact ⟨_, Heap.read_write_self hp _, rfl⟩
  | take hother | register hother | start hother | stop hother | inspect_process hother
  | inspect_none hother =>
    rw [hmain] at hother
    cases hother

/-- What a run keeps behind the critical section of `_stop`, for the job `r` that
    it has found; `s₀` is the state in front of the section. -/
structure NeverLost (s₀ : State) (r : Ref) (s : State) : Prop where
  cancelled : s.cancelled r
  /-- the players of the job are those it had launched -/
  launched : ∀ p process, s.processes.read p = some process → process.kind = .player →
    process.job = r →
      ∃ process₀, s₀.processes.read p = some process₀ ∧ process₀.kind = .player ∧ process₀.job = r
  /-- a preparation that is waited for was signalled, or `_stop` is about to -/
  signalled : ∀ job q, s.heap.read r = some job → job.stage = .converting q →
    s.Signalled q ∨ s.main = .inspecting r (some q) ∨ s.main = .killing q

theorem neverLost_stop {s s' : State} {user_id : Int} {r : Ref} (hinv : Inv s)
    (hreg : s.jobs.get? user_id = some r) (h : next s (.stop user_id) = some s') :
    NeverLost s r s' := by
  have hstop : main_next s (.stop user_id) = some s' := h
  cases main_next_step hstop with
  | stop _ hreg' hr =>
    rw [hreg] at hreg'
    cases hreg'
    refine ⟨⟨_, Heap.read_write_self hr _, rfl⟩, ?_, ?_⟩
    · intro p process hp hkind hjob
      exact ⟨process, hp, hkind, hjob⟩
    · intro job' q hr' hq
      obtain ⟨_, rfl⟩ | ⟨hne, _⟩ := Heap.read_write_cases hr'
      · have hheld := hinv.held r _ hr q (.inr (.inl hq))
        exact .inr (.inl (congrArg (Main.inspecting r) hheld))
      · exact absurd rfl hne

theorem neverLost_step {s₀ s s' : State} {l : Label} {r : Ref} (hknown : Known s)
    (hs : NeverLost s₀ r s) (h : next s l = some s') : NeverLost s₀ r s' := by
  refine ⟨cancelled_step h hs.cancelled, ?_, ?_⟩
  · intro p process' hp hkind hjob
    obtain ⟨process, hp₀, hkind₀, hjob₀⟩ | ⟨job, hr, hnot⟩ := new_player_step h hp hkind
    · exact hs.launched p process hp₀ hkind₀ (hjob₀.trans hjob)
    · -- the launch checks `cancelled` under the lock
      obtain ⟨job', hr', hcancelled⟩ := hs.cancelled
      rw [hjob, hr'] at hr
      rw [← Option.some.inj hr, hcancelled] at hnot
      cases hnot
  · intro job' q hr' hq
    -- a step that finds the thread waiting and leaves `_stop` where it is
    have hkept : ∀ job, s.heap.read r = some job → job.stage = .converting q →
        s'.main = s.main →
        s'.Signalled q ∨ s'.main = .inspecting r (some q) ∨ s'.main = .killing q := by
      intro job hr hstage hmain
      obtain hsignalled | hstopping := hs.signalled job q hr hstage
      · exact .inl (signalled_step h hsignalled)
      · rw [hmain]
        exact .inr hstopping
    -- a step of a thread, of the system, or of the main thread
    obtain ⟨r₁, action, job₁, _, hr₁, hthread⟩ | ⟨_, _, _, _, rfl⟩ | hmain := next_cases h
    · obtain ⟨job₂, heq, _, hmain, hwork⟩ := thread_next_cases hthread
      rw [heq] at hr'
      obtain ⟨rfl, rfl⟩ | ⟨_, hr'⟩ := Heap.read_write_cases hr'
      · obtain ⟨process, hp, hterminated⟩ := hwork.converting hq
        obtain ⟨job₀, hr₀, hcancelled⟩ := hs.cancelled
        rw [hr₁] at hr₀
        rw [← Option.some.inj hr₀] at hcancelled
        exact .inl ⟨process, hp, .inr (.inr (hterminated hcancelled))⟩
      · exact hkept job' hr' hq hmain
    · exact hkept job' hr' hq rfl
    · have hwaiting : ∃ job, s.heap.read r = some job ∧ job.stage = .converting q := by
        obtain heq | ⟨job₁, heq, hunborn⟩ | ⟨r₁, job₁, job₂, hr₁, heq, _, hsame⟩ :=
          main_next_heap hmain
        · exact ⟨job', heq ▸ hr', hq⟩
        · rw [heq] at hr'
          obtain hr' | ⟨_, rfl⟩ := Heap.read_alloc_cases hr'
          · exact ⟨job', hr', hq⟩
          · rw [hunborn] at hq
            cases hq
        · rw [heq] at hr'
          obtain ⟨rfl, rfl⟩ | ⟨_, hr'⟩ := Heap.read_write_cases hr'
          · exact ⟨job₁, hr₁, (hsame q (.inr (.inr hq))).symm.trans hq⟩
          · exact ⟨job', hr', hq⟩
      obtain ⟨job, hr, hstage⟩ := hwaiting
      obtain hsignalled | hinspecting | hkilling := hs.signalled job q hr hstage
      · exact .inl (signalled_step h hsignalled)
      · obtain ⟨_, hkilling⟩ | hdead := main_inspecting hinspecting hmain
        · exact .inr (.inr hkilling)
        · obtain ⟨process, hp⟩ := hknown r job hr q (.inr (.inr hstage))
          have hstatus : process.status.isSome := by
            unfold State.alive at hdead
            rw [hp] at hdead
            exact Option.isSome_iff_ne_none.mpr fun hnone => by simp [hnone] at hdead
          exact .inl (signalled_step h ⟨process, hp, .inl hstatus⟩)
      · obtain ⟨process, hp, hinterrupted⟩ := main_killing hkilling hmain
        exact .inl ⟨process, hp, .inr (.inl hinterrupted)⟩

theorem neverLost {s s' t : State} {user_id : Int} {r : Ref} (hr : Reachable system s)
    (hreg : s.jobs.get? user_id = some r) (hstop : system.step s (.stop user_id) s')
    (hrun : Star system s' t) : NeverLost s r t := by
  have hstart := neverLost_stop (inv_reachable hr) hreg hstop
  apply Star.stable (P := NeverLost s r) ?_ (hr.step hstop) hrun hstart
  intro u l u' hu hs hstep
  exact neverLost_step (known hu) hs hstep

/-- A process that `_stop` is about to kill is killed before the main loop goes
    on. -/
theorem killed {s t : State} {p : Ref} (hmain : s.main = .killing p) (hrun : Star system s t) :
    t.main = .killing p ∨ ∃ process, t.processes.read p = some process ∧
      process.interrupted = true := by
  apply hrun.preserves (P := fun t => t.main = .killing p ∨
    ∃ process, t.processes.read p = some process ∧ process.interrupted = true) ?_ (.inl hmain)
  intro u l u' hu hstep
  obtain hkilling | ⟨process, hp, hinterrupted⟩ := hu
  · obtain ⟨_, _, _, _, _, h⟩ | ⟨_, _, _, _, rfl⟩ | h := next_cases hstep
    · obtain ⟨_, _, _, hsame, _⟩ := thread_next_cases h
      exact .inl (hsame.trans hkilling)
    · exact .inl hkilling
    · exact .inr (main_killing hkilling h)
  · obtain ⟨process', hp', hlater⟩ := keeps_step hstep p process hp
    exact .inr ⟨process', hp', hlater.interrupted hinterrupted⟩

/-- A stop is not lost.  Behind the critical section of `_stop` for the job `r`:
    the job launches no player; a player that is alive when `_stop` inspects it
    is sent `SIGINT`; and the thread waits for no preparation that was not
    signalled, once `_stop` is through. -/
theorem stop_never_lost {s s' t : State} {user_id : Int} {r : Ref} (hr : Reachable system s)
    (hreg : s.jobs.get? user_id = some r) (hstop : system.step s (.stop user_id) s')
    (hrun : Star system s' t) :
    (∀ p process, t.processes.read p = some process → process.kind = .player →
      process.job = r → ∃ process₀, s.processes.read p = some process₀ ∧
        process₀.kind = .player ∧ process₀.job = r) ∧
    (∀ p process found u, t.main = .inspecting r found → t.processes.read p = some process →
      process.kind = .player → process.job = r → process.status = none →
      system.step t .inspect u → ∀ v, Star system u v → v.main = .killing p ∨
        ∃ process', v.processes.read p = some process' ∧ process'.interrupted = true) ∧
    (∀ job q, t.heap.read r = some job → job.stage = .converting q →
      t.Signalled q ∨ t.main = .inspecting r (some q) ∨ t.main = .killing q) := by
  have ht := neverLost hr hreg hstop hrun
  refine ⟨ht.launched, ?_, ht.signalled⟩
  intro p process found u hmain hp hkind hjob hstatus hinspect v hv
  have hreach : Reachable system t := (hr.step hstop).star hrun
  have hfound := (inspected hreach r found hmain).2 p process hp hkind hjob
  rw [hfound] at hmain
  obtain ⟨_, hkilling⟩ | hdead := main_inspecting hmain (l := .inspect) hinspect
  · exact killed hkilling hv
  · unfold State.alive at hdead
    rw [hp] at hdead
    simp [hstatus] at hdead

/-- The job of the user 7 is stopped while its player is running. -/
def stopping : List Label := playing ++ [.stop 7]

/-- Its player is interrupted. -/
theorem stop_never_lost_playing :
    (system.play (stopping ++ [.inspect] ++ [.kill])).main = .killing 1 ∨
      ∃ process, (system.play (stopping ++ [.inspect] ++ [.kill])).processes.read 1 = some process ∧
        process.interrupted = true := by
  have hreg : (system.play playing).jobs.get? 7 = some 0 := by decide
  have hstop : system.step (system.play playing) (.stop 7) (system.play stopping) :=
    step_play (by decide)
  have hmain : (system.play stopping).main = .inspecting 0 (some 1) := by decide
  have hplayer : (system.play stopping).processes.read 1 =
      some ⟨.player, 0, none, false, false⟩ := by decide
  have hinspect : system.step (system.play stopping) .inspect
      (system.play (stopping ++ [.inspect])) := step_play (by decide)
  have hkill : Star system (system.play (stopping ++ [.inspect]))
      (system.play (stopping ++ [.inspect] ++ [.kill])) := star_play _ _
  obtain ⟨_, hinterrupted, _⟩ := stop_never_lost (reachable_play playing) hreg hstop (Star.refl _)
  exact hinterrupted 1 ⟨.player, 0, none, false, false⟩ (some 1) _ hmain hplayer rfl rfl rfl hinspect
    _ hkill

end BoVpnAgent.Playback

import BoVpnAgent.Lifecycle.Programs

/-! # Programs report in order

    A history of questions reports states; a program follows the order when
    each state it reports is one of the phases and no phase reported before
    it is later.  This is a property of programs alone, whoever runs them.
-/

namespace BoVpnAgent.RunnerProgram

open Dialogue (Exchange Meets Triple Asks)

/-- The states that a history reports. -/
def reported (h : List (Exchange RunnerQuery RunnerQuery.Answer)) : List TaskState :=
  h.filterMap fun x => (report x.1).map Prod.fst

/-- The question may be asked after the history. -/
def Follows (h : List (Exchange RunnerQuery RunnerQuery.Answer)) (q : RunnerQuery) : Prop :=
  ∀ st ∈ (report q).map Prod.fst, st.phase = true ∧ ∀ st' ∈ reported h, st'.rank ≤ st.rank

/-- No later state than the one of rank `n` is reported. -/
def UpTo (n : Nat) (h : List (Exchange RunnerQuery RunnerQuery.Answer)) : Prop :=
  ∀ st ∈ reported h, st.rank ≤ n

theorem reported_snoc (h : List (Exchange RunnerQuery RunnerQuery.Answer)) (q : RunnerQuery)
    (a : q.Answer) : reported (h ++ [⟨q, a⟩]) = reported h ++ ((report q).map Prod.fst).toList := by
  unfold reported
  rw [List.filterMap_append]
  congr 1

theorem upTo_nil (n : Nat) : UpTo n [] := fun _ h => nomatch h

theorem UpTo.mono {n m : Nat} {h : List (Exchange RunnerQuery RunnerQuery.Answer)} (hn : UpTo n h)
    (hle : n ≤ m) : UpTo m h := fun st hst => Nat.le_trans (hn st hst) hle

/-! ### The rules -/

/-- A report of a phase that is not earlier than what came before. -/
theorem triple_set_state {n : Nat} {st : TaskState} (hphase : st.phase = true) (hle : n ≤ st.rank)
    (message : String) :
    Triple Follows (UpTo n) (set_state st message) fun _ h => UpTo st.rank h := by
  refine Triple.ask ?_ fun a => Triple.pure ?_
  · intro h hn st' hst'
    obtain rfl := Option.some.inj hst'
    exact ⟨hphase, (hn.mono hle)⟩
  · rintro _ ⟨h, hn, rfl⟩ st' hst'
    rw [reported_snoc] at hst'
    obtain hold | hnew := List.mem_append.mp hst'
    · exact hn.mono hle st' hold
    · obtain rfl := List.mem_singleton.mp hnew
      exact Nat.le_refl _

/-- The question reports nothing. -/
def Quiet (q : RunnerQuery) : Prop := report q = none

theorem triple_quiet {α : Type} {p : RunnerDialogue α} (hp : Asks Quiet p) (n : Nat) :
    Triple Follows (UpTo n) p fun _ h => UpTo n h := by
  refine hp.triple ?_ ?_
  · intro h q _ hq st hst
    rw [hq] at hst
    cases hst
  · intro h q a hn hq st hst
    rw [reported_snoc, hq] at hst
    exact hn st (by simpa using hst)

theorem quiet_sleep : Asks Quiet sleep := Asks.question rfl

theorem quiet_tcp_connect (host : PyStr) (port timeout : Nat) :
    Asks Quiet (tcp_connect host port timeout) := Asks.question rfl

theorem quiet_create_text_artifact (filename content : PyStr) :
    Asks Quiet (create_text_artifact filename content) := ⟨rfl, fun _ => trivial⟩

theorem quiet_query_existing_container : Asks Quiet (query .existing_container) :=
  Asks.question rfl

/-! ### The programs -/

/-- A list of phases in order is reported in order. -/
theorem triple_simulate {phases : List (TaskState × String)} {n : Nat}
    (hphase : ∀ p ∈ phases, p.1.phase = true)
    (hsorted : (n :: phases.map fun p => p.1.rank).Pairwise (· ≤ ·)) :
    Triple Follows (UpTo n) (DryRunRunner.simulate phases) fun _ _ => True := by
  induction phases generalizing n with
  | nil => exact Triple.pure fun _ _ => trivial
  | cons p phases ih =>
    obtain ⟨st, message⟩ := p
    obtain ⟨hfirst, hrest⟩ := List.pairwise_cons.mp hsorted
    refine (triple_set_state (hphase _ List.mem_cons_self)
      (hfirst _ List.mem_cons_self) message).bind fun _ => ?_
    refine (triple_quiet quiet_sleep _).bind fun _ => ?_
    exact ih (fun q hq => hphase q (List.mem_cons_of_mem _ hq)) hrest

theorem quiet_operation_result (task : Task) : Asks Quiet (DryRunRunner.operation_result task) := by
  unfold DryRunRunner.operation_result
  refine .ite (.pure _) (.ite (.pure _) (.ite (.pure _) (.ite ?_ (.pure _))))
  exact (quiet_create_text_artifact _ _).bind fun _ => .pure _

/-- A quiet program may come after anything. -/
theorem triple_quiet_any {α : Type} {p : RunnerDialogue α} (hp : Asks Quiet p) :
    Triple Follows (fun _ => True) p fun _ _ => True :=
  (triple_quiet hp 7).weaken (fun _ _ st _ => st.rank_le) fun _ _ _ => trivial

theorem triple_dry_run (task : Task) :
    Triple Follows (UpTo 0) (DryRunRunner.run task) fun _ _ => True :=
  (triple_simulate (by decide) (by decide)).bind fun _ =>
    triple_quiet_any (quiet_operation_result task)

theorem triple_existing_container_runner (task : Task) :
    Triple Follows (UpTo 0) (ExistingContainerRunner.run task) fun _ _ => True := by
  refine (triple_set_state rfl (by decide) _).bind fun _ => ?_
  refine (triple_set_state rfl (by decide) _).bind fun _ => ?_
  refine (triple_set_state rfl (by decide) _).bind fun _ => ?_
  refine (triple_quiet (quiet_tcp_connect _ _ _) _).bind fun _ => ?_
  refine (triple_quiet (quiet_tcp_connect _ _ _) _).bind fun _ => ?_
  refine (triple_quiet (quiet_tcp_connect _ _ _) _).bind fun _ => ?_
  refine Triple.ite (fun _ => Triple.raise _) fun _ => ?_
  refine (triple_set_state rfl (by decide) _).bind fun _ => ?_
  refine (triple_set_state rfl (by decide) _).bind fun _ => ?_
  exact Triple.pure fun _ _ => trivial

theorem triple_job_container : Triple Follows (UpTo 0) JobContainerRunner.run fun _ _ => True :=
  (triple_set_state rfl (by decide) _).bind fun _ => Triple.raise _

theorem triple_existing_container :
    Triple Follows (UpTo 0) existing_container fun _ _ => True := by
  refine (triple_set_state rfl (by decide) _).bind fun _ => ?_
  refine (triple_quiet quiet_query_existing_container _).bind fun result => ?_
  exact Triple.done fun _ _ _ _ => trivial

/-! ### Programs under way -/

/-- The rest of a program that has reported `st` last, or nothing yet when
    `st` is `created`. -/
def Continues (p : RunnerProgram) (st : TaskState) : Prop :=
  ∃ h, Meets Follows p h (fun _ _ => True) ∧ (st = .created ∨ st ∈ reported h)

theorem continues_of_triple {p : RunnerProgram}
    (hp : Triple Follows (UpTo 0) p fun _ _ => True) : p.Continues .created :=
  ⟨[], hp [] (upTo_nil 0), .inl rfl⟩

theorem continues_start {task : Task} {runner : VpnRunner} {p : RunnerProgram}
    (h : start task runner = some p) : p.Continues .created := by
  refine continues_of_triple ?_
  cases runner with
  | dry_run => exact Option.some.inj h ▸ triple_dry_run task
  | existing_container => exact Option.some.inj h ▸ triple_existing_container_runner task
  | job_container => exact Option.some.inj h ▸ triple_job_container
  | runner_daemon => cases h

/-- What a program reports is a phase, and not before the one it reported
    last. -/
theorem Continues.report {p next : RunnerProgram} {st st' : TaskState} {message : PyStr}
    {answer : (q : RunnerQuery) → q.Answer} (h : p.Continues st)
    (hstep : step answer p = .asked (some (st', message)) next) :
    st'.phase = true ∧ st.rank ≤ st'.rank ∧ next.Continues st' := by
  obtain ⟨before, hmeets, hlast⟩ := h
  cases p with
  | done r => cases r <;> cases hstep
  | ask q k =>
    obtain ⟨hq, hnext⟩ := Step.asked.inj hstep
    obtain ⟨hfollows, hrest⟩ := hmeets
    obtain ⟨hphase, hle⟩ := hfollows st' (by rw [hq]; rfl)
    refine ⟨hphase, ?_, ⟨_, hnext ▸ hrest (answer q), .inr ?_⟩⟩
    · rcases hlast with rfl | hmem
      · exact Nat.zero_le _
      · exact hle st hmem
    · rw [reported_snoc, hq]
      exact List.mem_append_right _ List.mem_cons_self

theorem Continues.quiet {p next : RunnerProgram} {st : TaskState}
    {answer : (q : RunnerQuery) → q.Answer} (h : p.Continues st)
    (hstep : step answer p = .asked none next) : next.Continues st := by
  obtain ⟨before, hmeets, hlast⟩ := h
  cases p with
  | done r => cases r <;> cases hstep
  | ask q k =>
    obtain ⟨hq, hnext⟩ := Step.asked.inj hstep
    refine ⟨_, hnext ▸ hmeets.2 (answer q), hlast.imp_right fun hmem => ?_⟩
    rw [reported_snoc]
    exact List.mem_append_left _ hmem

end BoVpnAgent.RunnerProgram

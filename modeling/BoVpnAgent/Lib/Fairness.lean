import Mathlib.Order.Monotone.Basic
import BoVpnAgent.Lib.Transition

/-! # Fair runs

    What has to happen sooner or later is a statement about infinite runs in
    which a thread that can go on is not passed over for ever.

    This file defines:
    - `Run`: the infinite runs of a system, with moments of rest
    - `Run.Fair`: weak fairness for a set of labels
    - `Run.Fair.comes_to_rest`: the rule of a measure that the fair steps
      lower and no other step raises
-/

namespace Lts

universe u v

variable {σ : Type u} {ℓ : Type v} {sys : System σ ℓ}

/-- An infinite run from any state.  A moment without a label is one in
    which nothing happens. -/
structure Run (sys : System σ ℓ) where
  states : Nat → σ
  labels : Nat → Option ℓ
  goes : ∀ n, match labels n with
    | some l => sys.step (states n) l (states (n + 1))
    | none => states (n + 1) = states n

namespace Run

/-- Weak fairness: if from some moment on a step of `A` is always enabled, one
    is taken. -/
def Fair (run : Run sys) (A : ℓ → Prop) : Prop :=
  ∀ n, (∀ m ≥ n, ∃ l s, A l ∧ sys.step (run.states m) l s) →
    ∃ m ≥ n, ∃ l, A l ∧ run.labels m = some l

variable {run : Run sys} {A : ℓ → Prop} {P : σ → Prop} {left : σ → Nat}

theorem step_of_label {n : Nat} {l : ℓ} (h : run.labels n = some l) :
    sys.step (run.states n) l (run.states (n + 1)) := by
  have hgoes := run.goes n
  rw [h] at hgoes
  exact hgoes

/-- A moment either takes a step or changes nothing. -/
theorem step_or_rest (run : Run sys) (n : Nat) :
    (∃ l, sys.step (run.states n) l (run.states (n + 1))) ∨
      run.states (n + 1) = run.states n := by
  have hgoes := run.goes n
  cases hl : run.labels n with
  | some l => exact .inl ⟨l, step_of_label hl⟩
  | none =>
    rw [hl] at hgoes
    exact .inr hgoes

/-- What every step keeps holds in the whole run. -/
theorem always (hP : ∀ s l s', P s → sys.step s l s' → P s') (h : P (run.states 0)) :
    ∀ n, P (run.states n) := by
  intro n
  induction n with
  | zero => exact h
  | succ n ih =>
    obtain ⟨l, hstep⟩ | hrest := run.step_or_rest n
    · exact hP _ _ _ ih hstep
    · exact hrest ▸ ih

/-- A measure that no step raises. -/
theorem antitone_measure (hP : ∀ n, P (run.states n))
    (hleft : ∀ s l s', P s → sys.step s l s' → left s' ≤ left s) :
    Antitone fun n => left (run.states n) := by
  refine antitone_nat_of_succ_le fun n => ?_
  obtain ⟨l, hstep⟩ | hrest := run.step_or_rest n
  · exact hleft _ _ _ (hP n) hstep
  · exact (congrArg left hrest).le

/-- The steps of `A` lower a measure that no other step raises, and one of
    them is enabled until it is zero.  Then a run that is fair to `A` brings
    it to zero for good. -/
theorem Fair.comes_to_rest (hfair : run.Fair A) (hP : ∀ n, P (run.states n))
    (hleft : ∀ s l s', P s → sys.step s l s' → left s' ≤ left s)
    (hlower : ∀ s l s', P s → A l → sys.step s l s' → left s' < left s)
    (henabled : ∀ s, P s → left s ≠ 0 → ∃ l s', A l ∧ sys.step s l s') :
    ∃ n, ∀ m ≥ n, left (run.states m) = 0 := by
  have hmono := antitone_measure hP hleft
  suffices hreach : ∀ k n, left (run.states n) = k → ∃ m, left (run.states m) = 0 by
    obtain ⟨n, hn⟩ := hreach _ 0 rfl
    exact ⟨n, fun m hm => Nat.eq_zero_of_le_zero (hn ▸ hmono hm)⟩
  intro k
  induction k using Nat.strongRecOn with
  | ind k ih =>
    intro n hn
    by_cases hzero : ∃ m, left (run.states m) = 0
    · exact hzero
    · -- the measure stays positive, so a step of `A` is enabled at every moment
      have hpos : ∀ m, left (run.states m) ≠ 0 := fun m hm => hzero ⟨m, hm⟩
      obtain ⟨m, hm, l, hl, hlabel⟩ := hfair n fun m _ => henabled _ (hP m) (hpos m)
      have hlt : left (run.states (m + 1)) < left (run.states m) :=
        hlower _ _ _ (hP m) hl (step_of_label hlabel)
      have hle : left (run.states m) ≤ k := hn ▸ hmono hm
      exact ih _ (Nat.lt_of_lt_of_le hlt hle) (m + 1) rfl

end Run

end Lts

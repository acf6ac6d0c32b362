import BoVpnAgent.Lib.Transition
import Mathlib.Logic.Function.Basic

/-! # Threads over a shared state

    Each thread has a state of its own and moves by itself; all threads read
    and change what they share.  A thread may be anywhere when another one
    moves.

    This file defines:
    - `Threads.system`: the threads, in any interleaving
    - `Threads.Outline`: an assertion for each place a thread may be at, kept
      by the moves of the thread itself and of the others, and what follows
      for every run
-/

namespace Lts

universe u v w x y

/-- Threads over a shared state of type `σ`; `κ` is what the surroundings
    choose in a move, and `ε` what they do between the moves. -/
structure Threads (ι : Type u) (σ : Type v) (τ : Type w) (κ : Type x) (ε : Type y) where
  shared : σ
  entry : ι → τ
  move : ι → κ → τ → σ → Option (τ × σ)
  disturb : ε → σ → Option σ

namespace Threads

variable {ι : Type u} {σ : Type v} {τ : Type w} {κ : Type x} {ε : Type y}

/-- The shared state and where the threads are. -/
structure State (ι : Type u) (σ : Type v) (τ : Type w) where
  shared : σ
  threads : ι → τ

inductive Label (ι : Type u) (κ : Type x) (ε : Type y) where
  | move (i : ι) (choice : κ)
  | disturb (e : ε)

variable [DecidableEq ι] (p : Threads ι σ τ κ ε)

/-- One thread moves, or the surroundings act on the shared state. -/
def next (s : State ι σ τ) : Label ι κ ε → Option (State ι σ τ)
  | .move i choice =>
    (p.move i choice (s.threads i) s.shared).map fun r =>
      { shared := r.2, threads := Function.update s.threads i r.1 }
  | .disturb e => (p.disturb e s.shared).map fun shared => { s with shared := shared }

def system : System (State ι σ τ) (Label ι κ ε) where
  init := { shared := p.shared, threads := p.entry }
  next := p.next

variable {p} {s s' : State ι σ τ}

/-- What a step does. -/
theorem step_cases {l : Label ι κ ε} (h : p.system.step s l s') :
    (∃ i choice t, p.move i choice (s.threads i) s.shared = some (t, s'.shared) ∧
      s'.threads = Function.update s.threads i t) ∨
    (∃ e, p.disturb e s.shared = some s'.shared ∧ s'.threads = s.threads) := by
  cases l with
  | move i choice =>
    obtain ⟨⟨t, shared⟩, hmove, rfl⟩ := Option.map_eq_some_iff.mp h
    exact .inl ⟨i, choice, t, hmove, rfl⟩
  | disturb e =>
    obtain ⟨shared, he, rfl⟩ := Option.map_eq_some_iff.mp h
    exact .inr ⟨e, he, rfl⟩

/-- The thread that is somewhere else behind a step has moved. -/
theorem moved {l : Label ι κ ε} {i : ι} (h : p.system.step s l s')
    (hne : s'.threads i ≠ s.threads i) :
    ∃ choice, p.move i choice (s.threads i) s.shared = some (s'.threads i, s'.shared) := by
  obtain ⟨j, choice, t, hmove, hthreads⟩ | ⟨e, -, hthreads⟩ := step_cases h
  · by_cases hj : i = j
    · subst hj
      refine ⟨choice, ?_⟩
      rw [hthreads, Function.update_self]
      exact hmove
    · rw [hthreads, Function.update_of_ne hj] at hne
      exact absurd rfl hne
  · rw [hthreads] at hne
    exact absurd rfl hne

/-- An assertion about the shared state, and one for each place a thread may
    be at.  No move of a thread disturbs the assertions of the others. -/
structure Outline (p : Threads ι σ τ κ ε) where
  Shared : σ → Prop
  At : ι → τ → σ → Prop
  shared : Shared p.shared
  entry : ∀ i, At i (p.entry i) p.shared
  move : ∀ i choice t s t' s', Shared s → At i t s → p.move i choice t s = some (t', s') →
    Shared s' ∧ At i t' s'
  others : ∀ i j choice t u s t' s', j ≠ i → Shared s → At i t s → At j u s →
    p.move i choice t s = some (t', s') → At j u s'
  disturb : ∀ e s s', Shared s → p.disturb e s = some s' → Shared s' ∧ ∀ i t, At i t s → At i t s'

/-- In every run each thread finds its assertion true. -/
theorem Outline.holds (o : Outline p) (h : Reachable p.system s) :
    o.Shared s.shared ∧ ∀ i, o.At i (s.threads i) s.shared := by
  refine h.invariant (P := fun s => o.Shared s.shared ∧ ∀ i, o.At i (s.threads i) s.shared)
    ⟨o.shared, o.entry⟩ ?_
  intro s l s' _ ⟨hshared, hat⟩ hstep
  obtain ⟨i, choice, t, hmove, hthreads⟩ | ⟨e, he, hthreads⟩ := step_cases hstep
  · obtain ⟨hshared', hi⟩ := o.move i choice _ _ _ _ hshared (hat i) hmove
    refine ⟨hshared', fun j => ?_⟩
    by_cases hj : j = i
    · rw [hthreads, hj, Function.update_self]
      exact hi
    · rw [hthreads, Function.update_of_ne hj]
      exact o.others i j choice _ _ _ _ _ hj hshared (hat i) (hat j) hmove
  · obtain ⟨hshared', hkeep⟩ := o.disturb e _ _ hshared he
    refine ⟨hshared', fun i => ?_⟩
    rw [hthreads]
    exact hkeep i _ (hat i)

end Threads

end Lts

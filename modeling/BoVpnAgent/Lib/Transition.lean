import Mathlib.Data.List.Induction
import Mathlib.Logic.Relation

/-! # Labelled transition systems

    A `System` has one initial state and a partial function `next`: the
    state that a label leads to, when the label is enabled.  Every choice of
    the environment (which thread moves, what an outside call answers) is
    part of the label, so `next` is a function and a concrete run is
    evaluated with `System.play`.

    This file defines:
    - `Star` and `Reachable`: the states a run leads to
    - the invariant rules, for a property of states and for one that relates
      an earlier state to a later one
    - `System.restrict`: the runs whose steps all meet a condition
-/

namespace Lts

universe u v

variable {σ : Type u} {ℓ : Type v}

/-- A labelled transition system. -/
structure System (σ : Type u) (ℓ : Type v) where
  init : σ
  next : σ → ℓ → Option σ

/-- `s` steps to `s'` under the label `l`. -/
def System.step (sys : System σ ℓ) (s : σ) (l : ℓ) (s' : σ) : Prop :=
  sys.next s l = some s'

/-- `s'` is reached from `s` by finitely many steps. -/
def Star (sys : System σ ℓ) : σ → σ → Prop :=
  Relation.ReflTransGen fun s s' => ∃ l, sys.step s l s'

/-- The states of all runs. -/
def Reachable (sys : System σ ℓ) (s : σ) : Prop := Star sys sys.init s

variable {sys : System σ ℓ} {s t u : σ} {l : ℓ}

theorem Star.refl (s : σ) : Star sys s s := Relation.ReflTransGen.refl

theorem Star.trans (h₁ : Star sys s t) (h₂ : Star sys t u) : Star sys s u :=
  Relation.ReflTransGen.trans h₁ h₂

theorem Star.tail (h : Star sys s t) (hstep : sys.step t l u) : Star sys s u :=
  Relation.ReflTransGen.tail h ⟨l, hstep⟩

theorem Reachable.init : Reachable sys sys.init := Star.refl _

theorem Reachable.step (h : Reachable sys s) (hstep : sys.step s l t) : Reachable sys t :=
  Star.tail h hstep

theorem Reachable.star (h : Reachable sys s) (hst : Star sys s t) : Reachable sys t :=
  Star.trans h hst

/-! ### Invariant rules -/

/-- A property that holds initially and that every step from a reachable
    state keeps holds in every reachable state. -/
theorem Reachable.invariant {P : σ → Prop} (hinit : P sys.init)
    (hnext : ∀ s l s', Reachable sys s → P s → sys.step s l s' → P s')
    (h : Reachable sys s) : P s := by
  suffices hs : Reachable sys s ∧ P s from hs.2
  unfold Reachable Star at h
  induction h with
  | refl => exact ⟨Reachable.init, hinit⟩
  | tail _ hstep ih =>
    obtain ⟨l, hl⟩ := hstep
    exact ⟨ih.1.step hl, hnext _ _ _ ih.1 ih.2 hl⟩

/-- A property that every step from a reachable state keeps, once it holds,
    holds in every later state. -/
theorem Star.stable {P : σ → Prop}
    (hnext : ∀ s l s', Reachable sys s → P s → sys.step s l s' → P s')
    (hr : Reachable sys s) (h : Star sys s t) (hP : P s) : P t := by
  suffices hs : Reachable sys t ∧ P t from hs.2
  unfold Star at h
  induction h with
  | refl => exact ⟨hr, hP⟩
  | tail _ hstep ih =>
    obtain ⟨l, hl⟩ := hstep
    exact ⟨ih.1.step hl, hnext _ _ _ ih.1 ih.2 hl⟩

/-- A property that every step keeps, once it holds, holds in every later
    state. -/
theorem Star.preserves {P : σ → Prop} (hnext : ∀ s l s', P s → sys.step s l s' → P s')
    (h : Star sys s t) (hP : P s) : P t := by
  unfold Star at h
  induction h with
  | refl => exact hP
  | tail _ hstep ih =>
    obtain ⟨l, hl⟩ := hstep
    exact hnext _ _ _ ih hl

/-! ### Concrete runs -/

/-- The state after a list of labels; a label that is not enabled is
    skipped. -/
def System.play (sys : System σ ℓ) (ls : List ℓ) : σ :=
  ls.foldl (fun s l => (sys.next s l).getD s) sys.init

/-- More labels lead to a later state. -/
theorem star_play (ls ls' : List ℓ) : Star sys (sys.play ls) (sys.play (ls ++ ls')) := by
  induction ls' using List.reverseRecOn with
  | nil => rw [List.append_nil]; exact Star.refl _
  | append_singleton ls' l ih =>
    have hplay : sys.play (ls ++ (ls' ++ [l])) =
        (sys.next (sys.play (ls ++ ls')) l).getD (sys.play (ls ++ ls')) := by
      simp [System.play]
    rw [hplay]
    cases hl : sys.next (sys.play (ls ++ ls')) l with
    | none => exact ih
    | some s => exact ih.tail hl

/-- A label that is enabled is taken. -/
theorem step_play {ls : List ℓ} {l : ℓ} (h : (sys.next (sys.play ls) l).isSome) :
    sys.step (sys.play ls) l (sys.play (ls ++ [l])) := by
  obtain ⟨s, hs⟩ := Option.isSome_iff_exists.mp h
  have hplay : sys.play (ls ++ [l]) = (sys.next (sys.play ls) l).getD (sys.play ls) := by
    simp [System.play]
  rw [hplay, hs]
  exact hs

theorem reachable_play (ls : List ℓ) : Reachable sys (sys.play ls) := star_play [] ls

/-! ### Runs whose steps meet a condition -/

/-- The system that takes only the steps meeting `C`. -/
def System.restrict (sys : System σ ℓ) (C : σ → ℓ → Prop) [∀ s l, Decidable (C s l)] :
    System σ ℓ where
  init := sys.init
  next := fun s l => if C s l then sys.next s l else none

variable {C : σ → ℓ → Prop} [∀ s l, Decidable (C s l)]

theorem restrict_step : (sys.restrict C).step s l t ↔ C s l ∧ sys.step s l t := by
  unfold System.step System.restrict
  by_cases h : C s l <;> simp [h]

theorem Star.of_restrict (h : Star (sys.restrict C) s t) : Star sys s t :=
  Relation.ReflTransGen.mono (fun _ _ ⟨l, hl⟩ => ⟨l, (restrict_step.mp hl).2⟩) _ _ h

/-- A condition that always holds restricts nothing. -/
theorem Star.restrict (hC : ∀ s l, C s l) (h : Star sys s t) : Star (sys.restrict C) s t :=
  Relation.ReflTransGen.mono (fun _ _ ⟨l, hl⟩ => ⟨l, restrict_step.mpr ⟨hC _ l, hl⟩⟩) _ _ h

theorem Reachable.of_restrict (h : Reachable (sys.restrict C) s) : Reachable sys s :=
  Star.of_restrict h

end Lts

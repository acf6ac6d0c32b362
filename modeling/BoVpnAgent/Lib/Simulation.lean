import BoVpnAgent.Lib.Transition

/-! # Runs with their labels, and simulations

    `Star` forgets the labels of a run; `Runs` keeps them, so that they can be
    counted.  A `Simulation` takes every step of one system to a step of
    another one: then the states it reaches are taken to reachable states, and
    its runs to runs.
-/

namespace Lts

universe u v w z

variable {σ : Type u} {ℓ : Type v} {τ : Type w} {ℓ' : Type z}

/-- A run, with its labels. -/
inductive Runs (sys : System σ ℓ) : σ → List ℓ → σ → Prop where
  | nil (s : σ) : Runs sys s [] s
  | cons {s s' t : σ} {l : ℓ} {ls : List ℓ} (hstep : sys.step s l s') (hrun : Runs sys s' ls t) :
    Runs sys s (l :: ls) t

variable {sys : System σ ℓ} {sys' : System τ ℓ'} {s t : σ} {ls : List ℓ}

theorem Runs.star (h : Runs sys s ls t) : Star sys s t := by
  induction h with
  | nil s => exact Star.refl s
  | cons hstep _ ih => exact ((Star.refl _).tail hstep).trans ih

theorem Reachable.runs (hs : Reachable sys s) (h : Runs sys s ls t) : Reachable sys t :=
  hs.star h.star

/-- The steps of `sys` as steps of `sys'`. -/
structure Simulation (sys : System σ ℓ) (sys' : System τ ℓ') where
  state : σ → τ
  label : σ → ℓ → ℓ'
  init : state sys.init = sys'.init
  step : ∀ s l s', sys.step s l s' → sys'.step (state s) (label s l) (state s')

theorem Reachable.simulated (sim : Simulation sys sys') (h : Reachable sys s) :
    Reachable sys' (sim.state s) := by
  apply h.invariant (P := fun s => Reachable sys' (sim.state s))
  · rw [sim.init]
    exact Reachable.init
  · intro s l s' _ hs hstep
    exact hs.step (sim.step s l s' hstep)

/-- A run is taken to one with as many labels of a kind that the simulation
    keeps. -/
theorem Runs.simulated (sim : Simulation sys sys') {p : ℓ → Bool} {p' : ℓ' → Bool}
    (hp : ∀ s l, p' (sim.label s l) = p l) (h : Runs sys s ls t) :
    ∃ ls', Runs sys' (sim.state s) ls' (sim.state t) ∧ ls'.countP p' = ls.countP p := by
  induction h with
  | nil s => exact ⟨[], .nil _, rfl⟩
  | @cons s s' t l ls hstep _ ih =>
    obtain ⟨ls', hrun, hcount⟩ := ih
    refine ⟨sim.label s l :: ls', .cons (sim.step s l s' hstep) hrun, ?_⟩
    rw [List.countP_cons, List.countP_cons, hcount, hp]

end Lts

import BoVpnAgent.Lib.Transition

/-! # Systems of components

    A system whose state shows a component under each key, where a step
    creates at most components and otherwise moves one of them by itself.
    What every move of a component keeps then holds in every run, however
    the steps of the components interleave.
-/

namespace Lts

universe u v w z

variable {σ : Type u} {ℓ : Type v}

/-- The components of a system. -/
structure Components (sys : System σ ℓ) (κ : Type w) (α : Type z) where
  /-- The component under a key. -/
  view : σ → κ → Option α
  /-- What a new component may be. -/
  New : α → Prop
  /-- The steps of a component. -/
  Move : α → α → Prop
  view_init : ∀ k, view sys.init k = none
  view_step : ∀ s l s', Reachable sys s → sys.step s l s' → ∀ k,
    view s' k = view s k ∨
    (∃ a, view s k = none ∧ view s' k = some a ∧ New a) ∨
    (∃ a a', view s k = some a ∧ view s' k = some a' ∧ Move a a')

namespace Components

variable {sys : System σ ℓ} {κ : Type w} {α : Type z} (c : Components sys κ α) {s s' : σ} {k : κ}
  {a : α}

/-- What holds of every new component and is kept by every move holds of
    every component of every reachable state. -/
theorem invariant {P : α → Prop} (hnew : ∀ a, c.New a → P a)
    (hmove : ∀ a a', P a → c.Move a a' → P a') (h : Reachable sys s) (ha : c.view s k = some a) :
    P a := by
  suffices hall : ∀ k a, c.view s k = some a → P a from hall k a ha
  clear ha
  refine h.invariant (P := fun s => ∀ k a, c.view s k = some a → P a) ?_ ?_
  · intro k a ha
    rw [c.view_init] at ha
    cases ha
  · intro s l s' hr ih hstep k a ha
    obtain hsame | ⟨b, _, hb, hb'⟩ | ⟨b, b', hb, hb', hm⟩ := c.view_step s l s' hr hstep k
    · exact ih k a (hsame ▸ ha)
    · obtain rfl := Option.some.inj (ha.symm.trans hb)
      exact hnew a hb'
    · obtain rfl := Option.some.inj (ha.symm.trans hb')
      exact hmove b a (ih k b hb) hm

/-- A component stays, and so does what every move keeps. -/
theorem stable {Q : α → Prop} (hmove : ∀ a a', Q a → c.Move a a' → Q a') (h : Reachable sys s)
    (hlater : Star sys s s') (ha : c.view s k = some a) (hQ : Q a) :
    ∃ a', c.view s' k = some a' ∧ Q a' := by
  refine hlater.stable (P := fun s => ∃ a, c.view s k = some a ∧ Q a) ?_ h ⟨a, ha, hQ⟩
  rintro s l s' hr ⟨a, ha, hQ⟩ hstep
  obtain hsame | ⟨b, hnone, _⟩ | ⟨b, b', hb, hb', hm⟩ := c.view_step s l s' hr hstep k
  · exact ⟨a, hsame ▸ ha, hQ⟩
  · rw [ha] at hnone
    cases hnone
  · obtain rfl := Option.some.inj (ha.symm.trans hb)
    exact ⟨b', hb', hmove a b' hQ hm⟩

end Components

end Lts

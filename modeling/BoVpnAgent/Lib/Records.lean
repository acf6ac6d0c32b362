import BoVpnAgent.Lib.TwoRuns

/-! # What a run writes down

    Each step of a run writes something down.  The record of a run is all of
    it, in the order of the steps; labels that are not enabled are skipped and
    write nothing.

    The record rule follows a property of a record together with the state
    that the run has come to, from step to step.
-/

namespace Lts

universe u v w

variable {σ : Type u} {ℓ : Type v} {β : Type w}

/-- What the steps on the way through a list of labels write down. -/
def System.record (sys : System σ ℓ) (f : σ → σ → ℓ → List β) : σ → List ℓ → List β
  | _, [] => []
  | s, l :: ls =>
    match sys.next s l with
    | some s' => f s s' l ++ sys.record f s' ls
    | none => sys.record f s ls

variable {sys : System σ ℓ} {f : σ → σ → ℓ → List β} {C : σ → ℓ → Prop}

/-- A longer run has a longer record. -/
theorem record_append (s : σ) (ls ls' : List ℓ) :
    sys.record f s (ls ++ ls') = sys.record f s ls ++ sys.record f (sys.playFrom s ls) ls' := by
  induction ls generalizing s with
  | nil => rfl
  | cons l ls ih =>
    have hplay : sys.playFrom s (l :: ls) = sys.playFrom ((sys.next s l).getD s) ls := rfl
    rw [hplay, List.cons_append, System.record, System.record]
    cases hnext : sys.next s l with
    | none => exact ih s
    | some s' => simp only [Option.getD_some, ih s', List.append_assoc]

/-- The record rule. -/
theorem record_rule {P : List β → σ → Prop}
    (hstep : ∀ h s l s', P h s → C s l → sys.step s l s' → P (h ++ f s s' l) s') {h : List β}
    {s : σ} (hP : P h s) {ls : List ℓ} (hC : sys.Along C s ls) :
    P (h ++ sys.record f s ls) (sys.playFrom s ls) := by
  induction ls generalizing h s with
  | nil =>
    rw [System.record, List.append_nil]
    exact hP
  | cons l ls ih =>
    obtain ⟨hl, hls⟩ := hC
    have hplay : sys.playFrom s (l :: ls) = sys.playFrom ((sys.next s l).getD s) ls := rfl
    rw [hplay, System.record]
    cases hnext : sys.next s l with
    | none =>
      rw [hnext] at hls
      exact ih hP hls
    | some s' =>
      rw [hnext] at hls
      simp only [Option.getD_some]
      rw [← List.append_assoc]
      exact ih (hstep h s l s' hP hl hnext) hls

/-- The rule without a record. -/
theorem along_rule {P : σ → Prop} (hstep : ∀ s l s', P s → C s l → sys.step s l s' → P s') {s : σ}
    (hP : P s) {ls : List ℓ} (hC : sys.Along C s ls) : P (sys.playFrom s ls) :=
  record_rule (P := fun (_ : List Unit) s => P s) (f := fun _ _ _ => [])
    (fun _ s l s' h hl hs => hstep s l s' h hl hs) (h := []) hP hC

end Lts

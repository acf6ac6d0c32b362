import Mathlib.Data.List.Basic

/-! # What comes before an event

    A trace is a list of events.  Many laws of traces say that an event of a
    certain kind happens only after a history of a certain kind; here that is
    one definition with the rules to extend a trace.
-/

namespace Trace

universe u

variable {α : Type u} {P : α → Prop} {Q : List α → Prop} {l l' : List α}

/-- Every event with `P` has a history with `Q`. -/
def Preceded (P : α → Prop) (Q : List α → Prop) (l : List α) : Prop :=
  ∀ history x later, l = history ++ x :: later → P x → Q history

theorem Preceded.nil (P : α → Prop) (Q : List α → Prop) : Preceded P Q [] := by
  intro history x later h
  have hlength := congrArg List.length h
  simp at hlength

/-- The event right behind a trace, with everything else as before. -/
theorem Preceded.snoc (h : Preceded P Q l) {x : α} (hx : P x → Q l) : Preceded P Q (l ++ [x]) := by
  intro history y later heq hy
  rcases List.eq_nil_or_concat later with hnil | ⟨later', z, hlater⟩
  · subst hnil
    obtain ⟨hl, hxy⟩ := List.append_inj' heq rfl
    rw [← hl]
    rw [← List.singleton_inj.mp hxy] at hy
    exact hx hy
  · -- the event is one of the old ones
    have hsplit : l ++ [x] = (history ++ y :: later') ++ [z] := by
      rw [heq, hlater, List.concat_eq_append]
      simp
    obtain ⟨hl, -⟩ := List.append_inj' hsplit rfl
    exact h history y later' hl hy

/-- Events without `P` keep the law. -/
theorem Preceded.append (h : Preceded P Q l) (hfree : ∀ x ∈ l', ¬P x) :
    Preceded P Q (l ++ l') := by
  induction l' generalizing l with
  | nil => rwa [List.append_nil]
  | cons x l' ih =>
    have hone : Preceded P Q (l ++ [x]) :=
      h.snoc fun hx => absurd hx (hfree x List.mem_cons_self)
    rw [List.append_cons]
    exact ih hone fun y hy => hfree y (List.mem_cons_of_mem x hy)

/-- One event with `P`, followed by others without. -/
theorem Preceded.cons_append {x : α} (h : Preceded P Q l) (hx : P x → Q l)
    (hfree : ∀ y ∈ l', ¬P y) : Preceded P Q (l ++ x :: l') := by
  rw [List.append_cons]
  exact (h.snoc hx).append hfree

/-- A second trace behind the first one, each of whose events with `P` has a
    whole history with `Q`. -/
theorem Preceded.append_of (h : Preceded P Q l)
    (hlater : ∀ history x later, l' = history ++ x :: later → P x → Q (l ++ history)) :
    Preceded P Q (l ++ l') := by
  induction l' generalizing l with
  | nil => rwa [List.append_nil]
  | cons x l' ih =>
    have hone : Preceded P Q (l ++ [x]) := by
      refine h.snoc fun hx => ?_
      have hQ := hlater [] x l' rfl hx
      rwa [List.append_nil] at hQ
    rw [List.append_cons]
    refine ih hone fun history y later hsplit hy => ?_
    rw [← List.append_cons]
    exact hlater (x :: history) y later (by rw [hsplit, List.cons_append]) hy

end Trace

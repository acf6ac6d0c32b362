import Mathlib.Data.List.Infix

/-! # The last write

    A list of records is applied in order, and each of them may write a field:
    the field ends up with the last value that was written to it.
-/

namespace LastWrite

variable {ε α : Type} (f : ε → Option α)

/-- The last value that `f` finds. -/
def last : List ε → Option α
  | [] => none
  | e :: es => (last es).or (f e)

theorem last_append (as bs : List ε) : last f (as ++ bs) = (last f bs).or (last f as) := by
  induction as with
  | nil => rw [List.nil_append, last, Option.or_none]
  | cons a as ih => rw [List.cons_append, last, last, ih, Option.or_assoc]

variable {f}

theorem last_eq_none_iff {es : List ε} : last f es = none ↔ ∀ e ∈ es, f e = none := by
  induction es with
  | nil => simp [last]
  | cons e es ih => rw [last, Option.or_eq_none_iff, ih, List.forall_mem_cons, and_comm]

/-- The last value is that of a record behind which none has one. -/
theorem last_eq_some_iff {es : List ε} {a : α} :
    last f es = some a ↔
      ∃ e rest, (e :: rest) <:+ es ∧ f e = some a ∧ ∀ e' ∈ rest, f e' = none := by
  constructor
  · intro h
    induction es with
    | nil => cases h
    | cons e es ih =>
      rw [last, Option.or_eq_some_iff] at h
      rcases h with h | ⟨hnone, hhead⟩
      · obtain ⟨e', rest, hsuffix, he', hrest⟩ := ih h
        exact ⟨e', rest, hsuffix.trans (List.suffix_cons e es), he', hrest⟩
      · exact ⟨e, es, List.suffix_refl _, hhead, last_eq_none_iff.mp hnone⟩
  · intro ⟨e, rest, hsuffix, he, hrest⟩
    obtain ⟨front, hfront⟩ := hsuffix
    rw [← hfront, last_append, last, last_eq_none_iff.mpr hrest, he]
    rfl

end LastWrite

import Mathlib.Algebra.BigOperators.Group.List.Basic
import Mathlib.Algebra.GroupWithZero.Nat
import Mathlib.Order.Lattice

/-! # Rotated logs

    A log is kept in segments, the newest first.  A record goes to the newest
    segment, unless that has reached the limit: then it starts a new one, and
    only a number of the older segments is kept.

    This file shows that the segments hold a suffix of what was written, in
    order and with the last record, and how much one segment can hold.
-/

namespace Rotation

universe u

variable {α : Type u} (size : α → Nat) (limit : Int) (kept : Nat)

def weight (segment : List α) : Nat := (segment.map size).sum

/-- One more record. -/
def push (segments : List (List α)) (x : α) : List (List α) :=
  match segments with
  | [] => [[x]]
  | segment :: older =>
    if limit ≤ weight size segment then [x] :: (segment :: older).take kept
    else (segment ++ [x]) :: older

/-- The records in the order in which they were written. -/
def records (segments : List (List α)) : List α := segments.reverse.flatten

/-- What the segments hold of the records written. -/
structure Holds (written : List α) (segments : List (List α)) : Prop where
  suffix : records segments <:+ written
  newest : written ≠ [] → records segments ≠ []
  /-- without its last record a segment is within the limit -/
  bounded : ∀ segment ∈ segments, ∃ front x, segment = front ++ [x] ∧
    (weight size front : Int) ≤ max limit 0
  count : segments.length ≤ kept + 1

theorem records_cons (segment : List α) (segments : List (List α)) :
    records (segment :: segments) = records segments ++ segment := by
  simp [records]

/-- Dropping the oldest segments leaves a suffix. -/
theorem records_take (n : Nat) (segments : List (List α)) : records (segments.take n) <:+ records segments := by
  refine ⟨records (segments.drop n), ?_⟩
  unfold records
  rw [← List.flatten_append, ← List.reverse_append, List.take_append_drop]

variable {size limit kept}

theorem Holds.nil : Holds size limit kept ([] : List α) [] where
  suffix := List.nil_suffix
  newest := fun h => absurd rfl h
  bounded := List.forall_mem_nil _
  count := Nat.zero_le _

theorem suffix_concat {a b : List α} (h : a <:+ b) (x : α) : a ++ [x] <:+ b ++ [x] := by
  obtain ⟨t, rfl⟩ := h
  exact ⟨t, by rw [List.append_assoc]⟩

theorem Holds.push {written : List α} {segments : List (List α)} (h : Holds size limit kept written segments)
    (x : α) : Holds size limit kept (written ++ [x]) (push size limit kept segments x) := by
  have hempty : ((weight size ([] : List α) : Nat) : Int) ≤ max limit 0 := le_max_right _ _
  unfold Rotation.push
  split
  · refine ⟨List.suffix_append _ _, fun _ => by simp [records], ?_, Nat.succ_le_succ (Nat.zero_le _)⟩
    rw [List.forall_mem_singleton]
    exact ⟨[], x, rfl, hempty⟩
  · next segment older =>
    split
    · -- the segment is full
      have hkept := (records_take kept (segment :: older)).trans h.suffix
      refine ⟨?_, fun _ => by simp [records_cons], ?_, ?_⟩
      · rw [records_cons]
        exact suffix_concat hkept x
      · rw [List.forall_mem_cons]
        exact ⟨⟨[], x, rfl, hempty⟩, fun s hs => h.bounded s (List.mem_of_mem_take hs)⟩
      · rw [List.length_cons, List.length_take]
        omega
    · next hroom =>
      have hbounded := List.forall_mem_cons.mp h.bounded
      refine ⟨?_, fun _ => by simp [records_cons], ?_, h.count⟩
      · have hsuffix := suffix_concat h.suffix x
        rw [records_cons, List.append_assoc] at hsuffix
        rw [records_cons]
        exact hsuffix
      · rw [List.forall_mem_cons]
        refine ⟨⟨segment, x, rfl, ?_⟩, hbounded.2⟩
        exact le_trans (le_of_lt (lt_of_not_ge hroom)) (le_max_left _ _)

/-- After any number of records. -/
theorem holds_foldl (xs : List α) : Holds size limit kept xs (xs.foldl (push size limit kept) []) := by
  suffices h : ∀ written segments, Holds size limit kept written segments →
      Holds size limit kept (written ++ xs) (xs.foldl (Rotation.push size limit kept) segments) from
    h [] [] .nil
  induction xs with
  | nil =>
    intro written segments h
    rw [List.append_nil]
    exact h
  | cons x xs ih =>
    intro written segments h
    have hrest := ih (written ++ [x]) _ (h.push x)
    rw [List.append_assoc] at hrest
    exact hrest

end Rotation

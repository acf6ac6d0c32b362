import Mathlib.Data.List.Basic
import Mathlib.Order.Lattice
import Mathlib.Order.Monotone.Basic

/-! # Queues over a sliding window

    A queue holds the times of events and is trimmed at its front only: at
    time `t` everything before `cut t` goes.  Between two events the queue may
    hold times that a trim at a later moment removes, so it is compared with
    the history of all events through the trims still to come.

    This file defines:
    - `Tracks`: every later trim of the queue leaves what the history has in
      the window
    - `Admitted`: each event of the history found fewer than `n` others in its
      window, and the bound on the events of any window that follows
-/

namespace SlidingWindow

universe u

variable {T : Type u} [LinearOrder T]

/-- The queue without the times before `cutoff`. -/
def trim (queue : List T) (cutoff : T) : List T := queue.dropWhile (· < cutoff)

/-- A second trim is the later one alone. -/
theorem trim_trim {c c' : T} (h : c ≤ c') (queue : List T) : trim (trim queue c) c' = trim queue c' := by
  induction queue with
  | nil => rfl
  | cons x queue ih =>
    unfold trim at ih ⊢
    by_cases hx : x < c
    · have hx' : x < c' := lt_of_lt_of_le hx h
      simp only [List.dropWhile_cons, hx, hx', decide_true, if_true]
      exact ih
    · simp only [List.dropWhile_cons, hx, decide_false, Bool.false_eq_true, if_false]

/-! ### Queue and history -/

/-- From the time `last` on, every trim of the queue leaves the events of the
    history in the window. -/
def Tracks (cut : T → T) (last : T) (queue history : List T) : Prop :=
  ∀ t, last ≤ t → trim queue (cut t) = history.filter (cut t ≤ ·)

variable {cut : T → T} {last t : T} {queue history : List T}

theorem Tracks.nil (cut : T → T) (last : T) : Tracks cut last [] [] := fun _ _ => rfl

theorem Tracks.later (h : Tracks cut last queue history) (ht : last ≤ t) :
    Tracks cut t queue history := fun s hs => h s (le_trans ht hs)

/-- Trimming the queue changes no later trim. -/
theorem Tracks.trim (hcut : Monotone cut) (h : Tracks cut last queue history) (ht : last ≤ t) :
    Tracks cut t (SlidingWindow.trim queue (cut t)) history := by
  intro s hs
  rw [trim_trim (hcut hs)]
  exact h s (le_trans ht hs)

/-- A new event goes to the end of both. -/
theorem Tracks.push (h : Tracks cut t queue history) (hpast : ∀ x ∈ history, x ≤ t) :
    Tracks cut t (queue ++ [t]) (history ++ [t]) := by
  intro s hs
  have hqueue := h s hs
  unfold SlidingWindow.trim at hqueue ⊢
  rw [List.dropWhile_append, List.filter_append, hqueue]
  by_cases ht : cut s ≤ t
  · have hkeep : [t].dropWhile (· < cut s) = [t] := by simp [not_lt.mpr ht]
    rw [hkeep]
    simp only [List.filter_cons, ht, decide_true, if_true, List.filter_nil]
    split
    · next hempty => rw [List.isEmpty_iff.mp hempty, List.nil_append]
    · rfl
  · -- the new event has left the window already, and with it all older ones
    have hold : history.filter (cut s ≤ ·) = [] := by
      rw [List.filter_eq_nil_iff]
      intro x hx hcut
      exact ht (le_trans (of_decide_eq_true hcut) (hpast x hx))
    have hdrop : [t].dropWhile (· < cut s) = [] := by simp [not_le.mp ht]
    rw [hold, hdrop]
    simp [ht]

/-- The event `t` is admitted, or both stay as they are. -/
theorem Tracks.offer (h : Tracks cut t queue history) (hpast : ∀ x ∈ history, x ≤ t) (admits : Prop)
    [Decidable admits] :
    Tracks cut t (queue ++ if admits then [t] else []) (history ++ if admits then [t] else []) := by
  by_cases hadmits : admits
  · rw [if_pos hadmits]
    exact h.push hpast
  · rw [if_neg hadmits, List.append_nil, List.append_nil]
    exact h

/-! ### The events of a window -/

/-- Each event found fewer than `n` earlier ones in its window. -/
inductive Admitted (cut : T → T) (n : Int) : List T → Prop where
  | nil : Admitted cut n []
  | snoc {history : List T} {t : T} (h : Admitted cut n history) (hpast : ∀ x ∈ history, x ≤ t)
      (hroom : ((history.filter (cut t ≤ ·)).length : Int) < n) : Admitted cut n (history ++ [t])

/-- The event `t` is admitted where it finds room. -/
theorem Admitted.offer {n : Int} (h : Admitted cut n history) (hpast : ∀ x ∈ history, x ≤ t)
    (admits : Prop) [Decidable admits]
    (hroom : admits → ((history.filter (cut t ≤ ·)).length : Int) < n) :
    Admitted cut n (history ++ if admits then [t] else []) := by
  by_cases hadmits : admits
  · rw [if_pos hadmits]
    exact h.snoc hpast (hroom hadmits)
  · rw [if_neg hadmits, List.append_nil]
    exact h

/-- No window holds more than `n` events. -/
theorem Admitted.window (hcut : Monotone cut) {n : Int} (h : Admitted cut n history) {a b : T}
    (hab : cut b ≤ a) :
    ((history.filter fun x => a ≤ x ∧ x ≤ b).length : Int) ≤ max 0 n := by
  induction h with
  | nil => exact le_max_left 0 n
  | @snoc history t h hpast hroom ih =>
    rw [List.filter_append]
    by_cases ht : a ≤ t ∧ t ≤ b
    · -- the others of the window were in the window of the new event
      have hsub : (history.filter fun x => a ≤ x ∧ x ≤ b).Sublist
          (history.filter (cut t ≤ ·)) := by
        refine List.monotone_filter_right history fun x hx => ?_
        have hax := (of_decide_eq_true hx).1
        exact decide_eq_true (le_trans (hcut ht.2) (le_trans hab hax))
      have hle := hsub.length_le
      have hnew : ([t].filter fun x => a ≤ x ∧ x ≤ b).length = 1 := by simp [ht]
      rw [List.length_append, hnew]
      omega
    · have hnew : [t].filter (fun x => decide (a ≤ x ∧ x ≤ b)) = [] := by simp [ht]
      rw [hnew, List.append_nil]
      exact ih

end SlidingWindow

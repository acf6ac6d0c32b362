import BoVpnAgent.Lib.PyStr

/-! # Trimming and cutting

    Dropping the elements with a property from both ends of a list, which is
    what `str.strip` does with and without an argument: what stays the same,
    what is lost, and when nothing is.  And cutting a text at the first place
    of a character, as `str.partition` does.
-/

namespace Trim

variable {α : Type} {p : α → Bool}

/-- `l` without the elements with `p` at its two ends. -/
def trim (p : α → Bool) (l : List α) : List α := (l.dropWhile p).rdropWhile p

theorem trim_sublist (l : List α) : (trim p l).Sublist l :=
  (List.rdropWhile_prefix p _).sublist.trans (List.dropWhile_suffix p).sublist

/-- Neither end has `p`. -/
def Bare (p : α → Bool) (l : List α) : Prop :=
  (∀ x ∈ l.head?, p x = false) ∧ ∀ x ∈ l.getLast?, p x = false

instance (l : List α) : Decidable (Bare p l) := inferInstanceAs (Decidable (_ ∧ _))

theorem dropWhile_eq_self_iff (l : List α) : l.dropWhile p = l ↔ ∀ x ∈ l.head?, p x = false := by
  cases l with
  | nil => simp
  | cons x l => simp [List.dropWhile_eq_self_iff]

theorem rdropWhile_eq_self_iff (l : List α) :
    l.rdropWhile p = l ↔ ∀ x ∈ l.getLast?, p x = false := by
  rw [List.rdropWhile_eq_self_iff]
  constructor
  · intro h x hx
    obtain ⟨hl, hlast⟩ := List.mem_getLast?_eq_getLast hx
    have hnot := h hl
    rw [← hlast] at hnot
    simpa using hnot
  · intro h hl
    have hnot := h _ (List.getLast?_eq_some_getLast hl)
    simpa using hnot

/-- The ends of two lists in a row are the first end of the first and the last
    of the last. -/
theorem Bare.append {s t : List α} (hs : Bare p s) (ht : Bare p t) (hs' : s ≠ []) (ht' : t ≠ []) :
    Bare p (s ++ t) := by
  constructor
  · rw [List.head?_append_of_ne_nil s hs']
    exact hs.1
  · rw [List.getLast?_append_of_ne_nil s ht']
    exact ht.2

/-- Trimming changes nothing exactly when there is nothing to drop. -/
theorem trim_eq_self_iff (l : List α) : trim p l = l ↔ Bare p l := by
  unfold trim Bare
  rw [← dropWhile_eq_self_iff, ← rdropWhile_eq_self_iff]
  constructor
  · intro h
    -- both steps give a part of the list, so both give the whole
    have hfirst : l.dropWhile p = l := by
      apply List.Sublist.antisymm (List.dropWhile_suffix p).sublist
      conv_lhs => rw [← h]
      exact (List.rdropWhile_prefix p _).sublist
    rw [hfirst] at h
    exact ⟨hfirst, h⟩
  · intro ⟨hfirst, hlast⟩
    rw [hfirst, hlast]

/-- Trimming twice, with two properties, changes nothing exactly when neither
    does. -/
theorem trim_trim_eq_self_iff {q : α → Bool} (l : List α) :
    trim q (trim p l) = l ↔ Bare p l ∧ Bare q l := by
  constructor
  · intro h
    have hp : trim p l = l := by
      apply List.Sublist.antisymm (trim_sublist l)
      conv_lhs => rw [← h]
      exact trim_sublist _
    rw [hp] at h
    exact ⟨(trim_eq_self_iff l).mp hp, (trim_eq_self_iff l).mp h⟩
  · intro ⟨hp, hq⟩
    rw [(trim_eq_self_iff l).mpr hp, (trim_eq_self_iff l).mpr hq]

/-- Elements with `p` around a list do not matter. -/
theorem trim_append (l : List α) {s t : List α} (hs : ∀ x ∈ s, p x = true)
    (ht : ∀ x ∈ t, p x = true) : trim p (s ++ l ++ t) = trim p l := by
  unfold trim
  rw [List.append_assoc, List.dropWhile_append_of_pos hs, List.dropWhile_append]
  split
  · rename_i hnil
    rw [List.isEmpty_iff.mp hnil, List.dropWhile_eq_nil_iff.mpr ht]
  · rw [List.rdropWhile, List.reverse_append, List.dropWhile_append_of_pos, List.rdropWhile]
    intro x hx
    exact ht x (List.mem_reverse.mp hx)

end Trim

/-! ### Cutting -/

/-- A text is cut at the first separator. -/
theorem PyStr.partition_append {c : CodePoint} {s : PyStr} (hs : c ∉ s) (t : PyStr) :
    PyStr.partition c (s ++ c :: t) = (s, t) := by
  have hall : ∀ x ∈ s, decide (x ≠ c) = true := by
    intro x hx
    apply decide_eq_true
    intro hxc
    exact hs (hxc ▸ hx)
  have htake : (s ++ c :: t).takeWhile (· ≠ c) = s := by
    rw [List.takeWhile_append_of_pos hall, List.takeWhile_cons_of_neg (by simp), List.append_nil]
  have hdrop : ((s ++ c :: t).dropWhile (· ≠ c)).drop 1 = t := by
    rw [List.dropWhile_append_of_pos hall, List.dropWhile_cons_of_neg (by simp), List.drop_one,
      List.tail_cons]
  unfold PyStr.partition
  rw [htake, hdrop]

/-! ### Words -/

theorem PyStr.splitFrom_append {word s : PyStr} (hs : ∀ c ∈ s, c.isSpace = false) (t : PyStr) :
    PyStr.splitFrom word (s ++ t) = PyStr.splitFrom (word ++ s) t := by
  induction s generalizing word with
  | nil => rw [List.nil_append, List.append_nil]
  | cons c s ih =>
    rw [List.forall_mem_cons] at hs
    have hne : ¬ c.isSpace = true := by
      rw [hs.1]
      exact Bool.false_ne_true
    rw [List.cons_append, PyStr.splitFrom, if_neg hne, ih hs.2, List.append_assoc,
      List.singleton_append]

/-- A word in front of a space is the first one. -/
theorem PyStr.split_append {word : PyStr} (hne : word ≠ []) (hword : ∀ c ∈ word, c.isSpace = false)
    {c : CodePoint} (hc : c.isSpace = true) (s : PyStr) :
    PyStr.split (word ++ c :: s) = word :: PyStr.split s := by
  unfold PyStr.split
  rw [PyStr.splitFrom_append hword, List.nil_append, PyStr.splitFrom, if_pos hc, if_neg hne]

theorem PyStr.splitFrom_ne_nil {word s : PyStr} (h : word ≠ [] ∨ ∃ c ∈ s, c.isSpace = false) :
    PyStr.splitFrom word s ≠ [] := by
  induction s generalizing word with
  | nil =>
    obtain hword | ⟨c, hc, _⟩ := h
    · unfold PyStr.splitFrom
      rw [if_neg hword]
      exact List.cons_ne_nil _ _
    · cases hc
  | cons c s ih =>
    unfold PyStr.splitFrom
    by_cases hc : c.isSpace = true
    · rw [if_pos hc]
      by_cases hword : word = []
      · rw [if_pos hword]
        obtain hnot | ⟨d, hd, hspace⟩ := h
        · exact absurd hword hnot
        · rcases List.mem_cons.mp hd with rfl | hd
          · rw [hc] at hspace
            cases hspace
          · exact ih (.inr ⟨d, hd, hspace⟩)
      · rw [if_neg hword]
        exact List.cons_ne_nil _ _
    · rw [if_neg hc]
      exact ih (.inl (by simp))

/-- A text that is not blank has a word. -/
theorem PyStr.split_strip_ne_nil {s : PyStr} (h : PyStr.strip s ≠ []) :
    PyStr.split (PyStr.strip s) ≠ [] := by
  have hbare : Trim.Bare CodePoint.isSpace (PyStr.strip s) :=
    (Trim.trim_eq_self_iff _).mp (PyStr.strip_strip s)
  apply PyStr.splitFrom_ne_nil
  right
  cases htext : PyStr.strip s with
  | nil => exact absurd htext h
  | cons c t =>
    rw [htext] at hbare
    exact ⟨c, List.mem_cons_self, hbare.1 c rfl⟩

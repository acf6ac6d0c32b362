import Mathlib.Data.List.DropRight
import Mathlib.Data.List.Infix
import BoVpnAgent.Lib.SplitLines

/-! # The tail of a text

    A reader that keeps the last `n` characters while a text grows holds the
    last `n` characters of the whole text.  A word that does not contain a
    separator lies on one side of it, so whether the tail contains the word
    is a question about what stands in front of a line's end and behind it.
-/

namespace TextTail

universe u

variable {α : Type u}

/-! ### Tails -/

theorem rtake_append (a b : List α) (n : Nat) :
    (a ++ b).rtake n = a.rtake (n - b.length) ++ b.rtake n := by
  have hlength : a.length + b.length - n - a.length = b.length - n := by omega
  unfold List.rtake
  rw [List.length_append, List.drop_append, hlength]
  by_cases hn : n ≤ b.length
  · rw [List.drop_of_length_le (by omega), List.drop_of_length_le (l := a) (by omega)]
  · have heq : a.length + b.length - n = a.length - (n - b.length) := by omega
    rw [heq]

theorem rtake_of_length_le {l : List α} {n : Nat} (h : l.length ≤ n) : l.rtake n = l := by
  unfold List.rtake
  rw [Nat.sub_eq_zero_of_le h]
  rfl

variable {x : α} {w : List α}

/-- A word without the separator lies in front of it or behind it. -/
theorem infix_append_cons_iff (hx : x ∉ w) (a b : List α) :
    w <:+: a ++ x :: b ↔ w <:+: a ∨ w <:+: b := by
  constructor
  · intro h
    rcases List.infix_append_iff.mp h with h | h | ⟨w₁, w₂, rfl, hleft, hright⟩
    · exact .inl h
    · rcases List.infix_cons_iff.mp h with h | h
      · cases w with
        | nil => exact .inl (List.nil_infix)
        | cons c w =>
          obtain ⟨rfl, -⟩ := List.cons_prefix_cons.mp h
          exact absurd List.mem_cons_self hx
      · exact .inr h
    · cases w₂ with
      | nil => exact .inl (by simpa using hleft.isInfix)
      | cons c w₂ =>
        -- the part behind the cut would start with the separator
        obtain ⟨rfl, -⟩ := List.cons_prefix_cons.mp hright
        exact absurd (by simp) hx
  · rintro (h | h)
    · exact h.trans (List.prefix_append a (x :: b)).isInfix
    · exact h.trans ((List.suffix_cons x b).trans (List.suffix_append a (x :: b))).isInfix

/-- A separator of several characters. -/
theorem infix_append_sep_iff {sep : List α} (hsep : sep ≠ []) (h : ∀ c ∈ sep, c ∉ w) (hw : w ≠ [])
    (a b : List α) : w <:+: a ++ (sep ++ b) ↔ w <:+: a ∨ w <:+: b := by
  induction sep generalizing a with
  | nil => exact absurd rfl hsep
  | cons c sep ih =>
    rw [List.forall_mem_cons] at h
    rw [List.cons_append, infix_append_cons_iff h.1]
    apply or_congr_right
    by_cases hempty : sep = []
    · rw [hempty, List.nil_append]
    · have hrest := ih hempty h.2 []
      rw [List.nil_append] at hrest
      rw [hrest, or_iff_right]
      exact fun hnil => hw (List.eq_nil_of_infix_nil hnil)

/-- Characters that the word does not have, in front of a text. -/
theorem infix_append_right_iff {a : List α} (h : ∀ c ∈ a, c ∉ w) (hw : w ≠ []) {b : List α} :
    w <:+: a ++ b ↔ w <:+: b := by
  by_cases ha : a = []
  · rw [ha, List.nil_append]
  · have hsep := infix_append_sep_iff ha h hw [] b
    rw [List.nil_append] at hsep
    rw [hsep, or_iff_right]
    exact fun hnil => hw (List.eq_nil_of_infix_nil hnil)

/-- The same behind it. -/
theorem infix_append_left_iff {b : List α} (h : ∀ c ∈ b, c ∉ w) (hw : w ≠ []) {a : List α} :
    w <:+: a ++ b ↔ w <:+: a := by
  by_cases hb : b = []
  · rw [hb, List.append_nil]
  · have hsep := infix_append_sep_iff hb h hw a []
    rw [List.append_nil] at hsep
    rw [hsep, or_iff_left]
    exact fun hnil => hw (List.eq_nil_of_infix_nil hnil)

/-! ### Substrings -/

/-- `sub in s` -/
theorem includes_iff (s sub : PyStr) : PyStr.includes s sub = true ↔ sub <:+: s := by
  unfold PyStr.includes
  rw [List.any_eq_true, List.infix_iff_prefix_suffix]
  constructor
  · rintro ⟨t, ht, hsub⟩
    exact ⟨t, List.isPrefixOf_iff_prefix.mp hsub, (List.mem_tails t s).mp ht⟩
  · rintro ⟨t, hsub, ht⟩
    exact ⟨t, (List.mem_tails t s).mpr ht, List.isPrefixOf_iff_prefix.mpr hsub⟩

/-- A word without a character of the separator stands in one of the parts. -/
theorem infix_join_iff {sep w : PyStr} (hsep : sep ≠ []) (h : ∀ c ∈ sep, c ∉ w) (hw : w ≠ [])
    (parts : List PyStr) : w <:+: PyStr.join sep parts ↔ ∃ part ∈ parts, w <:+: part := by
  induction parts with
  | nil =>
    constructor
    · exact fun hnil => absurd (List.eq_nil_of_infix_nil hnil) hw
    · rintro ⟨part, hpart, _⟩
      cases hpart
  | cons part parts ih =>
    rw [List.exists_mem_cons_iff, ← ih]
    cases parts with
    | nil =>
      rw [PyStr.join, PyStr.join, or_iff_left]
      exact fun hnil => hw (List.eq_nil_of_infix_nil hnil)
    | cons part' parts =>
      rw [PyStr.join, List.append_assoc]
      · exact infix_append_sep_iff hsep h hw _ _
      · exact List.cons_ne_nil part' parts

theorem mem_join {c : CodePoint} {sep : PyStr} {parts : List PyStr} (h : c ∈ PyStr.join sep parts) :
    c ∈ sep ∨ ∃ part ∈ parts, c ∈ part := by
  induction parts with
  | nil => cases h
  | cons part parts ih =>
    cases parts with
    | nil => exact .inr ⟨part, List.mem_cons_self, h⟩
    | cons part' parts =>
      rw [PyStr.join, List.mem_append, List.mem_append] at h
      · obtain (h | h) | h := h
        · exact .inr ⟨part, List.mem_cons_self, h⟩
        · exact .inl h
        · obtain hc | ⟨part, hpart, hc⟩ := ih h
          · exact .inl hc
          · exact .inr ⟨part, List.mem_cons_of_mem _ hpart, hc⟩
      · exact List.cons_ne_nil part' parts

theorem map_join (f : CodePoint → CodePoint) (sep : PyStr) (parts : List PyStr) :
    (PyStr.join sep parts).map f = PyStr.join (sep.map f) (parts.map (List.map f)) := by
  induction parts with
  | nil => rfl
  | cons part parts ih =>
    cases parts with
    | nil => rfl
    | cons part' parts => simp only [PyStr.join, List.map_append, ih, List.map_cons]

/-- Stripping takes away nothing of a word without spaces. -/
theorem infix_strip_iff {w : PyStr} (hw : w ≠ []) (h : ∀ c ∈ w, c.isSpace = false) (s : PyStr) :
    w <:+: PyStr.strip s ↔ w <:+: s := by
  obtain ⟨a, b, ha, hb, hs⟩ := PyStr.exists_strip s
  have hspaces : ∀ sep : PyStr, (∀ c ∈ sep, c.isSpace = true) → ∀ c ∈ sep, c ∉ w := by
    intro sep hsep c hc hcw
    have hboth := (h c hcw).symm.trans (hsep c hc)
    cases hboth
  conv_rhs => rw [hs, infix_append_left_iff (hspaces b hb) hw, infix_append_right_iff (hspaces a ha) hw]

theorem infix_of_strip (s : PyStr) : PyStr.strip s <:+: s :=
  (List.rdropWhile_prefix _ _).isInfix.trans (List.dropWhile_suffix _).isInfix

end TextTail

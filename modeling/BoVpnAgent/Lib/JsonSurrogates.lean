import BoVpnAgent.Lib.JsonRoundTrip

/-! # Surrogates in JSON text

    With `ensure_ascii`, a character outside the BMP is written as two escapes
    and a lone surrogate as one.  A high surrogate with a low one right behind
    it has the text of a single character, and that is what the scanner reads.

    This file shows that a string is read back exactly when it has no such
    pair, which no sequence of Unicode characters has.
-/

namespace Json

/-- The first half of a surrogate pair. -/
def isHigh (c : CodePoint) : Bool := 0xD800 ≤ c.val && c.val ≤ 0xDBFF

/-- The second half of a surrogate pair. -/
def isLow (c : CodePoint) : Bool := 0xDC00 ≤ c.val && c.val ≤ 0xDFFF

/-- The character of a surrogate pair. -/
def pairOf (hi lo : CodePoint) : CodePoint :=
  Fin.ofNat 0x110000 (0x10000 + (hi.val - 0xD800) * 1024 + (lo.val - 0xDC00))

/-- The string with every surrogate pair as one character. -/
def joinPairs : PyStr → PyStr
  | hi :: lo :: s =>
    if isHigh hi && isLow lo then pairOf hi lo :: joinPairs s else hi :: joinPairs (lo :: s)
  | s => s

/-- No high surrogate stands right before a low one. -/
def Joined : PyStr → Prop
  | a :: b :: s => ¬(isHigh a && isLow b) ∧ Joined (b :: s)
  | _ => True

theorem isHigh_iff {c : CodePoint} : isHigh c = true ↔ 0xD800 ≤ c.val ∧ c.val ≤ 0xDBFF := by
  simp [isHigh]

theorem isLow_iff {c : CodePoint} : isLow c = true ↔ 0xDC00 ≤ c.val ∧ c.val ≤ 0xDFFF := by
  simp [isLow]

theorem val_pairOf {hi lo : CodePoint} (hhi : isHigh hi = true) (hlo : isLow lo = true) :
    (pairOf hi lo).val = 0x10000 + (hi.val - 0xD800) * 1024 + (lo.val - 0xDC00) := by
  rw [isHigh_iff] at hhi
  rw [isLow_iff] at hlo
  exact Nat.mod_eq_of_lt (by omega)

/-! ### Joined strings -/

theorem Joined.tail {c : CodePoint} {s : PyStr} (h : Joined (c :: s)) : Joined s := by
  cases s with
  | nil => trivial
  | cons d s => exact h.2

/-- A character that is no high surrogate joins with nothing. -/
theorem joined_cons {c : CodePoint} {s : PyStr} (hc : isHigh c = false) (h : Joined s) :
    Joined (c :: s) := by
  cases s with
  | nil => trivial
  | cons d s =>
    refine ⟨?_, h⟩
    rw [hc]
    exact Bool.false_ne_true

theorem joined_of_scalar {s : PyStr} (h : s.Scalar) : Joined s := by
  induction s with
  | nil => trivial
  | cons c s ih =>
    obtain ⟨hc, hs⟩ := PyStr.scalar_cons.mp h
    have hhigh : isHigh c = false := by
      rw [CodePoint.isSurrogate, Bool.and_eq_false_iff, decide_eq_false_iff_not,
        decide_eq_false_iff_not] at hc
      rw [isHigh, Bool.and_eq_false_iff, decide_eq_false_iff_not, decide_eq_false_iff_not]
      omega
    exact joined_cons hhigh (ih hs)

theorem joinPairs_of_joined {s : PyStr} (h : Joined s) : joinPairs s = s := by
  induction s with
  | nil => rfl
  | cons c s ih =>
    cases s with
    | nil => rfl
    | cons d s =>
      unfold joinPairs
      rw [if_neg h.1, ih h.2]

/-- What a joined string starts with: its own first character, or that of a
    pair. -/
theorem head_joinPairs (c : CodePoint) (s : PyStr) :
    ∃ d t, joinPairs (c :: s) = d :: t ∧ (d = c ∨ isLow d = false) := by
  cases s with
  | nil => exact ⟨c, [], rfl, .inl rfl⟩
  | cons e s =>
    unfold joinPairs
    split
    · next hpair =>
      rw [Bool.and_eq_true] at hpair
      have hval := val_pairOf hpair.1 hpair.2
      refine ⟨_, _, rfl, .inr ?_⟩
      rw [isLow, Bool.and_eq_false_iff, decide_eq_false_iff_not, decide_eq_false_iff_not]
      omega
    · exact ⟨c, _, rfl, .inl rfl⟩

theorem joined_joinPairs (s : PyStr) : Joined (joinPairs s) := by
  induction s using joinPairs.induct with
  | case1 hi lo s hpair ih =>
    unfold joinPairs
    rw [if_pos hpair]
    rw [Bool.and_eq_true] at hpair
    have hval := val_pairOf hpair.1 hpair.2
    apply joined_cons _ ih
    rw [isHigh, Bool.and_eq_false_iff, decide_eq_false_iff_not, decide_eq_false_iff_not]
    omega
  | case2 hi lo s hpair ih =>
    unfold joinPairs
    rw [if_neg hpair]
    obtain ⟨d, t, htail, hd⟩ := head_joinPairs lo s
    rw [htail] at ih ⊢
    refine ⟨?_, ih⟩
    rcases hd with rfl | hd
    · exact hpair
    · rw [hd, Bool.and_false]
      exact Bool.false_ne_true
  | case3 s hs =>
    match s, hs with
    | [], _ => trivial
    | [c], _ => trivial
    | a :: b :: s, hs => exact absurd rfl (hs a b s)

theorem joinPairs_eq_iff {s : PyStr} : joinPairs s = s ↔ Joined s := by
  constructor
  · intro h
    rw [← h]
    exact joined_joinPairs s
  · exact joinPairs_of_joined

/-! ### Their text -/

theorem escapeChar_surrogate {c : CodePoint} (h : 0xD800 ≤ c.val ∧ c.val ≤ 0xDFFF) :
    escapeChar true c = unicodeEscape c.val := by
  unfold escapeChar
  rw [if_neg (by omega), if_neg (by omega), if_neg (by omega), if_neg (by omega),
    if_neg (by omega), if_neg (by omega), if_neg (by omega), if_neg (by omega),
    if_pos ⟨rfl, by omega⟩, if_pos (by omega)]

theorem escapeChar_wide {c : CodePoint} (h : 0x10000 ≤ c.val) :
    escapeChar true c = unicodeEscape (0xD800 + (c.val - 0x10000) / 1024) ++
      unicodeEscape (0xDC00 + (c.val - 0x10000) % 1024) := by
  unfold escapeChar
  rw [if_neg (by omega), if_neg (by omega), if_neg (by omega), if_neg (by omega),
    if_neg (by omega), if_neg (by omega), if_neg (by omega), if_neg (by omega),
    if_pos ⟨rfl, by omega⟩, if_neg (by omega)]

/-- A pair has the text of its character. -/
theorem escapeChar_pairOf {hi lo : CodePoint} (hhi : isHigh hi = true) (hlo : isLow lo = true) :
    escapeChar true (pairOf hi lo) = escapeChar true hi ++ escapeChar true lo := by
  have hval := val_pairOf hhi hlo
  rw [isHigh_iff] at hhi
  rw [isLow_iff] at hlo
  have hfirst : 0xD800 + ((pairOf hi lo).val - 0x10000) / 1024 = hi.val := by omega
  have hsecond : 0xDC00 + ((pairOf hi lo).val - 0x10000) % 1024 = lo.val := by omega
  have hhi' : 0xD800 ≤ hi.val ∧ hi.val ≤ 0xDFFF := by omega
  have hlo' : 0xD800 ≤ lo.val ∧ lo.val ≤ 0xDFFF := by omega
  rw [escapeChar_wide (by omega), hfirst, hsecond, escapeChar_surrogate hhi',
    escapeChar_surrogate hlo']

theorem escape_joinPairs (s : PyStr) : escape true (joinPairs s) = escape true s := by
  suffices h : (joinPairs s).flatMap (escapeChar true) = s.flatMap (escapeChar true) by
    unfold escape
    rw [h]
  induction s using joinPairs.induct with
  | case1 hi lo s hpair ih =>
    unfold joinPairs
    rw [if_pos hpair]
    rw [Bool.and_eq_true] at hpair
    rw [List.flatMap_cons, ih, escapeChar_pairOf hpair.1 hpair.2, List.flatMap_cons,
      List.flatMap_cons, List.append_assoc]
  | case2 hi lo s hpair ih =>
    unfold joinPairs
    rw [if_neg hpair, List.flatMap_cons, ih]
    rfl
  | case3 s hs =>
    match s, hs with
    | [], _ => rfl
    | [c], _ => rfl
    | a :: b :: s, hs => exact absurd rfl (hs a b s)

/-! ### Reading it back -/

/-- An escape stays alone when no other escape follows. -/
theorem scanString_alone {n : Nat} (hn : n < 0x10000) {r : PyStr}
    (hr : ∀ back u t, r = back :: u :: t → ¬(back.val = 0x5C ∧ u.val = 0x75)) :
    scanString (unicodeEscape n ++ r) =
      (scanString r).map fun p => (Fin.ofNat 0x110000 n :: p.1, p.2) := by
  unfold unicodeEscape
  rw [scanString.eq_def]
  simp only [List.cons_append, List.nil_append]
  rw [if_neg (by decide), if_pos (by decide), if_pos (by decide)]
  simp only [hex4?_unicodeEscape hn]
  split
  · next back u a b c d s =>
    rw [if_neg fun h => hr back u _ rfl ⟨h.2.2.1, h.2.2.2⟩]
  · rfl

/-- So does one whose follower is not the second half of a pair. -/
theorem scanString_apart {n m : Nat} (hn : n < 0x10000) (hm : m < 0x10000)
    (hlow : ¬(0xDC00 ≤ m ∧ m ≤ 0xDFFF)) (r : PyStr) :
    scanString (unicodeEscape n ++ (unicodeEscape m ++ r)) =
      (scanString (unicodeEscape m ++ r)).map fun p => (Fin.ofNat 0x110000 n :: p.1, p.2) := by
  conv_lhs => unfold unicodeEscape
  rw [scanString.eq_def]
  simp only [List.cons_append, List.nil_append]
  rw [if_neg (by decide), if_pos (by decide), if_pos (by decide)]
  simp only [hex4?_unicodeEscape hn, hex4?_unicodeEscape hm]
  split
  · rfl
  · rfl

/-- The text of a character that is no low surrogate is a letter behind a
    backslash, an escape that does not complete a pair, or the character. -/
theorem escapeChar_forms {d : CodePoint} (hd : isLow d = false) :
    (∃ e : CodePoint, e.val ≠ 0x75 ∧ escapeChar true d = [0x5C, e]) ∨
    (∃ m r, m < 0x10000 ∧ ¬(0xDC00 ≤ m ∧ m ≤ 0xDFFF) ∧ escapeChar true d = unicodeEscape m ++ r) ∨
    (d.val ≠ 0x5C ∧ escapeChar true d = [d]) := by
  have hlow : ¬(0xDC00 ≤ d.val ∧ d.val ≤ 0xDFFF) := by
    intro h
    rw [isLow_iff.mpr h] at hd
    cases hd
  have hlt := d.isLt
  generalize htext : escapeChar true d = text
  unfold escapeChar at htext
  split at htext
  · exact .inl ⟨0x22, by decide, htext.symm⟩
  split at htext
  · exact .inl ⟨0x5C, by decide, htext.symm⟩
  split at htext
  · exact .inl ⟨0x6E, by decide, htext.symm⟩
  split at htext
  · exact .inl ⟨0x72, by decide, htext.symm⟩
  split at htext
  · exact .inl ⟨0x74, by decide, htext.symm⟩
  split at htext
  · exact .inl ⟨0x66, by decide, htext.symm⟩
  split at htext
  · exact .inl ⟨0x62, by decide, htext.symm⟩
  split at htext
  · exact .inr (.inl ⟨d.val, [], by omega, hlow, by rw [List.append_nil]; exact htext.symm⟩)
  split at htext
  · split at htext
    · exact .inr (.inl ⟨d.val, [], by omega, hlow, by rw [List.append_nil]; exact htext.symm⟩)
    · exact .inr (.inl ⟨_, _, by omega, by omega, htext.symm⟩)
  · exact .inr (.inr ⟨by assumption, htext.symm⟩)

/-- An escape is a character of its own in front of a character that is no
    low surrogate. -/
theorem scanString_before {n : Nat} (hn : n < 0x10000) {d : CodePoint} (hd : isLow d = false)
    (r : PyStr) :
    scanString (unicodeEscape n ++ (escapeChar true d ++ r)) =
      (scanString (escapeChar true d ++ r)).map fun p => (Fin.ofNat 0x110000 n :: p.1, p.2) := by
  rcases escapeChar_forms hd with ⟨e, he, htext⟩ | ⟨m, r', hm, hlow, htext⟩ | ⟨hback, htext⟩
  · rw [htext]
    apply scanString_alone hn
    intro back u t heq
    cases heq
    exact fun h => he h.2
  · rw [htext, List.append_assoc]
    exact scanString_apart hn hm hlow _
  · rw [htext]
    apply scanString_alone hn
    intro back u t heq
    cases heq
    exact fun h => hback h.1

/-- A string without pairs is read back up to its closing quote. -/
theorem scanString_joined {s : PyStr} (h : Joined s) (t : PyStr) :
    scanString (s.flatMap (escapeChar true) ++ 0x22 :: t) = some (s, t) := by
  induction s with
  | nil => exact scanString_quote t
  | cons c s ih =>
    rw [List.flatMap_cons, List.append_assoc]
    by_cases hc : c.isSurrogate = true
    · have hrange : 0xD800 ≤ c.val ∧ c.val ≤ 0xDFFF := by
        simpa [CodePoint.isSurrogate] using hc
      have hself : (Fin.ofNat 0x110000 c.val : CodePoint) = c := Fin.ext (Nat.mod_eq_of_lt c.isLt)
      suffices hread : scanString (unicodeEscape c.val ++ (s.flatMap (escapeChar true) ++ 0x22 :: t)) =
          (scanString (s.flatMap (escapeChar true) ++ 0x22 :: t)).map fun p =>
            (Fin.ofNat 0x110000 c.val :: p.1, p.2) by
        rw [escapeChar_surrogate hrange, hread, ih h.tail, hself]
        rfl
      by_cases hhigh : isHigh c = true
      · -- what follows a high surrogate does not complete a pair
        cases s with
        | nil =>
          apply scanString_alone (by omega)
          intro back u t' heq hback
          cases heq
          exact absurd hback.1 (by decide)
        | cons d s =>
          have hlow : isLow d = false := by
            have hnot := h.1
            rw [hhigh, Bool.true_and] at hnot
            exact Bool.eq_false_iff.mpr hnot
          rw [List.flatMap_cons, List.append_assoc]
          exact scanString_before (by omega) hlow _
      · exact scanString_unicodeEscape (by omega) (fun hrange' => hhigh (isHigh_iff.mpr hrange')) _
    · rw [scanString_escapeChar true (Bool.eq_false_iff.mpr hc), ih h.tail]
      rfl

end Json

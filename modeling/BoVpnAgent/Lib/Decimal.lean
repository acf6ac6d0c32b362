import BoVpnAgent.Lib.Json

/-! # Decimal numbers as text

    What `str(n)` writes is read back by `int(s)` and by the scanner of
    `json.loads`, and a run of digits without a leading zero is what is
    written for its value.
-/

namespace Decimal

open CodePoint

/-! ### Digits -/

/-- The character of a digit. -/
def digitChar (d : Nat) : CodePoint := Fin.ofNat 0x110000 (0x30 + d)

/-- The decimal digits of a number. -/
def digits (n : Nat) : List Nat := (Nat.toDigits 10 n).map fun ch => ch.toNat - 48

theorem val_digitChar {d : Nat} (hd : d < 10) : (digitChar d).val = 0x30 + d := by
  show (0x30 + d) % 0x110000 = 0x30 + d
  omega

theorem digit?_eq_some {c : CodePoint} {d : Nat} :
    c.digit? = some d ↔ d < 10 ∧ c = digitChar d := by
  unfold digit?
  constructor
  · intro h
    split at h
    · next hc =>
      have hd : c.val - 0x30 = d := Option.some.inj h
      refine ⟨by omega, Fin.ext ?_⟩
      rw [val_digitChar (by omega)]
      omega
    · cases h
  · rintro ⟨hd, rfl⟩
    rw [val_digitChar hd, if_pos (by omega)]
    congr 1
    omega

@[simp] theorem digit?_digitChar {d : Nat} (hd : d < 10) : (digitChar d).digit? = some d :=
  digit?_eq_some.mpr ⟨hd, rfl⟩

theorem codePoint_digitChar {d : Nat} (hd : d < 10) : d.digitChar.codePoint = digitChar d := by
  have h : ∀ d, d < 10 → d.digitChar.codePoint = digitChar d := by decide
  exact h d hd

theorem digits_eq (n : Nat) :
    digits n = (if n < 10 then [] else digits (n / 10)) ++ [n % 10] := by
  unfold digits
  rw [Nat.toDigits_eq_if (by decide)]
  have hdigit : ∀ d, d < 10 → d.digitChar.toNat - 48 = d := by decide
  split
  · next hn => simp [hdigit n hn, Nat.mod_eq_of_lt hn]
  · simp [hdigit (n % 10) (by omega)]

theorem digits_ne_nil (n : Nat) : digits n ≠ [] := by
  rw [digits_eq]
  simp

theorem digits_lt {n d : Nat} (hd : d ∈ digits n) : d < 10 := by
  induction n using Nat.strong_induction_on with
  | _ n ih =>
    rw [digits_eq, List.mem_append, List.mem_singleton] at hd
    rcases hd with hd | rfl
    · split at hd
      · cases hd
      · exact ih (n / 10) (by omega) hd
    · omega

/-- The text of a natural number is the characters of its digits. -/
theorem toDigits_eq_digits (n : Nat) :
    (Nat.toDigits 10 n).map Char.codePoint = (digits n).map digitChar := by
  induction n using Nat.strong_induction_on with
  | _ n ih =>
    rw [digits_eq, Nat.toDigits_eq_if (by decide)]
    split
    · next hn => simp [codePoint_digitChar hn, Nat.mod_eq_of_lt hn]
    · next hn =>
      rw [List.map_append, List.map_append, ih (n / 10) (by omega)]
      simp [codePoint_digitChar (show n % 10 < 10 by omega)]

theorem length_digits (n : Nat) : (digits n).length = (Nat.toDigits 10 n).length :=
  List.length_map _

/-! ### Values -/

@[simp] theorem digitsVal_append_singleton (ds : List Nat) (d : Nat) :
    PyStr.digitsVal (ds ++ [d]) = 10 * PyStr.digitsVal ds + d := by
  simp [PyStr.digitsVal]

@[simp] theorem digitsVal_digits (n : Nat) : PyStr.digitsVal (digits n) = n := by
  induction n using Nat.strong_induction_on with
  | _ n ih =>
    rw [digits_eq, digitsVal_append_singleton]
    split
    · next hn =>
      show 10 * 0 + n % 10 = n
      omega
    · rw [ih (n / 10) (by omega)]
      omega

/-- Digits as they are written: at least one, and no leading zero. -/
structure Canonical (ds : List Nat) : Prop where
  digit : ∀ d ∈ ds, d < 10
  nonempty : ds ≠ []
  leading : ds.head? = some 0 → ds.length = 1

theorem head_digits_pos {n : Nat} (hn : 0 < n) : (digits n).head? ≠ some 0 := by
  induction n using Nat.strong_induction_on with
  | _ n ih =>
    rw [digits_eq]
    split
    · next hlt =>
      simp only [List.nil_append, List.head?_cons, ne_eq, Option.some.injEq]
      omega
    · next hge =>
      have h := ih (n / 10) (by omega) (by omega)
      rw [List.head?_append_of_ne_nil _ (digits_ne_nil _)]
      exact h

theorem canonical_digits (n : Nat) : Canonical (digits n) := by
  refine ⟨fun d hd => digits_lt hd, digits_ne_nil n, fun hhead => ?_⟩
  by_cases hn : 0 < n
  · exact absurd hhead (head_digits_pos hn)
  · have hzero : n = 0 := by omega
    subst hzero
    rfl

/-- Canonical digits are the digits of their value. -/
theorem digits_digitsVal {ds : List Nat} (h : Canonical ds) : digits (PyStr.digitsVal ds) = ds := by
  induction ds using List.reverseRecOn with
  | nil => exact absurd rfl h.nonempty
  | append_singleton ds d ih =>
    have hd : d < 10 := h.digit d (by simp)
    rw [digitsVal_append_singleton, digits_eq]
    by_cases hds : ds = []
    · subst hds
      have hval : PyStr.digitsVal [] = 0 := rfl
      rw [hval, if_pos (by omega)]
      simp [Nat.mod_eq_of_lt hd]
    · have hlead : ds.head? ≠ some 0 := by
        intro hzero
        have hlen := h.leading (by rw [List.head?_append_of_ne_nil _ hds]; exact hzero)
        have hpos := List.length_pos_iff.mpr hds
        rw [List.length_append, List.length_singleton] at hlen
        omega
      have hcanonical : Canonical ds :=
        ⟨fun x hx => h.digit x (List.mem_append_left _ hx), hds, fun hzero => absurd hzero hlead⟩
      have hpos : 0 < PyStr.digitsVal ds := by
        by_contra hzero
        have hval : PyStr.digitsVal ds = 0 := by omega
        have heq := ih hcanonical
        rw [hval] at heq
        exact hlead (by rw [← heq]; rfl)
      rw [if_neg (by omega)]
      have hdiv : (10 * PyStr.digitsVal ds + d) / 10 = PyStr.digitsVal ds := by omega
      have hmod : (10 * PyStr.digitsVal ds + d) % 10 = d := by omega
      rw [hdiv, hmod, ih hcanonical]

/-! ### Reading back -/

theorem intDigits_digits {ds : List Nat} (hds : ∀ d ∈ ds, d < 10) (gap : Bool)
    (hgap : gap = true ∨ ds ≠ []) : PyStr.intDigits gap (ds.map digitChar) = some ds := by
  induction ds generalizing gap with
  | nil =>
    have h : gap = true := hgap.resolve_right fun h => h rfl
    subst h
    rfl
  | cons d ds ih =>
    have hd : d < 10 := hds d List.mem_cons_self
    have hrest := ih (fun x hx => hds x (List.mem_cons_of_mem d hx)) true (.inl rfl)
    simp only [List.map_cons, PyStr.intDigits, digit?_digitChar hd, hrest, Option.map_some]

/-- The text of an integer. -/
theorem intRepr_eq (n : Int) :
    Json.intRepr n = (if n < 0 then [0x2D] else []) ++ (digits n.natAbs).map digitChar := by
  rw [Json.intRepr, toDigits_eq_digits]

theorem val_of_mem_intRepr {n : Int} {c : CodePoint} (hc : c ∈ Json.intRepr n) :
    0x2D ≤ c.val ∧ c.val ≤ 0x39 := by
  rw [intRepr_eq, List.mem_append] at hc
  rcases hc with hc | hc
  · split at hc
    · rw [List.mem_singleton.mp hc]
      decide
    · cases hc
  · obtain ⟨d, hd, rfl⟩ := List.mem_map.mp hc
    have hlt := digits_lt hd
    rw [val_digitChar hlt]
    omega

theorem intRepr_ne_nil (n : Int) : Json.intRepr n ≠ [] := by
  rw [intRepr_eq]
  intro h
  have hdigits := (List.append_eq_nil_iff.mp h).2
  exact digits_ne_nil n.natAbs (List.map_eq_nil_iff.mp hdigits)

/-- A text of characters that are neither spaces nor beyond ASCII is read as
    it is. -/
theorem strip_asciiDigits {s : PyStr} (hs : ∀ c ∈ s, 0x21 ≤ c.val ∧ c.val < 0x7F) :
    ((PyStr.asciiDigits s).dropWhile PyStr.isCSpace).rdropWhile PyStr.isCSpace = s := by
  have hascii : s.isAscii = true := by
    refine List.all_eq_true.mpr fun c hc => ?_
    have h := hs c hc
    simp only [decide_eq_true_eq]
    omega
  have hspace : ∀ c ∈ s, PyStr.isCSpace c = false := by
    intro c hc
    have h := hs c hc
    simp only [PyStr.isCSpace, Bool.or_eq_false_iff, Bool.and_eq_false_iff, decide_eq_false_iff_not,
      beq_eq_false_iff_ne]
    omega
  have hdrop : s.dropWhile PyStr.isCSpace = s := by
    cases s with
    | nil => rfl
    | cons c s =>
      rw [List.dropWhile_cons, hspace c List.mem_cons_self]
      rfl
  rw [PyStr.asciiDigits, if_pos hascii, hdrop, List.rdropWhile_eq_self_iff]
  intro hne hlast
  rw [hspace _ (List.getLast_mem hne)] at hlast
  cases hlast

/-- `int(str(n)) == n` -/
theorem toInt_intRepr {limit : Nat} {n : Int} (h : Json.DigitsWithin limit n) :
    PyStr.toInt limit (Json.intRepr n) = some n := by
  have hlen : ¬ limit < (digits n.natAbs).length := by
    rw [length_digits]
    exact not_lt.mpr h
  have hdigits : ∀ d ∈ digits n.natAbs, d < 10 := fun d hd => digits_lt hd
  have hstrip := strip_asciiDigits (s := Json.intRepr n) fun c hc => by
    have hc := val_of_mem_intRepr hc
    omega
  have hsigned : PyStr.signedDigits (Json.intRepr n) = some (decide (n < 0), digits n.natAbs) := by
    rw [intRepr_eq]
    by_cases hneg : n < 0
    · rw [if_pos hneg, decide_eq_true hneg]
      show (PyStr.intDigits false ((digits n.natAbs).map digitChar)).map (true, ·) = _
      rw [intDigits_digits hdigits _ (.inr (digits_ne_nil _))]
      rfl
    · rw [if_neg hneg, decide_eq_false hneg, List.nil_append]
      have hread := intDigits_digits hdigits false (.inr (digits_ne_nil _))
      cases hds : digits n.natAbs with
      | nil => exact absurd hds (digits_ne_nil _)
      | cons d ds =>
        rw [hds, List.map_cons] at hread
        have hd : d < 10 := hdigits d (by rw [hds]; exact List.mem_cons_self)
        have hplus : ¬ (digitChar d).val = 0x2B := by rw [val_digitChar hd]; omega
        have hminus : ¬ (digitChar d).val = 0x2D := by rw [val_digitChar hd]; omega
        simp only [List.map_cons, PyStr.signedDigits, if_neg hplus, if_neg hminus, hread,
          Option.map_some]
  unfold PyStr.toInt
  rw [hstrip, hsigned]
  simp only [if_neg hlen, digitsVal_digits, decide_eq_true_eq]
  congr 1
  split <;> omega

theorem intRepr_injective {m n : Int} (h : Json.intRepr m = Json.intRepr n) : m = n := by
  have hm : PyStr.toInt (max (Nat.toDigits 10 m.natAbs).length (Nat.toDigits 10 n.natAbs).length)
      (Json.intRepr m) = some m := toInt_intRepr (le_max_left _ _)
  rw [h, toInt_intRepr (le_max_right _ _)] at hm
  exact (Option.some.inj hm).symm

end Decimal

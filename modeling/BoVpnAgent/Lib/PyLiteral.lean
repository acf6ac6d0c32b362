import BoVpnAgent.Lib.JsonLoads

/-! # Python string literals

    How the compiler reads a short string literal: the text between one quote
    and the next one that is not escaped, on one line.  A literal that opens
    with three quotes is another kind of token, and the names of `\N` are not
    modelled; `repr` writes neither.

    This file defines:
    - `PyLiteral.read`: the string of the literal in front of a text, and the
      text behind it
    - `PyLiteral.read_quoted`: a literal whose characters are written one by
      one is read back
-/

namespace PyLiteral

/-- The value of an octal digit. -/
def octVal? (c : CodePoint) : Option Nat :=
  if 0x30 ≤ c.val ∧ c.val ≤ 0x37 then some (c.val - 0x30) else none

/-- The number with these digits. -/
def digitsIn (base : Nat) (ds : List Nat) : Nat := ds.foldl (fun n d => base * n + d) 0

/-- The escape with `n` hexadecimal digits. -/
def hexEscape (n : Nat) (s : PyStr) : Option (PyStr × PyStr) := do
  let ds ← (s.take n).mapM Json.hexVal?
  if h : ds.length = n ∧ digitsIn 16 ds < 0x110000 then
    some ([⟨digitsIn 16 ds, h.2⟩], s.drop n)
  else none

/-- The character of an escape with one letter. -/
def letter? (c : CodePoint) : Option CodePoint :=
  if c.val = 0x5C ∨ c.val = 0x27 ∨ c.val = 0x22 then some c
  else if c.val = 0x61 then some 0x07
  else if c.val = 0x62 then some 0x08
  else if c.val = 0x66 then some 0x0C
  else if c.val = 0x6E then some 0x0A
  else if c.val = 0x72 then some 0x0D
  else if c.val = 0x74 then some 0x09
  else if c.val = 0x76 then some 0x0B
  else none

/-- The characters of the escape whose backslash stands in front of the text,
    and the rest. -/
def escape? : PyStr → Option (PyStr × PyStr)
  | [] => none
  | e :: s =>
    if e.val = 0x0A then some ([], s)
    else
      match letter? e with
      | some ch => some ([ch], s)
      | none =>
        if e.val = 0x78 then hexEscape 2 s
        else if e.val = 0x75 then hexEscape 4 s
        else if e.val = 0x55 then hexEscape 8 s
        else if e.val = 0x4E then none
        else
          match octVal? e with
          | some d =>
            let ds := (s.take 2).takeWhile (fun c => (octVal? c).isSome)
            some ([Fin.ofNat 0x110000 (digitsIn 8 (d :: ds.filterMap octVal?))], s.drop ds.length)
          -- the backslash of an unknown escape stays
          | none => some ([0x5C, e], s)

theorem length_hexEscape {n : Nat} {s cs r : PyStr} (h : hexEscape n s = some (cs, r)) :
    r.length ≤ s.length := by
  unfold hexEscape at h
  obtain ⟨ds, -, h⟩ := Option.bind_eq_some_iff.mp h
  split at h
  · cases h
    rw [List.length_drop]
    omega
  · cases h

theorem length_escape {s cs r : PyStr} (h : escape? s = some (cs, r)) : r.length ≤ s.length := by
  cases s with
  | nil => cases h
  | cons e s =>
    rw [List.length_cons]
    simp only [escape?] at h
    split at h
    · cases h
      omega
    split at h
    · cases h
      omega
    split at h
    · exact Nat.le_succ_of_le (length_hexEscape h)
    split at h
    · exact Nat.le_succ_of_le (length_hexEscape h)
    split at h
    · exact Nat.le_succ_of_le (length_hexEscape h)
    split at h
    · cases h
    split at h
    · cases h
      rw [List.length_drop]
      omega
    · cases h
      omega

/-- The literal behind its opening quote, and the text behind the closing
    one. -/
def scan (quote : CodePoint) (s : PyStr) : Option (PyStr × PyStr) :=
  match s with
  | [] => none
  | c :: s =>
    if c = quote then some ([], s)
    else if c.val = 0x0A ∨ c.val = 0x0D then none
    else if c.val = 0x5C then
      match _h : escape? s with
      | none => none
      | some (cs, r) => (scan quote r).map fun p => (cs ++ p.1, p.2)
    else (scan quote s).map fun p => (c :: p.1, p.2)
termination_by s.length
decreasing_by
  · have hlength := length_escape _h
    rw [List.length_cons]
    omega
  · exact Nat.lt_succ_self _

/-- The short literal in front of a text, and the text behind it. -/
def read : PyStr → Option (PyStr × PyStr)
  | [] => none
  | quote :: s =>
    if quote.val ≠ 0x27 ∧ quote.val ≠ 0x22 then none
    else if (s.take 2) = [quote, quote] then none
    else scan quote s

/-! ### Reading character by character -/

section scan

variable {quote : CodePoint}

theorem scan_quote (s : PyStr) : scan quote (quote :: s) = some ([], s) := by
  rw [scan.eq_def]
  exact if_pos rfl

theorem scan_plain {c : CodePoint} (hquote : c ≠ quote) (hline : c.val ≠ 0x0A ∧ c.val ≠ 0x0D)
    (hback : c.val ≠ 0x5C) (s : PyStr) :
    scan quote (c :: s) = (scan quote s).map fun p => (c :: p.1, p.2) := by
  conv_lhs => rw [scan.eq_def]
  simp only
  rw [if_neg hquote, if_neg (not_or.mpr hline), if_neg hback]

theorem scan_escape (hquote : quote.val ≠ 0x5C) (cs : PyStr) {s r : PyStr} (h : escape? s = some (cs, r)) :
    scan quote (0x5C :: s) = (scan quote r).map fun p => (cs ++ p.1, p.2) := by
  have hne : (0x5C : CodePoint) ≠ quote := by
    rintro rfl
    exact hquote rfl
  conv_lhs => rw [scan.eq_def]
  simp only
  rw [if_neg hne, if_neg (by decide), if_pos (by decide)]
  split
  · next hnone =>
    rw [h] at hnone
    cases hnone
  · next cs' r' hsome =>
    rw [h] at hsome
    cases hsome
    rfl

/-- A way to write characters that are read back one by one. -/
def Writes (quote : CodePoint) (write : CodePoint → PyStr) (c : CodePoint) : Prop :=
  ∀ r, scan quote (write c ++ r) = (scan quote r).map fun p => (c :: p.1, p.2)

/-- What is written in this way is read back up to the closing quote. -/
theorem scan_written {write : CodePoint → PyStr} {s : PyStr} (h : ∀ c ∈ s, Writes quote write c)
    (rest : PyStr) : scan quote (s.flatMap write ++ quote :: rest) = some (s, rest) := by
  induction s with
  | nil => exact scan_quote rest
  | cons c s ih =>
    obtain ⟨hc, hs⟩ := List.forall_mem_cons.mp h
    rw [List.flatMap_cons, List.append_assoc, hc, ih hs]
    rfl

/-- A literal that does not begin with its own quote is read back, whatever
    comes behind it. -/
theorem read_quoted {write : CodePoint → PyStr} {s : PyStr}
    (hquote : quote.val = 0x27 ∨ quote.val = 0x22) (h : ∀ c ∈ s, Writes quote write c)
    (hfirst : (s.flatMap write).head? ≠ some quote) (hs : s.flatMap write ≠ []) (rest : PyStr) :
    read ([quote] ++ s.flatMap write ++ [quote] ++ rest) = some (s, rest) := by
  have hquotes : ¬(quote.val ≠ 0x27 ∧ quote.val ≠ 0x22) := by
    rintro ⟨h₁, h₂⟩
    exact hquote.elim h₁ h₂
  have hshort : ¬((s.flatMap write ++ [quote] ++ rest).take 2) = [quote, quote] := by
    intro heq
    cases htext : s.flatMap write with
    | nil => exact hs htext
    | cons c w =>
      rw [htext] at heq hfirst
      have hc : c = quote := by
        have hhead := congrArg List.head? heq
        simpa using hhead
      rw [hc] at hfirst
      exact hfirst rfl
  have hread := scan_written h rest
  show (if quote.val ≠ 0x27 ∧ quote.val ≠ 0x22 then none
    else if (s.flatMap write ++ [quote] ++ rest).take 2 = [quote, quote] then none
    else scan quote (s.flatMap write ++ [quote] ++ rest)) = _
  rw [if_neg hquotes, if_neg hshort, List.append_assoc]
  exact hread

end scan

end PyLiteral

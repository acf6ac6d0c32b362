import Mathlib.Data.List.Basic
import Mathlib.Data.List.Infix
import Mathlib.Data.List.DropRight
import Mathlib.Tactic.Tauto

/-! # Python strings

    A Python string is a sequence of code points, and a code point may be a
    lone surrogate: `json.loads` makes one from an escape, and encoding one
    as UTF-8 raises.  So a string is a list of code points and not a Lean
    `String`, which holds scalar values only; `Scalar` says that a string has
    no surrogate.

    This file defines the whitespace rules of `str.strip` and `str.split`
    and the conversion `int(s)`.
-/

/-- A Unicode code point, surrogates included. -/
abbrev CodePoint := Fin 0x110000

instance neZeroCodePoints : @NeZero Nat Zero.ofOfNat0 0x110000 := ⟨by decide⟩

instance lawfulBEqCodePoint : LawfulBEq CodePoint := inferInstance

/-- A Python string. -/
abbrev PyStr := List CodePoint

instance lawfulBEqPyStr : LawfulBEq PyStr := List.instLawfulBEq

/-- The code point of a character. -/
def Char.codePoint (c : Char) : CodePoint := Fin.ofNat 0x110000 c.toNat

/-- A string constant of a program as a Python string. -/
def String.py (s : String) : PyStr := s.toList.map Char.codePoint

namespace CodePoint

/-- `c` is one half of a surrogate pair. -/
def isSurrogate (c : CodePoint) : Bool := 0xD800 ≤ c.val && c.val ≤ 0xDFFF

/-- `chr(c).isspace()`, the whitespace of `str.strip` and `str.split`. -/
def isSpace (c : CodePoint) : Bool :=
  (9 ≤ c.val && c.val ≤ 13) || (0x1C ≤ c.val && c.val ≤ 0x20) ||
  [0x85, 0xA0, 0x1680, 0x2028, 0x2029, 0x202F, 0x205F, 0x3000].contains c.val ||
  (0x2000 ≤ c.val && c.val ≤ 0x200A)

/-- The zeros of the runs of ten decimal digits (Unicode 15). -/
def decimalZeros : List Nat :=
  [0x30, 0x660, 0x6F0, 0x7C0, 0x966, 0x9E6, 0xA66, 0xAE6, 0xB66, 0xBE6, 0xC66, 0xCE6, 0xD66,
   0xDE6, 0xE50, 0xED0, 0xF20, 0x1040, 0x1090, 0x17E0, 0x1810, 0x1946, 0x19D0, 0x1A80, 0x1A90,
   0x1B50, 0x1BB0, 0x1C40, 0x1C50, 0xA620, 0xA8D0, 0xA900, 0xA9D0, 0xA9F0, 0xAA50, 0xABF0,
   0xFF10, 0x104A0, 0x10D30, 0x11066, 0x110F0, 0x11136, 0x111D0, 0x112F0, 0x11450, 0x114D0,
   0x11650, 0x116C0, 0x11730, 0x118E0, 0x11950, 0x11C50, 0x11D50, 0x11DA0, 0x11F50, 0x16A60,
   0x16AC0, 0x16B50, 0x1D7CE, 0x1D7D8, 0x1D7E2, 0x1D7EC, 0x1D7F6, 0x1E140, 0x1E2F0, 0x1E4F0,
   0x1E950, 0x1FBF0]

/-- `unicodedata.decimal(chr(c), None)` -/
def decimal? (c : CodePoint) : Option Nat :=
  (decimalZeros.find? fun z => z ≤ c.val && c.val ≤ z + 9).map fun z => c.val - z

/-- The value of an ASCII decimal digit. -/
def digit? (c : CodePoint) : Option Nat :=
  if 0x30 ≤ c.val ∧ c.val ≤ 0x39 then some (c.val - 0x30) else none

end CodePoint

namespace PyStr

open CodePoint

/-! ### Scalar strings -/

/-- No lone surrogate: the string encodes as UTF-8. -/
def Scalar (s : PyStr) : Prop := ∀ c ∈ s, c.isSurrogate = false

instance (s : PyStr) : Decidable s.Scalar :=
  decidable_of_iff (s.all fun c => !c.isSurrogate) (by simp [Scalar])

@[simp] theorem scalar_nil : Scalar [] := fun _ h => nomatch h

@[simp] theorem scalar_cons {c : CodePoint} {s : PyStr} :
    Scalar (c :: s) ↔ c.isSurrogate = false ∧ Scalar s := by
  simp [Scalar]

@[simp] theorem scalar_append {s t : PyStr} : Scalar (s ++ t) ↔ Scalar s ∧ Scalar t := by
  simp [Scalar, or_imp, forall_and]

theorem Scalar.sublist {s t : PyStr} (h : s.Scalar) (hst : t.Sublist s) : t.Scalar :=
  fun c hc => h c (hst.subset hc)

theorem isSurrogate_codePoint (c : Char) : c.codePoint.isSurrogate = false := by
  have hv : c.codePoint.val = c.toNat := by
    have hlt : c.toNat < 0x110000 := by
      rcases c.valid with h | h <;> · simp only [Char.toNat, UInt32.toNat] at *; omega
    simp [Char.codePoint, Fin.ofNat, Nat.mod_eq_of_lt hlt]
  have hc : c.toNat < 0xD800 ∨ 0xDFFF < c.toNat := by
    rcases c.valid with h | h
    · exact .inl h
    · exact .inr h.1
  simp only [isSurrogate, hv, Bool.and_eq_false_iff, decide_eq_false_iff_not]
  omega

@[simp] theorem scalar_py (s : String) : s.py.Scalar := by
  intro c hc
  obtain ⟨ch, -, rfl⟩ := List.mem_map.mp hc
  exact isSurrogate_codePoint ch

end PyStr

/-- A text without lone surrogates, such as one decoded from UTF-8. -/
abbrev ScalarText := {s : PyStr // s.Scalar}

namespace PyStr

open CodePoint

/-! ### Stripping and splitting -/

/-- `s.strip()` -/
def strip (s : PyStr) : PyStr := (s.dropWhile isSpace).rdropWhile isSpace

theorem strip_sublist (s : PyStr) : (strip s).Sublist s :=
  ((List.rdropWhile_prefix isSpace _).sublist).trans (List.dropWhile_suffix isSpace).sublist

theorem Scalar.strip {s : PyStr} (h : s.Scalar) : (PyStr.strip s).Scalar :=
  h.sublist (strip_sublist s)

/-- A first character that is no space survives stripping on the right. -/
theorem dropWhile_rdropWhile {α : Type} (p : α → Bool) (s : List α) :
    ((s.dropWhile p).rdropWhile p).dropWhile p = (s.dropWhile p).rdropWhile p := by
  obtain ⟨t, ht⟩ := List.rdropWhile_prefix p (s.dropWhile p)
  cases hu : (s.dropWhile p).rdropWhile p with
  | nil => rfl
  | cons c u =>
    have hhead := List.head?_dropWhile_not p s
    rw [← ht, hu] at hhead
    have hc : p c = false := by simpa using hhead
    rw [List.dropWhile_cons, hc]
    rfl

@[simp] theorem strip_strip (s : PyStr) : strip (strip s) = strip s := by
  unfold strip
  rw [dropWhile_rdropWhile, List.rdropWhile_idempotent]

/-- `s.partition(c)`, without its middle part, and `s.split(c, 1)` when `c`
    occurs in `s`. -/
def partition (c : CodePoint) (s : PyStr) : PyStr × PyStr :=
  (s.takeWhile (· ≠ c), (s.dropWhile (· ≠ c)).drop 1)

/-- The words of `s.split()`, with the word being read in front of the rest. -/
def splitFrom (word : PyStr) : PyStr → List PyStr
  | [] => if word = [] then [] else [word]
  | c :: s =>
    if c.isSpace then (if word = [] then splitFrom [] s else word :: splitFrom [] s)
    else splitFrom (word ++ [c]) s

/-- `s.split()` -/
def split (s : PyStr) : List PyStr := splitFrom [] s

theorem Scalar.splitFrom {word s : PyStr} (hw : word.Scalar) (hs : s.Scalar) :
    ∀ w ∈ splitFrom word s, Scalar w := by
  induction s generalizing word with
  | nil => unfold PyStr.splitFrom; split <;> simp [hw]
  | cons c s ih =>
    obtain ⟨hc, hs⟩ := scalar_cons.mp hs
    have hc' : Scalar [c] := scalar_cons.mpr ⟨hc, scalar_nil⟩
    unfold PyStr.splitFrom
    split_ifs
    · exact ih scalar_nil hs
    · exact List.forall_mem_cons.mpr ⟨hw, ih scalar_nil hs⟩
    · exact ih (scalar_append.mpr ⟨hw, hc'⟩) hs

theorem Scalar.split {s : PyStr} (hs : s.Scalar) : ∀ w ∈ PyStr.split s, Scalar w :=
  Scalar.splitFrom scalar_nil hs

/-- The boundaries of `str.splitlines`. -/
def isLineBreak (c : CodePoint) : Bool :=
  (0x0A ≤ c.val && c.val ≤ 0x0D) || (0x1C ≤ c.val && c.val ≤ 0x1E) ||
  [0x85, 0x2028, 0x2029].contains c.val

/-- The lines of `s.splitlines()`, with the line being read in front of the
    rest; `cr` says that a carriage return has just ended a line. -/
def splitlinesFrom (line : PyStr) (cr : Bool) : PyStr → List PyStr
  | [] => if line = [] then [] else [line]
  | c :: s =>
    if cr ∧ c.val = 0x0A then splitlinesFrom [] false s
    else if isLineBreak c then line :: splitlinesFrom [] (c.val = 0x0D) s
    else splitlinesFrom (line ++ [c]) false s

/-- `s.splitlines()` -/
def splitlines (s : PyStr) : List PyStr := splitlinesFrom [] false s

/-- `sep.join(parts)` -/
def join (sep : PyStr) : List PyStr → PyStr
  | [] => []
  | [p] => p
  | p :: ps => p ++ sep ++ join sep ps

theorem scalar_join {sep : PyStr} (hsep : sep.Scalar) (ps : List PyStr) :
    (join sep ps).Scalar ↔ ∀ p ∈ ps, Scalar p := by
  induction ps with
  | nil => simp [join]
  | cons p ps ih =>
    cases ps with
    | nil => simp [join]
    | cons q ps => simp only [join, scalar_append, hsep, ih, and_true, List.forall_mem_cons]

/-- `s.strip(c)` for one character -/
def stripChar (c : CodePoint) (s : PyStr) : PyStr :=
  (s.dropWhile (· = c)).rdropWhile (· = c)

/-- `sub in s` -/
def includes (s sub : PyStr) : Bool := s.tails.any sub.isPrefixOf

/-- `s.isascii()` -/
def isAscii (s : PyStr) : Bool := s.all fun c => c.val < 0x80

/-- `s.startswith(p)` -/
def startsWith (s p : PyStr) : Bool := p.isPrefixOf s

/-- `s.endswith(p)` -/
def endsWith (s p : PyStr) : Bool := p.isSuffixOf s

/-- `s.removeprefix(p)` -/
def removePrefix (s p : PyStr) : PyStr := if s.startsWith p then s.drop p.length else s

/-- `s.removesuffix(p)` -/
def removeSuffix (s p : PyStr) : PyStr :=
  if s.endsWith p then s.take (s.length - p.length) else s

theorem removePrefix_sublist (s p : PyStr) : (s.removePrefix p).Sublist s := by
  unfold removePrefix
  split
  · exact List.drop_sublist _ _
  · exact List.Sublist.refl _

theorem removeSuffix_sublist (s p : PyStr) : (s.removeSuffix p).Sublist s := by
  unfold removeSuffix
  split
  · exact List.take_sublist _ _
  · exact List.Sublist.refl _

/-! ### `int(s)` -/

/-- The decimal value of a list of digits. -/
def digitsVal (ds : List Nat) : Nat := ds.foldl (fun n d => 10 * n + d) 0

/-- Digits with single underscores between them; `none` when the text is not
    of this form.  `gap` says that an underscore may stand here. -/
def intDigits (gap : Bool) : PyStr → Option (List Nat)
  | [] => if gap then some [] else none
  | c :: s =>
    match c.digit? with
    | some d => (intDigits true s).map (d :: ·)
    | none => if gap && c.val == 0x5F then intDigits false s else none

/-- What `int` reads a string as: a non-ASCII space as a space and a
    non-ASCII decimal digit as its value.  Any other non-ASCII character
    ends the conversion with an error, as the `?` put in its place does. -/
def asciiDigits (s : PyStr) : PyStr :=
  if s.isAscii then s
  else s.map fun c =>
    if c.val < 0x7F then c
    else if c.isSpace then 0x20
    else match c.decimal? with
      | some d => Fin.ofNat 0x110000 (0x30 + d)
      | none => 0x3F

/-- The whitespace of C, which `int` skips around the digits. -/
def isCSpace (c : CodePoint) : Bool := (9 ≤ c.val && c.val ≤ 13) || c.val == 0x20

/-- The digits of an optionally signed number. -/
def signedDigits : PyStr → Option (Bool × List Nat)
  | [] => none
  | c :: s =>
    if c.val = 0x2B then (intDigits false s).map (false, ·)
    else if c.val = 0x2D then (intDigits false s).map (true, ·)
    else (intDigits false (c :: s)).map (false, ·)

/-- `int(s)`; `none` when it raises `ValueError`, for a text that is no
    integer literal or has more than `limit` digits
    (`sys.get_int_max_str_digits()`). -/
def toInt (limit : Nat) (s : PyStr) : Option Int :=
  match signedDigits (((asciiDigits s).dropWhile isCSpace).rdropWhile isCSpace) with
  | none => none
  | some (neg, ds) =>
    if limit < ds.length then none
    else some (if neg then -(digitsVal ds : Int) else digitsVal ds)

example : toInt 4300 " -1_0 ".py = some (-10) := by decide
example : toInt 4300 "\u2000\u0663".py = some 3 := by decide
example : toInt 4300 "1__0".py = none := by decide

/-! ### Lines with their ends -/

section lines

variable {α : Type} [BEq α] [LawfulBEq α] {x : α}

/-- A text that splits into one piece does not hold the separator. -/
theorem not_mem_of_length_splitOn {l : List α} (h : (l.splitOn x).length = 1) : x ∉ l := by
  intro hx
  obtain ⟨s, t, hl⟩ := List.append_of_mem hx
  rw [hl, List.splitOn_append_cons_self, List.length_append] at h
  have hs := List.length_pos_of_ne_nil (List.splitOn_ne_nil x s)
  have ht := List.length_pos_of_ne_nil (List.splitOn_ne_nil x t)
  omega

omit [LawfulBEq α] in
/-- Every line has at least one piece. -/
theorem length_le_pieces (ls : List (List α)) :
    ls.length ≤ ((ls.map fun l => l.splitOn x).flatten).length := by
  induction ls with
  | nil => exact Nat.le_refl 0
  | cons l ls ih =>
    have hl := List.length_pos_of_ne_nil (List.splitOn_ne_nil x l)
    simp only [List.map_cons, List.flatten_cons, List.length_append, List.length_cons]
    omega

/-- Lines that are all ended by `x` split into themselves exactly when none of
    them holds an `x` of its own. -/
theorem splitOn_lines_iff (ls : List (List α)) :
    ((ls.map (· ++ [x])).flatten).splitOn x = ls ++ [[]] ↔ ∀ l ∈ ls, x ∉ l := by
  have hpieces : ∀ ls : List (List α), ((ls.map (· ++ [x])).flatten).splitOn x =
      (ls.map fun l => l.splitOn x).flatten ++ [[]] := by
    intro ls
    induction ls with
    | nil => exact List.splitOn_nil x
    | cons l ls ih =>
      simp only [List.map_cons, List.flatten_cons, List.append_assoc, List.singleton_append,
        List.splitOn_append_cons_self, ih]
  rw [hpieces, List.append_left_inj]
  constructor
  · intro h
    induction ls with
    | nil => exact List.forall_mem_nil _
    | cons l ls ih =>
      have hlength := congrArg List.length h
      have hrest := length_le_pieces (x := x) ls
      have hl := List.length_pos_of_ne_nil (List.splitOn_ne_nil x l)
      simp only [List.map_cons, List.flatten_cons, List.length_append, List.length_cons] at hlength
      have hone : (l.splitOn x).length = 1 := by omega
      have hfree := not_mem_of_length_splitOn hone
      rw [List.map_cons, List.flatten_cons, List.splitOn_eq_singleton hfree] at h
      exact List.forall_mem_cons.mpr ⟨hfree, ih (List.cons.inj h).2⟩
  · intro h
    induction ls with
    | nil => rfl
    | cons l ls ih =>
      obtain ⟨hl, hls⟩ := List.forall_mem_cons.mp h
      rw [List.map_cons, List.flatten_cons, List.splitOn_eq_singleton hl, ih hls]
      rfl

end lines

end PyStr

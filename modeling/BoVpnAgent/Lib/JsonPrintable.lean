import BoVpnAgent.Lib.JsonRoundTrip

/-! # The text of a JSON value has no control characters

    Whatever is in the strings of a tree, `json.dumps` escapes it, so that its
    text survives a text file, which translates the ends of lines.  With ASCII
    escapes it also survives every encoding.  Floats are left out, whose text
    is that of the interpreter.
-/

namespace PyStr

/-- No control character and, with `ascii`, nothing beyond ASCII. -/
def Printable (ascii : Bool) (s : PyStr) : Prop :=
  ∀ c ∈ s, 0x20 ≤ c.val ∧ (ascii = true → c.val < 0x7F)

instance (ascii : Bool) (s : PyStr) : Decidable (Printable ascii s) := List.decidableBAll _ s

variable {ascii : Bool} {s t : PyStr}

theorem printable_append :
    Printable ascii (s ++ t) ↔ Printable ascii s ∧ Printable ascii t :=
  List.forall_mem_append

theorem printable_join {sep : PyStr} (hsep : Printable ascii sep) {ps : List PyStr}
    (h : ∀ p ∈ ps, Printable ascii p) : Printable ascii (join sep ps) := by
  induction ps with
  | nil => exact fun c hc => nomatch hc
  | cons p ps ih =>
    obtain ⟨hp, hps⟩ := List.forall_mem_cons.mp h
    cases ps with
    | nil => exact hp
    | cons q qs => exact printable_append.mpr ⟨printable_append.mpr ⟨hp, hsep⟩, ih hps⟩

/-- ASCII text does not depend on the options. -/
theorem Printable.of_ascii (h : Printable true s) : Printable ascii s :=
  fun c hc => ⟨(h c hc).1, fun _ => (h c hc).2 rfl⟩

theorem Printable.scalar (h : Printable true s) : s.Scalar := by
  intro c hc
  have hval := (h c hc).2 rfl
  simp only [CodePoint.isSurrogate, Bool.and_eq_false_iff, decide_eq_false_iff_not]
  omega

end PyStr

namespace Json

open PyStr (Printable printable_append printable_join)

/-! ### Leaves -/

theorem printable_unicodeEscape (n : Nat) : Printable true (unicodeEscape n) := by
  have hdigit : ∀ n, n < 16 → 0x20 ≤ (hexDigit n).val ∧ (hexDigit n).val < 0x7F := by decide
  intro c hc
  simp only [unicodeEscape, List.mem_cons, List.not_mem_nil, or_false] at hc
  obtain rfl | rfl | rfl | rfl | rfl | rfl := hc
  · decide
  · decide
  all_goals exact (hdigit _ (by omega)).imp_right fun h _ => h

theorem printable_escapeChar (ascii : Bool) (c : CodePoint) :
    Printable ascii (escapeChar ascii c) := by
  unfold escapeChar
  split_ifs with h₁ h₂ h₃ h₄ h₅ h₆ h₇ h₈ h₉ h₁₀
  -- the two-letter escapes
  · exact PyStr.Printable.of_ascii (by decide)
  · exact PyStr.Printable.of_ascii (by decide)
  · exact PyStr.Printable.of_ascii (by decide)
  · exact PyStr.Printable.of_ascii (by decide)
  · exact PyStr.Printable.of_ascii (by decide)
  · exact PyStr.Printable.of_ascii (by decide)
  · exact PyStr.Printable.of_ascii (by decide)
  · exact (printable_unicodeEscape _).of_ascii
  · exact (printable_unicodeEscape _).of_ascii
  · exact (printable_append.mpr ⟨printable_unicodeEscape _, printable_unicodeEscape _⟩).of_ascii
  -- the character itself
  · intro c' hc'
    rw [List.mem_singleton.mp hc']
    exact ⟨by omega, fun hascii => not_le.mp fun hle => h₉ ⟨hascii, hle⟩⟩

theorem printable_escape (ascii : Bool) (s : PyStr) : Printable ascii (escape ascii s) := by
  have hquote : Printable true [0x22] := by decide
  refine printable_append.mpr ⟨printable_append.mpr ⟨hquote.of_ascii, ?_⟩, hquote.of_ascii⟩
  intro c hc
  obtain ⟨c', -, hc'⟩ := List.mem_flatMap.mp hc
  exact printable_escapeChar ascii c' c hc'

theorem printable_intRepr (n : Int) : Printable true (intRepr n) := by
  have hchar : ∀ d, d < 10 →
      0x20 ≤ (Decimal.digitChar d).val ∧ (Decimal.digitChar d).val < 0x7F := by decide
  have hdigits : Printable true ((Nat.toDigits 10 n.natAbs).map Char.codePoint) := by
    intro c hc
    rw [Decimal.toDigits_eq_digits] at hc
    obtain ⟨d, hd, rfl⟩ := List.mem_map.mp hc
    exact (hchar d (Decimal.digits_lt hd)).imp_right fun h _ => h
  unfold intRepr
  split
  · exact printable_append.mpr ⟨by decide, hdigits⟩
  · exact printable_append.mpr ⟨by decide, hdigits⟩

/-! ### Trees -/

section render

variable {I : Interp} {o : DumpOptions} {O : Fields → Prop}
  (hitem : Printable true o.item_separator.py) (hkey : Printable true o.key_separator.py)
include hitem hkey

mutual

/-- The text of a tree without floats has no control character, and with ASCII
    escapes is ASCII. -/
theorem printable_render : ∀ j : Json, j.Nodes (fun _ => False) O →
    Printable o.ensure_ascii (render I o j)
  | .null, _ => (by decide : Printable true "null".py).of_ascii
  | .bool true, _ => (by decide : Printable true "true".py).of_ascii
  | .bool false, _ => (by decide : Printable true "false".py).of_ascii
  | .int n, _ => (printable_intRepr n).of_ascii
  | .str s, _ => printable_escape o.ensure_ascii s
  | .arr xs, h => by
    have hopen : Printable true [0x5B] := by decide
    have hclose : Printable true [0x5D] := by decide
    rw [render, printable_append, printable_append]
    exact ⟨⟨hopen.of_ascii, printable_join hitem.of_ascii (printable_renderList xs h)⟩,
      hclose.of_ascii⟩
  | .obj fields, h => by
    have hopen : Printable true [0x7B] := by decide
    have hclose : Printable true [0x7D] := by decide
    have hfields := printable_renderFields fields h.2
    rw [render, printable_append, printable_append]
    refine ⟨⟨hopen.of_ascii, printable_join hitem.of_ascii ?_⟩, hclose.of_ascii⟩
    intro p hp
    obtain ⟨e, he, rfl⟩ := List.mem_map.mp hp
    rw [printable_append, printable_append]
    exact ⟨⟨printable_escape o.ensure_ascii e.1, hkey.of_ascii⟩, hfields e (mem_order.mp he)⟩

theorem printable_renderList : ∀ xs : List Json, NodesList (fun _ => False) O xs →
    ∀ p ∈ renderList I o xs, Printable o.ensure_ascii p
  | [], _ => List.forall_mem_nil _
  | x :: xs, h =>
    List.forall_mem_cons.mpr ⟨printable_render x h.1, printable_renderList xs h.2⟩

theorem printable_renderFields : ∀ fields : List (PyStr × Json),
    NodesFields (fun _ => False) O fields →
    ∀ e ∈ renderFields I o fields, Printable o.ensure_ascii e.2
  | [], _ => List.forall_mem_nil _
  | (_, x) :: fields, h =>
    List.forall_mem_cons.mpr ⟨printable_render x h.1, printable_renderFields fields h.2⟩

end

end render

end Json

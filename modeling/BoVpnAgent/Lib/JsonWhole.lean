import BoVpnAgent.Lib.JsonRoundTrip
import Mathlib.Data.List.Sort

/-! # The text of a JSON value ends by itself

    The text of a value ends where a scan that counts brackets and skips
    strings meets a comma or a closing bracket (`cut`), so that values which
    were written one behind the other can be told apart (`Whole.unique`).

    - `join_unique` : a list of such texts between commas determines the texts
    - `whole_render` : the compact text of every tree is of this kind
-/

namespace Json

/-! ### Scanning over a text -/

/-- Outside of strings, inside of one, or behind a backslash there. -/
inductive Mode where
  | outside
  | inString
  | escaped

/-- One character, with `depth` brackets open; `none` where the text at depth
    zero has an end. -/
def scanNext (depth : Nat) : Mode → CodePoint → Option (Nat × Mode)
  | .outside, c =>
    if c.val = 0x22 then some (depth, .inString)
    else if c.val = 0x5B ∨ c.val = 0x7B then some (depth + 1, .outside)
    else if c.val = 0x5D ∨ c.val = 0x7D then
      if depth = 0 then none else some (depth - 1, .outside)
    else if c.val = 0x2C ∧ depth = 0 then none
    else some (depth, .outside)
  | .inString, c =>
    if c.val = 0x22 then some (depth, .outside)
    else if c.val = 0x5C then some (depth, .escaped)
    else some (depth, .inString)
  | .escaped, _ => some (depth, .inString)

/-- A whole text. -/
def scanOver : Nat × Mode → PyStr → Option (Nat × Mode)
  | s, [] => some s
  | s, c :: w => (scanNext s.1 s.2 c).bind fun s' => scanOver s' w

/-- The text up to where the scan ends, and the rest. -/
def cut : Nat × Mode → PyStr → PyStr × PyStr
  | _, [] => ([], [])
  | s, c :: w =>
    match scanNext s.1 s.2 c with
    | none => ([], c :: w)
    | some s' => (c :: (cut s' w).1, (cut s' w).2)

theorem scanOver_cons (s : Nat × Mode) (c : CodePoint) (w : PyStr) :
    scanOver s (c :: w) = (scanNext s.1 s.2 c).bind fun s' => scanOver s' w := rfl

theorem scanOver_append (s : Nat × Mode) (w t : PyStr) :
    scanOver s (w ++ t) = (scanOver s w).bind fun s' => scanOver s' t := by
  induction w generalizing s with
  | nil => rfl
  | cons c w ih =>
    rw [List.cons_append, scanOver_cons, scanOver_cons]
    cases scanNext s.1 s.2 c with
    | none => rfl
    | some s' => exact ih s'

theorem cut_end {s : Nat × Mode} {c : CodePoint} (h : scanNext s.1 s.2 c = none) (w : PyStr) :
    cut s (c :: w) = ([], c :: w) := by
  unfold cut
  simp only [h]

theorem cut_cons {s s' : Nat × Mode} {c : CodePoint} (h : scanNext s.1 s.2 c = some s')
    (w : PyStr) : cut s (c :: w) = (c :: (cut s' w).1, (cut s' w).2) := by
  rw [cut]
  simp only [h]

theorem cut_append {s s' : Nat × Mode} {w : PyStr} (h : scanOver s w = some s') (t : PyStr) :
    cut s (w ++ t) = (w ++ (cut s' t).1, (cut s' t).2) := by
  induction w generalizing s with
  | nil =>
    cases h
    rfl
  | cons c w ih =>
    rw [scanOver_cons] at h
    cases hnext : scanNext s.1 s.2 c with
    | none =>
      rw [hnext] at h
      cases h
    | some s₁ =>
      rw [hnext] at h
      rw [List.cons_append, cut_cons hnext, ih h]
      rfl

/-- The text of one value: a scan comes through it and has no more brackets
    open than before. -/
structure Whole (w : PyStr) : Prop where
  ne_nil : w ≠ []
  balanced : ∀ depth, scanOver (depth, .outside) w = some (depth, .outside)

/-- Nothing follows, or a comma or a closing bracket. -/
def Delimited (t : PyStr) : Prop :=
  ∀ c ∈ t.head?, c.val = 0x2C ∨ c.val = 0x5D ∨ c.val = 0x7D

theorem delimited_cons {c : CodePoint} (hc : c.val = 0x2C ∨ c.val = 0x5D ∨ c.val = 0x7D)
    (t : PyStr) : Delimited (c :: t) := by
  intro c' hc'
  rw [← Option.some.inj hc']
  exact hc

/-- A delimiter at depth zero ends the scan. -/
theorem scanNext_delimiter {c : CodePoint} (hc : c.val = 0x2C ∨ c.val = 0x5D ∨ c.val = 0x7D) :
    scanNext 0 .outside c = none := by
  have hquote : ¬c.val = 0x22 := by omega
  have hopen : ¬(c.val = 0x5B ∨ c.val = 0x7B) := by omega
  show (if c.val = 0x22 then _ else _) = none
  rw [if_neg hquote, if_neg hopen]
  by_cases hclose : c.val = 0x5D ∨ c.val = 0x7D
  · rw [if_pos hclose]
    rfl
  · rw [if_neg hclose, if_pos ⟨by omega, rfl⟩]

theorem cut_delimited {t : PyStr} (ht : Delimited t) : cut (0, .outside) t = ([], t) := by
  cases t with
  | nil => rfl
  | cons c t => exact cut_end (scanNext_delimiter (ht c rfl)) t

/-- Values that are followed by delimiters can be told apart. -/
theorem Whole.unique {w w' t t' : PyStr} (hw : Whole w) (hw' : Whole w') (ht : Delimited t)
    (ht' : Delimited t') (h : w ++ t = w' ++ t') : w = w' ∧ t = t' := by
  have hcut := cut_append (hw.balanced 0) t
  have hcut' := cut_append (hw'.balanced 0) t'
  rw [cut_delimited ht, List.append_nil] at hcut
  rw [cut_delimited ht', List.append_nil] at hcut'
  rw [h, hcut'] at hcut
  exact ⟨(Prod.mk.inj hcut).1.symm, (Prod.mk.inj hcut).2.symm⟩

/-- A value does not begin with a delimiter. -/
theorem Whole.not_delimited {w t : PyStr} (hw : Whole w) : ¬Delimited (w ++ t) := by
  obtain ⟨c, w', hcons⟩ := List.exists_cons_of_ne_nil hw.ne_nil
  intro h
  have hc := h c (by rw [hcons]; rfl)
  have hscan := hw.balanced 0
  rw [hcons, scanOver_cons, scanNext_delimiter hc] at hscan
  cases hscan

/-! ### Texts of values -/

section texts

variable (b : Bool) (depth : Nat)

theorem scanNext_inString {c : CodePoint} (hquote : c.val ≠ 0x22) (hslash : c.val ≠ 0x5C) :
    scanNext depth .inString c = some (depth, .inString) := by
  show (if c.val = 0x22 then _ else _) = _
  rw [if_neg hquote, if_neg hslash]

theorem scanOver_unicodeEscape (n : Nat) :
    scanOver (depth, .inString) (unicodeEscape n) = some (depth, .inString) := by
  have hhex : ∀ n < 16, (hexDigit n).val ≠ 0x22 ∧ (hexDigit n).val ≠ 0x5C := by decide
  have hdigit : ∀ m, scanNext depth .inString (hexDigit (m % 16)) = some (depth, .inString) := by
    intro m
    obtain ⟨hquote, hslash⟩ := hhex (m % 16) (Nat.mod_lt _ (by decide))
    exact scanNext_inString depth hquote hslash
  have hslash : scanNext depth .inString 0x5C = some (depth, .escaped) := rfl
  have hu : scanNext depth .escaped 0x75 = some (depth, .inString) := rfl
  unfold unicodeEscape
  rw [scanOver_cons, hslash, Option.bind_some, scanOver_cons, hu, Option.bind_some, scanOver_cons,
    hdigit, Option.bind_some, scanOver_cons, hdigit, Option.bind_some, scanOver_cons, hdigit,
    Option.bind_some, scanOver_cons, hdigit]
  rfl

/-- A letter behind a backslash. -/
theorem scanOver_simpleEscape (e : CodePoint) :
    scanOver (depth, .inString) [0x5C, e] = some (depth, .inString) := by
  have hslash : scanNext depth .inString 0x5C = some (depth, .escaped) := rfl
  rw [scanOver_cons, hslash]
  rfl

/-- One character of a string. -/
theorem scanOver_escapeChar (c : CodePoint) :
    scanOver (depth, .inString) (escapeChar b c) = some (depth, .inString) := by
  unfold escapeChar
  split_ifs with hquote hslash
  · exact scanOver_simpleEscape depth 0x22
  · exact scanOver_simpleEscape depth 0x5C
  · exact scanOver_simpleEscape depth 0x6E
  · exact scanOver_simpleEscape depth 0x72
  · exact scanOver_simpleEscape depth 0x74
  · exact scanOver_simpleEscape depth 0x66
  · exact scanOver_simpleEscape depth 0x62
  · exact scanOver_unicodeEscape depth _
  · exact scanOver_unicodeEscape depth _
  · rw [scanOver_append, scanOver_unicodeEscape, Option.bind_some, scanOver_unicodeEscape]
  · rw [scanOver_cons, scanNext_inString depth hquote hslash]
    rfl

/-- A string. -/
theorem scanOver_escape (s : PyStr) :
    scanOver (depth, .outside) (escape b s) = some (depth, .outside) := by
  have hbody : scanOver (depth, .inString) (s.flatMap (escapeChar b)) = some (depth, .inString) := by
    induction s with
    | nil => rfl
    | cons c s ih =>
      rw [List.flatMap_cons, scanOver_append, scanOver_escapeChar]
      exact ih
  unfold escape
  rw [List.append_assoc, List.singleton_append, scanOver_cons]
  show scanOver (depth, .inString) (s.flatMap (escapeChar b) ++ [0x22]) = _
  rw [scanOver_append, hbody]
  rfl

/-- Characters that mean something to the scan outside of strings. -/
def Structural (c : CodePoint) : Prop :=
  c.val = 0x22 ∨ c.val = 0x2C ∨ c.val = 0x5B ∨ c.val = 0x5D ∨ c.val = 0x7B ∨ c.val = 0x7D

instance (c : CodePoint) : Decidable (Structural c) := inferInstanceAs (Decidable (_ ∨ _))

theorem scanNext_plain {c : CodePoint} (hc : ¬Structural c) :
    scanNext depth .outside c = some (depth, .outside) := by
  unfold Structural at hc
  have hquote : ¬c.val = 0x22 := by omega
  have hopen : ¬(c.val = 0x5B ∨ c.val = 0x7B) := by omega
  have hclose : ¬(c.val = 0x5D ∨ c.val = 0x7D) := by omega
  have hcomma : ¬(c.val = 0x2C ∧ depth = 0) := by omega
  show (if c.val = 0x22 then _ else _) = _
  rw [if_neg hquote, if_neg hopen, if_neg hclose, if_neg hcomma]

/-- A text without such characters. -/
theorem scanOver_plain {w : PyStr} (hw : ∀ c ∈ w, ¬Structural c) :
    scanOver (depth, .outside) w = some (depth, .outside) := by
  induction w with
  | nil => rfl
  | cons c w ih =>
    rw [scanOver_cons, scanNext_plain depth (hw c List.mem_cons_self)]
    exact ih fun c hc => hw c (List.mem_cons_of_mem _ hc)

theorem whole_escape (s : PyStr) : Whole (escape b s) :=
  ⟨by unfold escape; simp, fun depth => scanOver_escape b depth s⟩

/-- Values with commas between them, inside of brackets. -/
theorem scanOver_join {ps : List PyStr} (hps : ∀ p ∈ ps, Whole p) :
    scanOver (depth + 1, .outside) (PyStr.join [0x2C] ps) = some (depth + 1, .outside) := by
  induction ps with
  | nil => rfl
  | cons p ps ih =>
    have hp := (hps p List.mem_cons_self).balanced (depth + 1)
    have hrest := ih fun q hq => hps q (List.mem_cons_of_mem _ hq)
    cases ps with
    | nil => exact hp
    | cons q ps =>
      rw [join_cons_cons, List.append_assoc, scanOver_append, hp]
      exact hrest

/-- Values in brackets. -/
theorem whole_brackets {opening closing : CodePoint}
    (hbrackets : opening.val = 0x5B ∧ closing.val = 0x5D ∨ opening.val = 0x7B ∧ closing.val = 0x7D)
    {ps : List PyStr} (hps : ∀ p ∈ ps, Whole p) :
    Whole ([opening] ++ PyStr.join [0x2C] ps ++ [closing]) := by
  refine ⟨by simp, fun depth => ?_⟩
  have hopen : scanNext depth .outside opening = some (depth + 1, .outside) := by
    show (if opening.val = 0x22 then _ else _) = _
    rw [if_neg (by omega), if_pos (by omega)]
  have hclose : scanNext (depth + 1) .outside closing = some (depth, .outside) := by
    show (if closing.val = 0x22 then _ else _) = _
    rw [if_neg (by omega), if_neg (by omega), if_pos (by omega), if_neg (by omega)]
    rfl
  rw [List.append_assoc, List.singleton_append, scanOver_cons, hopen]
  show scanOver (depth + 1, .outside) (PyStr.join [0x2C] ps ++ [closing]) = _
  rw [scanOver_append, scanOver_join depth hps]
  show (scanNext (depth + 1) .outside closing).bind _ = _
  rw [hclose]
  rfl

/-- What follows the first of the values between commas. -/
def joinTail : List PyStr → PyStr
  | [] => []
  | q :: qs => 0x2C :: PyStr.join [0x2C] (q :: qs)

theorem join_cons (p : PyStr) (ps : List PyStr) :
    PyStr.join [0x2C] (p :: ps) = p ++ joinTail ps := by
  cases ps with
  | nil => exact (List.append_nil p).symm
  | cons q ps => rw [join_cons_cons, List.append_assoc]; rfl

theorem delimited_joinTail {c : CodePoint} (hc : c.val = 0x5D ∨ c.val = 0x7D) (ps : List PyStr) :
    Delimited (joinTail ps ++ [c]) := by
  cases ps with
  | nil => exact delimited_cons (by omega) []
  | cons p ps => exact delimited_cons (.inl rfl) _

/-- Values between commas, up to a closing bracket, can be told apart. -/
theorem join_unique {ps qs : List PyStr} (hps : ∀ p ∈ ps, Whole p) (hqs : ∀ q ∈ qs, Whole q)
    {c : CodePoint} (hc : c.val = 0x5D ∨ c.val = 0x7D)
    (h : PyStr.join [0x2C] ps ++ [c] = PyStr.join [0x2C] qs ++ [c]) : ps = qs := by
  have hend : Delimited [c] := delimited_cons (by omega) []
  induction ps generalizing qs with
  | nil =>
    cases qs with
    | nil => rfl
    | cons q qs =>
      rw [join_cons, List.append_assoc] at h
      have hstart : Delimited (q ++ (joinTail qs ++ [c])) := h ▸ hend
      exact absurd hstart (hqs q List.mem_cons_self).not_delimited
  | cons p ps ih =>
    have hp := hps p List.mem_cons_self
    rw [join_cons, List.append_assoc] at h
    cases qs with
    | nil =>
      have hstart : Delimited (p ++ (joinTail ps ++ [c])) := h ▸ hend
      exact absurd hstart hp.not_delimited
    | cons q qs =>
      rw [join_cons, List.append_assoc] at h
      obtain ⟨hpq, htail⟩ := hp.unique (hqs q List.mem_cons_self) (delimited_joinTail hc ps)
        (delimited_joinTail hc qs) h
      -- both lists go on with a comma, or both end here
      have hrest : ps = qs := by
        cases ps with
        | nil =>
          cases qs with
          | nil => rfl
          | cons q' qs =>
            have hcomma := (List.cons.inj htail).1
            rw [hcomma] at hc
            exact absurd hc (by decide)
        | cons p' ps =>
          cases qs with
          | nil =>
            have hcomma := (List.cons.inj htail).1
            rw [← hcomma] at hc
            exact absurd hc (by decide)
          | cons q' qs =>
            exact ih (fun r hr => hps r (List.mem_cons_of_mem _ hr))
              (fun r hr => hqs r (List.mem_cons_of_mem _ hr)) (List.cons.inj htail).2
      rw [hpq, hrest]

end texts

/-! ### The text of a tree -/

section render

variable (I : Interp) {o : DumpOptions}

/-- The texts of floats need no quoting. -/
def NumbersUnquoted : Prop := ∀ x, ∀ c ∈ (I.float_repr x).py, ¬Structural c

/-- No space is written between the parts. -/
structure DumpOptions.Compact (o : DumpOptions) : Prop where
  item : o.item_separator.py = [0x2C]
  key : o.key_separator.py = [0x3A]

/-- The text of a value that is neither a string nor a container. -/
def leafText : Json → Option PyStr
  | null => some "null".py
  | bool b => some (if b then "true".py else "false".py)
  | int n => some (intRepr n)
  | float x => some (floatText I x)
  | _ => none

variable {I}

theorem render_leaf {j : Json} {t : PyStr} (h : leafText I j = some t) : render I o j = t := by
  cases j with
  | str s => cases h
  | arr xs => cases h
  | obj fields => cases h
  | _ => exact Option.some.inj h

/-- A fixed text is checked by running over it. -/
theorem plain_of_all {t : PyStr} (h : (t.all fun c => !decide (Structural c)) = true) :
    ∀ c ∈ t, ¬Structural c := by
  intro c hc
  have hplain := List.all_eq_true.mp h c hc
  rw [Bool.not_eq_true', decide_eq_false_iff_not] at hplain
  exact hplain

/-- The fixed texts of leaves. -/
theorem literal_plain : ∀ t ∈ ["null".py, "true".py, "false".py, "NaN".py, "Infinity".py,
    "-Infinity".py], t ≠ [] ∧ ∀ c ∈ t, ¬Structural c := by
  have hliteral : ∀ t : PyStr, t.isEmpty = false → (t.all fun c => !decide (Structural c)) = true →
      t ≠ [] ∧ ∀ c ∈ t, ¬Structural c := by
    intro t hne hall
    exact ⟨List.isEmpty_eq_false_iff.mp hne, plain_of_all hall⟩
  simp only [List.forall_mem_cons]
  exact ⟨hliteral _ rfl rfl, hliteral _ rfl rfl, hliteral _ rfl rfl, hliteral _ rfl rfl,
    hliteral _ rfl rfl, hliteral _ rfl rfl, List.forall_mem_nil _⟩

/-- The text of a leaf. -/
theorem leaf_plain (hnumbers : NumbersUnquoted I) {j : Json} {t : PyStr}
    (h : leafText I j = some t) : t ≠ [] ∧ ∀ c ∈ t, ¬Structural c := by
  cases j with
  | null =>
    cases h
    exact literal_plain _ (by simp)
  | bool b =>
    cases h
    cases b with
    | true => exact literal_plain _ (by simp)
    | false => exact literal_plain _ (by simp)
  | int n =>
    cases h
    refine ⟨Decimal.intRepr_ne_nil n, fun c hc => ?_⟩
    have hval := Decimal.val_of_mem_intRepr hc
    unfold Structural
    omega
  | float x =>
    cases h
    cases x with
    | nan => exact literal_plain "NaN".py (by simp)
    | inf neg =>
      cases neg with
      | true => exact literal_plain "-Infinity".py (by simp)
      | false => exact literal_plain "Infinity".py (by simp)
    | fin neg m e =>
      refine ⟨?_, hnumbers _⟩
      intro hnil
      exact I.float_repr_ne (.fin neg m e) (by
        have hlength := congrArg List.length hnil
        unfold floatText String.py at hlength
        rw [List.length_map, List.length_nil, List.length_eq_zero_iff] at hlength
        exact String.toList_eq_nil_iff.mp hlength)
  | str s => cases h
  | arr xs => cases h
  | obj fields => cases h

theorem whole_leaf (hnumbers : NumbersUnquoted I) {j : Json} {t : PyStr}
    (h : leafText I j = some t) : Whole (render I o j) := by
  obtain ⟨hne, hplain⟩ := leaf_plain hnumbers h
  rw [render_leaf h]
  exact ⟨hne, fun depth => scanOver_plain depth hplain⟩

/-- The text of a field. -/
theorem whole_member (ho : o.Compact) (k : PyStr) {w : PyStr} (hw : Whole w) :
    Whole (member o (k, w)) := by
  unfold member
  refine ⟨by unfold escape; simp, fun depth => ?_⟩
  have hcolon : scanNext depth .outside 0x3A = some (depth, .outside) :=
    scanNext_plain depth (by decide)
  rw [ho.key, List.append_assoc, scanOver_append, scanOver_escape, Option.bind_some,
    List.singleton_append, scanOver_cons, hcolon, Option.bind_some]
  exact hw.balanced depth

theorem order_perm (sort_keys : Bool) (fields : List (PyStr × PyStr)) :
    (order sort_keys fields).Perm fields := by
  unfold order
  split
  · exact List.perm_insertionSort _ _
  · exact List.Perm.refl _

theorem render_obj_eq (ho : o.Compact) (fields : Fields) :
    render I o (.obj fields) = [0x7B] ++
      PyStr.join [0x2C] ((order o.sort_keys (renderFields I o fields)).map (member o)) ++ [0x7D] := by
  rw [render, ho.item]
  rfl

theorem render_arr_eq (ho : o.Compact) (xs : List Json) :
    render I o (.arr xs) = [0x5B] ++ PyStr.join [0x2C] (renderList I o xs) ++ [0x5D] := by
  rw [render, ho.item]

mutual

/-- The text of a value is whole. -/
theorem whole_render (hnumbers : NumbersUnquoted I) (ho : o.Compact) :
    ∀ j : Json, Whole (render I o j)
  | .null => whole_leaf (j := .null) hnumbers rfl
  | .bool b => whole_leaf (j := .bool b) hnumbers rfl
  | .int n => whole_leaf (j := .int n) hnumbers rfl
  | .float x => whole_leaf (j := .float x) hnumbers rfl
  | .str s => whole_escape _ s
  | .arr xs => by
    rw [render_arr_eq ho]
    exact whole_brackets (.inl ⟨rfl, rfl⟩) (whole_renderList hnumbers ho xs)
  | .obj fields => by
    rw [render_obj_eq ho]
    refine whole_brackets (.inr ⟨rfl, rfl⟩) fun p hp => ?_
    obtain ⟨e, he, hmember⟩ := List.mem_map.mp hp
    rw [← hmember]
    exact whole_member ho e.1
      (whole_renderFields hnumbers ho fields e ((order_perm _ _).mem_iff.mp he))

theorem whole_renderList (hnumbers : NumbersUnquoted I) (ho : o.Compact) :
    ∀ xs : List Json, ∀ p ∈ renderList I o xs, Whole p
  | [] => List.forall_mem_nil _
  | x :: xs => List.forall_mem_cons.mpr
    ⟨whole_render hnumbers ho x, whole_renderList hnumbers ho xs⟩

theorem whole_renderFields (hnumbers : NumbersUnquoted I) (ho : o.Compact) :
    ∀ fields : List (PyStr × Json), ∀ e ∈ renderFields I o fields, Whole e.2
  | [] => List.forall_mem_nil _
  | (_, x) :: fields => List.forall_mem_cons.mpr
    ⟨whole_render hnumbers ho x, whole_renderFields hnumbers ho fields⟩

end

end render

end Json

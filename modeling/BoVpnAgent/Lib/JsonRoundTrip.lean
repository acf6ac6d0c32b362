import BoVpnAgent.Lib.Decimal
import BoVpnAgent.Lib.JsonLoads

/-! # JSON round trip

    What `json.dumps` writes, `json.loads` reads back.  The keys of an object
    must be distinct, as those of a dictionary are, and the text of a float
    must be one that the scanner reads as this float.

    This file shows, from the leaves up, that each scanner reads the text of
    a value and stops behind it, for strings, literals, numbers and trees.
-/

namespace Json

/-! ### Strings -/

theorem hexVal?_hexDigit {n : Nat} (hn : n < 16) : hexVal? (hexDigit n) = some n := by
  have h : ∀ n, n < 16 → hexVal? (hexDigit n) = some n := by decide
  exact h n hn

theorem hex4?_unicodeEscape {n : Nat} (hn : n < 0x10000) :
    hex4? (hexDigit (n / 4096 % 16)) (hexDigit (n / 256 % 16)) (hexDigit (n / 16 % 16))
      (hexDigit (n % 16)) = some n := by
  simp only [hex4?, hexVal?_hexDigit (Nat.mod_lt _ (show 0 < 16 by decide)), Option.bind_eq_bind,
    Option.bind_some, Option.pure_def, Option.some.injEq]
  omega

/-- An escape that is not the first half of a pair is one character. -/
theorem scanString_unicodeEscape {n : Nat} (hn : n < 0x10000) (hhi : ¬ (0xD800 ≤ n ∧ n ≤ 0xDBFF))
    (r : PyStr) :
    scanString (unicodeEscape n ++ r) =
      (scanString r).map fun p => (Fin.ofNat 0x110000 n :: p.1, p.2) := by
  have hnot : ∀ back u : CodePoint,
      ¬ (0xD800 ≤ n ∧ n ≤ 0xDBFF ∧ back.val = 0x5C ∧ u.val = 0x75) :=
    fun back u h => hhi ⟨h.1, h.2.1⟩
  unfold unicodeEscape
  rw [scanString.eq_def]
  simp only [List.cons_append, List.nil_append]
  rw [if_neg (by decide), if_pos (by decide), if_pos (by decide)]
  simp only [hex4?_unicodeEscape hn]
  split
  · rw [if_neg (hnot _ _)]
  · rfl

/-- Two escapes that are the halves of a pair are one character. -/
theorem scanString_pair {hi lo : Nat} (hhi : 0xD800 ≤ hi ∧ hi ≤ 0xDBFF)
    (hlo : 0xDC00 ≤ lo ∧ lo ≤ 0xDFFF) (r : PyStr) :
    scanString (unicodeEscape hi ++ (unicodeEscape lo ++ r)) =
      (scanString r).map fun p =>
        (Fin.ofNat 0x110000 (0x10000 + (hi - 0xD800) * 1024 + (lo - 0xDC00)) :: p.1, p.2) := by
  have hback : (0x5C : CodePoint).val = 0x5C ∧ (0x75 : CodePoint).val = 0x75 := ⟨rfl, rfl⟩
  unfold unicodeEscape
  rw [scanString.eq_def]
  simp only [List.cons_append, List.nil_append]
  rw [if_neg (by decide), if_pos (by decide), if_pos (by decide)]
  simp only [hex4?_unicodeEscape (show hi < 0x10000 by omega),
    hex4?_unicodeEscape (show lo < 0x10000 by omega)]
  rw [if_pos ⟨hhi.1, hhi.2, hback⟩, if_pos hlo]

/-- A letter behind a backslash. -/
theorem scanString_simpleEscape {e ch : CodePoint} (hu : e.val ≠ 0x75)
    (he : simpleEscape? e = some ch) (r : PyStr) :
    scanString (0x5C :: e :: r) = (scanString r).map fun p => (ch :: p.1, p.2) := by
  rw [scanString.eq_def]
  simp only
  rw [if_neg (by decide), if_pos (by decide), if_neg hu, he]

theorem scanString_escapeChar (ensure_ascii : Bool) {c : CodePoint} (hc : c.isSurrogate = false)
    (r : PyStr) :
    scanString (escapeChar ensure_ascii c ++ r) = (scanString r).map fun p => (c :: p.1, p.2) := by
  have hlt := c.isLt
  have hscalar : ¬ (0xD800 ≤ c.val ∧ c.val ≤ 0xDFFF) := by
    simpa [CodePoint.isSurrogate] using hc
  have hof : ∀ v : Nat, v = c.val → (Fin.ofNat 0x110000 v : CodePoint) = c := by
    rintro v rfl
    exact Fin.ext (Nat.mod_eq_of_lt c.isLt)
  have hcode : ∀ {n : Nat} (c' : CodePoint), c.val = n → c'.val = n → c' = c :=
    fun _ hn hn' => Fin.ext (hn'.trans hn.symm)
  unfold escapeChar
  split_ifs with h₁ h₂ h₃ h₄ h₅ h₆ h₇ h₈ h₉ h₁₀
  · exact scanString_simpleEscape (by decide) (by rw [← hcode 0x22 h₁ rfl]; rfl) r
  · exact scanString_simpleEscape (by decide) (by rw [← hcode 0x5C h₂ rfl]; rfl) r
  · exact scanString_simpleEscape (by decide) (by rw [← hcode 0x0A h₃ rfl]; rfl) r
  · exact scanString_simpleEscape (by decide) (by rw [← hcode 0x0D h₄ rfl]; rfl) r
  · exact scanString_simpleEscape (by decide) (by rw [← hcode 0x09 h₅ rfl]; rfl) r
  · exact scanString_simpleEscape (by decide) (by rw [← hcode 0x0C h₆ rfl]; rfl) r
  · exact scanString_simpleEscape (by decide) (by rw [← hcode 0x08 h₇ rfl]; rfl) r
  · rw [scanString_unicodeEscape (by omega) (by omega), hof c.val rfl]
  · rw [scanString_unicodeEscape (by omega) (by omega), hof c.val rfl]
  · rw [List.append_assoc, scanString_pair (by omega) (by omega), hof _ (by omega)]
  · rw [List.singleton_append, scanString.eq_def]
    simp only
    rw [if_neg h₁, if_neg h₂, if_neg h₈]

theorem scanString_quote (t : PyStr) : scanString (0x22 :: t) = some ([], t) := by
  rw [scanString.eq_def]
  rfl

/-- A string is read back up to its closing quote. -/
theorem scanString_escape (ensure_ascii : Bool) {s : PyStr} (hs : s.Scalar) (t : PyStr) :
    scanString (s.flatMap (escapeChar ensure_ascii) ++ 0x22 :: t) = some (s, t) := by
  induction s with
  | nil => exact scanString_quote t
  | cons c s ih =>
    obtain ⟨hc, hs⟩ := PyStr.scalar_cons.mp hs
    rw [List.flatMap_cons, List.append_assoc, scanString_escapeChar ensure_ascii hc, ih hs]
    rfl

/-! ### Where a value ends -/

/-- A value ends where the text or the line does, or where a comma or a
    closing bracket stands. -/
def Ends (t : PyStr) : Prop :=
  ∀ c ∈ t.head?, c.val = 0x2C ∨ c.val = 0x5D ∨ c.val = 0x7D ∨ c.val = 0x0A

theorem ends_nil : Ends [] := fun _ h => nomatch h

theorem ends_cons {c : CodePoint}
    (h : c.val = 0x2C ∨ c.val = 0x5D ∨ c.val = 0x7D ∨ c.val = 0x0A) (t : PyStr) :
    Ends (c :: t) := by
  intro c' hc'
  obtain rfl := Option.some.inj hc'
  exact h

section ends

variable {t : PyStr} (ht : Ends t)
include ht

theorem takeDigits_ends : takeDigits t = ([], t) := by
  cases t with
  | nil => rfl
  | cons c t =>
    have hc := ht c rfl
    have hdigit : c.digit? = none := if_neg (by omega)
    simp only [takeDigits, hdigit]

theorem takeDigits_append (s : PyStr) :
    takeDigits (s ++ t) = ((takeDigits s).1, (takeDigits s).2 ++ t) := by
  induction s with
  | nil => exact takeDigits_ends ht
  | cons c s ih =>
    simp only [List.cons_append, takeDigits]
    split
    · simp only [ih]
    · rfl

theorem takeFraction_append (s : PyStr) :
    takeFraction (s ++ t) = ((takeFraction s).1, (takeFraction s).2 ++ t) := by
  cases s with
  | nil =>
    cases t with
    | nil => rfl
    | cons c t =>
      have hc := ht c rfl
      show takeFraction (c :: t) = ([], c :: t)
      rw [takeFraction, if_neg (by omega)]
  | cons c s =>
    simp only [List.cons_append, takeFraction, takeDigits_append ht]
    split
    · split <;> rfl
    · rfl

theorem takeSign_append (s : PyStr) :
    takeSign (s ++ t) = ((takeSign s).1, (takeSign s).2 ++ t) := by
  cases s with
  | nil =>
    cases t with
    | nil => rfl
    | cons c t =>
      have hc := ht c rfl
      show takeSign (c :: t) = (false, c :: t)
      rw [takeSign, if_neg (by omega), if_neg (by omega)]
  | cons c s =>
    simp only [List.cons_append, takeSign]
    split
    · rfl
    · split <;> rfl

theorem takeExponent_append (s : PyStr) :
    takeExponent (s ++ t) = ((takeExponent s).1, (takeExponent s).2 ++ t) := by
  cases s with
  | nil =>
    cases t with
    | nil => rfl
    | cons c t =>
      have hc := ht c rfl
      show takeExponent (c :: t) = (none, c :: t)
      rw [takeExponent, if_neg (by omega)]
  | cons c s =>
    simp only [List.cons_append, takeExponent, takeSign_append ht, takeDigits_append ht]
    split
    · split <;> rfl
    · rfl

theorem takeInteger_append (s : PyStr) :
    takeInteger (s ++ t) = ((takeInteger s).1, (takeInteger s).2 ++ t) := by
  cases s with
  | nil =>
    have hnil : takeInteger [] = ([], []) := rfl
    rw [List.nil_append, hnil]
    unfold takeInteger
    rw [takeDigits_ends ht]
    rfl
  | cons c s =>
    have happend := takeDigits_append ht (c :: s)
    rw [List.cons_append] at happend ⊢
    unfold takeInteger
    rw [happend]
    obtain ⟨ds, rest⟩ := takeDigits (c :: s)
    -- a leading zero stands alone
    match ds with
    | 0 :: _ :: _ => rfl
    | [] => rfl
    | [d] => cases d <;> rfl
    | (d + 1) :: _ :: _ => rfl

theorem scanNumber_append {I : Interp} {neg : Bool} {s r : PyStr} {x : Json}
    (h : scanNumber I neg s = .ok (x, r)) : scanNumber I neg (s ++ t) = .ok (x, r ++ t) := by
  unfold scanNumber at h ⊢
  simp only [takeInteger_append ht, takeFraction_append ht, takeExponent_append ht] at h ⊢
  split at h
  · cases h
  · next hint =>
    rw [if_neg hint]
    split at h
    · next hplain =>
      rw [if_pos hplain]
      split at h
      · cases h
      · next hlimit =>
        rw [if_neg hlimit]
        cases h
        rfl
    · next hplain =>
      rw [if_neg hplain]
      cases h
      rfl

/-- A word is not continued by what ends a value. -/
theorem startsWith_append {p : PyStr}
    (hp : (p.any fun c => c.val = 0x2C || c.val = 0x5D || c.val = 0x7D || c.val = 0x0A) = false)
    (s : PyStr) :
    (s ++ t).startsWith p = s.startsWith p := by
  unfold PyStr.startsWith
  induction p generalizing s with
  | nil => simp
  | cons a p ih =>
    obtain ⟨ha, hp⟩ := Bool.or_eq_false_iff.mp (List.any_cons ▸ hp)
    cases s with
    | nil =>
      cases t with
      | nil => rfl
      | cons c t =>
        have hne : (a == c) = false := by
          rw [beq_eq_false_iff_ne]
          rintro rfl
          have hend := ht a rfl
          simp only [Bool.or_eq_false_iff, decide_eq_false_iff_not] at ha
          omega
        simp [List.isPrefixOf, hne]
    | cons c s =>
      have hrest := ih hp s
      simp only [List.cons_append, List.isPrefixOf, hrest]

omit ht in
theorem drop_append {s p : PyStr} {n : Nat} (h : s.startsWith p) (hn : p.length = n) :
    (s ++ t).drop n = s.drop n ++ t := by
  have hle := (List.isPrefixOf_iff_prefix.mp h).length_le
  exact List.drop_append_of_le_length (by omega)

/-- A literal is read the same in front of what ends a value. -/
theorem scanLiteral_append {I : Interp} {s r : PyStr} {x : Json}
    (h : scanLiteral I s = .ok (x, r)) : scanLiteral I (s ++ t) = .ok (x, r ++ t) := by
  have hnull := startsWith_append ht (p := "null".py) rfl s
  have htrue := startsWith_append ht (p := "true".py) rfl s
  have hfalse := startsWith_append ht (p := "false".py) rfl s
  have hnan := startsWith_append ht (p := "NaN".py) rfl s
  have hinf := startsWith_append ht (p := "Infinity".py) rfl s
  have hneg := startsWith_append ht (p := "-Infinity".py) rfl s
  unfold scanLiteral at h ⊢
  rw [hnull, htrue, hfalse, hnan, hinf, hneg]
  split_ifs at h ⊢ with h₁ h₂ h₃ h₄ h₅ h₆
  · cases h; rw [drop_append h₁ (n := 4) rfl]
  · cases h; rw [drop_append h₂ (n := 4) rfl]
  · cases h; rw [drop_append h₃ (n := 5) rfl]
  · cases h; rw [drop_append h₄ (n := 3) rfl]
  · cases h; rw [drop_append h₅ (n := 8) rfl]
  · cases h; rw [drop_append h₆ (n := 9) rfl]
  · cases s with
    | nil => cases h
    | cons c s =>
      simp only [List.cons_append] at h ⊢
      split at h
      · next hc => rw [if_pos hc]; exact scanNumber_append ht h
      · next hc => rw [if_neg hc]; exact scanNumber_append ht (s := c :: s) h

end ends

/-! ### Literals -/

/-- The characters that a literal starts with. -/
def Leads (c : CodePoint) : Prop :=
  (0x2D ≤ c.val ∧ c.val ≤ 0x4E) ∨ (0x66 ≤ c.val ∧ c.val ≤ 0x74)

theorem startsWith_cons_ne {a c : CodePoint} (h : a.val ≠ c.val) (p s : PyStr) :
    PyStr.startsWith (c :: s) (a :: p) = false := by
  have hne : (a == c) = false := beq_eq_false_iff_ne.mpr fun heq => h (congrArg Fin.val heq)
  simp [PyStr.startsWith, List.isPrefixOf, hne]

/-- The first letter of a word, or of `-Infinity` without its sign. -/
def IsLetter (n : Nat) : Prop := n = 0x6E ∨ n = 0x74 ∨ n = 0x66 ∨ n = 0x4E ∨ n = 0x49

instance (n : Nat) : Decidable (IsLetter n) := inferInstanceAs (Decidable (_ ∨ _))

/-- A text that starts with no word is read as a number. -/
theorem scanLiteral_number {I : Interp} {c : CodePoint} {s : PyStr}
    (hword : ¬ IsLetter c.val)
    (hneg : PyStr.startsWith (c :: s) "-Infinity".py = false) :
    scanLiteral I (c :: s) =
      if c.val = 0x2D then scanNumber I true s else scanNumber I false (c :: s) := by
  have hne : ∀ (a : CodePoint) (p : PyStr), IsLetter a.val →
      PyStr.startsWith (c :: s) (a :: p) = false :=
    fun a p ha => startsWith_cons_ne (fun heq => hword (heq ▸ ha)) p s
  unfold scanLiteral
  rw [hneg, show PyStr.startsWith (c :: s) "null".py = false from hne 0x6E _ (by decide),
    show PyStr.startsWith (c :: s) "true".py = false from hne 0x74 _ (by decide),
    show PyStr.startsWith (c :: s) "false".py = false from hne 0x66 _ (by decide),
    show PyStr.startsWith (c :: s) "NaN".py = false from hne 0x4E _ (by decide),
    show PyStr.startsWith (c :: s) "Infinity".py = false from hne 0x49 _ (by decide)]
  rfl

theorem scanLiteral_leads {I : Interp} {c : CodePoint} {s r : PyStr} {x : Json}
    (h : scanLiteral I (c :: s) = .ok (x, r)) : Leads c := by
  by_contra hnot
  unfold Leads at hnot
  have hdigit : c.digit? = none := if_neg (by omega)
  have htake : takeInteger (c :: s) = ([], c :: s) := by
    unfold takeInteger takeDigits
    rw [hdigit]
  have herror : scanNumber I false (c :: s) = .error .badSyntax := by
    unfold scanNumber
    rw [htake]
    rfl
  have hminus : (0x2D : CodePoint).val = 0x2D := rfl
  rw [scanLiteral_number (by unfold IsLetter; omega)
    (startsWith_cons_ne (a := 0x2D) (by omega) _ _), if_neg (by omega), herror] at h
  cases h

theorem takeDigits_digits {ds : List Nat} (hds : ∀ d ∈ ds, d < 10) :
    takeDigits (ds.map Decimal.digitChar) = (ds, []) := by
  induction ds with
  | nil => rfl
  | cons d ds ih =>
    have hd : d < 10 := hds d List.mem_cons_self
    have hrest := ih fun x hx => hds x (List.mem_cons_of_mem d hx)
    simp only [List.map_cons, takeDigits, Decimal.digit?_digitChar hd, hrest]

theorem takeInteger_digits {ds : List Nat} (h : Decimal.Canonical ds) :
    takeInteger (ds.map Decimal.digitChar) = (ds, []) := by
  unfold takeInteger
  rw [takeDigits_digits h.digit]
  match ds with
  | [] => rfl
  | [d] => cases d <;> rfl
  | 0 :: _ :: _ => exact absurd (h.leading rfl) (by simp)
  | (d + 1) :: _ :: _ => rfl

theorem scanNumber_digits {I : Interp} {n : Nat} (neg : Bool)
    (hn : (Decimal.digits n).length ≤ I.int_max_str_digits) :
    scanNumber I neg ((Decimal.digits n).map Decimal.digitChar) =
      .ok (.int (if neg then -(n : Int) else n), []) := by
  unfold scanNumber
  simp only [takeInteger_digits (Decimal.canonical_digits n)]
  rw [if_neg (Decimal.digits_ne_nil n), if_pos ⟨rfl, rfl⟩, if_neg (not_lt.mpr hn),
    Decimal.digitsVal_digits]

/-- The text of an integer is read back. -/
theorem scanLiteral_intRepr {I : Interp} {n : Int} (hn : DigitsWithin I.int_max_str_digits n) :
    scanLiteral I (intRepr n) = .ok (.int n, []) := by
  have hlen : (Decimal.digits n.natAbs).length ≤ I.int_max_str_digits := by
    rw [Decimal.length_digits]
    exact hn
  rw [Decimal.intRepr_eq]
  cases hds : Decimal.digits n.natAbs with
  | nil => exact absurd hds (Decimal.digits_ne_nil _)
  | cons d ds =>
    have hd : d < 10 := Decimal.digits_lt (n := n.natAbs) (by rw [hds]; exact List.mem_cons_self)
    have hval := Decimal.val_digitChar hd
    have hscan := fun neg => scanNumber_digits (I := I) neg hlen
    simp only [hds, List.map_cons] at hscan
    by_cases hneg : n < 0
    · have hinf : PyStr.startsWith (0x2D :: Decimal.digitChar d :: ds.map Decimal.digitChar)
          "-Infinity".py = false := by
        have hI : ((0x49 : CodePoint) == Decimal.digitChar d) = false := by
          rw [beq_eq_false_iff_ne]
          intro heq
          have h49 := congrArg Fin.val heq
          rw [hval] at h49
          have : (0x49 : CodePoint).val = 0x49 := rfl
          omega
        show List.isPrefixOf (0x2D :: 0x49 :: _) _ = false
        simp [List.isPrefixOf, hI]
      rw [if_pos hneg, List.singleton_append, List.map_cons, scanLiteral_number (by decide) hinf,
        if_pos (show (0x2D : CodePoint).val = 0x2D from rfl), hscan, if_pos rfl]
      simp only [Except.ok.injEq, Prod.mk.injEq, Json.int.injEq, and_true]
      omega
    · have hminus : (0x2D : CodePoint).val = 0x2D := rfl
      rw [if_neg hneg, List.nil_append, List.map_cons,
        scanLiteral_number (by unfold IsLetter; omega)
          (startsWith_cons_ne (a := 0x2D) (by omega) _ _),
        if_neg (by omega), hscan, if_neg (by decide)]
      simp only [Except.ok.injEq, Prod.mk.injEq, Json.int.injEq, and_true]
      omega

/-! ### Trees -/

mutual

/-- Every float of the tree meets `F` and the fields of every object `O`. -/
def Nodes (F : PyFloat → Prop) (O : Fields → Prop) : Json → Prop
  | float x => F x
  | arr xs => NodesList F O xs
  | obj fields => O fields ∧ NodesFields F O fields
  | _ => True

def NodesList (F : PyFloat → Prop) (O : Fields → Prop) : List Json → Prop
  | [] => True
  | x :: xs => Nodes F O x ∧ NodesList F O xs

def NodesFields (F : PyFloat → Prop) (O : Fields → Prop) : List (PyStr × Json) → Prop
  | [] => True
  | (_, x) :: fields => Nodes F O x ∧ NodesFields F O fields

end

/-- The keys of a dictionary are distinct. -/
def DistinctKeys (fields : Fields) : Prop := (fields.map Prod.fst).Nodup

/-- The text of a float is read as the float. -/
def FloatReads (I : Interp) (x : PyFloat) : Prop :=
  scanLiteral I (floatText I x) = .ok (.float x, [])

/-- The tree can be read back from its text. -/
structure Readable (I : Interp) (j : Json) : Prop where
  clean : Clean I j
  nodes : Nodes (FloatReads I) DistinctKeys j

/-- A string is read back up to its closing quote. -/
def DumpOptions.Reads (o : DumpOptions) (s : PyStr) : Prop :=
  ∀ t, scanString (s.flatMap (escapeChar o.ensure_ascii) ++ 0x22 :: t) = some (s, t)

/-- The tree can be read back from the text that it has under these options. -/
structure DumpOptions.ReadsTree (o : DumpOptions) (I : Interp) (j : Json) : Prop where
  leaves : j.All o.Reads (DigitsWithin I.int_max_str_digits)
  nodes : Nodes (FloatReads I) DistinctKeys j

mutual

/-- Strings and integers that meet a condition meet a weaker one. -/
theorem All.mono {P P' : PyStr → Prop} {Q : Int → Prop} (hP : ∀ s, P s → P' s) :
    ∀ j : Json, All P Q j → All P' Q j
  | .null, _ => trivial
  | .bool _, _ => trivial
  | .int _, h => h
  | .float _, _ => trivial
  | .str s, h => hP s h
  | .arr xs, h => AllList.mono hP xs h
  | .obj fields, h => AllFields.mono hP fields h

theorem AllList.mono {P P' : PyStr → Prop} {Q : Int → Prop} (hP : ∀ s, P s → P' s) :
    ∀ xs : List Json, AllList P Q xs → AllList P' Q xs
  | [], _ => trivial
  | x :: xs, h => ⟨All.mono hP x h.1, AllList.mono hP xs h.2⟩

theorem AllFields.mono {P P' : PyStr → Prop} {Q : Int → Prop} (hP : ∀ s, P s → P' s) :
    ∀ d : List (PyStr × Json), AllFields P Q d → AllFields P' Q d
  | [], _ => trivial
  | (k, x) :: d, h => ⟨hP k h.1, All.mono hP x h.2.1, AllFields.mono hP d h.2.2⟩

end

/-- A tree whose strings have no surrogates is read back under all options. -/
theorem Readable.readsTree {I : Interp} {j : Json} (h : Readable I j) (o : DumpOptions) :
    o.ReadsTree I j :=
  ⟨All.mono (fun _ hs t => scanString_escape o.ensure_ascii hs t) j h.clean, h.nodes⟩

/-- The options write what a scanner reads in the same order: the separators
    are a comma and a colon with whitespace behind them. -/
structure DumpOptions.Plain (o : DumpOptions) : Prop where
  item : ∃ w, o.item_separator.py = 0x2C :: w ∧ skipWs w = []
  key : ∃ w, o.key_separator.py = 0x3A :: w ∧ skipWs w = []
  order : o.sort_keys = false

theorem skipWs_append {w : PyStr} (hw : skipWs w = []) (s : PyStr) : skipWs (w ++ s) = skipWs s := by
  unfold skipWs at hw ⊢
  rw [List.dropWhile_append, hw]
  rfl

/-- The characters that a value starts with. -/
def Starts (c : CodePoint) : Prop := c.val = 0x22 ∨ c.val = 0x5B ∨ c.val = 0x7B ∨ Leads c

theorem skipWs_cons {c : CodePoint} (hc : 0x20 < c.val) (s : PyStr) : skipWs (c :: s) = c :: s := by
  have hno : (c.val = 0x20 || c.val = 0x09 || c.val = 0x0A || c.val = 0x0D) = false := by
    simp only [Bool.or_eq_false_iff, decide_eq_false_iff_not]
    omega
  unfold skipWs
  rw [List.dropWhile_cons, hno]
  rfl

theorem skipWs_starts {c : CodePoint} (hc : Starts c) (s : PyStr) : skipWs (c :: s) = c :: s := by
  refine skipWs_cons ?_ s
  unfold Starts Leads at hc
  omega

theorem assign_new {k : PyStr} {x : Json} {d : Fields} (h : k ∉ d.map Prod.fst) :
    Dict.assign k x d = d ++ [(k, x)] := by
  induction d with
  | nil => rfl
  | cons e d ih =>
    rw [List.map_cons, List.mem_cons, not_or] at h
    unfold Dict.assign
    rw [if_neg (Ne.symm h.1), ih h.2]
    rfl

/-- Members with distinct names are the fields of the object. -/
theorem fieldsOf_distinct {members : List (PyStr × Json)} (h : DistinctKeys members) :
    fieldsOf members = members := by
  suffices hfold : ∀ (ms d : Fields), DistinctKeys (d ++ ms) →
      ms.foldl (fun d e => Dict.assign e.1 e.2 d) d = d ++ ms from hfold members [] h
  intro ms
  induction ms with
  | nil => intro d _; simp
  | cons e ms ih =>
    intro d hd
    have hnew : e.1 ∉ d.map Prod.fst := by
      unfold DistinctKeys at hd
      rw [List.map_append, List.map_cons] at hd
      intro hmem
      exact (List.nodup_append.mp hd).2.2 e.1 hmem e.1 List.mem_cons_self rfl
    rw [List.foldl_cons, assign_new hnew, ih (d ++ [(e.1, e.2)]) (by simpa using hd)]
    simp

section render

variable {I : Interp} {o : DumpOptions}

/-- The text of a value that is neither a string nor a container. -/
theorem scanLiteral_render {j : Json} (h : o.ReadsTree I j) (hstr : j.isStr = false)
    (harr : ∀ xs, j ≠ .arr xs) (hobj : j.isObj = false) :
    scanLiteral I (render I o j) = .ok (j, []) := by
  cases j with
  | null => rfl
  | bool b => cases b <;> rfl
  | int n => exact scanLiteral_intRepr h.leaves
  | float x => exact h.nodes
  | str s => cases hstr
  | arr xs => exact absurd rfl (harr xs)
  | obj fields => cases hobj

theorem render_starts {j : Json} (h : o.ReadsTree I j) : ∃ c s, render I o j = c :: s ∧ Starts c := by
  have hliteral : scanLiteral I (render I o j) = .ok (j, []) →
      ∃ c s, render I o j = c :: s ∧ Starts c := by
    intro hscan
    cases htext : render I o j with
    | nil => rw [htext] at hscan; cases hscan
    | cons c s =>
      rw [htext] at hscan
      exact ⟨c, s, rfl, .inr (.inr (.inr (scanLiteral_leads hscan)))⟩
  cases j with
  | null => exact hliteral (scanLiteral_render h rfl (fun _ h => nomatch h) rfl)
  | bool b => exact hliteral (scanLiteral_render h rfl (fun _ h => nomatch h) rfl)
  | int n => exact hliteral (scanLiteral_render h rfl (fun _ h => nomatch h) rfl)
  | float x => exact hliteral (scanLiteral_render h rfl (fun _ h => nomatch h) rfl)
  | str s => exact ⟨0x22, _, rfl, .inl rfl⟩
  | arr xs => exact ⟨0x5B, _, by simp only [render]; rfl, .inr (.inl rfl)⟩
  | obj fields => exact ⟨0x7B, _, by simp only [render]; rfl, .inr (.inr (.inl rfl))⟩

theorem scanOnce_literal {s t : PyStr} {x : Json} {fuel depth : Nat} (ht : Ends t)
    (h : scanLiteral I s = .ok (x, [])) : scanOnce I (fuel + 1) depth (s ++ t) = .ok (x, t) := by
  have happend := scanLiteral_append ht h
  cases s with
  | nil => cases h
  | cons c s =>
    have hc := scanLiteral_leads h
    unfold Leads at hc
    rw [List.cons_append] at happend ⊢
    unfold scanOnce
    rw [if_neg (by omega), if_neg (by omega), if_neg (by omega), happend]
    rfl

theorem scanOnce_escape {s t : PyStr} {fuel depth : Nat} (hs : o.Reads s) :
    scanOnce I (fuel + 1) depth (escape o.ensure_ascii s ++ t) = .ok (.str s, t) := by
  have hread := hs t
  unfold escape scanOnce
  rw [List.append_assoc, List.append_assoc, List.singleton_append]
  simp only [List.singleton_append, hread]
  rfl

/-- A key is read back with the separator behind it. -/
theorem scanKey_escape (ho : o.Plain) {s t : PyStr} (hs : o.Reads s) (ht : skipWs t = t) :
    scanKey (escape o.ensure_ascii s ++ (o.key_separator.py ++ t)) = .ok (s, t) := by
  obtain ⟨w, hw, hspace⟩ := ho.key
  have hread := hs (o.key_separator.py ++ t)
  have hcolon : skipWs (0x3A :: (w ++ t)) = 0x3A :: (w ++ t) := skipWs_cons (by decide) _
  rw [hw, List.cons_append] at hread ⊢
  unfold escape scanKey
  rw [List.append_assoc, List.append_assoc, List.singleton_append]
  simp only [List.singleton_append, hread, hcolon, skipWs_append hspace, ht]
  rfl

/-- The text of a member of an object. -/
def member (o : DumpOptions) (e : PyStr × PyStr) : PyStr :=
  escape o.ensure_ascii e.1 ++ o.key_separator.py ++ e.2

theorem length_le_member (o : DumpOptions) (k text : PyStr) :
    text.length ≤ (member o (k, text)).length := by
  simp only [member, List.length_append]
  omega

theorem join_cons_cons (sep p q : PyStr) (ps : List PyStr) :
    PyStr.join sep (p :: q :: ps) = p ++ sep ++ PyStr.join sep (q :: ps) := rfl

theorem join_starts (sep : PyStr) {p : PyStr} (ps : List PyStr)
    (h : ∃ c s, p = c :: s ∧ Starts c) (t : PyStr) :
    ∃ c s, PyStr.join sep (p :: ps) ++ t = c :: s ∧ Starts c := by
  obtain ⟨c, s, rfl, hc⟩ := h
  cases ps with
  | nil => exact ⟨c, s ++ t, rfl, hc⟩
  | cons q ps => exact ⟨c, (s ++ sep ++ PyStr.join sep (q :: ps)) ++ t, rfl, hc⟩

theorem render_obj (ho : o.Plain) (fields : Fields) :
    render I o (.obj fields) = 0x7B ::
      (PyStr.join o.item_separator.py ((renderFields I o fields).map (member o)) ++ [0x7D]) := by
  rw [render, order, if_neg (by rw [ho.order]; decide)]
  rfl

/-- The key of a member is read back up to its value. -/
theorem scanKey_render (ho : o.Plain) {k : PyStr} {x : Json} (hk : o.Reads k) (hx : o.ReadsTree I x)
    (t : PyStr) :
    scanKey (member o (k, render I o x) ++ t) = .ok (k, render I o x ++ t) := by
  obtain ⟨c, s, htext, hc⟩ := render_starts hx
  unfold member
  rw [List.append_assoc, List.append_assoc]
  refine scanKey_escape ho hk ?_
  rw [htext, List.cons_append, skipWs_starts hc]

mutual

/-- The scanner reads the text of a tree and stops behind it. -/
theorem scanOnce_render (ho : o.Plain) : ∀ (j : Json), o.ReadsTree I j →
    ∀ (fuel depth : Nat) (t : PyStr), 2 * (render I o j).length + 1 ≤ fuel → j.depth ≤ depth →
      Ends t → scanOnce I fuel depth (render I o j ++ t) = .ok (j, t)
  | .null, h, fuel + 1, _, _, _, _, ht =>
    scanOnce_literal ht (scanLiteral_render h rfl (fun _ h => nomatch h) rfl)
  | .bool _, h, fuel + 1, _, _, _, _, ht =>
    scanOnce_literal ht (scanLiteral_render h rfl (fun _ h => nomatch h) rfl)
  | .int _, h, fuel + 1, _, _, _, _, ht =>
    scanOnce_literal ht (scanLiteral_render h rfl (fun _ h => nomatch h) rfl)
  | .float _, h, fuel + 1, _, _, _, _, ht =>
    scanOnce_literal ht (scanLiteral_render h rfl (fun _ h => nomatch h) rfl)
  | .str _, h, fuel + 1, _, _, _, _, _ => by
    rw [render]
    exact scanOnce_escape h.leaves
  | .arr [], h, fuel + 1, depth + 1, t, _, _, _ => by
    have hclose : skipWs (0x5D :: t) = 0x5D :: t := skipWs_cons (by decide) t
    simp only [render, renderList, PyStr.join, List.append_nil, List.cons_append, List.nil_append]
    unfold scanOnce
    rw [if_neg (by decide), if_pos (by decide)]
    simp only [hclose]
    rfl
  | .arr (_ :: _), _, _ + 1, 0, _, _, hdepth, _ => absurd hdepth (by simp [Json.depth])
  | .arr (x :: xs), h, fuel + 1, depth + 1, t, hfuel, hdepth, _ => by
    have hclean := allList_iff.mp (by simpa [All] using h.leaves)
    have hx : o.ReadsTree I x := ⟨hclean x List.mem_cons_self, by
      have hnodes := h.nodes
      simp only [Nodes, NodesList] at hnodes
      exact hnodes.1⟩
    obtain ⟨c, s, htext, hc⟩ := join_starts o.item_separator.py
      (renderList I o xs) (render_starts hx) (0x5D :: t)
    have hxs : scanElements I fuel depth (c :: s) = .ok (x :: xs, t) := by
      rw [← htext]
      refine scanElements_render ho (x :: xs) (by simp) ?_ ?_ _ _ _ ?_ ?_
      · simpa [All] using h.leaves
      · simpa [Nodes] using h.nodes
      · simp only [render, List.length_append, List.length_cons, List.length_nil] at hfuel
        simp only [renderList] at hfuel ⊢
        omega
      · simp only [Json.depth] at hdepth
        omega
    -- no element starts with a blank or with the closing bracket
    have hrest : skipWs (c :: s) = c :: s := skipWs_starts hc s
    have hopen : c.val ≠ 0x5D := by unfold Starts Leads at hc; omega
    simp only [render, renderList, List.append_assoc, List.cons_append, List.nil_append, htext]
    unfold scanOnce
    rw [if_neg (by decide), if_pos (by decide)]
    simp only [hrest, if_neg hopen, hxs]
    rfl
  | .obj [], h, fuel + 1, depth + 1, t, _, _, _ => by
    have hclose : skipWs (0x7D :: t) = 0x7D :: t := skipWs_cons (by decide) t
    simp only [render_obj ho, renderFields, List.map_nil, PyStr.join, List.nil_append,
      List.cons_append]
    unfold scanOnce
    rw [if_neg (by decide), if_neg (by decide), if_pos (by decide)]
    simp only [hclose]
    rfl
  | .obj (_ :: _), _, _ + 1, 0, _, _, hdepth, _ => absurd hdepth (by simp [Json.depth])
  | .obj ((k, x) :: fields), h, fuel + 1, depth + 1, t, hfuel, hdepth, _ => by
    have hnodes := h.nodes
    simp only [Nodes] at hnodes
    have hmember : ∃ c s, member o (k, render I o x) = c :: s ∧ Starts c :=
      ⟨0x22, _, rfl, .inl rfl⟩
    obtain ⟨c, s, htext, hc⟩ := join_starts o.item_separator.py
      ((renderFields I o fields).map (member o)) hmember (0x7D :: t)
    have hfields : scanMembers I fuel depth (c :: s) = .ok ((k, x) :: fields, t) := by
      rw [← htext]
      refine scanMembers_render ho ((k, x) :: fields) (by simp) ?_ hnodes.2 _ _ _ ?_ ?_
      · simpa [All] using h.leaves
      · rw [render_obj ho] at hfuel
        simp only [renderFields, List.map_cons, List.length_cons, List.length_append] at hfuel ⊢
        omega
      · simp only [Json.depth] at hdepth
        omega
    -- every member starts with the quote of its name
    have hrest : skipWs (c :: s) = c :: s := skipWs_starts hc s
    have hopen : c.val ≠ 0x7D := by unfold Starts Leads at hc; omega
    rw [render_obj ho]
    simp only [renderFields, List.map_cons, List.append_assoc, List.cons_append, List.nil_append,
      htext]
    unfold scanOnce
    rw [if_neg (by decide), if_neg (by decide), if_pos (by decide)]
    simp only [hrest, if_neg hopen, hfields]
    show Except.ok (Json.obj (fieldsOf ((k, x) :: fields)), t) = _
    rw [fieldsOf_distinct hnodes.1]

theorem scanElements_render (ho : o.Plain) : ∀ (xs : List Json), xs ≠ [] →
    AllList o.Reads (DigitsWithin I.int_max_str_digits) xs →
    NodesList (FloatReads I) DistinctKeys xs → ∀ (fuel depth : Nat) (t : PyStr),
    2 * (PyStr.join o.item_separator.py (renderList I o xs)).length + 2 ≤ fuel →
    depthList xs ≤ depth →
    scanElements I fuel depth
      (PyStr.join o.item_separator.py (renderList I o xs) ++ 0x5D :: t) = .ok (xs, t)
  | [x], _, hclean, hnodes, fuel + 1, depth, t, hfuel, hdepth => by
    simp only [AllList, NodesList, depthList, renderList, PyStr.join] at hclean hnodes hdepth hfuel ⊢
    have hx := scanOnce_render ho x ⟨hclean.1, hnodes.1⟩ fuel depth (0x5D :: t) (by omega) (by omega) (ends_cons (.inr (.inl rfl)) t)
    have hclose : skipWs (0x5D :: t) = 0x5D :: t := skipWs_cons (by decide) t
    unfold scanElements
    simp only [hx, bind, Except.bind, hclose]
    rfl
  | x :: y :: ys, _, hclean, hnodes, fuel + 1, depth, t, hfuel, hdepth => by
    obtain ⟨w, hw, hspace⟩ := ho.item
    have hlen : 0 < o.item_separator.py.length := by rw [hw]; exact Nat.succ_pos _
    simp only [renderList, PyStr.join, List.length_append] at hfuel
    have hrest := scanElements_render ho (y :: ys) (by simp) hclean.2 hnodes.2 fuel depth t (by simp only [renderList]; omega)
      (le_trans (le_max_right _ _) hdepth)
    obtain ⟨c, s, htext, hc⟩ := join_starts o.item_separator.py
      (renderList I o ys) (render_starts ⟨hclean.2.1, hnodes.2.1⟩) (0x5D :: t)
    rw [renderList, htext] at hrest
    have hx := scanOnce_render ho x ⟨hclean.1, hnodes.1⟩ fuel depth (0x2C :: (w ++ c :: s)) (by omega) (le_trans (le_max_left _ _) hdepth)
      (ends_cons (.inl rfl) _)
    have hcomma : skipWs (0x2C :: (w ++ c :: s)) = 0x2C :: (w ++ c :: s) :=
      skipWs_cons (by decide) _
    have hnext : skipWs (w ++ c :: s) = c :: s := by rw [skipWs_append hspace, skipWs_starts hc]
    have hall : PyStr.join o.item_separator.py (renderList I o (x :: y :: ys)) ++ 0x5D :: t =
        render I o x ++ 0x2C :: (w ++ c :: s) := by
      rw [← htext, renderList, renderList, join_cons_cons, hw]
      simp
    rw [hall]
    unfold scanElements
    simp only [hx, bind, Except.bind, hcomma, hnext, hrest]
    rfl
  | [], h, _, _, _, _, _, _, _ => absurd rfl h

theorem scanMembers_render (ho : o.Plain) : ∀ (fields : List (PyStr × Json)), fields ≠ [] →
    AllFields o.Reads (DigitsWithin I.int_max_str_digits) fields →
    NodesFields (FloatReads I) DistinctKeys fields → ∀ (fuel depth : Nat) (t : PyStr),
    2 * (PyStr.join o.item_separator.py ((renderFields I o fields).map (member o))).length + 2 ≤
      fuel →
    depthFields fields ≤ depth →
    scanMembers I fuel depth
      (PyStr.join o.item_separator.py ((renderFields I o fields).map (member o)) ++ 0x7D :: t) =
        .ok (fields, t)
  | [(k, x)], _, hclean, hnodes, fuel + 1, depth, t, hfuel, hdepth => by
    simp only [renderFields, List.map_cons, List.map_nil, PyStr.join] at hfuel ⊢
    have hlen := length_le_member o k (render I o x)
    have hx := scanOnce_render ho x ⟨hclean.2.1, hnodes.1⟩ fuel depth (0x7D :: t) (by omega) (le_trans (le_max_left _ _) hdepth) (ends_cons (.inr (.inr (.inl rfl))) t)
    have hkey := scanKey_render ho hclean.1 ⟨hclean.2.1, hnodes.1⟩ (0x7D :: t)
    have hclose : skipWs (0x7D :: t) = 0x7D :: t := skipWs_cons (by decide) t
    unfold scanMembers
    simp only [hkey, hx, bind, Except.bind, hclose]
    rfl
  | (k, x) :: (k', y) :: fields, _, hclean, hnodes, fuel + 1, depth, t, hfuel, hdepth => by
    obtain ⟨w, hw, hspace⟩ := ho.item
    have hsep : 0 < o.item_separator.py.length := by rw [hw]; exact Nat.succ_pos _
    simp only [renderFields, List.map_cons, PyStr.join, List.length_append] at hfuel
    have hlen := length_le_member o k (render I o x)
    have hrest := scanMembers_render ho ((k', y) :: fields) (by simp) hclean.2.2 hnodes.2
      fuel depth t
      (by simp only [renderFields, List.map_cons]; omega) (le_trans (le_max_right _ _) hdepth)
    have hmember : ∃ c s, member o (k', render I o y) = c :: s ∧ Starts c :=
      ⟨0x22, _, rfl, .inl rfl⟩
    obtain ⟨c, s, htext, hc⟩ := join_starts o.item_separator.py
      ((renderFields I o fields).map (member o)) hmember (0x7D :: t)
    rw [renderFields, List.map_cons, htext] at hrest
    have hx := scanOnce_render ho x ⟨hclean.2.1, hnodes.1⟩ fuel depth (0x2C :: (w ++ c :: s)) (by omega) (le_trans (le_max_left _ _) hdepth)
      (ends_cons (.inl rfl) _)
    have hkey := scanKey_render ho hclean.1 ⟨hclean.2.1, hnodes.1⟩ (0x2C :: (w ++ c :: s))
    -- the separator is a comma and blanks, which the scanner skips
    have hcomma : skipWs (0x2C :: (w ++ c :: s)) = 0x2C :: (w ++ c :: s) :=
      skipWs_cons (by decide) _
    have hnext : skipWs (w ++ c :: s) = c :: s := by rw [skipWs_append hspace, skipWs_starts hc]
    have hall : PyStr.join o.item_separator.py
        ((renderFields I o ((k, x) :: (k', y) :: fields)).map (member o)) ++ 0x7D :: t =
        member o (k, render I o x) ++ 0x2C :: (w ++ c :: s) := by
      rw [← htext, renderFields, renderFields, List.map_cons, List.map_cons, join_cons_cons, hw]
      simp
    rw [hall]
    unfold scanMembers
    simp only [hkey, hx, bind, Except.bind, hcomma, hnext, hrest]
    rfl
  | [], h, _, _, _, _, _, _, _ => absurd rfl h

end

variable {j : Json}

/-- Whitespace behind the text, such as the end of a line, is skipped. -/
theorem loads_render_append (ho : o.Plain) (h : o.ReadsTree I j) (hdepth : j.depth ≤ I.loads_depth)
    {w : PyStr} (hw : skipWs w = []) (hends : Ends w) : loads I (render I o j ++ w) = .ok j := by
  obtain ⟨c, s, htext, hc⟩ := render_starts h
  have hread := scanOnce_render ho j h (scanFuel (render I o j ++ w)) I.loads_depth w
    (by unfold scanFuel; rw [List.length_append]; omega) hdepth hends
  have hbom : PyStr.startsWith (render I o j ++ w) [0xFEFF] = false := by
    rw [htext]
    refine startsWith_cons_ne ?_ [] (s ++ w)
    have hval : (0xFEFF : CodePoint).val = 0xFEFF := rfl
    unfold Starts Leads at hc
    omega
  have hskip : skipWs (render I o j ++ w) = render I o j ++ w := by
    rw [htext, List.cons_append, skipWs_starts hc]
  unfold loads
  rw [hbom, hskip, hread]
  simp only [hw, if_true, Bool.false_eq_true, if_false]

theorem loads_rendered (ho : o.Plain) (h : o.ReadsTree I j) (hdepth : j.depth ≤ I.loads_depth) :
    loads I (render I o j) = .ok j := by
  have happend := loads_render_append ho h hdepth (w := []) rfl ends_nil
  rwa [List.append_nil] at happend

/-- `json.loads(json.dumps(j)) == j` -/
theorem loads_render (ho : o.Plain) (h : Readable I j) (hdepth : j.depth ≤ I.loads_depth) :
    loads I (render I o j) = .ok j := loads_rendered ho (h.readsTree o) hdepth

/-- What is sent is what is received: a tree is decoded and parsed from the
    bytes that it is written to. -/
theorem loads_dumpsUtf8 (ho : o.Plain) {bytes : Bytes} (h : Readable I j)
    (hdepth : j.depth ≤ I.loads_depth) (hbytes : dumpsUtf8 I o j = .ok bytes) :
    ∃ text, Utf8.decode bytes = some text ∧ loads I text = .ok j := by
  unfold dumpsUtf8 dumps at hbytes
  split at hbytes
  · cases hbytes
  · split at hbytes
    · simp only [bind, Except.bind] at hbytes
      split at hbytes
      · next henc =>
        cases hbytes
        exact ⟨_, Utf8.decode_encode henc, loads_render ho h hdepth⟩
      · cases hbytes
    · cases hbytes

end render

end Json

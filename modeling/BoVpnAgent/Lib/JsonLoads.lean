import BoVpnAgent.Lib.Json

/-! # `json.loads`

    The scanner of CPython's `json` module over the code points of a text.
    It stops at the first problem it meets, and three kinds of problem leave
    it as different exceptions: a syntax error (`JSONDecodeError`), an
    integer literal that is too long (`ValueError`) and too deep a nesting
    (`RecursionError`).

    The scanner recurses on a step count.  `scan_fuel` shows that the count
    `loads` starts with is never used up.
-/

/-! ### Floats -/

namespace PyFloat

/-- `num / den` rounded to an integer, ties to even. -/
def roundDiv (num den : Nat) : Nat :=
  let q := num / den
  let r := num % den
  if 2 * r < den then q else if den < 2 * r then q + 1 else q + q % 2

/-- The double closest to `± m * 10 ^ e`. -/
def ofDecimal (neg : Bool) (m : Nat) (e : Int) : PyFloat :=
  -- far outside the range of a double the powers of ten are not computed
  if m = 0 ∨ e + Nat.log2 m < -331 then .fin neg 0 0
  else if 310 ≤ e then .inf neg
  else
    let num := m * 10 ^ e.toNat
    let den := 10 ^ (-e).toNat
    let k₀ : Int := (Nat.log2 num : Int) - Nat.log2 den
    let k : Int := if num * 2 ^ (-k₀).toNat < den * 2 ^ k₀.toNat then k₀ - 1 else k₀
    let e₂ : Int := max (k - 52) (-1074)
    let q := roundDiv (num * 2 ^ (-e₂).toNat) (den * 2 ^ e₂.toNat)
    let x : Nat × Int := if q = 2 ^ 53 then (2 ^ 52, e₂ + 1) else (q, e₂)
    if 971 < x.2 then .inf neg else if x.1 = 0 then .fin neg 0 0 else .fin neg x.1 x.2

end PyFloat

namespace Json

/-- Why the scanner stops. -/
inductive ScanError where
  | badSyntax
  | digits
  | nesting
  | fuel
  deriving DecidableEq

/-- Skips the whitespace of JSON. -/
def skipWs (s : PyStr) : PyStr :=
  s.dropWhile fun c => c.val = 0x20 || c.val = 0x09 || c.val = 0x0A || c.val = 0x0D

/-! ### Strings -/

/-- The value of a hexadecimal digit. -/
def hexVal? (c : CodePoint) : Option Nat :=
  if 0x30 ≤ c.val ∧ c.val ≤ 0x39 then some (c.val - 0x30)
  else if 0x61 ≤ c.val ∧ c.val ≤ 0x66 then some (c.val - 0x57)
  else if 0x41 ≤ c.val ∧ c.val ≤ 0x46 then some (c.val - 0x37)
  else none

/-- Four hexadecimal digits. -/
def hex4? (a b c d : CodePoint) : Option Nat := do
  let x₃ ← hexVal? a
  let x₂ ← hexVal? b
  let x₁ ← hexVal? c
  let x₀ ← hexVal? d
  return ((x₃ * 16 + x₂) * 16 + x₁) * 16 + x₀

/-- The character of a one-letter escape. -/
def simpleEscape? (c : CodePoint) : Option CodePoint :=
  if c.val = 0x22 ∨ c.val = 0x5C ∨ c.val = 0x2F then some c
  else if c.val = 0x62 then some 0x08
  else if c.val = 0x66 then some 0x0C
  else if c.val = 0x6E then some 0x0A
  else if c.val = 0x72 then some 0x0D
  else if c.val = 0x74 then some 0x09
  else none

/-- The rest of a string after its opening quote, and the text behind it.
    An escaped high surrogate joins with an escaped low one right after it;
    any other surrogate stays alone. -/
def scanString : PyStr → Option (PyStr × PyStr)
  | [] => none
  | c :: s =>
    if c.val = 0x22 then some ([], s)
    else if c.val = 0x5C then
      match s with
      | [] => none
      | e :: s =>
        if e.val = 0x75 then
          match s with
          | a :: b :: c :: d :: s =>
            match hex4? a b c d with
            | none => none
            | some hi =>
              match s with
              | back :: u :: a' :: b' :: c' :: d' :: s' =>
                if 0xD800 ≤ hi ∧ hi ≤ 0xDBFF ∧ back.val = 0x5C ∧ u.val = 0x75 then
                  match hex4? a' b' c' d' with
                  | none => none
                  | some lo =>
                    if 0xDC00 ≤ lo ∧ lo ≤ 0xDFFF then
                      (scanString s').map fun r =>
                        (Fin.ofNat 0x110000 (0x10000 + (hi - 0xD800) * 1024 + (lo - 0xDC00)) ::
                          r.1, r.2)
                    else
                      (scanString (back :: u :: a' :: b' :: c' :: d' :: s')).map fun r =>
                        (Fin.ofNat 0x110000 hi :: r.1, r.2)
                else
                  (scanString (back :: u :: a' :: b' :: c' :: d' :: s')).map fun r =>
                    (Fin.ofNat 0x110000 hi :: r.1, r.2)
              | s => (scanString s).map fun r => (Fin.ofNat 0x110000 hi :: r.1, r.2)
          | _ => none
        else
          match simpleEscape? e with
          | none => none
          | some ch => (scanString s).map fun r => (ch :: r.1, r.2)
    else if c.val < 0x20 then none
    else (scanString s).map fun r => (c :: r.1, r.2)

/-! ### Numbers -/

/-- The digits at the front of a text. -/
def takeDigits : PyStr → List Nat × PyStr
  | [] => ([], [])
  | c :: s =>
    match c.digit? with
    | some d => let r := takeDigits s; (d :: r.1, r.2)
    | none => ([], c :: s)

/-- `(\.\d+)?`: the fraction digits, or no fraction. -/
def takeFraction : PyStr → List Nat × PyStr
  | [] => ([], [])
  | c :: s =>
    if c.val = 0x2E then
      let r := takeDigits s
      if r.1 = [] then ([], c :: s) else r
    else ([], c :: s)

/-- The sign of an exponent. -/
def takeSign : PyStr → Bool × PyStr
  | [] => (false, [])
  | c :: s => if c.val = 0x2D then (true, s) else if c.val = 0x2B then (false, s) else (false, c :: s)

/-- `([eE][-+]?\d+)?`: the exponent, or no exponent. -/
def takeExponent : PyStr → Option Int × PyStr
  | [] => (none, [])
  | c :: s =>
    if c.val = 0x65 ∨ c.val = 0x45 then
      let sg := takeSign s
      let r := takeDigits sg.2
      if r.1 = [] then (none, c :: s)
      else
        let n : Int := PyStr.digitsVal r.1
        (some (if sg.1 then -n else n), r.2)
    else (none, c :: s)

/-- The digits before the fraction: `0` or a run without a leading zero. -/
def takeInteger (s : PyStr) : List Nat × PyStr :=
  match takeDigits s, s with
  | (0 :: _ :: _, _), _ :: s' => ([0], s')
  | r, _ => r

/-- A number, without its minus sign. -/
def scanNumber (I : Interp) (neg : Bool) (s : PyStr) : Except ScanError (Json × PyStr) :=
  let n := takeInteger s
  if n.1 = [] then .error .badSyntax
  else
    let f := takeFraction n.2
    let x := takeExponent f.2
    if f.1 = [] ∧ x.1 = none then
      if I.int_max_str_digits < n.1.length then .error .digits
      else
        let v : Int := PyStr.digitsVal n.1
        .ok (.int (if neg then -v else v), n.2)
    else
      .ok (.float (PyFloat.ofDecimal neg (PyStr.digitsVal (n.1 ++ f.1))
        (x.1.getD 0 - f.1.length)), x.2)

/-- A literal or a number. -/
def scanLiteral (I : Interp) (s : PyStr) : Except ScanError (Json × PyStr) :=
  if s.startsWith "null".py then .ok (.null, s.drop 4)
  else if s.startsWith "true".py then .ok (.bool true, s.drop 4)
  else if s.startsWith "false".py then .ok (.bool false, s.drop 5)
  else if s.startsWith "NaN".py then .ok (.float .nan, s.drop 3)
  else if s.startsWith "Infinity".py then .ok (.float (.inf false), s.drop 8)
  else if s.startsWith "-Infinity".py then .ok (.float (.inf true), s.drop 9)
  else
    match s with
    | [] => .error .badSyntax
    | c :: s' => if c.val = 0x2D then scanNumber I true s' else scanNumber I false (c :: s')

/-! ### Values -/

/-- A member's name and the colon behind it. -/
def scanKey : PyStr → Except ScanError (PyStr × PyStr)
  | [] => .error .badSyntax
  | c :: s =>
    if c.val = 0x22 then
      match scanString s with
      | none => .error .badSyntax
      | some (key, rest) =>
        match skipWs rest with
        | [] => .error .badSyntax
        | c' :: s' => if c'.val = 0x3A then .ok (key, skipWs s') else .error .badSyntax
    else .error .badSyntax

/-- A dictionary of the members read; a repeated name keeps its first place
    and its last value. -/
def fieldsOf (members : List (PyStr × Json)) : Fields :=
  members.foldl (fun d e => Dict.assign e.1 e.2 d) []

mutual

/-- One value, in which `depth` more containers may be nested. -/
def scanOnce (I : Interp) : Nat → Nat → PyStr → Except ScanError (Json × PyStr)
  | 0, _, _ => .error .fuel
  | _ + 1, _, [] => .error .badSyntax
  | fuel + 1, depth, c :: s =>
    if c.val = 0x22 then
      match scanString s with
      | none => .error .badSyntax
      | some (text, rest) => .ok (.str text, rest)
    else if c.val = 0x5B then
      match depth, skipWs s with
      | 0, _ => .error .nesting
      | _ + 1, [] => .error .badSyntax
      | depth + 1, c' :: s' =>
        if c'.val = 0x5D then .ok (.arr [], s')
        else do
          let (xs, rest) ← scanElements I fuel depth (c' :: s')
          return (.arr xs, rest)
    else if c.val = 0x7B then
      match depth, skipWs s with
      | 0, _ => .error .nesting
      | _ + 1, [] => .error .badSyntax
      | depth + 1, c' :: s' =>
        if c'.val = 0x7D then .ok (.obj [], s')
        else do
          let (members, rest) ← scanMembers I fuel depth (c' :: s')
          return (.obj (fieldsOf members), rest)
    else scanLiteral I (c :: s)

/-- The elements of an array, up to its closing bracket. -/
def scanElements (I : Interp) : Nat → Nat → PyStr → Except ScanError (List Json × PyStr)
  | 0, _, _ => .error .fuel
  | fuel + 1, depth, s => do
    let (x, rest) ← scanOnce I fuel depth s
    match skipWs rest with
    | [] => .error .badSyntax
    | c :: s' =>
      if c.val = 0x5D then return ([x], s')
      else if c.val = 0x2C then do
        let (xs, rest) ← scanElements I fuel depth (skipWs s')
        return (x :: xs, rest)
      else .error .badSyntax

/-- The members of an object, up to its closing brace. -/
def scanMembers (I : Interp) : Nat → Nat → PyStr → Except ScanError (List (PyStr × Json) × PyStr)
  | 0, _, _ => .error .fuel
  | fuel + 1, depth, s => do
    let (key, rest) ← scanKey s
    let (x, rest) ← scanOnce I fuel depth rest
    match skipWs rest with
    | [] => .error .badSyntax
    | c :: s' =>
      if c.val = 0x7D then return ([(key, x)], s')
      else if c.val = 0x2C then do
        let (members, rest) ← scanMembers I fuel depth (skipWs s')
        return ((key, x) :: members, rest)
      else .error .badSyntax

end

/-- The exception of a scan that stopped.  The case `fuel` is unreachable
    (`scan_fuel`). -/
def ScanError.toBuiltin : ScanError → Builtin
  | .badSyntax => .jsonDecodeError
  | .digits => .valueError
  | .nesting => .recursionError
  | .fuel => .recursionError

/-- The step count that is enough for a text. -/
def scanFuel (s : PyStr) : Nat := 2 * s.length + 2

/-- `json.loads(s)` -/
def loads (I : Interp) (s : PyStr) : Except Builtin Json :=
  if s.startsWith [0xFEFF] then .error .jsonDecodeError
  else
    match scanOnce I (scanFuel s) I.loads_depth (skipWs s) with
    | .error e => .error e.toBuiltin
    | .ok (x, rest) => if skipWs rest = [] then .ok x else .error .jsonDecodeError

/-! ### The step count suffices

    Every scanner leaves a strictly shorter text when it succeeds, so a
    count of two steps for each character is never used up. -/

theorem length_skipWs_le (s : PyStr) : (skipWs s).length ≤ s.length :=
  (List.dropWhile_suffix _).sublist.length_le

theorem length_scanString {s text rest : PyStr} (h : scanString s = some (text, rest)) :
    rest.length < s.length := by
  fun_induction scanString s generalizing text rest <;>
    simp_all only [Option.map_eq_some_iff, Option.some.injEq, Prod.mk.injEq, Prod.exists,
      List.length_cons, reduceCtorEq]
  all_goals first
    | omega
    | (obtain ⟨t, r, hr, -, rfl⟩ := h
       rename_i ih
       have := ih hr
       omega)

theorem length_takeDigits_le (s : PyStr) : (takeDigits s).2.length ≤ s.length := by
  induction s with
  | nil => simp [takeDigits]
  | cons c s ih =>
    unfold takeDigits
    split
    · simp only [List.length_cons]; omega
    · simp

theorem length_takeDigits_lt {s : PyStr} (h : (takeDigits s).1 ≠ []) :
    (takeDigits s).2.length < s.length := by
  match s with
  | [] => simp [takeDigits] at h
  | c :: s =>
    have hs := length_takeDigits_le s
    unfold takeDigits at h ⊢
    split at h
    · simp only [List.length_cons]; omega
    · simp at h

theorem length_takeInteger_lt {s : PyStr} (h : (takeInteger s).1 ≠ []) :
    (takeInteger s).2.length < s.length := by
  unfold takeInteger at h ⊢
  split at h
  · simp
  · exact length_takeDigits_lt h

theorem length_takeFraction_le (s : PyStr) : (takeFraction s).2.length ≤ s.length := by
  match s with
  | [] => simp [takeFraction]
  | c :: s =>
    have hs := length_takeDigits_le s
    simp only [takeFraction]
    split_ifs <;> simp only [List.length_cons, le_refl]
    omega

theorem length_takeSign_le (s : PyStr) : (takeSign s).2.length ≤ s.length := by
  match s with
  | [] => simp [takeSign]
  | c :: s => simp only [takeSign]; split_ifs <;> simp

theorem length_takeExponent_le (s : PyStr) : (takeExponent s).2.length ≤ s.length := by
  match s with
  | [] => simp [takeExponent]
  | c :: s =>
    have hs := length_takeSign_le s
    have hd := length_takeDigits_le (takeSign s).2
    simp only [takeExponent]
    split_ifs <;> simp only [List.length_cons, le_refl] <;> omega

/-- A scanner does not run out of steps, and what it leaves is shorter. -/
def Advances {α : Type} (s : PyStr) (r : Except ScanError (α × PyStr)) : Prop :=
  r ≠ .error .fuel ∧ ∀ x rest, r = .ok (x, rest) → rest.length < s.length

section advances

variable {α β : Type} {s t : PyStr}

theorem advances_error {e : ScanError} (h : e ≠ .fuel) :
    Advances (α := α) s (.error e) := by
  simp [Advances, h]

theorem advances_ok {x : α} {rest : PyStr} (h : rest.length < s.length) :
    Advances s (.ok (x, rest)) := by
  refine ⟨by simp, ?_⟩
  rintro _ _ ⟨⟩
  exact h

theorem Advances.bind {r : Except ScanError (α × PyStr)}
    {g : α × PyStr → Except ScanError (β × PyStr)} (h : Advances s r)
    (hg : ∀ x rest, rest.length < s.length → Advances t (g (x, rest))) :
    Advances t (r >>= g) := by
  match r with
  | .error e => exact advances_error (by simpa using h.1)
  | .ok (x, rest) => exact hg x rest (h.2 x rest rfl)

theorem Advances.mono {r : Except ScanError (α × PyStr)} (h : Advances s r)
    (hst : s.length ≤ t.length) : Advances t r :=
  ⟨h.1, fun x rest hr => Nat.lt_of_lt_of_le (h.2 x rest hr) hst⟩

end advances

theorem scanNumber_advances (I : Interp) (neg : Bool) (s : PyStr) :
    Advances s (scanNumber I neg s) := by
  unfold scanNumber
  have hf := length_takeFraction_le (takeInteger s).2
  have hx := length_takeExponent_le (takeFraction (takeInteger s).2).2
  by_cases hn : (takeInteger s).1 = []
  · simp only [hn, if_true]
    exact advances_error (by decide)
  · have hlt := length_takeInteger_lt hn
    simp only [hn, if_false]
    split_ifs
    · exact advances_error (by decide)
    · exact advances_ok hlt
    · exact advances_ok hlt
    · exact advances_ok (by omega)

theorem length_drop_lt {s p : PyStr} {n : Nat} (h : s.startsWith p) (hn : p.length = n)
    (hpos : 0 < n) : (s.drop n).length < s.length := by
  have hle := (List.isPrefixOf_iff_prefix.mp h).length_le
  rw [List.length_drop]
  omega

theorem scanLiteral_advances (I : Interp) (s : PyStr) : Advances s (scanLiteral I s) := by
  unfold scanLiteral
  split_ifs with h₁ h₂ h₃ h₄ h₅ h₆
  · exact advances_ok (length_drop_lt h₁ rfl (by omega))
  · exact advances_ok (length_drop_lt h₂ rfl (by omega))
  · exact advances_ok (length_drop_lt h₃ rfl (by omega))
  · exact advances_ok (length_drop_lt h₄ rfl (by omega))
  · exact advances_ok (length_drop_lt h₅ rfl (by omega))
  · exact advances_ok (length_drop_lt h₆ rfl (by omega))
  · match s with
    | [] => exact advances_error (by decide)
    | c :: s =>
      by_cases hc : c.val = 0x2D
      · simp only [hc, if_true]
        exact (scanNumber_advances I true s).mono (by simp)
      · simp only [hc, if_false]
        exact scanNumber_advances I false (c :: s)

theorem scanKey_advances (s : PyStr) : Advances s (scanKey s) := by
  match s with
  | [] => exact advances_error (by decide)
  | c :: s =>
    simp only [scanKey]
    split_ifs with hc
    · cases hs : scanString s with
      | none => exact advances_error (by decide)
      | some r =>
        have hr := length_scanString hs
        have hw := length_skipWs_le r.2
        simp only
        split
        · exact advances_error (by decide)
        · next c' s' hws =>
          have hs' := length_skipWs_le s'
          rw [hws, List.length_cons] at hw
          split_ifs
          · exact advances_ok (by rw [List.length_cons]; omega)
          · exact advances_error (by decide)
    · exact advances_error (by decide)

theorem scan_fuel (I : Interp) : ∀ (fuel depth : Nat) (s : PyStr),
    (2 * s.length + 1 ≤ fuel → Advances s (scanOnce I fuel depth s)) ∧
    (2 * s.length + 2 ≤ fuel → Advances s (scanElements I fuel depth s)) ∧
    (2 * s.length + 2 ≤ fuel → Advances s (scanMembers I fuel depth s)) := by
  intro fuel
  induction fuel with
  | zero => intro depth s; exact ⟨by omega, by omega, by omega⟩
  | succ fuel ih =>
    intro depth s
    -- elements and members call `scanOnce` on the same text, so they need one step more
    refine ⟨fun hfuel => ?_, fun hfuel => ?_, fun hfuel => ?_⟩
    · match s with
      | [] => exact advances_error (by decide)
      | c :: s =>
        have hws := length_skipWs_le s
        rw [List.length_cons] at hfuel
        unfold scanOnce
        split_ifs
        · cases hs : scanString s with
          | none => exact advances_error (by decide)
          | some r => exact advances_ok (Nat.lt_succ_of_lt (length_scanString hs))
        -- an array: the bracket pays for the two steps inside
        · split
          · exact advances_error (by decide)
          · exact advances_error (by decide)
          · next depth c' s' hw =>
            rw [hw, List.length_cons] at hws
            split_ifs
            · exact advances_ok (by rw [List.length_cons]; omega)
            · refine ((ih depth (c' :: s')).2.1 (by rw [List.length_cons]; omega)).bind ?_
              intro xs rest hlt
              exact advances_ok (by rw [List.length_cons] at *; omega)
        · split
          · exact advances_error (by decide)
          · exact advances_error (by decide)
          · next depth c' s' hw =>
            rw [hw, List.length_cons] at hws
            split_ifs
            · exact advances_ok (by rw [List.length_cons]; omega)
            · refine ((ih depth (c' :: s')).2.2 (by rw [List.length_cons]; omega)).bind ?_
              intro members rest hlt
              exact advances_ok (by rw [List.length_cons] at *; omega)
        · exact scanLiteral_advances I (c :: s)
    · unfold scanElements
      refine ((ih depth s).1 (by omega)).bind fun x rest hlt => ?_
      have hws := length_skipWs_le rest
      simp only
      split
      · exact advances_error (by decide)
      · next c s' hw =>
        rw [hw, List.length_cons] at hws
        have hs' := length_skipWs_le s'
        split_ifs
        · exact advances_ok (by omega)
        · refine ((ih depth (skipWs s')).2.1 (by omega)).bind fun xs rest' hlt' => ?_
          exact advances_ok (show rest'.length < s.length by omega)
        · exact advances_error (by decide)
    · unfold scanMembers
      refine (scanKey_advances s).bind fun key rest hkey => ?_
      refine ((ih depth rest).1 (by omega)).bind fun x rest hlt => ?_
      have hws := length_skipWs_le rest
      simp only
      split
      · exact advances_error (by decide)
      · next c s' hw =>
        rw [hw, List.length_cons] at hws
        have hs' := length_skipWs_le s'
        split_ifs
        · exact advances_ok (by omega)
        · refine ((ih depth (skipWs s')).2.2 (by omega)).bind fun members rest' hlt' => ?_
          exact advances_ok (show rest'.length < s.length by omega)
        · exact advances_error (by decide)

/-- The step count of `loads` is never used up. -/
theorem loads_fuel (I : Interp) (s : PyStr) :
    scanOnce I (scanFuel s) I.loads_depth (skipWs s) ≠ .error .fuel := by
  have hws := length_skipWs_le s
  exact ((scan_fuel I (scanFuel s) I.loads_depth (skipWs s)).1 (by unfold scanFuel; omega)).1

end Json

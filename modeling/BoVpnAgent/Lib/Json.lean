import Mathlib.Algebra.Group.Int.Defs
import Mathlib.Algebra.Group.Nat.Defs
import Mathlib.Data.List.Sort
import BoVpnAgent.Lib.Dict
import BoVpnAgent.Lib.Utf8

/-! # JSON values

    The values that `json.loads` returns: the dictionaries, lists, strings
    and numbers of Python.  An object keeps its fields in insertion order.

    This file defines:
    - `Json.All`: every string and every integer of a tree meets a condition
    - `Interp`: what the model takes from the interpreter and does not define
    - `dumps` and its text, for the options the programs use
    - the two ways in which rendering a tree and encoding it can fail
-/

/-- A Python float: `± m * 2 ^ e`, an infinity or not a number. -/
inductive PyFloat where
  | nan
  | inf (neg : Bool)
  | fin (neg : Bool) (m : Nat) (e : Int)
  deriving DecidableEq

/-- A JSON value. -/
inductive Json where
  | null
  | bool (b : Bool)
  | int (n : Int)
  | float (x : PyFloat)
  | str (s : PyStr)
  | arr (xs : List Json)
  | obj (fields : List (PyStr × Json))

/-- The exceptions of the language and of its library. -/
inductive Builtin where
  | valueError
  | typeError
  | overflowError
  | recursionError
  | memoryError
  | jsonDecodeError
  | unicodeDecodeError
  | unicodeEncodeError
  | osError
  | attributeError
  | runtimeError
  deriving DecidableEq

/-- `int(x)` of a float -/
def PyFloat.trunc : PyFloat → Except Builtin Int
  | nan => .error .valueError
  | inf _ => .error .overflowError
  | fin neg m e =>
    let n : Nat := m * 2 ^ e.toNat / 2 ^ (-e).toNat
    .ok (if neg then -(n : Int) else n)

namespace Json

instance : Inhabited Json := ⟨null⟩

/-- The fields of a JSON object. -/
abbrev Fields := List (PyStr × Json)

/-- `d.get(key)`; `none` when the key is missing. -/
def get? (d : Fields) (key : PyStr) : Option Json := Dict.lookup key d

/-- `bool(x)` -/
def truthy : Json → Bool
  | null => false
  | bool b => b
  | int n => n ≠ 0
  | float x => match x with
    | .fin _ m _ => m ≠ 0
    | _ => true
  | str s => s ≠ []
  | arr xs => !xs.isEmpty
  | obj fields => !fields.isEmpty

/-- The value unless it is `None`. -/
def unlessNull : Json → Option Json
  | null => none
  | j => some j

/-- The value if it is truthy. -/
def ifTruthy (j : Json) : Option Json := if j.truthy then some j else none

/-- A field that is present when there is a value for it. -/
def optional (key : PyStr) (value : Option Json) : Fields :=
  (value.map fun x => (key, x)).toList

theorem forall_mem_optional {p : PyStr × Json → Prop} {key : PyStr} {value : Option Json} :
    (∀ e ∈ optional key value, p e) ↔ ∀ x ∈ value, p (key, x) := by
  cases value <;> simp [optional]

/-- `isinstance(x, str)` -/
def isStr : Json → Bool
  | str _ => true
  | _ => false

/-- `isinstance(x, dict)` -/
def isObj : Json → Bool
  | obj _ => true
  | _ => false

/-- `list(x)`; `none` when it raises `TypeError`. -/
def iter? : Json → Option (List Json)
  | str s => some (s.map fun c => str [c])
  | arr xs => some xs
  | obj fields => some (fields.map fun e => str e.1)
  | _ => none

/-! ### Trees -/

mutual

/-- The nesting depth of containers. -/
def depth : Json → Nat
  | arr xs => 1 + depthList xs
  | obj fields => 1 + depthFields fields
  | _ => 0

def depthList : List Json → Nat
  | [] => 0
  | x :: xs => max (depth x) (depthList xs)

def depthFields : List (PyStr × Json) → Nat
  | [] => 0
  | (_, x) :: fields => max (depth x) (depthFields fields)

end

mutual

/-- Every string of the tree, keys included, meets `P`, and every integer `Q`. -/
def All (P : PyStr → Prop) (Q : Int → Prop) : Json → Prop
  | str s => P s
  | int n => Q n
  | arr xs => AllList P Q xs
  | obj fields => AllFields P Q fields
  | _ => True

def AllList (P : PyStr → Prop) (Q : Int → Prop) : List Json → Prop
  | [] => True
  | x :: xs => All P Q x ∧ AllList P Q xs

def AllFields (P : PyStr → Prop) (Q : Int → Prop) : List (PyStr × Json) → Prop
  | [] => True
  | (k, x) :: fields => P k ∧ All P Q x ∧ AllFields P Q fields

end

variable {P : PyStr → Prop} {Q : Int → Prop}

theorem allList_iff {xs : List Json} : AllList P Q xs ↔ ∀ x ∈ xs, All P Q x := by
  induction xs with
  | nil => simp [AllList]
  | cons x xs ih => simp [AllList, ih]

theorem allFields_iff {fields : Fields} :
    AllFields P Q fields ↔ ∀ e ∈ fields, P e.1 ∧ All P Q e.2 := by
  induction fields with
  | nil => simp [AllFields]
  | cons e fields ih => simp [AllFields, ih, and_assoc]

theorem all_obj {fields : Fields} :
    All P Q (obj fields) ↔ ∀ e ∈ fields, P e.1 ∧ All P Q e.2 := by
  rw [All, allFields_iff]

theorem mem_of_get? {d : Fields} {key : PyStr} {x : Json} (h : get? d key = some x) :
    (key, x) ∈ d := by
  unfold get? at h
  induction d with
  | nil => cases h
  | cons e d ih =>
    unfold Dict.lookup at h
    split at h
    · next he => cases h; rw [← he]; exact List.mem_cons_self
    · exact List.mem_cons_of_mem _ (ih h)

/-- A field of a tree that meets a condition meets it. -/
theorem All.get? {d : Fields} {key : PyStr} {x : Json} (h : All P Q (obj d))
    (hx : Json.get? d key = some x) : All P Q x :=
  (all_obj.mp h _ (mem_of_get? hx)).2

end Json

/-! ### The interpreter -/

/-- What the model takes from the interpreter: its limits, and library
    functions whose results the programs only pass on. -/
structure Interp where
  /-- `sys.get_int_max_str_digits()`; no smaller limit than 640 can be set. -/
  int_max_str_digits : Nat
  digits_min : 640 ≤ int_max_str_digits
  /-- The nesting at which `json.loads` meets the recursion limit; the
      interpreter itself needs more than this. -/
  loads_depth : Nat
  loads_min : 8 ≤ loads_depth
  /-- The nesting at which `json.dumps` meets it. -/
  dumps_depth : Nat
  dumps_min : 8 ≤ dumps_depth
  /-- The largest buffer that can be allocated for a read, at least a
      mebibyte. -/
  max_read : Nat
  read_min : 1048576 ≤ max_read
  /-- `threading.TIMEOUT_MAX` -/
  timeout_max : Nat
  /-- `repr` of a float -/
  float_repr : PyFloat → String
  float_repr_ne : ∀ x, float_repr x ≠ ""
  /-- `str` of a list or a dictionary -/
  container_str : Json → String
  container_str_ne : ∀ j, container_str j ≠ ""
  /-- `hashlib.sha256(..).hexdigest()` -/
  sha256_hexdigest : Bytes → PyStr
  /-- `datetime.isoformat` of a UTC time in microseconds -/
  isoformat : Int → String

namespace Json

variable (I : Interp)

/-! ### `json.dumps` -/

/-- The options of `json.dumps` that the programs use. -/
structure DumpOptions where
  sort_keys : Bool
  ensure_ascii : Bool
  item_separator : String
  key_separator : String

/-- One hexadecimal digit, in lower case. -/
def hexDigit (n : Nat) : CodePoint := Fin.ofNat 0x110000 (if n < 10 then 0x30 + n else 0x57 + n)

/-- The escape `\uXXXX` of a 16-bit unit. -/
def unicodeEscape (n : Nat) : PyStr :=
  [0x5C, 0x75, hexDigit (n / 4096 % 16), hexDigit (n / 256 % 16), hexDigit (n / 16 % 16),
    hexDigit (n % 16)]

/-- One character inside a JSON string. -/
def escapeChar (ensure_ascii : Bool) (c : CodePoint) : PyStr :=
  if c.val = 0x22 then "\\\"".py
  else if c.val = 0x5C then "\\\\".py
  else if c.val = 0x0A then "\\n".py
  else if c.val = 0x0D then "\\r".py
  else if c.val = 0x09 then "\\t".py
  else if c.val = 0x0C then "\\f".py
  else if c.val = 0x08 then "\\b".py
  else if c.val < 0x20 then unicodeEscape c.val
  else if ensure_ascii ∧ 0x7F ≤ c.val then
    if c.val < 0x10000 then unicodeEscape c.val
    else unicodeEscape (0xD800 + (c.val - 0x10000) / 1024) ++
      unicodeEscape (0xDC00 + (c.val - 0x10000) % 1024)
  else [c]

/-- A string as JSON text. -/
def escape (ensure_ascii : Bool) (s : PyStr) : PyStr :=
  [0x22] ++ s.flatMap (escapeChar ensure_ascii) ++ [0x22]

/-- `repr(n)` -/
def intRepr (n : Int) : PyStr :=
  (if n < 0 then [0x2D] else []) ++ (Nat.toDigits 10 n.natAbs).map Char.codePoint

/-- The order of strings by code points. -/
def strLE : PyStr → PyStr → Bool
  | [], _ => true
  | _ :: _, [] => false
  | a :: s, b :: t => if a = b then strLE s t else a < b

/-- The fields in the order they are written. -/
def order (sort_keys : Bool) (fields : List (PyStr × PyStr)) : List (PyStr × PyStr) :=
  if sort_keys then fields.insertionSort (fun a b => strLE a.1 b.1) else fields

/-- The text of a float, which for those that JSON does not have is not its
    `repr`. -/
def floatText : PyFloat → PyStr
  | .nan => "NaN".py
  | .inf neg => if neg then "-Infinity".py else "Infinity".py
  | .fin neg m e => (I.float_repr (.fin neg m e)).py

mutual

/-- The text of `json.dumps`. -/
def render (o : DumpOptions) : Json → PyStr
  | null => "null".py
  | bool b => if b then "true".py else "false".py
  | int n => intRepr n
  | float x => floatText I x
  | str s => escape o.ensure_ascii s
  | arr xs => [0x5B] ++ PyStr.join o.item_separator.py (renderList o xs) ++ [0x5D]
  | obj fields =>
    [0x7B] ++
      PyStr.join o.item_separator.py ((order o.sort_keys (renderFields o fields)).map fun e =>
        escape o.ensure_ascii e.1 ++ o.key_separator.py ++ e.2) ++
      [0x7D]

def renderList (o : DumpOptions) : List Json → List PyStr
  | [] => []
  | x :: xs => render o x :: renderList o xs

def renderFields (o : DumpOptions) : List (PyStr × Json) → List (PyStr × PyStr)
  | [] => []
  | (k, x) :: fields => (k, render o x) :: renderFields o fields

end

/-- The integer is short enough to be converted to text. -/
def DigitsWithin (limit : Nat) (n : Int) : Prop := (Nat.toDigits 10 n.natAbs).length ≤ limit

instance (limit : Nat) (n : Int) : Decidable (DigitsWithin limit n) :=
  inferInstanceAs (Decidable (_ ≤ _))

mutual

/-- Every integer of the tree is short enough to be converted to text. -/
def intsWithin (limit : Nat) : Json → Bool
  | int n => decide (DigitsWithin limit n)
  | arr xs => intsWithinList limit xs
  | obj fields => intsWithinFields limit fields
  | _ => true

def intsWithinList (limit : Nat) : List Json → Bool
  | [] => true
  | x :: xs => intsWithin limit x && intsWithinList limit xs

def intsWithinFields (limit : Nat) : List (PyStr × Json) → Bool
  | [] => true
  | (_, x) :: fields => intsWithin limit x && intsWithinFields limit fields

end

/-- `json.dumps(j, ..)` -/
def dumps (o : DumpOptions) (j : Json) : Except Builtin PyStr :=
  if I.dumps_depth < j.depth then .error .recursionError
  else if j.intsWithin I.int_max_str_digits then .ok (render I o j)
  else .error .valueError

/-- `json.dumps(j, ..).encode("utf-8")` -/
def dumpsUtf8 (o : DumpOptions) (j : Json) : Except Builtin Bytes := do
  let text ← dumps I o j
  match Utf8.encode text with
  | some bytes => .ok bytes
  | none => .error .unicodeEncodeError

/-! ### Conversions -/

/-- The text of `str(x)`. -/
def strText : Json → PyStr
  | null => "None".py
  | bool b => if b then "True".py else "False".py
  | int n => intRepr n
  | float x => (I.float_repr x).py
  | str s => s
  | j => (I.container_str j).py

/-- `str(x)` -/
def toStr (j : Json) : Except Builtin PyStr :=
  if j.intsWithin I.int_max_str_digits then .ok (strText I j) else .error .valueError

/-- `int(x)` -/
def toInt : Json → Except Builtin Int
  | bool b => .ok (if b then 1 else 0)
  | int n => .ok n
  | float x => x.trunc
  | str s =>
    match PyStr.toInt I.int_max_str_digits s with
    | some n => .ok n
    | none => .error .valueError
  | _ => .error .typeError

/-- The tree can be rendered and encoded: it is not nested too deep, no
    integer is too long, no string has a lone surrogate. -/
structure Renderable (j : Json) : Prop where
  depth : j.depth ≤ I.dumps_depth
  leaves : j.All PyStr.Scalar (DigitsWithin I.int_max_str_digits)

/-! ### When rendering and encoding succeed -/

theorem scalar_escapeChar (c : CodePoint) :
    (escapeChar false c).Scalar ↔ c.isSurrogate = false := by
  have hlow : ∀ n, n < 0x80 → c.val = n → (c.isSurrogate = false ↔ True) := by
    intro n hn hc
    simp only [CodePoint.isSurrogate, hc, iff_true, Bool.and_eq_false_iff, decide_eq_false_iff_not]
    omega
  unfold escapeChar
  split_ifs with h₁ h₂ h₃ h₄ h₅ h₆ h₇ h₈ h₉
  · simpa using (hlow _ (by omega) h₁).mpr trivial
  · simpa using (hlow _ (by omega) h₂).mpr trivial
  · simpa using (hlow _ (by omega) h₃).mpr trivial
  · simpa using (hlow _ (by omega) h₄).mpr trivial
  · simpa using (hlow _ (by omega) h₅).mpr trivial
  · simpa using (hlow _ (by omega) h₆).mpr trivial
  · simpa using (hlow _ (by omega) h₇).mpr trivial
  · have hs : (unicodeEscape c.val).Scalar := by
      have hd : ∀ n, n < 16 → (hexDigit n).isSurrogate = false := by decide
      simp only [unicodeEscape, PyStr.scalar_cons, PyStr.scalar_nil, and_true]
      exact ⟨rfl, rfl, hd _ (by omega), hd _ (by omega), hd _ (by omega), hd _ (by omega)⟩
    simp only [hs, true_iff]
    exact (hlow _ (by omega) rfl).mpr trivial
  · simp at h₉
  · simp at h₉
  · simp

theorem scalar_flatMap_escapeChar (s : PyStr) :
    PyStr.Scalar (s.flatMap (escapeChar false)) ↔ s.Scalar := by
  induction s with
  | nil => simp
  | cons c s ih => simp [scalar_escapeChar, ih]

theorem scalar_escape (s : PyStr) : (escape false s).Scalar ↔ s.Scalar := by
  have hq : CodePoint.isSurrogate 0x22 = false := rfl
  simp [escape, scalar_flatMap_escapeChar, hq]

theorem scalar_intRepr (n : Int) : (intRepr n).Scalar := by
  have hdigits : PyStr.Scalar ((Nat.toDigits 10 n.natAbs).map Char.codePoint) := by
    intro c hc
    obtain ⟨ch, -, rfl⟩ := List.mem_map.mp hc
    exact PyStr.isSurrogate_codePoint ch
  unfold intRepr
  split
  · exact PyStr.scalar_append.mpr ⟨PyStr.scalar_cons.mpr ⟨rfl, PyStr.scalar_nil⟩, hdigits⟩
  · exact PyStr.scalar_append.mpr ⟨PyStr.scalar_nil, hdigits⟩

theorem scalar_floatText (I : Interp) (x : PyFloat) : (floatText I x).Scalar := by
  cases x with
  | nan => exact PyStr.scalar_py _
  | inf neg => cases neg <;> exact PyStr.scalar_py _
  | fin neg m e => exact PyStr.scalar_py _

theorem mem_order {b : Bool} {fields : List (PyStr × PyStr)} {e : PyStr × PyStr} :
    e ∈ order b fields ↔ e ∈ fields := by
  unfold order
  split
  · exact (List.perm_insertionSort _ fields).mem_iff
  · rfl

section render

variable {I} {o : DumpOptions} (ho : o.ensure_ascii = false) {limit : Nat}
include ho

mutual

theorem all_iff_render : ∀ j : Json, j.All PyStr.Scalar (DigitsWithin limit) ↔
    j.intsWithin limit = true ∧ (render I o j).Scalar
  | null => by simp [All, intsWithin, render]
  | bool b => by cases b <;> simp [All, intsWithin, render]
  | int n => by simp [All, intsWithin, render, scalar_intRepr]
  | float x => by simp [All, intsWithin, render, scalar_floatText]
  | str s => by simp [All, intsWithin, render, ho, scalar_escape]
  | arr xs => by
    have hopen : CodePoint.isSurrogate 0x5B = false := rfl
    have hclose : CodePoint.isSurrogate 0x5D = false := rfl
    simp only [All, intsWithin, render, all_iff_render_list xs, PyStr.scalar_append,
      PyStr.scalar_cons, PyStr.scalar_nil, PyStr.scalar_join (PyStr.scalar_py _), hopen, hclose, true_and,
      and_true]
  | obj fields => by
    have hopen : CodePoint.isSurrogate 0x7B = false := rfl
    have hclose : CodePoint.isSurrogate 0x7D = false := rfl
    simp only [All, intsWithin, render, all_iff_render_fields fields, PyStr.scalar_append,
      PyStr.scalar_cons, PyStr.scalar_nil, PyStr.scalar_join (PyStr.scalar_py _), hopen, hclose, true_and,
      and_true, List.mem_map, forall_exists_index, and_imp,
      forall_apply_eq_imp_iff₂, ho, scalar_escape, PyStr.scalar_py, mem_order]

theorem all_iff_render_list : ∀ xs : List Json,
    AllList PyStr.Scalar (DigitsWithin limit) xs ↔
      intsWithinList limit xs = true ∧ ∀ p ∈ renderList I o xs, PyStr.Scalar p
  | [] => by simp [AllList, intsWithinList, renderList]
  | x :: xs => by
    simp only [AllList, intsWithinList, renderList, all_iff_render x, all_iff_render_list xs,
      Bool.and_eq_true, List.forall_mem_cons]
    tauto

theorem all_iff_render_fields : ∀ fields : List (PyStr × Json),
    AllFields PyStr.Scalar (DigitsWithin limit) fields ↔
      intsWithinFields limit fields = true ∧
        ∀ e ∈ renderFields I o fields, PyStr.Scalar e.1 ∧ PyStr.Scalar e.2
  | [] => by simp [AllFields, intsWithinFields, renderFields]
  | (k, x) :: fields => by
    simp only [AllFields, intsWithinFields, renderFields, all_iff_render x,
      all_iff_render_fields fields, Bool.and_eq_true, List.forall_mem_cons]
    tauto

end

/-- Without ASCII escapes, a tree is rendered and encoded exactly when it is
    `Renderable`. -/
theorem dumpsUtf8_ok_iff (j : Json) :
    (∃ bytes, dumpsUtf8 I o j = .ok bytes) ↔ Renderable I j := by
  have hleaves : j.All PyStr.Scalar (DigitsWithin I.int_max_str_digits) ↔ _ :=
    all_iff_render (I := I) ho j
  unfold dumpsUtf8 dumps
  by_cases hdepth : I.dumps_depth < j.depth
  · simp only [hdepth, if_true]
    constructor
    · rintro ⟨bytes, h⟩; cases h
    · intro h; exact absurd h.depth (by omega)
  · by_cases hints : j.intsWithin I.int_max_str_digits = true
    · simp only [hdepth, hints, if_true, if_false]
      have henc := Utf8.isSome_encode (render I o j)
      cases hs : Utf8.encode (render I o j) with
      | none =>
        simp only [hs, Option.isSome_none, Bool.false_eq_true, false_iff] at henc
        constructor
        · rintro ⟨bytes, h⟩; simp [bind, Except.bind, hs] at h
        · intro h; exact absurd (hleaves.mp h.leaves).2 henc
      | some bytes =>
        simp only [hs, Option.isSome_some, true_iff] at henc
        constructor
        · intro _; exact ⟨by omega, hleaves.mpr ⟨hints, henc⟩⟩
        · intro _; exact ⟨bytes, by simp [bind, Except.bind, hs]⟩
    · simp only [hdepth, hints, if_false]
      constructor
      · rintro ⟨bytes, h⟩; cases h
      · intro h; exact absurd (hleaves.mp h.leaves).1 hints

end render

/-! ### Trees that can be written out -/

/-- Every string of the tree can be encoded and every integer converted to
    text. -/
abbrev Clean (j : Json) : Prop := j.All PyStr.Scalar (DigitsWithin I.int_max_str_digits)

variable {I}

theorem Clean.getD {fields : Fields} (h : Clean I (obj fields)) (key : PyStr) {default : Json}
    (hdefault : Clean I default) : Clean I ((get? fields key).getD default) := by
  cases hx : get? fields key with
  | none => exact hdefault
  | some x => exact All.get? h hx

theorem Clean.toStr {j : Json} (h : Clean I j) : ∃ s, Json.toStr I j = .ok s ∧ s.Scalar := by
  have hints := ((all_iff_render (I := I) (o := ⟨false, false, ",", ":"⟩) rfl j).mp h).1
  refine ⟨strText I j, if_pos hints, ?_⟩
  cases j with
  | null => exact PyStr.scalar_py _
  | bool b => cases b <;> exact PyStr.scalar_py _
  | int n => exact scalar_intRepr n
  | float x => exact PyStr.scalar_py _
  | str s => simpa [All, strText] using h
  | arr xs => exact PyStr.scalar_py _
  | obj fields => exact PyStr.scalar_py _

/-- The tree can be written out inside `n` containers. -/
structure RenderableAt (I : Interp) (n : Nat) (j : Json) : Prop where
  depth : n + j.depth ≤ I.dumps_depth
  leaves : Clean I j

theorem renderable_iff {j : Json} : Renderable I j ↔ RenderableAt I 0 j :=
  ⟨fun h => ⟨by simpa using h.depth, h.leaves⟩, fun h => ⟨by simpa using h.depth, h.leaves⟩⟩

theorem depthList_le {n : Nat} {xs : List Json} : depthList xs ≤ n ↔ ∀ x ∈ xs, x.depth ≤ n := by
  induction xs with
  | nil => simp [depthList]
  | cons x xs ih => simp [depthList, ih]

theorem depthFields_le {n : Nat} {fields : Fields} :
    depthFields fields ≤ n ↔ ∀ e ∈ fields, e.2.depth ≤ n := by
  induction fields with
  | nil => simp [depthFields]
  | cons e fields ih => simp [depthFields, ih]

theorem renderableAt_str {n : Nat} {s : PyStr} (hn : n ≤ I.dumps_depth) :
    RenderableAt I n (str s) ↔ s.Scalar :=
  ⟨fun h => h.leaves, fun h => ⟨by simpa [depth] using hn, h⟩⟩

theorem renderableAt_arr {n : Nat} {xs : List Json} (hn : n + 1 ≤ I.dumps_depth) :
    RenderableAt I n (arr xs) ↔ ∀ x ∈ xs, RenderableAt I (n + 1) x := by
  constructor
  · intro h x hx
    have hd := depthList_le.mp (le_refl _) x hx
    have hdepth := h.depth
    simp only [depth] at hdepth
    exact ⟨by omega, allList_iff.mp (by simpa [All] using h.leaves) x hx⟩
  · intro h
    have hd : depthList xs ≤ I.dumps_depth - (n + 1) :=
      depthList_le.mpr fun x hx => by have := (h x hx).depth; omega
    refine ⟨by simp only [depth]; omega, ?_⟩
    simp only [All]
    exact allList_iff.mpr fun x hx => (h x hx).leaves

theorem renderableAt_obj {n : Nat} {fields : Fields} (hn : n + 1 ≤ I.dumps_depth) :
    RenderableAt I n (obj fields) ↔ ∀ e ∈ fields, e.1.Scalar ∧ RenderableAt I (n + 1) e.2 := by
  constructor
  · intro h e he
    have hd := depthFields_le.mp (le_refl _) e he
    have hdepth := h.depth
    simp only [depth] at hdepth
    obtain ⟨hkey, hvalue⟩ := all_obj.mp h.leaves e he
    exact ⟨hkey, by omega, hvalue⟩
  · intro h
    have hd : depthFields fields ≤ I.dumps_depth - (n + 1) :=
      depthFields_le.mpr fun e he => by have := (h e he).2.depth; omega
    refine ⟨by simp only [depth]; omega, ?_⟩
    exact all_obj.mpr fun e he => ⟨(h e he).1, (h e he).2.leaves⟩

end Json

import BoVpnAgent.Lib.PyStr

/-! # UTF-8

    `s.encode("utf-8")` and `b.decode("utf-8", errors=..)` as CPython has
    them: the encoder raises on a surrogate, the decoder rejects overlong
    forms and encoded surrogates and reports one error for each maximal
    ill-formed part.
-/

/-- Bytes. -/
abbrev Bytes := List UInt8

namespace Utf8

/-! ### Encoding -/

/-- The bytes of one code point; `none` for a surrogate. -/
def encodeCodePoint (c : CodePoint) : Option Bytes :=
  let n := c.val
  if c.isSurrogate then none
  else if n < 0x80 then some [n.toUInt8]
  else if n < 0x800 then some [(0xC0 + n / 64).toUInt8, (0x80 + n % 64).toUInt8]
  else if n < 0x10000 then
    some [(0xE0 + n / 4096).toUInt8, (0x80 + n / 64 % 64).toUInt8, (0x80 + n % 64).toUInt8]
  else
    some [(0xF0 + n / 262144).toUInt8, (0x80 + n / 4096 % 64).toUInt8,
      (0x80 + n / 64 % 64).toUInt8, (0x80 + n % 64).toUInt8]

/-- `s.encode("utf-8")`; `none` when it raises `UnicodeEncodeError`. -/
def encode : PyStr → Option Bytes
  | [] => some []
  | c :: s => do
    let b ← encodeCodePoint c
    let bs ← encode s
    return b ++ bs

theorem isSome_encodeCodePoint (c : CodePoint) :
    (encodeCodePoint c).isSome ↔ c.isSurrogate = false := by
  unfold encodeCodePoint
  cases c.isSurrogate with
  | true => simp
  | false => simp only [Bool.false_eq_true, if_false]; split_ifs <;> simp

theorem isSome_encode (s : PyStr) : (encode s).isSome ↔ s.Scalar := by
  induction s with
  | nil => simp [encode]
  | cons c s ih =>
    rw [PyStr.scalar_cons, ← ih, ← isSome_encodeCodePoint]
    cases h : encodeCodePoint c <;> cases h' : encode s <;> simp [encode, h, h']

/-! ### Decoding -/

/-- What a lead byte announces: the number of continuation bytes, its own
    bits, and the range of the first continuation byte. -/
def lead (b : Nat) : Option (Nat × Nat × Nat × Nat) :=
  if b < 0x80 then some (0, b, 0x80, 0xBF)
  else if b < 0xC2 then none
  else if b < 0xE0 then some (1, b - 0xC0, 0x80, 0xBF)
  else if b = 0xE0 then some (2, 0, 0xA0, 0xBF)
  else if b = 0xED then some (2, 0xD, 0x80, 0x9F)
  else if b < 0xF0 then some (2, b - 0xE0, 0x80, 0xBF)
  else if b = 0xF0 then some (3, 0, 0x90, 0xBF)
  else if b < 0xF4 then some (3, b - 0xF0, 0x80, 0xBF)
  else if b = 0xF4 then some (3, 4, 0x80, 0x8F)
  else none

/-- Reads `n` continuation bytes, the first in `[lo, hi]`.  An error is left
    with the bytes from the offending one on. -/
def continuation : Nat → Nat → Nat → Nat → Bytes → Except Bytes (Nat × Bytes)
  | 0, acc, _, _, bs => .ok (acc, bs)
  | _ + 1, _, _, _, [] => .error []
  | n + 1, acc, lo, hi, b :: bs =>
    if lo ≤ b.toNat ∧ b.toNat ≤ hi then
      continuation n (acc * 64 + (b.toNat - 0x80)) 0x80 0xBF bs
    else .error (b :: bs)

/-- One code point, or an error with the bytes after the ill-formed part. -/
def decodeOne (b : UInt8) (bs : Bytes) : Except Bytes (CodePoint × Bytes) :=
  match lead b.toNat with
  | none => .error bs
  | some (n, bits, lo, hi) =>
    match continuation n bits lo hi bs with
    | .error rest => .error rest
    | .ok (v, rest) => .ok (Fin.ofNat 0x110000 v, rest)

/-- The decoder; every code point takes at least one byte of `fuel`. -/
def decodeFuel (onError : Option PyStr) : Nat → Bytes → Option PyStr
  | 0, _ => some []
  | _ + 1, [] => some []
  | fuel + 1, b :: bs =>
    match decodeOne b bs with
    | .ok (c, rest) => (decodeFuel onError fuel rest).map (c :: ·)
    | .error rest => do
      let r ← onError
      let s ← decodeFuel onError fuel rest
      return r ++ s

/-- `b.decode("utf-8")`; `none` when it raises `UnicodeDecodeError`. -/
def decode (bs : Bytes) : Option PyStr := decodeFuel none bs.length bs

/-- `b.decode("utf-8", errors="replace")` -/
def decodeReplace (bs : Bytes) : PyStr :=
  (decodeFuel (some [0xFFFD]) bs.length bs).getD []

/-! ### Decoded text is scalar -/

theorem continuation_ok {n acc lo hi : Nat} {bs rest : Bytes} {v : Nat}
    (h : continuation n acc lo hi bs = .ok (v, rest)) :
    (n = 0 ∧ v = acc) ∨
    (∃ x, lo ≤ x ∧ x ≤ hi ∧ n = 1 ∧ v = acc * 64 + (x - 0x80)) ∨
    (∃ x y, lo ≤ x ∧ x ≤ hi ∧ y < 64 ∧ n = 2 ∧ v = (acc * 64 + (x - 0x80)) * 64 + y) ∨
    (∃ x y z, lo ≤ x ∧ x ≤ hi ∧ y < 64 ∧ z < 64 ∧ n = 3 ∧
      v = ((acc * 64 + (x - 0x80)) * 64 + y) * 64 + z) ∨ 3 < n := by
  match n, bs with
  | 0, _ => simp only [continuation, Except.ok.injEq, Prod.mk.injEq] at h; exact .inl ⟨rfl, h.1.symm⟩
  | 1, x :: bs =>
    simp only [continuation] at h
    split_ifs at h with hx
    simp only [Except.ok.injEq, Prod.mk.injEq] at h
    exact .inr (.inl ⟨_, hx.1, hx.2, rfl, h.1.symm⟩)
  | 2, x :: y :: bs =>
    simp only [continuation] at h
    split_ifs at h with hx hy
    simp only [Except.ok.injEq, Prod.mk.injEq] at h
    exact .inr (.inr (.inl ⟨_, y.toNat - 0x80, hx.1, hx.2, by omega, rfl, h.1.symm⟩))
  | 3, x :: y :: z :: bs =>
    simp only [continuation] at h
    split_ifs at h with hx hy hz
    simp only [Except.ok.injEq, Prod.mk.injEq] at h
    exact .inr (.inr (.inr (.inl
      ⟨_, y.toNat - 0x80, z.toNat - 0x80, hx.1, hx.2, by omega, by omega, rfl, h.1.symm⟩)))
  | n + 4, _ => exact .inr (.inr (.inr (.inr (by omega))))
  | 1, [] | 2, [] | 3, [] => simp [continuation] at h
  | 2, [x] => simp only [continuation] at h; split_ifs at h
  | 3, [x] => simp only [continuation] at h; split_ifs at h
  | 3, [x, y] => simp only [continuation] at h; split_ifs at h

theorem decodeOne_scalar {b : UInt8} {bs rest : Bytes} {c : CodePoint}
    (h : decodeOne b bs = .ok (c, rest)) : c.isSurrogate = false := by
  unfold decodeOne at h
  split at h
  · cases h
  · next n bits lo hi hlead =>
    split at h
    · cases h
    · next v rest' hcont =>
      simp only [Except.ok.injEq, Prod.mk.injEq] at h
      obtain ⟨rfl, rfl⟩ := h
      suffices hv : (v < 0xD800 ∨ 0xDFFF < v) ∧ v < 0x110000 by
        have hval : (Fin.ofNat 0x110000 v).val = v := Nat.mod_eq_of_lt hv.2
        simp only [CodePoint.isSurrogate, hval, Bool.and_eq_false_iff, decide_eq_false_iff_not]
        omega
      unfold lead at hlead
      split_ifs at hlead <;> simp only [Option.some.injEq, Prod.mk.injEq] at hlead <;>
        obtain ⟨rfl, rfl, rfl, rfl⟩ := hlead <;>
        obtain ⟨_, hv⟩ | ⟨x, _, _, hn, hv⟩ | ⟨x, y, _, _, _, hn, hv⟩ |
          ⟨x, y, z, _, _, _, _, hn, hv⟩ | hn := continuation_ok hcont <;>
        omega

theorem decodeFuel_scalar {onError : Option PyStr} (he : ∀ r ∈ onError, r.Scalar) :
    ∀ {fuel : Nat} {bs : Bytes} {s : PyStr}, decodeFuel onError fuel bs = some s → s.Scalar
  | 0, _, s, h => by cases h; simp
  | _ + 1, [], s, h => by cases h; simp
  | fuel + 1, b :: bs, s, h => by
    simp only [decodeFuel] at h
    split at h
    · next c rest hone =>
      obtain ⟨s', hs', rfl⟩ := Option.map_eq_some_iff.mp h
      exact PyStr.scalar_cons.mpr ⟨decodeOne_scalar hone, decodeFuel_scalar he hs'⟩
    · next rest hone =>
      cases hr : onError with
      | none => simp [hr] at h
      | some r =>
        simp only [hr, Option.bind_eq_bind, Option.bind_some, Option.bind_eq_some_iff] at h
        obtain ⟨s', hs', heq⟩ := h
        obtain rfl : r ++ s' = s := by simpa using heq
        exact PyStr.scalar_append.mpr ⟨he r hr, decodeFuel_scalar (hr ▸ he) hs'⟩

theorem decodeReplace_scalar (bs : Bytes) : (decodeReplace bs).Scalar := by
  unfold decodeReplace
  cases h : decodeFuel (some [0xFFFD]) bs.length bs with
  | none => simp
  | some s =>
    refine decodeFuel_scalar ?_ h
    intro r hr
    obtain rfl := Option.some.inj hr
    exact PyStr.scalar_cons.mpr ⟨rfl, PyStr.scalar_nil⟩

/-! ### Round trip -/

theorem toNat_toUInt8 {n : Nat} (hn : n < 256) : n.toUInt8.toNat = n := by
  show n % 256 = n
  omega

theorem lead_two {v : Nat} (h : ¬ v < 0x80) (h' : v < 0x800) :
    lead (0xC0 + v / 64) = some (1, v / 64, 0x80, 0xBF) := by
  unfold lead
  rw [if_neg (by omega), if_neg (by omega), if_pos (by omega), Nat.add_sub_cancel_left]

/-- The first continuation byte of three is in the range that the lead byte
    allows. -/
theorem lead_three {v : Nat} (h : ¬ v < 0x800) (h' : v < 0x10000)
    (hscalar : ¬ (0xD800 ≤ v ∧ v ≤ 0xDFFF)) :
    ∃ lo hi, lead (0xE0 + v / 4096) = some (2, v / 4096, lo, hi) ∧
      lo ≤ 0x80 + v / 64 % 64 ∧ 0x80 + v / 64 % 64 ≤ hi := by
  unfold lead
  rw [if_neg (by omega), if_neg (by omega), if_neg (by omega)]
  split
  -- an overlong form is left out
  · next he =>
    have hzero : v / 4096 = 0 := by omega
    exact ⟨0xA0, 0xBF, by rw [hzero], by omega, by omega⟩
  · split
    -- the range of the surrogates is left out
    · next he =>
      have hd : v / 4096 = 0xD := by omega
      exact ⟨0x80, 0x9F, by rw [hd], by omega, by omega⟩
    · rw [if_pos (by omega), Nat.add_sub_cancel_left]
      exact ⟨0x80, 0xBF, rfl, by omega, by omega⟩

/-- The first continuation byte of four likewise. -/
theorem lead_four {v : Nat} (h : ¬ v < 0x10000) (h' : v < 0x110000) :
    ∃ lo hi, lead (0xF0 + v / 262144) = some (3, v / 262144, lo, hi) ∧
      lo ≤ 0x80 + v / 4096 % 64 ∧ 0x80 + v / 4096 % 64 ≤ hi := by
  unfold lead
  rw [if_neg (by omega), if_neg (by omega), if_neg (by omega), if_neg (by omega),
    if_neg (by omega), if_neg (by omega)]
  split
  -- an overlong form is left out
  · next he =>
    have hzero : v / 262144 = 0 := by omega
    exact ⟨0x90, 0xBF, by rw [hzero], by omega, by omega⟩
  · split
    · rw [Nat.add_sub_cancel_left]
      exact ⟨0x80, 0xBF, rfl, by omega, by omega⟩
    -- nothing above the last code point
    · rw [if_pos (by omega)]
      have hfour : v / 262144 = 4 := by omega
      exact ⟨0x80, 0x8F, by rw [hfour], by omega, by omega⟩

/-- The bytes of a code point are read back, whatever follows them. -/
theorem decodeOne_encodeCodePoint {c : CodePoint} {bs : Bytes}
    (h : encodeCodePoint c = some bs) (rest : Bytes) :
    ∃ b bs', bs = b :: bs' ∧ decodeOne b (bs' ++ rest) = .ok (c, rest) := by
  have hlt := c.isLt
  have hval : ∀ v : Nat, v = c.val → (Fin.ofNat 0x110000 v : CodePoint) = c := by
    rintro v rfl
    exact Fin.ext (Nat.mod_eq_of_lt c.isLt)
  unfold encodeCodePoint at h
  simp only at h
  split at h
  · cases h
  · next hsurrogate =>
    have hscalar : ¬ (0xD800 ≤ c.val ∧ c.val ≤ 0xDFFF) := by
      simpa [CodePoint.isSurrogate] using hsurrogate
    split at h
    · next h1 =>
      cases h
      refine ⟨_, [], rfl, ?_⟩
      simp [decodeOne, lead, toNat_toUInt8 (show c.val < 256 by omega), h1, continuation,
        hval c.val rfl]
    · next h1 =>
      split at h
      · next h2 =>
        cases h
        refine ⟨_, [_], rfl, ?_⟩
        have hlead := lead_two h1 h2
        unfold decodeOne
        rw [toNat_toUInt8 (by omega), hlead]
        simp only [List.cons_append, List.nil_append, continuation]
        rw [toNat_toUInt8 (by omega), if_pos (by omega)]
        simp only [hval (c.val / 64 * 64 + (0x80 + c.val % 64 - 0x80)) (by omega)]
      · next h2 =>
        split at h
        · next h3 =>
          cases h
          refine ⟨_, [_, _], rfl, ?_⟩
          obtain ⟨lo, hi, hlead, hlo, hhi⟩ := lead_three h2 h3 hscalar
          unfold decodeOne
          rw [toNat_toUInt8 (by omega), hlead]
          simp only [List.cons_append, List.nil_append, continuation]
          rw [toNat_toUInt8 (by omega), if_pos ⟨hlo, hhi⟩, toNat_toUInt8 (by omega),
            if_pos (by omega)]
          simp only [hval ((c.val / 4096 * 64 + (0x80 + c.val / 64 % 64 - 0x80)) * 64 +
            (0x80 + c.val % 64 - 0x80)) (by omega)]
        · next h3 =>
          cases h
          refine ⟨_, [_, _, _], rfl, ?_⟩
          obtain ⟨lo, hi, hlead, hlo, hhi⟩ := lead_four h3 hlt
          unfold decodeOne
          rw [toNat_toUInt8 (by omega), hlead]
          simp only [List.cons_append, List.nil_append, continuation]
          rw [toNat_toUInt8 (by omega), if_pos ⟨hlo, hhi⟩, toNat_toUInt8 (by omega),
            if_pos (by omega), toNat_toUInt8 (by omega), if_pos (by omega)]
          simp only [hval (((c.val / 262144 * 64 + (0x80 + c.val / 4096 % 64 - 0x80)) * 64 +
            (0x80 + c.val / 64 % 64 - 0x80)) * 64 + (0x80 + c.val % 64 - 0x80)) (by omega)]

theorem decodeFuel_encode {onError : Option PyStr} {s : PyStr} {bs : Bytes}
    (h : encode s = some bs) {fuel : Nat} (hfuel : bs.length ≤ fuel) :
    decodeFuel onError fuel bs = some s := by
  induction s generalizing bs fuel with
  | nil =>
    cases h
    cases fuel <;> rfl
  | cons c s ih =>
    obtain ⟨b, hb, bs', hbs', heq⟩ : ∃ b, encodeCodePoint c = some b ∧ ∃ bs',
        encode s = some bs' ∧ b ++ bs' = bs := by
      simpa [encode, Option.bind_eq_some_iff] using h
    obtain ⟨b₀, b₁, rfl, hdecode⟩ := decodeOne_encodeCodePoint hb bs'
    subst heq
    cases fuel with
    | zero => simp at hfuel
    | succ fuel =>
      have hlen : bs'.length ≤ fuel := by
        simp only [List.cons_append, List.length_cons, List.length_append] at hfuel
        omega
      simp only [List.cons_append, decodeFuel, hdecode, ih hbs' hlen, Option.map_some]

/-- `s.encode("utf-8").decode("utf-8") == s` -/
theorem decode_encode {s : PyStr} {bs : Bytes} (h : encode s = some bs) : decode bs = some s :=
  decodeFuel_encode h (le_refl _)

example : encode "\u0436\u20ac".py = some [0xD0, 0xB6, 0xE2, 0x82, 0xAC] := by decide
example : decode [0xED, 0xA0, 0x80] = none := by decide
example : decodeReplace [0xE2, 0x82, 0x41] = [0xFFFD, 0x41] := by decide

end Utf8

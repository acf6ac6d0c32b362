import BoVpnAgent.Lib.Utf8

/-! # Cutting UTF-8

    `b[:k].decode("utf-8", errors="ignore")` for the bytes `b` of a text.  The
    cut may fall inside a code point; the decoder then finds the bytes before
    it to be the well-formed start of a sequence that ends too early, which is
    one ill-formed part, and leaves them out.  What it returns is the longest
    prefix of the text that fits into `k` bytes.
-/

namespace Utf8

/-- `b.decode("utf-8", errors="ignore")` -/
def decodeIgnore (bs : Bytes) : PyStr := (decodeFuel (some []) bs.length bs).getD []

/-! ### A sequence that ends too early -/

section continuation

variable {n acc lo hi v : Nat} {bs rest : Bytes}

/-- The bytes read are the first `n`. -/
theorem length_continuation (h : continuation n acc lo hi bs = .ok (v, rest)) :
    bs.length = n + rest.length := by
  induction n generalizing acc lo hi bs with
  | zero =>
    simp only [continuation, Except.ok.injEq, Prod.mk.injEq] at h
    simp [h.2]
  | succ n ih =>
    cases bs with
    | nil => simp [continuation] at h
    | cons b bs =>
      simp only [continuation] at h
      split_ifs at h with hb
      have hlen := ih h
      simp only [List.length_cons]
      omega

/-- With fewer than `n` bytes left there is an error, and nothing after it. -/
theorem continuation_take (h : continuation n acc lo hi bs = .ok (v, rest)) {k : Nat} (hk : k < n) :
    continuation n acc lo hi (bs.take k) = .error [] := by
  induction n generalizing acc lo hi bs k with
  | zero => omega
  | succ n ih =>
    cases bs with
    | nil => simp [continuation] at h
    | cons b bs =>
      cases k with
      | zero => rfl
      | succ k =>
        simp only [continuation] at h
        split_ifs at h with hb
        simp only [List.take_succ_cons, continuation, if_pos hb]
        exact ih h (by omega)

end continuation

/-- The sequence of one code point, cut after its lead byte or later. -/
theorem decodeOne_take {b : UInt8} {bs : Bytes} {c : CodePoint}
    (h : decodeOne b bs = .ok (c, [])) {k : Nat} (hk : k < bs.length) :
    decodeOne b (bs.take k) = .error [] := by
  unfold decodeOne at h ⊢
  cases hlead : lead b.toNat with
  | none => simp [hlead] at h
  | some l =>
    obtain ⟨n, bits, lo, hi⟩ := l
    simp only [hlead] at h ⊢
    cases hcont : continuation n bits lo hi bs with
    | error rest => simp [hcont] at h
    | ok read =>
      obtain ⟨v, rest⟩ := read
      simp only [hcont, Except.ok.injEq, Prod.mk.injEq] at h
      obtain rfl := h.2
      have hlen := length_continuation hcont
      simp only [List.length_nil, Nat.add_zero] at hlen
      rw [continuation_take hcont (by omega)]

/-! ### The longest prefix that fits -/

/-- The code points of `s`, from the first on, as long as their bytes fit
    into `k`. -/
def fitting : Nat → PyStr → PyStr
  | _, [] => []
  | k, c :: s =>
    match encodeCodePoint c with
    | none => []
    | some b => if b.length ≤ k then c :: fitting (k - b.length) s else []

/-- `s` takes at most `k` bytes. -/
def Fits (k : Nat) (s : PyStr) : Prop := ∃ bs, encode s = some bs ∧ bs.length ≤ k

theorem encode_cons_eq_some {c : CodePoint} {s : PyStr} {bs : Bytes} :
    encode (c :: s) = some bs ↔
      ∃ b bs', encodeCodePoint c = some b ∧ encode s = some bs' ∧ b ++ bs' = bs := by
  simp [encode, Option.bind_eq_some_iff]

theorem fits_nil (k : Nat) : Fits k [] := ⟨[], rfl, Nat.zero_le k⟩

theorem fits_cons {k : Nat} {c : CodePoint} {s : PyStr} :
    Fits k (c :: s) ↔ ∃ b, encodeCodePoint c = some b ∧ b.length ≤ k ∧ Fits (k - b.length) s := by
  constructor
  · rintro ⟨bs, hbs, hle⟩
    obtain ⟨b, bs', hb, hbs', rfl⟩ := encode_cons_eq_some.mp hbs
    rw [List.length_append] at hle
    exact ⟨b, hb, by omega, bs', hbs', by omega⟩
  · rintro ⟨b, hb, hle, bs', hbs', hle'⟩
    refine ⟨b ++ bs', encode_cons_eq_some.mpr ⟨b, bs', hb, hbs', rfl⟩, ?_⟩
    rw [List.length_append]
    omega

theorem fitting_starts (k : Nat) (s : PyStr) : fitting k s <+: s := by
  induction s generalizing k with
  | nil => exact List.prefix_refl []
  | cons c s ih =>
    unfold fitting
    split
    · exact List.nil_prefix
    · split_ifs
      · exact (List.prefix_cons_inj c).mpr (ih _)
      · exact List.nil_prefix

theorem fits_fitting (k : Nat) (s : PyStr) : Fits k (fitting k s) := by
  induction s generalizing k with
  | nil => exact fits_nil k
  | cons c s ih =>
    unfold fitting
    split
    · exact fits_nil k
    · next b hb =>
      split_ifs with hle
      · exact fits_cons.mpr ⟨b, hb, hle, ih _⟩
      · exact fits_nil k

/-- No longer prefix fits. -/
theorem length_le_fitting {k : Nat} {s other : PyStr} (hother : other <+: s)
    (hfits : Fits k other) : other.length ≤ (fitting k s).length := by
  induction s generalizing k other with
  | nil => simp [List.prefix_nil.mp hother]
  | cons c s ih =>
    cases other with
    | nil => exact Nat.zero_le _
    | cons c' other =>
      obtain ⟨rfl, hother'⟩ := List.cons_prefix_cons.mp hother
      obtain ⟨b, hb, hle, hfits'⟩ := fits_cons.mp hfits
      simp only [fitting, hb, if_pos hle, List.length_cons]
      exact Nat.succ_le_succ (ih hother' hfits')

/-- A text that fits is kept whole, and no other is. -/
theorem fitting_eq_self {k : Nat} {s : PyStr} : fitting k s = s ↔ Fits k s := by
  constructor
  · intro h
    have hfits := fits_fitting k s
    rwa [h] at hfits
  · intro h
    exact (fitting_starts k s).eq_of_length_le (length_le_fitting (List.prefix_refl s) h)

/-! ### Decoding a cut text -/

/-- What the decoder makes of the bytes of `s`, cut at `k`. -/
theorem decodeFuel_take {s : PyStr} {bs : Bytes} (h : encode s = some bs) {k fuel : Nat}
    (hfuel : (bs.take k).length ≤ fuel) :
    decodeFuel (some []) fuel (bs.take k) = some (fitting k s) := by
  -- by induction on the characters; each one uses up its bytes of `k`
  induction s generalizing bs k fuel with
  | nil =>
    cases h
    cases fuel <;> simp [decodeFuel, fitting]
  | cons c s ih =>
    obtain ⟨b, bs', hb, hbs', rfl⟩ := encode_cons_eq_some.mp h
    obtain ⟨b₀, b₁, rfl, hdecode⟩ := decodeOne_encodeCodePoint hb []
    rw [List.append_nil] at hdecode
    simp only [fitting, hb]
    cases k with
    | zero => cases fuel <;> simp [decodeFuel]
    | succ k =>
      cases fuel with
      | zero => simp at hfuel
      | succ fuel =>
        split_ifs with hle
        -- the code point lies before the cut
        · simp only [List.length_cons, Nat.add_le_add_iff_right] at hle
          obtain ⟨b₀', b₁', heq, hdecode'⟩ :=
            decodeOne_encodeCodePoint hb (bs'.take (k - b₁.length))
          obtain ⟨rfl, rfl⟩ := List.cons.inj heq
          have htake : (b₁ ++ bs').take k = b₁ ++ bs'.take (k - b₁.length) := by
            rw [List.take_append, List.take_of_length_le hle]
          have hfuel' : (bs'.take (k - b₁.length)).length ≤ fuel := by
            simp only [List.cons_append, List.take_succ_cons, htake, List.length_cons,
              List.length_append] at hfuel
            omega
          simp only [List.cons_append, List.take_succ_cons, htake, decodeFuel, hdecode',
            ih hbs' hfuel', Option.map_some, List.length_cons, Nat.add_sub_add_right]
        -- the cut falls inside it
        · simp only [List.length_cons, Nat.add_le_add_iff_right, Nat.not_le] at hle
          have htake : (b₁ ++ bs').take k = b₁.take k := List.take_append_of_le_length hle.le
          have hcut := decodeOne_take hdecode hle
          simp only [List.cons_append, List.take_succ_cons, htake, decodeFuel, hcut]
          cases fuel <;> rfl

/-- `s.encode("utf-8")[:k].decode("utf-8", errors="ignore")` -/
theorem decodeIgnore_take {s : PyStr} {bs : Bytes} (h : encode s = some bs) (k : Nat) :
    decodeIgnore (bs.take k) = fitting k s := by
  rw [decodeIgnore, decodeFuel_take h (le_refl _), Option.getD_some]

example : decodeIgnore [0xD0, 0xB6, 0xE2, 0x82] = "\u0436".py := by decide

end Utf8

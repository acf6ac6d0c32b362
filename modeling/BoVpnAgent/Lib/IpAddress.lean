import BoVpnAgent.Lib.Decimal

/-! # IP addresses as text

    What `ipaddress.ip_address` accepts: a dotted quad without leading
    zeros, or the text forms of an IPv6 address with at most one `::`, an
    embedded dotted quad and a scope id.  A dotted quad is the only text of
    its address (`ipv4Str_ipv4?`).
-/

namespace IpAddress

open CodePoint

/-- One octet of a dotted quad. -/
def octet? (s : PyStr) : Option Nat :=
  match s.mapM digit? with
  | none => none
  | some ds =>
    if ds = [] ∨ 3 < ds.length ∨ (ds.head? = some 0 ∧ 1 < ds.length) then none
    else if PyStr.digitsVal ds ≤ 255 then some (PyStr.digitsVal ds) else none

/-- `int(IPv4Address(s))`; `none` when it raises. -/
def ipv4? (s : PyStr) : Option Nat :=
  match (s.splitOn 0x2E).mapM octet? with
  | some [a, b, c, d] => some (((a * 256 + b) * 256 + c) * 256 + d)
  | _ => none

/-- The characters of a hextet. -/
def isHex (c : CodePoint) : Bool :=
  (0x30 ≤ c.val && c.val ≤ 0x39) || (0x41 ≤ c.val && c.val ≤ 0x46) ||
  (0x61 ≤ c.val && c.val ≤ 0x66)

/-- One group of an IPv6 address. -/
def isHextet (s : PyStr) : Bool := s ≠ [] && s.length ≤ 4 && s.all isHex

/-- The parts of an IPv6 address, a dotted quad at the end standing for two
    groups. -/
def ipv6Parts? (s : PyStr) : Option (List PyStr) :=
  let parts := s.splitOn 0x3A
  if parts.length < 3 then none
  else
    let last := parts.getLastD []
    if last.contains 0x2E then
      (ipv4? last).map fun _ => parts.dropLast ++ ["0".py, "0".py]
    else some parts

/-- The parts form an address: eight groups, or fewer around one `::`. -/
def ipv6PartsOk (parts : List PyStr) : Bool :=
  let inner := (List.range parts.length).filter fun i =>
    0 < i && i < parts.length - 1 && parts.getD i [] = []
  let headEmpty := parts.headD [] = []
  let lastEmpty := parts.getLastD [] = []
  if 9 < parts.length then false
  else
    match inner with
    | [] => parts.length = 8 && parts.all isHextet
    | [i] =>
      let hi := if headEmpty then i - 1 else i
      let lo := if lastEmpty then parts.length - i - 2 else parts.length - i - 1
      !(headEmpty && hi ≠ 0) && !(lastEmpty && lo ≠ 0) && hi + lo < 8 &&
        (parts.take hi).all isHextet && (parts.drop (parts.length - lo)).all isHextet
    | _ => false

/-- `IPv6Address(s)` does not raise. -/
def isIpv6 (s : PyStr) : Bool :=
  let addr := s.takeWhile (· ≠ 0x25)
  let scope := (s.dropWhile (· ≠ 0x25)).drop 1
  let scopeOk := addr = s || (scope ≠ [] && !scope.contains 0x25)
  scopeOk && !s.contains 0x2F &&
    match ipv6Parts? addr with
    | some parts => ipv6PartsOk parts
    | none => false

/-- `ipaddress.ip_address(s)` does not raise. -/
def isAddress (s : PyStr) : Bool := (ipv4? s).isSome || isIpv6 s

/-- `address in ip_network((network, length))` for IPv4 -/
def inNetwork (network length address : Nat) : Bool :=
  address / 2 ^ (32 - length) == network / 2 ^ (32 - length)

/-! ### The text of an address -/

/-- `str(IPv4Address(address))` -/
def ipv4Str (address : Nat) : PyStr :=
  PyStr.join ".".py ([address / 0x1000000, address / 0x10000 % 256, address / 0x100 % 256,
    address % 256].map fun octet => Json.intRepr octet)

theorem mapM_eq_some_nil {α β : Type} {f : α → Option β} {xs : List α} :
    xs.mapM f = some [] ↔ xs = [] := by
  cases xs with
  | nil => simp
  | cons x xs => cases hx : f x <;> cases hxs : xs.mapM f <;> simp [hx, hxs]

theorem mapM_eq_some_cons {α β : Type} {f : α → Option β} {xs : List α} {y : β} {ys : List β} :
    xs.mapM f = some (y :: ys) ↔
      ∃ x xs', xs = x :: xs' ∧ f x = some y ∧ xs'.mapM f = some ys := by
  cases xs with
  | nil => simp
  | cons x xs => cases hx : f x <;> cases hxs : xs.mapM f <;> simp [hx, hxs]

theorem mapM_digit? {s : PyStr} {ds : List Nat} (h : s.mapM digit? = some ds) :
    s = ds.map Decimal.digitChar ∧ ∀ d ∈ ds, d < 10 := by
  induction ds generalizing s with
  | nil =>
    rw [mapM_eq_some_nil] at h
    exact ⟨h, fun d hd => nomatch hd⟩
  | cons d ds ih =>
    obtain ⟨c, s, rfl, hd, hds⟩ := mapM_eq_some_cons.mp h
    obtain ⟨hlt, rfl⟩ := Decimal.digit?_eq_some.mp hd
    obtain ⟨rfl, hlt'⟩ := ih hds
    exact ⟨rfl, List.forall_mem_cons.mpr ⟨hlt, hlt'⟩⟩

/-- An octet is written as it was read. -/
theorem intRepr_octet? {s : PyStr} {n : Nat} (h : octet? s = some n) :
    Json.intRepr n = s ∧ n < 256 := by
  unfold octet? at h
  split at h
  · cases h
  · next ds hds =>
    obtain ⟨rfl, hlt⟩ := mapM_digit? hds
    split at h
    · cases h
    · next hform =>
      split at h
      · next hle =>
        cases h
        rw [not_or, not_or, not_and] at hform
        have hcanonical : Decimal.Canonical ds := by
          refine ⟨hlt, hform.1, fun hzero => ?_⟩
          have hlen := hform.2.2 hzero
          have hpos := List.length_pos_iff.mpr hform.1
          omega
        have hnonneg : ¬ ((PyStr.digitsVal ds : Nat) : Int) < 0 := by omega
        refine ⟨?_, by omega⟩
        rw [Decimal.intRepr_eq, if_neg hnonneg, List.nil_append, Int.natAbs_natCast,
          Decimal.digits_digitsVal hcanonical]
      · cases h

theorem ipv4Str_ipv4? {s : PyStr} {address : Nat} (h : ipv4? s = some address) :
    ipv4Str address = s := by
  unfold ipv4? at h
  split at h
  · next a b c d hmap =>
    cases h
    obtain ⟨w, parts, hw, ha, hmap⟩ := mapM_eq_some_cons.mp hmap
    obtain ⟨x, parts, rfl, hb, hmap⟩ := mapM_eq_some_cons.mp hmap
    obtain ⟨y, parts, rfl, hc, hmap⟩ := mapM_eq_some_cons.mp hmap
    obtain ⟨z, parts, rfl, hd, hmap⟩ := mapM_eq_some_cons.mp hmap
    obtain rfl := mapM_eq_some_nil.mp hmap
    obtain ⟨rfl, ha⟩ := intRepr_octet? ha
    obtain ⟨rfl, hb⟩ := intRepr_octet? hb
    obtain ⟨rfl, hc⟩ := intRepr_octet? hc
    obtain ⟨rfl, hd⟩ := intRepr_octet? hd
    have hjoin : List.intercalate [0x2E] (s.splitOn 0x2E) = s := List.intercalate_splitOn 0x2E
    rw [hw] at hjoin
    have h₁ : (((a * 256 + b) * 256 + c) * 256 + d) / 0x1000000 = a := by omega
    have h₂ : (((a * 256 + b) * 256 + c) * 256 + d) / 0x10000 % 256 = b := by omega
    have h₃ : (((a * 256 + b) * 256 + c) * 256 + d) / 0x100 % 256 = c := by omega
    have h₄ : (((a * 256 + b) * 256 + c) * 256 + d) % 256 = d := by omega
    have hdot : ".".py = [0x2E] := rfl
    rw [← hjoin, ipv4Str, h₁, h₂, h₃, h₄, hdot]
    simp [PyStr.join, List.intercalate]
  · cases h

example : ipv4Str 0xAC1A8177 = "172.26.129.119".py := by decide
example : ipv4? "172.26.129.119".py = some 0xAC1A8177 := by decide
example : isAddress "172.26.129.01".py = false := by decide
example : isAddress "fe80::1%eth0".py = true := by decide

/-- The text has digits and dots only. -/
theorem val_of_mem_ipv4Str {address : Nat} {c : CodePoint} (hc : c ∈ ipv4Str address) :
    0x2D ≤ c.val ∧ c.val ≤ 0x39 := by
  have hdot : ".".py = [0x2E] := rfl
  have hval : c = 0x2E → 0x2D ≤ c.val ∧ c.val ≤ 0x39 := by
    rintro rfl
    decide
  rw [ipv4Str, hdot] at hc
  simp [PyStr.join] at hc
  rcases hc with hc | hc | hc | hc | hc | hc | hc
  all_goals first
    | exact Decimal.val_of_mem_intRepr hc
    | exact hval hc

end IpAddress

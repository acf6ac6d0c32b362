import BoVpnAgent.Lib.JsonRoundTrip

/-! # Trees that were read

    A tree that `json.loads` returns has distinct keys in every object, is
    not nested deeper than the scanner goes, and holds doubles only.  So it
    can be written out and read once more, as far as its floats are read back
    from their own texts.
-/

namespace PyFloat

/-! ### Doubles -/

/-- The magnitude is that of a double, which is less than `10 ^ 309`. -/
def Double : PyFloat → Prop
  | fin _ m e => m ≤ 2 ^ 53 ∧ e ≤ 971
  | _ => True

theorem roundDiv_le {num den bound : Nat} (h : num < den * bound) : roundDiv num den ≤ bound := by
  have hq : num / den < bound := Nat.div_lt_of_lt_mul h
  unfold roundDiv
  simp only
  have hmod : num / den % 2 < 2 := Nat.mod_lt _ (by decide)
  split
  · omega
  · split <;> omega

theorem pow_mul_lt {num den i j k : Nat} (hnum : num < 2 ^ i) (hden : 2 ^ j ≤ den)
    (hle : i + k ≤ j + l) : num * 2 ^ k < den * 2 ^ l := by
  calc num * 2 ^ k < 2 ^ i * 2 ^ k := Nat.mul_lt_mul_of_pos_right hnum (Nat.two_pow_pos k)
    _ = 2 ^ (i + k) := (Nat.pow_add 2 i k).symm
    _ ≤ 2 ^ (j + l) := Nat.pow_le_pow_right (by decide) hle
    _ = 2 ^ j * 2 ^ l := Nat.pow_add 2 j l
    _ ≤ den * 2 ^ l := Nat.mul_le_mul_right _ hden

theorem mul_pow_lt {num den i j k l : Nat} (h : num * 2 ^ i < den * 2 ^ j) (hle : j + k ≤ l + i) :
    num * 2 ^ k < den * 2 ^ l := by
  have hscaled : num * 2 ^ k * 2 ^ i < den * 2 ^ l * 2 ^ i := by
    calc num * 2 ^ k * 2 ^ i = num * 2 ^ i * 2 ^ k := Nat.mul_right_comm _ _ _
      _ < den * 2 ^ j * 2 ^ k := Nat.mul_lt_mul_of_pos_right h (Nat.two_pow_pos k)
      _ = den * 2 ^ (j + k) := by rw [Nat.mul_assoc, ← Nat.pow_add]
      _ ≤ den * 2 ^ (l + i) := Nat.mul_le_mul_left _ (Nat.pow_le_pow_right (by decide) hle)
      _ = den * 2 ^ l * 2 ^ i := by rw [Nat.mul_assoc, ← Nat.pow_add]
  exact Nat.lt_of_mul_lt_mul_right hscaled

/-- A decimal literal is read as a double. -/
theorem double_ofDecimal (neg : Bool) (m : Nat) (e : Int) : (ofDecimal neg m e).Double := by
  unfold ofDecimal
  split
  · exact ⟨by decide, by decide⟩
  · next hsmall =>
    split
    · trivial
    · have hnum : m * 10 ^ e.toNat ≠ 0 :=
        Nat.mul_ne_zero (not_or.mp hsmall).1 (Nat.pow_pos (by decide)).ne'
      have hden : 10 ^ (-e).toNat ≠ 0 := (Nat.pow_pos (by decide)).ne'
      generalize m * 10 ^ e.toNat = num at hnum
      generalize 10 ^ (-e).toNat = den at hden
      have hnum_lt : num < 2 ^ (Nat.log2 num + 1) := Nat.lt_log2_self
      have hden_le : 2 ^ Nat.log2 den ≤ den := Nat.log2_self_le hden
      simp only
      generalize hk₀ : (Nat.log2 num : Int) - Nat.log2 den = k₀
      generalize hk : (if num * 2 ^ (-k₀).toNat < den * 2 ^ k₀.toNat then k₀ - 1 else k₀) = k
      generalize he₂ : max (k - 52) (-1074) = e₂
      -- the quotient has 53 bits at most, whichever way the first estimate was off
      have hbound : num * 2 ^ (-e₂).toNat < den * 2 ^ (e₂.toNat + 53) := by
        split at hk
        · next hlt => exact mul_pow_lt hlt (by omega)
        · exact pow_mul_lt hnum_lt hden_le (by omega)
      have hq : roundDiv (num * 2 ^ (-e₂).toNat) (den * 2 ^ e₂.toNat) ≤ 2 ^ 53 := by
        refine roundDiv_le ?_
        rw [Nat.mul_assoc, ← Nat.pow_add]
        exact hbound
      generalize roundDiv (num * 2 ^ (-e₂).toNat) (den * 2 ^ e₂.toNat) = q at hq
      have hx : ∀ x : Nat × Int, x.1 ≤ 2 ^ 53 →
          (if 971 < x.2 then PyFloat.inf neg
            else if x.1 = 0 then .fin neg 0 0 else .fin neg x.1 x.2).Double := by
        intro x hx
        split
        · trivial
        · next hle =>
          split
          · exact ⟨by decide, by decide⟩
          · exact ⟨hx, not_lt.mp hle⟩
      refine hx _ ?_
      split
      · exact (by decide : 2 ^ 52 ≤ 2 ^ 53)
      · exact hq

/-- The integer part of a double is short. -/
theorem Double.digitsWithin {x : PyFloat} {n : Int} {limit : Nat} (h : x.Double)
    (hlimit : 640 ≤ limit) (hn : x.trunc = .ok n) : Json.DigitsWithin limit n := by
  cases x with
  | nan => cases hn
  | inf neg => cases hn
  | fin neg m e =>
    obtain ⟨hm, he⟩ := h
    -- the exponents are kept as variables, so that no power is computed
    obtain ⟨k, hk⟩ : ∃ k, k = 971 := ⟨971, rfl⟩
    obtain ⟨l, hl⟩ : ∃ l, l = 256 := ⟨256, rfl⟩
    have hle : m * 2 ^ e.toNat / 2 ^ (-e).toNat ≤ 2 ^ 53 * 2 ^ k := by
      calc m * 2 ^ e.toNat / 2 ^ (-e).toNat ≤ m * 2 ^ e.toNat := Nat.div_le_self _ _
        _ ≤ 2 ^ 53 * 2 ^ k := Nat.mul_le_mul hm (Nat.pow_le_pow_right (by decide) (by omega))
    have hpow : 2 ^ 53 * 2 ^ k < 10 ^ limit := by
      calc 2 ^ 53 * 2 ^ k ≤ (2 ^ 4) ^ l := by
            rw [← Nat.pow_add, ← Nat.pow_mul]
            exact Nat.pow_le_pow_right (by decide) (by omega)
        _ ≤ (10 ^ 2) ^ l := Nat.pow_le_pow_left (by decide) l
        _ < 10 ^ limit := by
          rw [← Nat.pow_mul]
          exact Nat.pow_lt_pow_right (by decide) (by omega)
    simp only [trunc, Except.ok.injEq] at hn
    generalize m * 2 ^ e.toNat / 2 ^ (-e).toNat = q at hn hle
    have habs : n.natAbs = q := by
      rw [← hn]
      split <;> omega
    unfold Json.DigitsWithin
    rw [Nat.length_toDigits_le_iff (by decide) (by omega), habs]
    exact Nat.lt_of_le_of_lt hle hpow

end PyFloat

namespace Json

/-! ### Conversions -/

theorem intDigits_lt {gap : Bool} {s : PyStr} {ds : List Nat}
    (h : PyStr.intDigits gap s = some ds) : ∀ d ∈ ds, d < 10 := by
  induction s generalizing gap ds with
  | nil =>
    unfold PyStr.intDigits at h
    split at h
    · cases h
      exact List.forall_mem_nil _
    · cases h
  | cons c s ih =>
    unfold PyStr.intDigits at h
    split at h
    · next d hd =>
      obtain ⟨ds', hds', rfl⟩ := Option.map_eq_some_iff.mp h
      exact List.forall_mem_cons.mpr ⟨(Decimal.digit?_eq_some.mp hd).1, ih hds'⟩
    · split at h
      · exact ih h
      · cases h

theorem signedDigits_lt {s : PyStr} {neg : Bool} {ds : List Nat}
    (h : PyStr.signedDigits s = some (neg, ds)) : ∀ d ∈ ds, d < 10 := by
  have hof : ∀ {s : PyStr} {sign : Bool},
      (PyStr.intDigits false s).map (sign, ·) = some (neg, ds) → ∀ d ∈ ds, d < 10 := by
    intro s sign hs
    obtain ⟨ds', hds', heq⟩ := Option.map_eq_some_iff.mp hs
    cases heq
    exact intDigits_lt hds'
  cases s with
  | nil => cases h
  | cons c s =>
    simp only [PyStr.signedDigits] at h
    split at h
    · exact hof h
    · split at h
      · exact hof h
      · exact hof h

theorem digitsVal_lt {ds : List Nat} (h : ∀ d ∈ ds, d < 10) :
    PyStr.digitsVal ds < 10 ^ ds.length := by
  induction ds using List.reverseRecOn with
  | nil => decide
  | append_singleton ds d ih =>
    have hds := ih fun x hx => h x (List.mem_append_left _ hx)
    have hd := h d (by simp)
    rw [Decimal.digitsVal_append_singleton, List.length_append, List.length_singleton, Nat.pow_succ]
    omega

/-- What `int` reads from a string can be written out again. -/
theorem digitsWithin_strToInt {limit : Nat} {s : PyStr} {n : Int} (hlimit : 640 ≤ limit)
    (h : PyStr.toInt limit s = some n) : DigitsWithin limit n := by
  unfold PyStr.toInt at h
  split at h
  · cases h
  · next neg ds hds =>
    split at h
    · cases h
    · next hlen =>
      have habs : n.natAbs = PyStr.digitsVal ds := by
        cases h
        cases neg <;> simp
      unfold DigitsWithin
      rw [Nat.length_toDigits_le_iff (by decide) (by omega), habs]
      exact Nat.lt_of_lt_of_le (digitsVal_lt (signedDigits_lt hds))
        (Nat.pow_le_pow_right (by decide) (by omega))

/-! ### Nodes of a tree -/

section nodes

variable {F F' F'' : PyFloat → Prop} {O O' O'' : Fields → Prop}

theorem nodesList_iff {xs : List Json} : NodesList F O xs ↔ ∀ x ∈ xs, Nodes F O x := by
  induction xs with
  | nil => simp [NodesList]
  | cons x xs ih => simp [NodesList, ih]

theorem nodesFields_iff {fields : Fields} :
    NodesFields F O fields ↔ ∀ e ∈ fields, Nodes F O e.2 := by
  induction fields with
  | nil => simp [NodesFields]
  | cons e fields ih => simp [NodesFields, ih]

theorem Nodes.get? {d : Fields} {key : PyStr} {x : Json} (h : Nodes F O (obj d))
    (hx : Json.get? d key = some x) : Nodes F O x := by
  simp only [Nodes] at h
  exact nodesFields_iff.mp h.2 (key, x) (mem_of_get? hx)

theorem depth_get? {d : Fields} {key : PyStr} {x : Json} (hx : Json.get? d key = some x) :
    x.depth + 1 ≤ (obj d).depth := by
  have hle : x.depth ≤ depthFields d :=
    depthFields_le.mp (le_refl (depthFields d)) (key, x) (mem_of_get? hx)
  rw [depth]
  omega

mutual

/-- Two conditions on the nodes of a tree together give a third. -/
theorem Nodes.and (hF : ∀ x, F x → F' x → F'' x) (hO : ∀ d, O d → O' d → O'' d) :
    ∀ j : Json, Nodes F O j → Nodes F' O' j → Nodes F'' O'' j
  | .null, _, _ => trivial
  | .bool _, _, _ => trivial
  | .int _, _, _ => trivial
  | .float x, h, h' => hF x h h'
  | .str _, _, _ => trivial
  | .arr xs, h, h' => NodesList.and hF hO xs h h'
  | .obj fields, h, h' => ⟨hO fields h.1 h'.1, NodesFields.and hF hO fields h.2 h'.2⟩

theorem NodesList.and (hF : ∀ x, F x → F' x → F'' x) (hO : ∀ d, O d → O' d → O'' d) :
    ∀ xs : List Json, NodesList F O xs → NodesList F' O' xs → NodesList F'' O'' xs
  | [], _, _ => trivial
  | x :: xs, h, h' => ⟨Nodes.and hF hO x h.1 h'.1, NodesList.and hF hO xs h.2 h'.2⟩

theorem NodesFields.and (hF : ∀ x, F x → F' x → F'' x) (hO : ∀ d, O d → O' d → O'' d) :
    ∀ d : List (PyStr × Json), NodesFields F O d → NodesFields F' O' d → NodesFields F'' O'' d
  | [], _, _ => trivial
  | (_, x) :: d, h, h' => ⟨Nodes.and hF hO x h.1 h'.1, NodesFields.and hF hO d h.2 h'.2⟩

end

end nodes

/-! ### What the scanner returns -/

/-- A tree as a scanner returns it that may nest `depth` containers. -/
structure Read (depth : Nat) (j : Json) : Prop where
  depth : j.depth ≤ depth
  nodes : Nodes PyFloat.Double DistinctKeys j

theorem read_leaf {n : Nat} {j : Json} (hdepth : j.depth = 0)
    (hnodes : Nodes PyFloat.Double DistinctKeys j) : Read n j :=
  ⟨by omega, hnodes⟩

theorem read_arr {n : Nat} {xs : List Json} (h : ∀ x ∈ xs, Read n x) : Read (n + 1) (arr xs) := by
  have hdepth := depthList_le.mpr fun x hx => (h x hx).depth
  refine ⟨by rw [depth]; omega, ?_⟩
  simp only [Nodes]
  exact nodesList_iff.mpr fun x hx => (h x hx).nodes

theorem mem_fieldsOf {members : List (PyStr × Json)} {e : PyStr × Json}
    (h : e ∈ fieldsOf members) : e ∈ members := by
  have hassign : ∀ (k : PyStr) (x : Json) (d : Fields), e ∈ Dict.assign k x d → e = (k, x) ∨ e ∈ d := by
    intro k x d
    induction d with
    | nil => simp [Dict.assign]
    | cons e' d ih =>
      unfold Dict.assign
      split
      · intro he
        rcases List.mem_cons.mp he with he | he
        · exact .inl he
        · exact .inr (List.mem_cons_of_mem _ he)
      · intro he
        rcases List.mem_cons.mp he with rfl | he
        · exact .inr List.mem_cons_self
        · exact (ih he).imp_right (List.mem_cons_of_mem _)
  suffices hfold : ∀ (ms d : Fields), e ∈ ms.foldl (fun d e => Dict.assign e.1 e.2 d) d →
      e ∈ d ∨ e ∈ ms by
    exact (hfold members [] h).resolve_left List.not_mem_nil
  intro ms
  induction ms with
  | nil => exact fun d he => .inl he
  | cons e' ms ih =>
    intro d he
    rcases ih _ he with he | he
    · rcases hassign _ _ _ he with rfl | he
      · exact .inr List.mem_cons_self
      · exact .inl he
    · exact .inr (List.mem_cons_of_mem _ he)

theorem distinctKeys_fieldsOf (members : List (PyStr × Json)) : DistinctKeys (fieldsOf members) := by
  suffices hfold : ∀ (ms d : Fields), DistinctKeys d →
      DistinctKeys (ms.foldl (fun d e => Dict.assign e.1 e.2 d) d) from
    hfold members [] List.nodup_nil
  intro ms
  induction ms with
  | nil => exact fun d hd => hd
  | cons e ms ih => exact fun d hd => ih _ (Dict.nodup_assign hd)

theorem read_obj {n : Nat} (members : List (PyStr × Json)) (h : ∀ e ∈ members, Read n e.2) :
    Read (n + 1) (obj (fieldsOf members)) := by
  have hdepth : depthFields (fieldsOf members) ≤ n :=
    depthFields_le.mpr fun e he => (h e (mem_fieldsOf he)).depth
  refine ⟨by rw [depth]; omega, ?_⟩
  simp only [Nodes]
  exact ⟨distinctKeys_fieldsOf members,
    nodesFields_iff.mpr fun e he => (h e (mem_fieldsOf he)).nodes⟩

theorem read_scanLiteral {I : Interp} {s rest : PyStr} {x : Json} {n : Nat}
    (h : scanLiteral I s = .ok (x, rest)) : Read n x := by
  have hnumber : ∀ {neg : Bool} {s : PyStr}, scanNumber I neg s = .ok (x, rest) → Read n x := by
    intro neg s hs
    unfold scanNumber at hs
    simp only at hs
    split at hs
    · cases hs
    · split at hs
      · split at hs
        · cases hs
        · cases hs
          exact read_leaf rfl trivial
      · cases hs
        exact read_leaf rfl (PyFloat.double_ofDecimal _ _ _)
  unfold scanLiteral at h
  split_ifs at h
  · cases h; exact read_leaf rfl trivial
  · cases h; exact read_leaf rfl trivial
  · cases h; exact read_leaf rfl trivial
  · cases h; exact read_leaf rfl trivial
  · cases h; exact read_leaf rfl trivial
  · cases h; exact read_leaf rfl trivial
  · split at h
    · cases h
    · split at h
      · exact hnumber h
      · exact hnumber h

/-- A scanner's success is that of its first part and of the rest. -/
theorem scan_bind_ok {α β : Type} {r : Except ScanError (α × PyStr)}
    {g : α × PyStr → Except ScanError β} {b : β} (h : r >>= g = .ok b) :
    ∃ a rest, r = .ok (a, rest) ∧ g (a, rest) = .ok b := by
  match r with
  | .error e => cases h
  | .ok (a, rest) => exact ⟨a, rest, rfl, h⟩

theorem read_scan (I : Interp) : ∀ (fuel depth : Nat) (s : PyStr),
    (∀ x rest, scanOnce I fuel depth s = .ok (x, rest) → Read depth x) ∧
    (∀ xs rest, scanElements I fuel depth s = .ok (xs, rest) → ∀ x ∈ xs, Read depth x) ∧
    (∀ ms rest, scanMembers I fuel depth s = .ok (ms, rest) → ∀ e ∈ ms, Read depth e.2) := by
  intro fuel
  induction fuel with
  | zero =>
    intro depth s
    refine ⟨?_, ?_, ?_⟩ <;> (intro _ _ h; cases h)
  | succ fuel ih =>
    intro depth s
    -- by induction on the fuel; the depth falls only inside brackets
    refine ⟨fun x rest h => ?_, fun xs rest h => ?_, fun ms rest h => ?_⟩
    · cases s with
      | nil => cases h
      | cons c s =>
        unfold scanOnce at h
        split_ifs at h
        · split at h
          · cases h
          · cases h
            exact read_leaf rfl trivial
        -- a container takes one from the depth
        · split at h
          · cases h
          · cases h
          · next depth c' s' _ =>
            split at h
            · cases h
              exact read_arr (List.forall_mem_nil _)
            · obtain ⟨xs, rest', hxs, h⟩ := scan_bind_ok h
              cases h
              exact read_arr ((ih depth (c' :: s')).2.1 xs _ hxs)
        · split at h
          · cases h
          · cases h
          · next depth c' s' _ =>
            split at h
            · cases h
              exact read_obj [] (List.forall_mem_nil _)
            · obtain ⟨ms, rest', hms, h⟩ := scan_bind_ok h
              cases h
              exact read_obj ms ((ih depth (c' :: s')).2.2 ms _ hms)
        · exact read_scanLiteral h
    · unfold scanElements at h
      obtain ⟨x, rest', hx, h⟩ := scan_bind_ok h
      have hread := (ih depth s).1 x rest' hx
      simp only at h
      split at h
      · cases h
      · split_ifs at h
        · cases h
          exact List.forall_mem_singleton.mpr hread
        · obtain ⟨xs', rest'', hxs, h⟩ := scan_bind_ok h
          cases h
          exact List.forall_mem_cons.mpr ⟨hread, (ih depth _).2.1 xs' _ hxs⟩
    · unfold scanMembers at h
      obtain ⟨key, rest₁, -, h⟩ := scan_bind_ok h
      obtain ⟨x, rest', hx, h⟩ := scan_bind_ok h
      have hread := (ih depth rest₁).1 x rest' hx
      simp only at h
      split at h
      · cases h
      · split_ifs at h
        · cases h
          exact List.forall_mem_singleton.mpr hread
        · obtain ⟨ms', rest'', hms, h⟩ := scan_bind_ok h
          cases h
          exact List.forall_mem_cons.mpr ⟨hread, (ih depth _).2.2 ms' _ hms⟩

/-- What `json.loads` returns. -/
theorem read_loads {I : Interp} {s : PyStr} {j : Json} (h : loads I s = .ok j) :
    Read I.loads_depth j := by
  unfold loads at h
  split at h
  · cases h
  · split at h
    · cases h
    · next x rest hscan =>
      split at h
      · cases h
        exact (read_scan I _ _ _).1 _ _ hscan
      · cases h

/-- `int` of a value that was read gives a number that can be written out. -/
theorem digitsWithin_toInt {I : Interp} {j : Json} {n : Int} (hclean : Clean I j)
    (hnodes : Nodes PyFloat.Double DistinctKeys j) (h : toInt I j = .ok n) :
    DigitsWithin I.int_max_str_digits n := by
  have hmin := I.digits_min
  cases j with
  | null => cases h
  | bool b =>
    have hn : n = 0 ∨ n = 1 := by
      cases h
      cases b <;> simp
    have hlen : (Nat.toDigits 10 n.natAbs).length = 1 := by
      rcases hn with rfl | rfl <;> rfl
    unfold DigitsWithin
    omega
  | int i =>
    cases h
    exact hclean
  | float x => exact PyFloat.Double.digitsWithin hnodes hmin h
  | str s =>
    simp only [toInt] at h
    split at h
    · next n' hn' =>
      cases h
      exact digitsWithin_strToInt hmin hn'
    · cases h
  | arr xs => cases h
  | obj fields => cases h

end Json

import Mathlib.Data.List.Basic

/-! # Leftmost substitution of tokens between delimiters

    A token is a body between two delimiters that holds no delimiter itself.
    A substitution goes through a text from the left and replaces tokens that
    do not overlap; two tokens overlap only in a delimiter that they share.

    This file shows that what a substitution leaves is free of tokens exactly
    when no two tokens of the text share a delimiter.
-/

namespace Substitution

universe u

variable {α : Type u}

/-! ### The substitution -/

/-- Replaces the matches of `m` by `r`; `m` gives the length of the match at
    the front of a text, and `skip` characters belong to a match already replaced. -/
def substitute (m : List α → Option Nat) (r : List α) (skip : Nat) : List α → List α
  | [] => []
  | c :: s =>
    match skip with
    | skip + 1 => substitute m r skip s
    | 0 =>
      match m (c :: s) with
      | some k => r ++ substitute m r (k - 1) s
      | none => c :: substitute m r 0 s

variable {m : List α → Option Nat} {r s : List α}

theorem substitute_skip (skip : Nat) (s : List α) :
    substitute m r skip s = substitute m r 0 (s.drop skip) := by
  induction s generalizing skip with
  | nil => simp [substitute]
  | cons c s ih =>
    cases skip with
    | zero => rfl
    | succ skip => exact ih skip

theorem substitute_none {c : α} (h : m (c :: s) = none) :
    substitute m r 0 (c :: s) = c :: substitute m r 0 s := by
  rw [substitute, h]

theorem substitute_some {c : α} {k : Nat} (h : m (c :: s) = some (k + 1)) :
    substitute m r 0 (c :: s) = r ++ substitute m r 0 (s.drop k) := by
  rw [substitute, h]
  exact congrArg (r ++ ·) (substitute_skip k s)

/-! ### Tokens -/

variable (x : α) (Body : List α → Prop)

/-- The text goes on with a body and a delimiter. -/
def Starts (s : List α) : Prop := ∃ body b, s = body ++ x :: b ∧ x ∉ body ∧ Body body

/-- A token stands in the text. -/
def Occurs (s : List α) : Prop := ∃ a b, s = a ++ x :: b ∧ Starts x Body b

/-- Two tokens that share a delimiter stand in the text. -/
def Shared (s : List α) : Prop :=
  ∃ a body b, s = a ++ x :: (body ++ x :: b) ∧ x ∉ body ∧ Body body ∧ Starts x Body b

/-- The matches of `m` are the tokens. -/
structure Matches (m : List α → Option Nat) : Prop where
  token : ∀ body b, x ∉ body → Body body → m (x :: (body ++ x :: b)) = some (body.length + 2)
  other : ∀ s k, m s = some k → ∃ b, s = x :: b ∧ Starts x Body b

section tokens

variable {x : α} {Body : List α → Prop}

theorem occurs_cons {c : α} : Occurs x Body (c :: s) ↔ (c = x ∧ Starts x Body s) ∨ Occurs x Body s := by
  constructor
  · rintro ⟨a, b, h, hb⟩
    cases a with
    | nil =>
      obtain ⟨rfl, rfl⟩ := List.cons.inj h
      exact .inl ⟨rfl, hb⟩
    | cons d a =>
      obtain ⟨rfl, rfl⟩ := List.cons.inj h
      exact .inr ⟨a, b, rfl, hb⟩
  · rintro (⟨rfl, hs⟩ | ⟨a, b, rfl, hb⟩)
    · exact ⟨[], s, rfl, hs⟩
    · exact ⟨c :: a, b, rfl, hb⟩

theorem shared_cons {c : α} : Shared x Body (c :: s) ↔
    (c = x ∧ ∃ body b, s = body ++ x :: b ∧ x ∉ body ∧ Body body ∧ Starts x Body b) ∨
      Shared x Body s := by
  constructor
  · rintro ⟨a, body, b, h, hrest⟩
    cases a with
    | nil =>
      obtain ⟨rfl, rfl⟩ := List.cons.inj h
      exact .inl ⟨rfl, body, b, rfl, hrest⟩
    | cons d a =>
      obtain ⟨rfl, rfl⟩ := List.cons.inj h
      exact .inr ⟨a, body, b, rfl, hrest⟩
  · rintro (⟨rfl, body, b, rfl, hrest⟩ | ⟨a, body, b, rfl, hrest⟩)
    · exact ⟨[], body, b, rfl, hrest⟩
    · exact ⟨c :: a, body, b, rfl, hrest⟩

/-- A part without a delimiter holds no token and starts none. -/
theorem occurs_append {a : List α} (ha : x ∉ a) : Occurs x Body (a ++ s) ↔ Occurs x Body s := by
  induction a with
  | nil => rfl
  | cons c a ih =>
    rw [List.mem_cons, not_or] at ha
    rw [List.cons_append, occurs_cons, ih ha.2]
    exact or_iff_right fun h => ha.1 h.1.symm

theorem shared_append {a : List α} (ha : x ∉ a) : Shared x Body (a ++ s) ↔ Shared x Body s := by
  induction a with
  | nil => rfl
  | cons c a ih =>
    rw [List.mem_cons, not_or] at ha
    rw [List.cons_append, shared_cons, ih ha.2]
    exact or_iff_right fun h => ha.1 h.1.symm

/-- A text is cut at its first delimiter in one way. -/
theorem append_cons_inj {a a' b b' : List α} (ha : x ∉ a) (ha' : x ∉ a')
    (h : a ++ x :: b = a' ++ x :: b') : a = a' ∧ b = b' := by
  induction a generalizing a' with
  | nil =>
    cases a' with
    | nil => exact ⟨rfl, (List.cons.inj h).2⟩
    | cons c a' =>
      obtain ⟨rfl, _⟩ := List.cons.inj h
      exact absurd List.mem_cons_self ha'
  | cons c a ih =>
    cases a' with
    | nil =>
      obtain ⟨rfl, _⟩ := List.cons.inj h
      exact absurd List.mem_cons_self ha
    | cons c' a' =>
      obtain ⟨rfl, htail⟩ := List.cons.inj h
      rw [List.mem_cons, not_or] at ha ha'
      obtain ⟨rfl, rfl⟩ := ih ha.2 ha'.2 htail
      exact ⟨rfl, rfl⟩

theorem starts_iff {a b : List α} (ha : x ∉ a) : Starts x Body (a ++ x :: b) ↔ Body a := by
  constructor
  · rintro ⟨body, b', h, hx, hbody⟩
    rw [(append_cons_inj ha hx h).1]
    exact hbody
  · exact fun h => ⟨a, b, rfl, ha, h⟩

/-! ### What is left -/

variable (hm : Matches x Body m)
include hm

/-- The two cases of a substitution step. -/
theorem induct {P : List α → Prop} (nil : P [])
    (skip : ∀ c s, m (c :: s) = none → P s → P (c :: s))
    (token : ∀ body b, x ∉ body → Body body → P b → P (x :: (body ++ x :: b))) (s : List α) : P s := by
  induction hn : s.length using Nat.strongRecOn generalizing s with
  | _ n ih =>
    cases s with
    | nil => exact nil
    | cons c s =>
      cases hmatch : m (c :: s) with
      | none => exact skip c s hmatch (ih s.length (by rw [← hn]; exact Nat.lt_succ_self _) s rfl)
      | some k =>
        obtain ⟨b, hb, body, b', rfl, hx, hbody⟩ := hm.other _ _ hmatch
        rw [hb]
        refine token body b' hx hbody (ih b'.length ?_ b' rfl)
        rw [← hn, hb]
        simp only [List.length_cons, List.length_append]
        omega

theorem substitute_token {body b : List α} (hx : x ∉ body) (hbody : Body body) :
    substitute m r 0 (x :: (body ++ x :: b)) = r ++ substitute m r 0 b := by
  have hdrop : (body ++ x :: b).drop (body.length + 1) = b := by
    rw [List.drop_append, List.drop_of_length_le (Nat.le_succ _), Nat.add_sub_cancel_left]
    rfl
  rw [substitute_some (hm.token body b hx hbody), hdrop]

theorem not_match {c : α} (h : m (c :: s) = none) : ¬ (c = x ∧ Starts x Body s) := by
  rintro ⟨rfl, body, b, rfl, hx, hbody⟩
  rw [hm.token body b hx hbody] at h
  cases h

/-- A text without a token stays as it is. -/
theorem substitute_eq_self (s : List α) (h : ¬ Occurs x Body s) : substitute m r 0 s = s := by
  induction s using induct hm with
  | nil => rfl
  | skip c s hmatch ih =>
    rw [occurs_cons, not_or] at h
    rw [substitute_none hmatch, ih h.2]
  | token body b hx hbody ih => exact absurd ⟨[], _, rfl, body, b, rfl, hx, hbody⟩ h

/-- What stands in the substituted text stood in the text, or replaces a
    token. -/
theorem mem_substitute {c : α} (s : List α) (h : c ∈ substitute m r 0 s) : c ∈ s ∨ c ∈ r := by
  induction s using induct hm with
  | nil => cases h
  | skip d s hmatch ih =>
    rw [substitute_none hmatch, List.mem_cons] at h
    obtain rfl | h := h
    · exact .inl List.mem_cons_self
    · exact (ih h).imp_left (List.mem_cons_of_mem d)
  | token body b hx hbody ih =>
    rw [substitute_token hm hx hbody, List.mem_append] at h
    obtain h | h := h
    · exact .inr h
    · refine (ih h).imp_left fun h => ?_
      simp [h]

variable {mid : List α}

/-- The part of a text in front of its first delimiter is kept. -/
theorem substitute_append (s : List α) {p : List α} (hp : x ∉ p) :
    (∃ t, s = p ++ x :: t) ↔ ∃ t, substitute m (x :: (mid ++ [x])) 0 s = p ++ x :: t := by
  induction p generalizing s with
  | nil =>
    induction s using induct hm with
    | nil => simp [substitute]
    | skip c s hmatch ih => rw [substitute_none hmatch]; simp
    | token body b hx hbody ih => rw [substitute_token hm hx hbody]; simp
  | cons c p ih =>
    rw [List.mem_cons, not_or] at hp
    induction s using induct hm with
    | nil => simp [substitute]
    | skip d s hmatch _ =>
      rw [substitute_none hmatch]
      simp only [List.cons_append, List.cons.injEq, exists_and_left, ih s hp.2]
    | token body b hx hbody _ =>
      rw [substitute_token hm hx hbody]
      constructor
      · rintro ⟨t, ht⟩
        exact absurd (List.cons.inj ht).1 hp.1
      · rintro ⟨t, ht⟩
        exact absurd (List.cons.inj ht).1 hp.1

theorem starts_substitute_iff (s : List α) :
    Starts x Body (substitute m (x :: (mid ++ [x])) 0 s) ↔ Starts x Body s := by
  constructor
  · rintro ⟨body, b, h, hx, hbody⟩
    obtain ⟨t, rfl⟩ := (substitute_append hm s hx).mpr ⟨b, h⟩
    exact ⟨body, t, rfl, hx, hbody⟩
  · rintro ⟨body, b, rfl, hx, hbody⟩
    obtain ⟨t, h⟩ : ∃ t, substitute m (x :: (mid ++ [x])) 0 (body ++ x :: b) = body ++ x :: t :=
      (substitute_append hm (body ++ x :: b) hx).mp ⟨b, rfl⟩
    exact ⟨body, t, h, hx, hbody⟩

/-- A token is left exactly where two of them shared a delimiter. -/
theorem occurs_substitute_iff (hmid : x ∉ mid) (hbody : ¬ Body mid) (s : List α) :
    Occurs x Body (substitute m (x :: (mid ++ [x])) 0 s) ↔ Shared x Body s := by
  induction s using induct hm with
  | nil => simp [substitute, Occurs, Shared]
  | skip c s hmatch ih =>
    have hnot := not_match hm hmatch
    rw [substitute_none hmatch, occurs_cons, shared_cons, ih, starts_substitute_iff hm]
    apply or_congr_left
    constructor
    · exact fun h => absurd h hnot
    · rintro ⟨rfl, body, b, rfl, hx, hb, _⟩
      exact absurd ⟨rfl, body, b, rfl, hx, hb⟩ hnot
  | token body b hx hb ih =>
    -- the replacement is no token, and its last delimiter may start one
    have hleft : Occurs x Body (x :: (mid ++ [x]) ++ substitute m (x :: (mid ++ [x])) 0 b) ↔
        Starts x Body b ∨ Shared x Body b := by
      rw [List.cons_append, List.append_assoc, List.singleton_append, occurs_cons, starts_iff hmid,
        occurs_append hmid, occurs_cons, starts_substitute_iff hm, ih]
      simp [hbody]
    have hright : Shared x Body (x :: (body ++ x :: b)) ↔ Starts x Body b ∨ Shared x Body b := by
      rw [shared_cons, shared_append hx, shared_cons]
      constructor
      · rintro (⟨_, body', b', h, hx', hb', hstarts⟩ | ⟨_, body', b', rfl, hx', hb', _⟩ | h)
        · rw [(append_cons_inj hx hx' h).2]
          exact .inl hstarts
        · exact .inl ⟨body', b', rfl, hx', hb'⟩
        · exact .inr h
      · rintro (h | h)
        · exact .inl ⟨rfl, body, b, rfl, hx, hb, h⟩
        · exact .inr (.inr h)
    rw [substitute_token hm hx hb, hleft, hright]

end tokens

end Substitution

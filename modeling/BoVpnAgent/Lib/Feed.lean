import BoVpnAgent.Lib.Simulation

/-! # Reading a feed through an offset

    Items with increasing numbers arrive at a source.  A consumer asks for the
    items from an offset on, goes through the batch that it gets, and moves
    the offset behind an item before it handles it.  The source may refuse to
    answer, and an item that fails ends the batch: then the rest of it is
    asked for again.

    However the source and the items fail, the items are handled in the order
    of their numbers, none of them twice and none left out; and when the
    source answers often enough, every item is handled.
-/

namespace Feed

open Lts

universe u

variable {α : Type u}

/-- The source, and the consumer at work. -/
structure State (α : Type u) where
  arrived : List α
  /-- the number that the next request names -/
  offset : Option Int
  /-- what is left of the batch -/
  batch : List α
  dispatched : List α

inductive Label (α : Type u) where
  | arrive (a : α)
  /-- The source answers with `limit` items at most. -/
  | answer (limit : Nat)
  /-- The request fails. -/
  | refuse
  /-- The next item of the batch is handled. -/
  | dispatch (raised : Bool)

def initial : State α := ⟨[], none, [], []⟩

variable (number : α → Int)

/-- The items that are asked for. -/
def State.pending (s : State α) : List α :=
  match s.offset with
  | some offset => s.arrived.filter fun a => offset ≤ number a
  | none => s.arrived

def next (s : State α) : Label α → Option (State α)
  | .arrive a =>
    if ∀ a' ∈ s.arrived, number a' < number a then some { s with arrived := s.arrived ++ [a] }
    else none
  | .answer limit =>
    if s.batch.isEmpty ∧ 0 < limit then some { s with batch := (s.pending number).take limit }
    else none
  | .refuse => if s.batch.isEmpty then some s else none
  | .dispatch raised =>
    match s.batch with
    | [] => none
    | a :: rest =>
      some { s with offset := some (number a + 1)
                    batch := if raised then [] else rest
                    dispatched := s.dispatched ++ [a] }

def system : System (State α) (Label α) := ⟨initial, next number⟩

def Label.isAnswer : Label α → Bool
  | answer _ => true
  | _ => false

variable {number} {s s' t : State α} {l : Label α} {ls : List (Label α)} {rest : List α}

/-! ### The offset between the items -/

/-- The offset is right behind the items that were handled, in front of the
    `rest`; the batch is the front of that. -/
structure Cursor (number : α → Int) (s : State α) (rest : List α) : Prop where
  arrived : s.arrived = s.dispatched ++ rest
  sorted : s.arrived.Pairwise fun a a' => number a < number a'
  behind : ∀ a ∈ s.dispatched, ∃ offset, s.offset = some offset ∧ number a < offset
  last : ∀ offset, s.offset = some offset → ∃ a ∈ s.dispatched, offset = number a + 1
  batch : s.batch <+: rest

theorem Cursor.ahead (h : Cursor number s rest) {a : α} (ha : a ∈ rest) {offset : Int}
    (hoffset : s.offset = some offset) : offset ≤ number a := by
  obtain ⟨d, hd, rfl⟩ := h.last offset hoffset
  have hsorted := h.sorted
  rw [h.arrived, List.pairwise_append] at hsorted
  exact hsorted.2.2 d hd a ha

theorem Cursor.pending (h : Cursor number s rest) : s.pending number = rest := by
  unfold State.pending
  split
  · next offset hoffset =>
    have hbehind : s.dispatched.filter (fun a => offset ≤ number a) = [] := by
      rw [List.filter_eq_nil_iff]
      intro a ha
      obtain ⟨offset', hoffset', hlt⟩ := h.behind a ha
      rw [hoffset] at hoffset'
      cases hoffset'
      simpa using hlt
    have hahead : rest.filter (fun a => offset ≤ number a) = rest := by
      rw [List.filter_eq_self]
      intro a ha
      exact decide_eq_true (h.ahead ha hoffset)
    rw [h.arrived, List.filter_append, hbehind, hahead, List.nil_append]
  · next hoffset =>
    -- nothing was handled yet
    have hnil : s.dispatched = [] := by
      apply List.eq_nil_iff_forall_not_mem.mpr
      intro a ha
      obtain ⟨offset, hsome, _⟩ := h.behind a ha
      rw [hoffset] at hsome
      cases hsome
    rw [h.arrived, hnil, List.nil_append]

theorem cursor_initial : Cursor number (initial : State α) [] where
  arrived := rfl
  sorted := List.Pairwise.nil
  behind := fun _ h => nomatch h
  last := fun _ h => nomatch h
  batch := List.nil_prefix

/-- An item that arrives is behind all others. -/
theorem Cursor.arrive (h : Cursor number s rest) {a : α}
    (hnew : ∀ a' ∈ s.arrived, number a' < number a) :
    Cursor number { s with arrived := s.arrived ++ [a] } (rest ++ [a]) where
  arrived := by
    show s.arrived ++ [a] = s.dispatched ++ (rest ++ [a])
    rw [h.arrived, List.append_assoc]
  sorted := by
    apply List.pairwise_append.mpr
    refine ⟨h.sorted, List.pairwise_singleton _ _, ?_⟩
    intro a' ha' b hb
    rw [List.mem_singleton.mp hb]
    exact hnew a' ha'
  behind := h.behind
  last := h.last
  batch := h.batch.trans (List.prefix_append _ _)

theorem Cursor.answer (h : Cursor number s rest) (limit : Nat) :
    Cursor number { s with batch := (s.pending number).take limit } rest where
  arrived := h.arrived
  sorted := h.sorted
  behind := h.behind
  last := h.last
  batch := by
    rw [h.pending]
    exact List.take_prefix _ _

/-- The item that is handled is the first of the rest, and the batch goes on
    or is given up. -/
theorem Cursor.dispatch {a : α} {rest batch left : List α} (h : Cursor number s (a :: rest))
    (hbatch : s.batch = a :: batch) (hleft : left = [] ∨ left = batch) :
    Cursor number { s with offset := some (number a + 1)
                           batch := left
                           dispatched := s.dispatched ++ [a] } rest where
  arrived := by
    show s.arrived = s.dispatched ++ [a] ++ rest
    rw [h.arrived, List.append_assoc, List.singleton_append]
  sorted := h.sorted
  behind := by
    have hsorted := h.sorted
    rw [h.arrived, List.pairwise_append] at hsorted
    intro d hd
    refine ⟨number a + 1, rfl, ?_⟩
    rcases List.mem_append.mp hd with hd | hd
    · have hlt := hsorted.2.2 d hd a List.mem_cons_self
      omega
    · rw [List.mem_singleton.mp hd]
      omega
  last := by
    rintro _ ⟨⟩
    exact ⟨a, List.mem_append.mpr (.inr (List.mem_singleton.mpr rfl)), rfl⟩
  batch := by
    rcases hleft with rfl | rfl
    · exact List.nil_prefix
    · have hprefix := h.batch
      rw [hbatch] at hprefix
      exact (List.cons_prefix_cons.mp hprefix).2

/-- The cases of a step, each with the items that are left. -/
theorem Cursor.step (h : Cursor number s rest) (hstep : (system number).step s l s') :
    (∃ a, s'.dispatched = s.dispatched ∧ s'.batch = s.batch ∧ l.isAnswer = false ∧
      Cursor number s' (rest ++ [a])) ∨
    (s'.dispatched = s.dispatched ∧ s.batch = [] ∧ Cursor number s' rest ∧
      (l.isAnswer = true → rest ≠ [] → s'.batch ≠ [])) ∨
    (∃ a rest', rest = a :: rest' ∧ s'.dispatched = s.dispatched ++ [a] ∧ l.isAnswer = false ∧
      Cursor number s' rest') := by
  -- only an answer fills the batch, and only a dispatch consumes it
  cases l with
  | arrive a =>
    unfold System.step system next at hstep
    simp only at hstep
    split at hstep
    · next hnew =>
      cases hstep
      exact .inl ⟨a, rfl, rfl, rfl, h.arrive hnew⟩
    · cases hstep
  | answer limit =>
    unfold System.step system next at hstep
    simp only at hstep
    split at hstep
    · next hguard =>
      cases hstep
      refine .inr (.inl ⟨rfl, List.isEmpty_iff.mp hguard.1, h.answer limit, ?_⟩)
      intro _ hrest
      show (s.pending number).take limit ≠ []
      rw [h.pending]
      intro hnil
      rcases List.take_eq_nil_iff.mp hnil with hzero | hnil
      · omega
      · exact hrest hnil
    · cases hstep
  | refuse =>
    unfold System.step system next at hstep
    simp only at hstep
    split at hstep
    · next hempty =>
      cases hstep
      exact .inr (.inl ⟨rfl, List.isEmpty_iff.mp hempty, h, fun hanswer => by cases hanswer⟩)
    · cases hstep
  | dispatch raised =>
    unfold System.step system next at hstep
    simp only at hstep
    split at hstep
    · cases hstep
    · next a batch hbatch =>
      cases hstep
      have hprefix := h.batch
      rw [hbatch] at hprefix
      obtain ⟨rest', rfl⟩ : ∃ rest', rest = a :: rest' := by
        obtain ⟨u, hu⟩ := hprefix
        exact ⟨batch ++ u, hu.symm⟩
      refine .inr (.inr ⟨a, rest', rfl, rfl, rfl, h.dispatch hbatch ?_⟩)
      cases raised
      · exact .inr rfl
      · exact .inl rfl

theorem cursor (h : Reachable (system number) s) : ∃ rest, Cursor number s rest := by
  apply h.invariant (P := fun s => ∃ rest, Cursor number s rest)
  · exact ⟨[], cursor_initial⟩
  · rintro s l s' _ ⟨rest, hs⟩ hstep
    obtain ⟨a, _, _, _, h⟩ | ⟨_, _, h, _⟩ | ⟨a, rest', _, _, _, h⟩ := hs.step hstep
    · exact ⟨_, h⟩
    · exact ⟨_, h⟩
    · exact ⟨_, h⟩

/-- The items that were handled are the first ones that arrived. -/
theorem prefix_dispatched (h : Reachable (system number) s) : s.dispatched <+: s.arrived := by
  obtain ⟨rest, hs⟩ := cursor h
  exact ⟨rest, hs.arrived.symm⟩

/-- They were handled in the order of their numbers, each once. -/
theorem dispatched_sorted (h : Reachable (system number) s) :
    s.dispatched.Pairwise fun a a' => number a < number a' := by
  obtain ⟨rest, hs⟩ := cursor h
  exact hs.sorted.sublist (prefix_dispatched h).sublist

/-! ### Progress -/

/-- 1 while a batch is being handled. -/
def State.busy (s : State α) : Nat := if s.batch.isEmpty then 0 else 1

theorem State.busy_le (s : State α) : s.busy ≤ 1 := by
  unfold State.busy
  split <;> omega

theorem State.busy_eq_zero (h : s.batch = []) : s.busy = 0 := by
  unfold State.busy
  rw [h]
  rfl

theorem State.busy_eq_one (h : s.batch ≠ []) : s.busy = 1 := by
  unfold State.busy
  rw [if_neg (mt List.isEmpty_iff.mp h)]

/-- What was handled and what has arrived stays. -/
theorem step_grows (hs : Reachable (system number) s) (hstep : (system number).step s l s') :
    s.dispatched <+: s'.dispatched ∧ s.arrived <+: s'.arrived := by
  obtain ⟨rest, h⟩ := cursor hs
  obtain ⟨a, hsame, _, _, h'⟩ | ⟨hsame, _, h', _⟩ | ⟨a, rest', hrest, hsame, _, h'⟩ := h.step hstep
  · rw [h.arrived, h'.arrived, hsame]
    exact ⟨List.prefix_refl _, (List.prefix_append_right_inj _).mpr (List.prefix_append _ _)⟩
  · rw [h.arrived, h'.arrived, hsame]
    exact ⟨List.prefix_refl _, List.prefix_refl _⟩
  · rw [h.arrived, h'.arrived, hsame, hrest, List.append_assoc]
    exact ⟨List.prefix_append _ _, List.prefix_refl _⟩

theorem run_grows (hs : Reachable (system number) s) (hrun : Runs (system number) s ls t) :
    s.dispatched <+: t.dispatched ∧ s.arrived <+: t.arrived := by
  induction hrun with
  | nil s => exact ⟨List.prefix_refl _, List.prefix_refl _⟩
  | cons hstep _ ih =>
    obtain ⟨hdispatched, harrived⟩ := step_grows hs hstep
    obtain ⟨hdispatched', harrived'⟩ := ih (hs.step hstep)
    exact ⟨hdispatched.trans hdispatched', harrived.trans harrived'⟩

/-- As long as one of the first `n` items is left, every answer of the source
    is paid for by an item that is handled; the last one may be in the batch
    still. -/
theorem answers_le {n : Nat} (hs : Reachable (system number) s) (hrun : Runs (system number) s ls t)
    (hn : n ≤ s.arrived.length) (ht : t.dispatched.length < n) :
    ls.countP Label.isAnswer + s.dispatched.length + s.busy ≤ t.dispatched.length + 1 := by
  -- an answer fills the batch while it is empty, so each one but the last has its dispatch
  induction hrun with
  | nil s =>
    have hbusy := s.busy_le
    simp only [List.countP_nil]
    omega
  | @cons s s' t l ls hstep hrun ih =>
    have hs' := hs.step hstep
    have harrived := (step_grows hs hstep).2.length_le
    have hrest := ih hs' (by omega) ht
    have hhandled := (run_grows hs (.cons hstep hrun)).1.length_le
    obtain ⟨rest, h⟩ := cursor hs
    rw [List.countP_cons]
    obtain ⟨a, hsame, hbatch, hno, _⟩ | ⟨hsame, hempty, _, hanswer⟩ | ⟨a, rest', _, hsame, hno, _⟩ :=
      h.step hstep
    · have hbusy : s'.busy = s.busy := by
        unfold State.busy
        rw [hbatch]
      rw [hsame, hbusy] at hrest
      rw [hno, if_neg Bool.false_ne_true]
      omega
    · rw [hsame] at hrest
      rw [State.busy_eq_zero hempty]
      by_cases hl : l.isAnswer = true
      · -- an item is left, so the batch is not empty
        have hlength := congrArg List.length h.arrived
        rw [List.length_append] at hlength
        have hne : rest ≠ [] := by
          rintro rfl
          rw [List.length_nil] at hlength
          omega
        rw [State.busy_eq_one (hanswer hl hne)] at hrest
        rw [if_pos hl]
        omega
      · rw [if_neg hl]
        omega
    · rw [hsame, List.length_append, List.length_singleton] at hrest
      rw [hno, if_neg Bool.false_ne_true]
      have hbusy := s.busy_le
      omega

/-- When the source has answered more often than items were left, these are
    handled. -/
theorem all_dispatched (hs : Reachable (system number) s) (hrun : Runs (system number) s ls t)
    (hanswers : s.arrived.length - s.dispatched.length < ls.countP Label.isAnswer) :
    s.arrived <+: t.dispatched := by
  have hlength : s.arrived.length ≤ t.dispatched.length := by
    by_contra hlt
    have hle := answers_le hs hrun (Nat.le_refl _) (by omega)
    omega
  have harrived := (run_grows hs hrun).2
  exact List.prefix_of_prefix_length_le harrived (prefix_dispatched (hs.runs hrun)) hlength

end Feed

import Mathlib.Algebra.GroupWithZero.Nat
import BoVpnAgent.Lib.Trim

/-! # `splitlines` and `"\n".join`

    Splitting a text into lines and joining them again makes every end of a
    line a newline and drops the last one.  The visible characters stay.
-/

namespace PyStr

open CodePoint Trim

/-- The line end that `"\n".join` writes. -/
def lineFeed : CodePoint := 0x0A

/-- Every end of a line as a newline; `cr` says that a carriage return has
    just ended one. -/
def unify (cr : Bool) : PyStr → PyStr
  | [] => []
  | c :: s =>
    if cr ∧ c.val = 0x0A then unify false s
    else if isLineBreak c then lineFeed :: unify (c.val = 0x0D) s
    else c :: unify false s

/-- The ends of lines are all newlines. -/
def Plain (s : PyStr) : Prop := ∀ c ∈ s, isLineBreak c = true → c = lineFeed

theorem isSpace_of_isLineBreak {c : CodePoint} (h : isLineBreak c = true) : isSpace c = true := by
  simp only [isLineBreak, Bool.or_eq_true, Bool.and_eq_true, decide_eq_true_eq,
    List.contains_eq_mem, List.mem_cons, List.not_mem_nil, or_false] at h
  simp only [isSpace, Bool.or_eq_true, Bool.and_eq_true, decide_eq_true_eq,
    List.contains_eq_mem, List.mem_cons, List.not_mem_nil, or_false]
  omega

/-! ### Joining what was split -/

/-- The joined lines are the unified text, up to spaces at the end. -/
theorem join_splitlinesFrom (line : PyStr) (cr : Bool) (s : PyStr) (hline : cr = true → line = []) :
    ∃ t, (∀ c ∈ t, isSpace c = true) ∧
      join [lineFeed] (splitlinesFrom line cr s) ++ t = line ++ unify cr s := by
  induction s generalizing line cr with
  | nil =>
    refine ⟨[], List.forall_mem_nil _, ?_⟩
    unfold splitlinesFrom unify
    by_cases hempty : line = []
    · rw [if_pos hempty, hempty]
      rfl
    · rw [if_neg hempty]
      rfl
  | cons c s ih =>
    unfold splitlinesFrom unify
    -- the second half of a `\r\n`, another line break, or a character of the line
    by_cases hcr : cr = true ∧ c.val = 0x0A
    · rw [if_pos hcr, if_pos hcr, hline hcr.1]
      exact ih [] false fun _ => rfl
    · rw [if_neg hcr, if_neg hcr]
      by_cases hbreak : isLineBreak c = true
      · rw [if_pos hbreak, if_pos hbreak]
        obtain ⟨t, ht, hjoin⟩ := ih [] (decide (c.val = 0x0D)) fun _ => rfl
        rw [List.nil_append] at hjoin
        cases hrest : splitlinesFrom [] (decide (c.val = 0x0D)) s with
        | nil =>
          -- nothing follows: the end of the last line is dropped
          rw [hrest] at hjoin
          refine ⟨lineFeed :: t, List.forall_mem_cons.mpr ⟨rfl, ht⟩, ?_⟩
          rw [← hjoin]
          rfl
        | cons next rest =>
          rw [hrest] at hjoin
          refine ⟨t, ht, ?_⟩
          rw [← hjoin]
          simp [join]
      · rw [if_neg hbreak, if_neg hbreak]
        obtain ⟨t, ht, hjoin⟩ := ih (line ++ [c]) false fun h => by cases h
        refine ⟨t, ht, ?_⟩
        rw [hjoin, List.append_assoc]
        rfl

/-- Stripped, the joined lines are the unified text. -/
theorem strip_join_splitlines (s : PyStr) :
    strip (join [lineFeed] (splitlines s)) = strip (unify false s) := by
  obtain ⟨t, ht, hjoin⟩ := join_splitlinesFrom [] false s fun _ => rfl
  rw [List.nil_append] at hjoin
  rw [← hjoin]
  have h := trim_append (join [lineFeed] (splitlines s)) (List.forall_mem_nil _) ht
  rw [List.nil_append] at h
  exact h.symm

/-! ### When unifying changes nothing -/

theorem plain_unify (cr : Bool) (s : PyStr) : Plain (unify cr s) := by
  induction s generalizing cr with
  | nil => exact List.forall_mem_nil _
  | cons c s ih =>
    unfold unify
    split
    · exact ih false
    · split
      · exact List.forall_mem_cons.mpr ⟨fun _ => rfl, ih _⟩
      · rename_i hbreak
        exact List.forall_mem_cons.mpr ⟨fun h => absurd h hbreak, ih false⟩

/-- Spaces in front stay spaces. -/
theorem unify_spaces (cr : Bool) {s : PyStr} (hs : ∀ c ∈ s, isSpace c = true) (rest : PyStr) :
    ∃ s' cr', (∀ c ∈ s', isSpace c = true) ∧ unify cr (s ++ rest) = s' ++ unify cr' rest := by
  induction s generalizing cr with
  | nil => exact ⟨[], cr, List.forall_mem_nil _, rfl⟩
  | cons c s ih =>
    obtain ⟨hc, hs⟩ := List.forall_mem_cons.mp hs
    rw [List.cons_append, unify]
    split
    · exact ih false hs
    · split
      · obtain ⟨s', cr', hs', heq⟩ := ih (decide (c.val = 0x0D)) hs
        exact ⟨lineFeed :: s', cr', List.forall_mem_cons.mpr ⟨rfl, hs'⟩, by rw [heq]; rfl⟩
      · obtain ⟨s', cr', hs', heq⟩ := ih false hs
        exact ⟨c :: s', cr', List.forall_mem_cons.mpr ⟨hc, hs'⟩, by rw [heq]; rfl⟩

/-- A plain text in front stays as it is. -/
theorem unify_plain {s : PyStr} (hs : Plain s) (rest : PyStr) :
    unify false (s ++ rest) = s ++ unify false rest := by
  induction s with
  | nil => rfl
  | cons c s ih =>
    obtain ⟨hc, hs⟩ := List.forall_mem_cons.mp hs
    rw [List.cons_append, unify, if_neg (by simp)]
    by_cases hbreak : isLineBreak c = true
    · have hfeed := hc hbreak
      have hcr : decide (c.val = 0x0D) = false := by
        rw [hfeed]
        rfl
      rw [if_pos hbreak, hcr, ih hs, hfeed]
      rfl
    · rw [if_neg hbreak, ih hs]
      rfl

/-- A text is its stripped part between spaces. -/
theorem exists_strip (s : PyStr) :
    ∃ a b, (∀ c ∈ a, isSpace c = true) ∧ (∀ c ∈ b, isSpace c = true) ∧ s = a ++ strip s ++ b := by
  have hlast : (s.dropWhile isSpace).rdropWhile isSpace ++
      (s.dropWhile isSpace).rtakeWhile isSpace = s.dropWhile isSpace :=
    List.rdropWhile_append_rtakeWhile
  refine ⟨s.takeWhile isSpace, (s.dropWhile isSpace).rtakeWhile isSpace, ?_, ?_, ?_⟩
  · intro c hc
    exact List.mem_takeWhile_imp hc
  · intro c hc
    exact List.mem_rtakeWhile_imp hc
  · unfold strip
    rw [List.append_assoc, hlast, List.takeWhile_append_dropWhile]

/-- Splitting a text and joining it gives it back, up to the spaces around it,
    exactly when newlines are the only ends of lines inside it. -/
theorem strip_join_splitlines_iff (s : PyStr) :
    strip (join [lineFeed] (splitlines s)) = strip s ↔ Plain (strip s) := by
  rw [strip_join_splitlines]
  constructor
  · intro h c hc
    rw [← h] at hc
    exact plain_unify false s c ((strip_sublist _).subset hc)
  · intro hplain
    obtain ⟨a, b, ha, hb, hs⟩ := exists_strip s
    rw [List.append_assoc] at hs
    -- the spaces around the visible part may hold line breaks of any kind
    cases hmiddle : strip s with
    | nil =>
      -- only spaces
      rw [hmiddle, List.nil_append] at hs
      have hspaces : ∀ c ∈ s, isSpace c = true := by
        rw [hs]
        exact List.forall_mem_append.mpr ⟨ha, hb⟩
      obtain ⟨s', cr, hs', hunify⟩ := unify_spaces false hspaces []
      have hempty := trim_append [] hs' (t := unify cr []) (List.forall_mem_nil _)
      rw [List.append_nil] at hunify hempty
      rw [hunify]
      exact hempty
    | cons c m =>
      rw [hmiddle] at hs hplain
      have hbare : Bare isSpace (c :: m) := by
        rw [← hmiddle]
        exact (trim_eq_self_iff _).mp (strip_strip s)
      have hvisible : isSpace c = false := hbare.1 c rfl
      obtain ⟨a', cr, ha', hfront⟩ := unify_spaces false ha (c :: m ++ b)
      obtain ⟨b', cr', hb', hback⟩ := unify_spaces false hb []
      -- the first visible character is no newline, whatever comes before it
      have hstart : unify cr (c :: m ++ b) = unify false (c :: m ++ b) := by
        have hc : ¬ c.val = 0x0A := by
          intro hc
          rw [show c = lineFeed from Fin.ext hc] at hvisible
          exact absurd hvisible (by decide)
        have hbreak : ¬ isLineBreak c = true := by
          intro hbreak
          rw [isSpace_of_isLineBreak hbreak] at hvisible
          cases hvisible
        rw [List.cons_append, unify, unify, if_neg fun h => hc h.2, if_neg hbreak,
          if_neg fun h => hc h.2]
      rw [List.append_nil] at hback
      have htext : unify false s = a' ++ (c :: m) ++ (b' ++ unify cr' []) := by
        conv_lhs => rw [hs]
        rw [hfront, hstart, unify_plain hplain, hback, List.append_assoc]
      rw [htext]
      have htrim := trim_append (c :: m) ha' (t := b' ++ unify cr' [])
        (List.forall_mem_append.mpr ⟨hb', List.forall_mem_nil _⟩)
      exact htrim.trans ((trim_eq_self_iff _).mpr hbare)

/-! ### Lines without their ends -/

/-- No line holds an end of a line. -/
theorem not_isLineBreak_of_mem_splitlinesFrom {line : PyStr} (hline : ∀ c ∈ line, isLineBreak c = false)
    {cr : Bool} {s l : PyStr} (hl : l ∈ splitlinesFrom line cr s) : ∀ c ∈ l, isLineBreak c = false := by
  induction s generalizing line cr with
  | nil =>
    unfold splitlinesFrom at hl
    split at hl
    · cases hl
    · rw [List.mem_singleton.mp hl]
      exact hline
  | cons c s ih =>
    unfold splitlinesFrom at hl
    split at hl
    · exact ih (List.forall_mem_nil _) hl
    · split at hl
      · obtain rfl | hl := List.mem_cons.mp hl
        · exact hline
        · exact ih (List.forall_mem_nil _) hl
      · next hbreak =>
        refine ih ?_ hl
        rw [List.forall_mem_append, List.forall_mem_singleton]
        exact ⟨hline, Bool.eq_false_iff.mpr hbreak⟩

theorem not_isLineBreak_of_mem_splitlines {s l : PyStr} (hl : l ∈ splitlines s) :
    ∀ c ∈ l, isLineBreak c = false :=
  not_isLineBreak_of_mem_splitlinesFrom (List.forall_mem_nil _) hl

/-- A text without an end of a line is one line, or none. -/
theorem splitlinesFrom_of_not_isLineBreak (line : PyStr) {s : PyStr} (hs : ∀ c ∈ s, isLineBreak c = false) :
    splitlinesFrom line false s = if line ++ s = [] then [] else [line ++ s] := by
  induction s generalizing line with
  | nil => rw [List.append_nil, splitlinesFrom]
  | cons c s ih =>
    rw [List.forall_mem_cons] at hs
    rw [splitlinesFrom, if_neg (by simp), if_neg (by rw [hs.1]; simp), ih _ hs.2, List.append_assoc]
    rfl

theorem splitlines_of_not_isLineBreak {s : PyStr} (hs : ∀ c ∈ s, isLineBreak c = false) :
    splitlines s = if s = [] then [] else [s] :=
  splitlinesFrom_of_not_isLineBreak [] hs

/-! ### A text that is cut -/

/-- The line that a text does not end, behind what was read of it. -/
def lastLine (line : PyStr) : PyStr → PyStr
  | [] => line
  | c :: s => if isLineBreak c then lastLine [] s else lastLine (line ++ [c]) s

/-- The lines of a text that is cut in two. -/
theorem splitlinesFrom_cut (line : PyStr) {a : PyStr} (ha : 0x0D ∉ a) (b : PyStr) :
    ∃ closed, splitlinesFrom line false (a ++ b) = closed ++ splitlinesFrom (lastLine line a) false b := by
  induction a generalizing line with
  | nil => exact ⟨[], rfl⟩
  | cons c a ih =>
    rw [List.mem_cons, not_or] at ha
    have hcr : decide (c.val = 0x0D) = false := decide_eq_false fun h => ha.1 (Fin.ext h).symm
    rw [List.cons_append, splitlinesFrom, if_neg (by simp), hcr, lastLine]
    by_cases hbreak : isLineBreak c = true
    · obtain ⟨closed, hclosed⟩ := ih [] ha.2
      exact ⟨line :: closed, by rw [if_pos hbreak, if_pos hbreak, hclosed]; rfl⟩
    · obtain ⟨closed, hclosed⟩ := ih (line ++ [c]) ha.2
      exact ⟨closed, by rw [if_neg hbreak, if_neg hbreak, hclosed]⟩

/-- What was read of a line comes in front of the first line of the rest. -/
theorem splitlinesFrom_line_append {s : PyStr} (hs : 0x0D ∉ s) (hne : s ≠ []) :
    ∃ first rest, ∀ line, splitlinesFrom line false s = (line ++ first) :: rest := by
  induction s with
  | nil => exact absurd rfl hne
  | cons c s ih =>
    rw [List.mem_cons, not_or] at hs
    have hcr : decide (c.val = 0x0D) = false := decide_eq_false fun h => hs.1 (Fin.ext h).symm
    by_cases hbreak : isLineBreak c = true
    · refine ⟨[], splitlinesFrom [] false s, fun line => ?_⟩
      rw [splitlinesFrom, if_neg (by simp), if_pos hbreak, hcr, List.append_nil]
    · by_cases hempty : s = []
      · refine ⟨[c], [], fun line => ?_⟩
        rw [hempty, splitlinesFrom, if_neg (by simp), if_neg hbreak, splitlinesFrom, if_neg (by simp)]
      · obtain ⟨first, rest, hfirst⟩ := ih hs.2 hempty
        refine ⟨c :: first, rest, fun line => ?_⟩
        rw [splitlinesFrom, if_neg (by simp), if_neg hbreak, hfirst, List.append_assoc]
        rfl

/-! ### The lines of texts in a row -/

/-- A line that is ended stands alone. -/
theorem splitlinesFrom_line (line : PyStr) {l : PyStr} (hl : l.any isLineBreak = false)
    (rest : PyStr) :
    splitlinesFrom line false (l ++ [lineFeed] ++ rest) = (line ++ l) :: splitlinesFrom [] false rest := by
  induction l generalizing line with
  | nil =>
    rw [List.append_nil]
    rfl
  | cons c l ih =>
    rw [List.any_cons, Bool.or_eq_false_iff] at hl
    rw [List.cons_append, List.cons_append, splitlinesFrom, if_neg (by simp),
      if_neg (by rw [hl.1]; simp), ih _ hl.2]
    simp

/-- A text that ends with a newline is split on its own. -/
theorem splitlinesFrom_append (line : PyStr) (cr : Bool) (s rest : PyStr) :
    splitlinesFrom line cr (s ++ [lineFeed] ++ rest) =
      splitlinesFrom line cr (s ++ [lineFeed]) ++ splitlinesFrom [] false rest := by
  induction s generalizing line cr with
  | nil =>
    rw [List.nil_append, List.singleton_append, splitlinesFrom, splitlinesFrom]
    split
    · rfl
    · rfl
  | cons c s ih =>
    rw [List.cons_append, List.cons_append, splitlinesFrom, splitlinesFrom]
    split
    · exact ih [] false
    · split
      · rw [ih, List.cons_append]
      · exact ih _ false

/-! ### Visible characters -/

/-- The number of characters that are no spaces. -/
def ink (s : PyStr) : Nat := s.countP fun c => !isSpace c

@[simp] theorem ink_append (s t : PyStr) : ink (s ++ t) = ink s + ink t := List.countP_append

theorem ink_spaces {s : PyStr} (h : ∀ c ∈ s, isSpace c = true) : ink s = 0 := by
  apply List.countP_eq_zero.mpr
  intro c hc
  simp [h c hc]

@[simp] theorem ink_strip (s : PyStr) : ink (strip s) = ink s := by
  obtain ⟨a, b, ha, hb, hs⟩ := exists_strip s
  conv_rhs => rw [hs]
  rw [ink_append, ink_append, ink_spaces ha, ink_spaces hb, Nat.zero_add, Nat.add_zero]

theorem ink_join (ls : List PyStr) : ink (join [lineFeed] ls) = (ls.map ink).sum := by
  induction ls with
  | nil => rfl
  | cons l ls ih =>
    cases ls with
    | nil => simp [join]
    | cons l' ls =>
      have hfeed : ink [lineFeed] = 0 := rfl
      show ink (l ++ [lineFeed] ++ join [lineFeed] (l' :: ls)) = _
      rw [ink_append, ink_append, hfeed, ih, Nat.add_zero, ← List.sum_cons, ← List.map_cons]

/-- Splitting loses spaces only. -/
theorem ink_splitlinesFrom (line : PyStr) (cr : Bool) (s : PyStr) (hline : cr = true → line = []) :
    ((splitlinesFrom line cr s).map ink).sum = ink line + ink s := by
  induction s generalizing line cr with
  | nil =>
    unfold splitlinesFrom
    by_cases hempty : line = []
    · rw [if_pos hempty, hempty]
      rfl
    · rw [if_neg hempty]
      simp [ink]
  | cons c s ih =>
    have hcons : ink (c :: s) = ink [c] + ink s := ink_append [c] s
    unfold splitlinesFrom
    split
    · rename_i hcr
      have hspace : ink [c] = 0 := by
        rw [show c = lineFeed from Fin.ext hcr.2]
        rfl
      rw [ih [] false (fun _ => rfl), hline hcr.1, hcons, hspace, Nat.zero_add]
    · split
      · rename_i hbreak
        have hspace : ink [c] = 0 := by
          simp [ink, isSpace_of_isLineBreak hbreak]
        rw [List.map_cons, List.sum_cons, ih [] _ (fun _ => rfl), hcons, hspace, Nat.zero_add]
        simp [ink]
      · rw [ih _ false (fun h => by cases h), hcons, ink_append, Nat.add_assoc]

theorem ink_splitlines (s : PyStr) : ((splitlines s).map ink).sum = ink s := by
  have h := ink_splitlinesFrom [] false s fun _ => rfl
  rw [show ink [] = 0 from rfl, Nat.zero_add] at h
  exact h

end PyStr

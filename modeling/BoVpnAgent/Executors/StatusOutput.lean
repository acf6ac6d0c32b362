import BoVpnAgent.Executors.Operations
import BoVpnAgent.Lib.SplitLines

/-! # The output of `basic_status`

    `hostname; uptime; date -Is; df -h /; free -m` prints three lines and two
    blocks.  `_parse_basic_status` takes the lines by their position and looks
    for the blocks by a word in front of a line, among all the lines.  This
    file shows when the two agree.
-/

namespace BoVpnAgent

open PyStr

/-- What the five commands print.  The output of `df` ends with a newline, as
    that of `free` may. -/
structure StatusOutput where
  hostname : PyStr
  uptime : PyStr
  date : PyStr
  df : PyStr
  free : PyStr
  nonempty : hostname ≠ [] ∧ uptime ≠ [] ∧ date ≠ []
  single_lines : ∀ l ∈ [hostname, uptime, date], l.any isLineBreak = false
  df_ended : df.getLast? = some lineFeed
  df_header : ∃ l ∈ (splitlines df).head?, startsWith l "Filesystem".py = true
  df_lines : ∀ l ∈ (splitlines df).tail, startsWith l "total".py = false
  free_header : ∃ l ∈ (splitlines free).head?,
    startsWith (l.dropWhile CodePoint.isSpace) "total".py = true

namespace StatusOutput

variable (o : StatusOutput)

/-- The output of the ssh command. -/
def stdout : PyStr :=
  o.hostname ++ [lineFeed] ++ (o.uptime ++ [lineFeed] ++ (o.date ++ [lineFeed] ++ (o.df ++ o.free)))

/-- The three lines in front of the blocks. -/
def front : List PyStr := [o.hostname, o.uptime, o.date]

/-- The five texts, trimmed. -/
def report : Json :=
  .obj [("hostname".py, .str (strip o.hostname)), ("uptime_raw".py, .str (strip o.uptime)),
    ("system_time".py, .str (strip o.date)), ("disk_root_raw".py, .str (strip o.df)),
    ("memory_raw".py, .str (strip o.free))]

/-- The line starts, after spaces, with this word. -/
def Heads (word line : PyStr) : Prop := startsWith (line.dropWhile CodePoint.isSpace) word = true

instance (word line : PyStr) : Decidable (Heads word line) := inferInstanceAs (Decidable (_ = true))

/-- No line starts a block before its place, and newlines are the only ends of
    lines inside the blocks. -/
def Separable : Prop :=
  (∀ l ∈ o.front, ¬ Heads "Filesystem".py l) ∧
  (∀ l ∈ o.front ++ splitlines o.df, ¬ Heads "total".py l) ∧
  Plain (strip o.df) ∧ Plain (strip o.free)

theorem splitlines_stdout :
    splitlines o.stdout = o.front ++ splitlines o.df ++ splitlines o.free := by
  have hline := o.single_lines
  simp only [List.mem_cons, List.not_mem_nil, or_false, forall_eq_or_imp, forall_eq] at hline
  obtain ⟨t, ht⟩ := List.getLast?_eq_some_iff.mp o.df_ended
  unfold stdout splitlines front
  rw [splitlinesFrom_line [] hline.1, splitlinesFrom_line [] hline.2.1,
    splitlinesFrom_line [] hline.2.2, ht, splitlinesFrom_append]
  rfl

/-! ### Finding a header -/

section boundary

variable {p : PyStr → Bool} {y : PyStr}

/-- The first line with the word is the header, or a line before it. -/
theorem findIdx?_header (xs : List PyStr) (hy : p y = true) (ys : List PyStr) :
    ∃ i, (xs ++ y :: ys).findIdx? p = some i ∧
      ((∀ x ∈ xs, p x = false) → i = xs.length) ∧
      ((¬ ∀ x ∈ xs, p x = false) → ∃ x rest, xs.drop i = x :: rest ∧ p x = true) := by
  induction xs with
  | nil =>
    refine ⟨0, ?_, fun _ => rfl, fun h => absurd (List.forall_mem_nil _) h⟩
    rw [List.nil_append, List.findIdx?_cons, if_pos hy]
  | cons x xs ih =>
    rw [List.cons_append, List.findIdx?_cons]
    by_cases hx : p x = true
    · refine ⟨0, by rw [if_pos hx], ?_, fun _ => ⟨x, xs, rfl, hx⟩⟩
      intro h
      rw [(List.forall_mem_cons.mp h).1] at hx
      cases hx
    · obtain ⟨i, hi, hnone, hsome⟩ := ih
      refine ⟨i + 1, by rw [if_neg hx, hi]; rfl, ?_, ?_⟩
      · intro h
        rw [hnone (List.forall_mem_cons.mp h).2]
        rfl
      · intro h
        apply hsome
        intro hxs
        exact h (List.forall_mem_cons.mpr ⟨by simpa using hx, hxs⟩)

/-- A line that starts with a word is visible. -/
theorem ink_pos {word line : PyStr} (hword : 0 < ink word) (h : Heads word line) : 0 < ink line := by
  obtain ⟨t, ht⟩ := List.isPrefixOf_iff_prefix.mp h
  have hdrop : ink (line.dropWhile CodePoint.isSpace) ≤ ink line :=
    (List.dropWhile_suffix _).sublist.countP_le
  rw [← ht, ink_append] at hdrop
  omega

/-- The block from the line that was found has the visible characters of the
    block itself only when no earlier line has the word. -/
theorem header_iff (xs : List PyStr) {word : PyStr} (hword : 0 < ink word) (hy : Heads word y) (ys : List PyStr) :
    ∃ i, find_line_index (xs ++ y :: ys) word = some i ∧
      ((∀ x ∈ xs, ¬ Heads word x) → i = xs.length) ∧
      ((¬ ∀ x ∈ xs, ¬ Heads word x) →
        ((y :: ys).map ink).sum < (((xs ++ y :: ys).drop i).map ink).sum) := by
  obtain ⟨i, hi, hnone, hsome⟩ := findIdx?_header xs
    (p := fun line => startsWith (line.dropWhile CodePoint.isSpace) word) hy ys
  refine ⟨i, hi, ?_, ?_⟩
  · intro h
    apply hnone
    intro x hx
    simpa [Heads] using h x hx
  · intro h
    obtain ⟨x, rest, hdrop, hx⟩ := hsome fun hxs => h fun x hx => by simp [Heads, hxs x hx]
    have hi : i ≤ xs.length := by
      have hlength := congrArg List.length hdrop
      simp only [List.length_drop, List.length_cons] at hlength
      omega
    have hpos := ink_pos hword hx
    rw [List.drop_append_of_le_length hi, hdrop, List.map_append, List.sum_append]
    simp only [List.map_cons, List.sum_cons]
    omega

end boundary

/-! ### Parsing the output -/

/-- The block of `df` starts with its header. -/
theorem df_cons : ∃ l ls, splitlines o.df = l :: ls ∧ Heads "Filesystem".py l := by
  obtain ⟨l, hl, hheader⟩ := o.df_header
  obtain ⟨ls, hls⟩ := List.head?_eq_some_iff.mp hl
  refine ⟨l, ls, hls, ?_⟩
  obtain ⟨t, ht⟩ := List.isPrefixOf_iff_prefix.mp hheader
  have hword : "Filesystem".py = 0x46 :: "ilesystem".py := by decide
  have hdrop : l.dropWhile CodePoint.isSpace = l := by
    rw [← ht, hword]
    exact List.dropWhile_cons_of_neg (by decide)
  unfold Heads
  rw [hdrop]
  exact hheader

/-- The block of `free` starts with its header. -/
theorem free_cons : ∃ l ls, splitlines o.free = l :: ls ∧ Heads "total".py l := by
  obtain ⟨l, hl, hheader⟩ := o.free_header
  obtain ⟨ls, hls⟩ := List.head?_eq_some_iff.mp hl
  exact ⟨l, ls, hls, hheader⟩

/-- The report that `_parse_basic_status` makes when it finds the headers
    there. -/
theorem parse_of_found {disk_start memory_start : Nat}
    (hdisk : find_line_index (splitlines o.stdout) "Filesystem".py = some disk_start)
    (hmemory : find_line_index (splitlines o.stdout) "total".py = some memory_start) :
    parse_basic_status o.stdout = o.report ↔
      strip (join [lineFeed] (((splitlines o.stdout).take memory_start).drop disk_start)) =
        strip o.df ∧
      strip (join [lineFeed] ((splitlines o.stdout).drop memory_start)) = strip o.free := by
  have hline : ∀ (k : Nat) (l : PyStr), o.front[k]? = some l → (splitlines o.stdout)[k]? = some l := by
    intro k l hk
    rw [splitlines_stdout, List.append_assoc,
      List.getElem?_append_left (List.getElem?_eq_some_iff.mp hk).1]
    exact hk
  unfold parse_basic_status report
  simp only [hdisk, hmemory, hline 0 _ rfl, hline 1 _ rfl, hline 2 _ rfl, Option.map_some,
    Option.getD_some, Json.obj.injEq, List.cons.injEq, Prod.mk.injEq, Json.str.injEq, true_and,
    and_true]
  rfl

/-- Parsing undoes the concatenation exactly when no line stands in the way. -/
theorem parse_basic_status_iff : parse_basic_status o.stdout = o.report ↔ o.Separable := by
  obtain ⟨y, ys, hdf, hy⟩ := o.df_cons
  obtain ⟨z, zs, hfree, hz⟩ := o.free_cons
  obtain ⟨disk_start, hdisk, hfront, hearly⟩ :=
    header_iff o.front (by decide) hy ys
  obtain ⟨memory_start, hmemory, hblocks, htotal⟩ :=
    header_iff (o.front ++ splitlines o.df) (by decide) hz zs
  rw [← hfree] at hmemory htotal
  rw [← hdf] at hdisk hearly
  have hlines := o.splitlines_stdout
  have hdisk' : find_line_index (splitlines o.stdout) "Filesystem".py = some disk_start := by
    rw [hlines, find_line_index, List.findIdx?_append]
    unfold find_line_index at hdisk
    rw [hdisk]
    rfl
  rw [o.parse_of_found hdisk' (by rw [hlines]; exact hmemory), hlines]
  -- a header that is found too early leaves less text in its own block than it should have
  constructor
  · intro ⟨hdiskText, hmemoryText⟩
    -- from the end: the last block has no more ink than it should
    have htotals : ∀ l ∈ o.front ++ splitlines o.df, ¬ Heads "total".py l := by
      by_contra hno
      have hless := htotal hno
      have hink := congrArg ink hmemoryText
      rw [ink_strip, ink_strip, ink_join, ← ink_splitlines o.free] at hink
      omega
    have hm := hblocks htotals
    rw [hm, List.drop_left] at hmemoryText
    rw [hm, List.take_left] at hdiskText
    have hfronts : ∀ l ∈ o.front, ¬ Heads "Filesystem".py l := by
      by_contra hno
      have hless := hearly hno
      have hink := congrArg ink hdiskText
      rw [ink_strip, ink_strip, ink_join, ← ink_splitlines o.df] at hink
      omega
    rw [hfront hfronts, List.drop_left] at hdiskText
    exact ⟨hfronts, htotals, (strip_join_splitlines_iff o.df).mp hdiskText,
      (strip_join_splitlines_iff o.free).mp hmemoryText⟩
  · intro ⟨hfronts, htotals, hdfPlain, hfreePlain⟩
    rw [hblocks htotals, hfront hfronts, List.drop_left, List.take_left, List.drop_left]
    exact ⟨(strip_join_splitlines_iff o.df).mpr hdfPlain,
      (strip_join_splitlines_iff o.free).mpr hfreePlain⟩

/-! ### A hostname that starts with `total` -/

def totalHost : StatusOutput where
  hostname := "total-1".py
  uptime := "up 2 days".py
  date := "2026".py
  df := "Filesystem\n/dev\n".py
  free := " total\nMem: 1\n".py
  nonempty := by decide
  single_lines := by decide
  df_ended := by decide
  df_header := ⟨"Filesystem".py, by decide, by decide⟩
  df_lines := by decide
  free_header := ⟨" total".py, by decide, by decide⟩

/-- The memory block is the whole output, and the disk block is empty. -/
theorem totalHost_misread :
    parse_basic_status totalHost.stdout =
      .obj [("hostname".py, .str "total-1".py), ("uptime_raw".py, .str "up 2 days".py),
        ("system_time".py, .str "2026".py), ("disk_root_raw".py, .str []),
        ("memory_raw".py, .str (strip totalHost.stdout))] ∧
    parse_basic_status totalHost.stdout ≠ totalHost.report := by
  constructor
  · rfl
  · rw [ne_eq, parse_basic_status_iff]
    intro h
    exact h.2.1 totalHost.hostname List.mem_cons_self (by decide)

end StatusOutput

end BoVpnAgent

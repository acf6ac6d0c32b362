import BoVpnAgent.Doctor.Redaction

/-! # The failure context

    `capture_failure_context` keeps the last 24000 characters of what a
    container has logged and cleans these: the cut comes before the redaction,
    and may fall into the line that would have been redacted.

    This file shows for which output nothing of a sensitive line is written.
-/

namespace BoVpnAgent.VpnDoctor

open TextTail

/-! ### `capture_failure_context` -/

/-- A container, with what `docker logs` shows of it. -/
structure Container where
  running : Bool
  stdout : PyStr
  stderr : PyStr
  deriving DecidableEq

/-- `result.stdout + "\n" + result.stderr` -/
def Container.output (c : Container) : PyStr := c.stdout ++ "\n".py ++ c.stderr

/-- `output[-24000:]` -/
def window (output : PyStr) : PyStr := output.rtake 24000

/-- The log call for one container. -/
def capture (name : PyStr) (c : Container) : Option (PyStr × PyStr × PyStr) :=
  if c.running then
    let cleaned := clean (window c.output)
    if cleaned = [] then none else some ("ERROR".py, "context:".py ++ name, cleaned)
  else none

/-- The log calls, for the containers by name. -/
def capture_failure_context (containers : PyStr → Container) : List (PyStr × PyStr × PyStr) :=
  ["bo-vpn-runner".py, "bo-vpn-worker".py, "bo-vpn-tcp-proxy".py].filterMap fun name =>
    capture name (containers name)

/-! ### The line that is cut -/

/-- What the cut takes away of the first line in the window. -/
def cut (output : PyStr) : PyStr :=
  PyStr.lastLine [] ((output.take (output.length - 24000)).filter (· ≠ 0x0D))

/-- The lines of the window are the last ones of the output, and of the first
    of them what the cut has left. -/
theorem log_lines_window {output first : PyStr} {rest : List PyStr}
    (h : log_lines (window output) = first :: rest) :
    ∃ closed, log_lines output = closed ++ (cut output ++ first) :: rest := by
  have hcr : ∀ s : PyStr, 0x0D ∉ s.filter (· ≠ 0x0D) := by
    intro s hmem
    simpa using List.of_mem_filter hmem
  have hsplit : output.filter (· ≠ 0x0D) =
      (output.take (output.length - 24000)).filter (· ≠ 0x0D) ++ (window output).filter (· ≠ 0x0D) := by
    rw [← List.filter_append]
    exact congrArg _ (List.take_append_drop _ _).symm
  have hne : (window output).filter (· ≠ 0x0D) ≠ [] := by
    intro hempty
    rw [log_lines, hempty] at h
    cases h
  obtain ⟨closed, hclosed⟩ := PyStr.splitlinesFrom_cut [] (hcr (output.take (output.length - 24000)))
    ((window output).filter (· ≠ 0x0D))
  obtain ⟨first', rest', hfirst⟩ := PyStr.splitlinesFrom_line_append (hcr (window output)) hne
  have hwindow : first' :: rest' = first :: rest := (hfirst []).symm.trans h
  obtain ⟨rfl, rfl⟩ := List.cons.inj hwindow
  refine ⟨closed, ?_⟩
  rw [log_lines, PyStr.splitlines, hsplit, hclosed, hfirst]
  rfl

/-! ### What is written of a line -/

/-- Nothing of the line is written: the placeholder stands for it, or only
    spaces come of it. -/
def Hidden (shown : PyStr) : Prop := clean_line shown = PLACEHOLDER ∨ PyStr.strip (clean_line shown) = []

/-- What the failure context promises for the output of a container. -/
structure Discreet (output : PyStr) : Prop where
  /-- whole lines are written as `clean` has them, behind a tail of one line -/
  lines : ∀ first rest, log_lines (window output) = first :: rest →
    (∃ closed, log_lines output = closed ++ (cut output ++ first) :: rest) ∧
      clean (window output) = PyStr.strip (PyStr.join " | ".py ((first :: rest).map clean_line))
  /-- nothing is written of a whole line that mentions a sensitive word -/
  whole : ∀ first rest, log_lines (window output) = first :: rest →
    ∀ line ∈ rest, sensitive line = true → clean_line line = PLACEHOLDER
  /-- nor of the line that is cut -/
  tail : ∀ first rest, log_lines (window output) = first :: rest →
    sensitive (cut output ++ first) = true → Hidden first

/-- What the output has to be for that: a whole line in the window with a
    sensitive word has one outside of its token URLs; and when the line of the
    cut has one, then so has what is left of it, or that is blank or the
    placeholder. -/
def CutSafely (output : PyStr) : Prop :=
  ∀ first rest, log_lines (window output) = first :: rest →
    (∀ line ∈ rest, sensitive line = true → sensitive (redact_urls line) = true) ∧
      (sensitive (cut output ++ first) = true →
        sensitive (redact_urls first) = true ∨ first = PLACEHOLDER ∨ PyStr.strip first = [])

theorem strip_eq_nil_iff (s : PyStr) : PyStr.strip s = [] ↔ ∀ c ∈ s, c.isSpace = true := by
  constructor
  · intro h
    obtain ⟨a, b, ha, hb, hs⟩ := PyStr.exists_strip s
    rw [hs, h, List.append_nil]
    exact List.forall_mem_append.mpr ⟨ha, hb⟩
  · intro h
    rw [PyStr.strip, List.dropWhile_eq_nil_iff.mpr h]
    rfl

theorem hidden_iff (shown : PyStr) : Hidden shown ↔
    sensitive (redact_urls shown) = true ∨ shown = PLACEHOLDER ∨ PyStr.strip shown = [] := by
  -- without a slash the line stays as it is, and neither the placeholder nor a blank has one
  have hsame : (redact_urls shown = PLACEHOLDER ∨ PyStr.strip (redact_urls shown) = []) ↔
      (shown = PLACEHOLDER ∨ PyStr.strip shown = []) := by
    by_cases hslash : 0x2F ∈ shown
    · have hfree : ∀ s : PyStr, 0x2F ∈ s → ¬ (s = PLACEHOLDER ∨ PyStr.strip s = []) := by
        rintro s hs (rfl | hblank)
        · exact absurd hs (by decide)
        · exact absurd ((strip_eq_nil_iff s).mp hblank _ hs) (by decide)
      exact iff_of_false (hfree _ (mem_slash_redact_urls hslash)) (hfree _ hslash)
    · rw [redact_urls_of_no_slash hslash]
  unfold Hidden clean_line
  by_cases hsensitive : sensitive (redact_urls shown) = true
  · rw [if_pos hsensitive]
    exact iff_of_true (.inl rfl) (.inl hsensitive)
  · rw [if_neg hsensitive, or_iff_right hsensitive]
    exact hsame

theorem discreet_iff (output : PyStr) : Discreet output ↔ CutSafely output := by
  constructor
  · intro h first rest hwindow
    refine ⟨fun line hline hword => ?_, fun hword => ?_⟩
    · exact (clean_line_eq_placeholder_iff hword).mp (h.whole first rest hwindow line hline hword)
    · exact (hidden_iff first).mp (h.tail first rest hwindow hword)
  · intro h
    refine ⟨fun first rest hwindow => ?_, fun first rest hwindow line hline hword => ?_,
      fun first rest hwindow hword => ?_⟩
    · exact ⟨log_lines_window hwindow, by rw [clean, hwindow]⟩
    · exact (clean_line_eq_placeholder_iff hword).mpr ((h first rest hwindow).1 line hline hword)
    · exact (hidden_iff first).mpr ((h first rest hwindow).2 hword)

/-! ### A cut behind the word -/

/-- A word of `n` letters that is not sensitive. -/
def letters (n : Nat) : PyStr := List.replicate n 0x78

theorem eq_of_mem_letters {n : Nat} {c : CodePoint} (h : c ∈ letters n) : c = 0x78 := List.eq_of_mem_replicate h

theorem not_mem_letters (n : Nat) {c : CodePoint} (hc : c ≠ 0x78) : c ∉ letters n := fun h =>
  hc (eq_of_mem_letters h)

theorem sensitive_letters (n : Nat) : sensitive (letters n) = false := by
  rw [← Bool.not_eq_true, sensitive_iff]
  rintro ⟨word, hword, hin⟩
  have hall : (SENSITIVE.all fun word => word.any (· ≠ 0x78)) = true := by decide
  obtain ⟨c, hc, hne⟩ := List.any_eq_true.mp (List.all_eq_true.mp hall word hword)
  obtain ⟨d, hd, rfl⟩ := List.mem_map.mp (hin.subset hc)
  rw [eq_of_mem_letters hd] at hne
  exact absurd hne (by decide)

theorem clean_line_letters (n : Nat) : clean_line (letters n) = letters n := by
  have hsame : redact_urls (letters n) = letters n :=
    redact_urls_of_no_slash (not_mem_letters n (by decide))
  rw [clean_line, hsame, sensitive_letters]
  rfl

theorem strip_letters (n : Nat) : PyStr.strip (letters n) = letters n := by
  have hspace : ∀ c ∈ letters n, c.isSpace = false := by
    intro c hc
    rw [eq_of_mem_letters hc]
    decide
  apply (Trim.trim_eq_self_iff _).mpr
  exact ⟨fun c hc => hspace c (List.mem_of_mem_head? hc), fun c hc => hspace c (List.mem_of_getLast? hc)⟩

theorem log_lines_letters (n : Nat) : log_lines (letters n ++ [0x0A]) = [letters n] := by
  have hfilter : (letters n ++ [0x0A]).filter (· ≠ 0x0D) = letters n ++ [0x0A] := by
    rw [List.filter_eq_self]
    intro c hc
    rw [List.mem_append, List.mem_singleton] at hc
    obtain hc | rfl := hc
    · rw [eq_of_mem_letters hc]
      decide
    · decide
  have hbreak : (letters n).any PyStr.isLineBreak = false := by
    rw [List.any_eq_false]
    intro c hc
    rw [eq_of_mem_letters hc]
    decide
  have hline := PyStr.splitlinesFrom_line [] hbreak []
  rw [List.append_nil, List.nil_append] at hline
  rw [log_lines, hfilter]
  exact hline

/-- A password of `n` letters in a line of the output. -/
def leaking (n : Nat) : Container where
  running := true
  stdout := "password=".py ++ letters n
  stderr := []

theorem leaking_output (n : Nat) : (leaking n).output = "password=".py ++ (letters n ++ [0x0A]) := by
  have hfeed : "\n".py = [0x0A] := rfl
  rw [Container.output, hfeed]
  simp only [leaking, List.append_assoc, List.append_nil]

section window

variable {n : Nat} (hn : n + 1 = 24000)
include hn

theorem length_letters : (letters n ++ [0x0A]).length = 24000 := by
  rw [List.length_append, letters, List.length_replicate]
  exact hn

theorem window_leaking : window (leaking n).output = letters n ++ [0x0A] := by
  have hlength := length_letters hn
  rw [leaking_output, window, rtake_append, hlength, Nat.sub_self, List.rtake_zero, List.nil_append,
    rtake_of_length_le (Nat.le_of_eq hlength)]

theorem cut_leaking : cut (leaking n).output = "password=".py := by
  have hword : "password=".py.length = 9 := rfl
  have hlength : (leaking n).output.length - 24000 = "password=".py.length := by
    rw [leaking_output, List.length_append, length_letters hn, hword]
  rw [cut, hlength, leaking_output, List.take_left]
  decide

/-- The window begins behind `password=`, and the rest of the line is
    written. -/
theorem leaking_written (name : PyStr) :
    capture name (leaking n) = some ("ERROR".py, "context:".py ++ name, letters n) ∧
      ¬ Discreet (leaking n).output := by
  have hlines : log_lines (window (leaking n).output) = [letters n] := by
    rw [window_leaking hn, log_lines_letters]
  have hclean : clean (window (leaking n).output) = letters n := by
    rw [clean, hlines, List.map_singleton, clean_line_letters]
    exact strip_letters n
  have hne : letters n ≠ [] := by
    rintro hempty
    have hlength := congrArg List.length hempty
    rw [letters, List.length_replicate, List.length_nil] at hlength
    omega
  refine ⟨?_, fun h => ?_⟩
  · have hrunning : (leaking n).running = true := rfl
    simp only [capture, hrunning, if_true, hclean, if_neg hne]
  · have hword : sensitive (cut (leaking n).output ++ letters n) = true := by
      rw [cut_leaking hn, sensitive_iff]
      refine ⟨"password".py, by decide, [], "=".py.map ignoreCase ++ (letters n).map ignoreCase, ?_⟩
      rw [List.map_append]
      rfl
    obtain hhidden | hhidden := h.tail _ _ hlines hword
    · rw [clean_line_letters] at hhidden
      have hmem : 0x5B ∈ letters n := by rw [hhidden]; decide
      exact absurd (eq_of_mem_letters hmem) (by decide)
    · rw [clean_line_letters, strip_letters] at hhidden
      exact hne hhidden

end window

theorem secret_written :
    capture "bo-vpn-worker".py (leaking 23999) =
      some ("ERROR".py, "context:bo-vpn-worker".py, letters 23999) ∧
      ¬ Discreet (leaking 23999).output :=
  leaking_written rfl "bo-vpn-worker".py

end BoVpnAgent.VpnDoctor

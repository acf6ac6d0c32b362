import BoVpnAgent.Lib.SplitLines
import BoVpnAgent.Lib.Substitution
import BoVpnAgent.Lib.TextTail

/-! # What the doctor keeps out of its log

    `VpnDoctor.clean` replaces token URLs inside a line and drops a line that
    mentions a sensitive word.  The URLs go first: a word that stands in one
    of them does not count any more, and two URLs that share a slash do not
    both go.

    This file shows which texts `clean` redacts completely.
-/

namespace BoVpnAgent.VpnDoctor

open TextTail

/-! ### Patterns -/

/-- The words of `SENSITIVE`. -/
def SENSITIVE : List PyStr :=
  ["password".py, "username".py, "credential".py, "authorization".py, "bearer".py, "secret".py,
    "token".py]

/-- The letter that a character counts as under `(?i)`. -/
def ignoreCase (c : CodePoint) : CodePoint :=
  if 0x41 ≤ c.val ∧ c.val ≤ 0x5A then c + 0x20
  else if c.val = 0x130 ∨ c.val = 0x131 then 0x69
  else if c.val = 0x17F then 0x73
  else if c.val = 0x212A then 0x6B
  else c

/-- `SENSITIVE.search(s)` -/
def sensitive (s : PyStr) : Bool := SENSITIVE.any fun word => PyStr.includes (s.map ignoreCase) word

/-- `[0-9]` -/
def urlDigit (c : CodePoint) : Bool := 0x30 ≤ c.val ∧ c.val ≤ 0x39

/-- `[A-Za-z0-9_-]` -/
def urlChar (c : CodePoint) : Bool :=
  urlDigit c || (0x41 ≤ c.val && c.val ≤ 0x5A) || (0x61 ≤ c.val && c.val ≤ 0x7A) || c.val = 0x5F ||
    c.val = 0x2D

/-- `TOKEN_URL.match(s)`, the length of the match.  Neither repetition can
    take a character of what follows it. -/
def TOKEN_URL (s : PyStr) : Option Nat :=
  if PyStr.startsWith s "/bot".py then
    let digits := (s.drop 4).takeWhile urlDigit
    match s.drop (4 + digits.length) with
    | [] => none
    | c :: s =>
      let chars := s.takeWhile urlChar
      if digits ≠ [] ∧ c = 0x3A ∧ chars ≠ [] ∧ (s.drop chars.length).head? = some 0x2F then
        some (4 + digits.length + 1 + chars.length + 1)
      else none
  else none

/-- `TOKEN_URL.search(s)` -/
def has_token_url (s : PyStr) : Bool := s.tails.any fun t => (TOKEN_URL t).isSome

/-! ### `clean` -/

def REDACTED_URL : PyStr := "/bot[REDACTED]/".py

def PLACEHOLDER : PyStr := "[redacted sensitive log line]".py

/-- `TOKEN_URL.sub("/bot[REDACTED]/", raw)` -/
def redact_urls (raw : PyStr) : PyStr := Substitution.substitute TOKEN_URL REDACTED_URL 0 raw

/-- What one line contributes. -/
def clean_line (raw : PyStr) : PyStr :=
  if sensitive (redact_urls raw) then PLACEHOLDER else redact_urls raw

/-- `value.replace("\r", "").splitlines()` -/
def log_lines (value : PyStr) : List PyStr := PyStr.splitlines (value.filter (· ≠ 0x0D))

/-- `VpnDoctor.clean` -/
def clean (value : PyStr) : PyStr := PyStr.strip (PyStr.join " | ".py ((log_lines value).map clean_line))

example : clean "https://api.telegram.org/bot123456:abcdef/getMe\r\npassword=hunter2".py =
    "https://api.telegram.org/bot[REDACTED]/getMe | [redacted sensitive log line]".py := by
  decide +kernel

/-! ### Token URLs -/

/-- What stands between the slashes of a token URL. -/
def UrlBody (body : PyStr) : Prop :=
  ∃ digits chars, body = "bot".py ++ digits ++ 0x3A :: chars ∧ digits ≠ [] ∧ chars ≠ [] ∧
    (∀ c ∈ digits, urlDigit c = true) ∧ ∀ c ∈ chars, urlChar c = true

theorem takeWhile_append_stop {p : CodePoint → Bool} {a : PyStr} (ha : ∀ c ∈ a, p c = true) {c : CodePoint}
    (hc : p c = false) (b : PyStr) : (a ++ c :: b).takeWhile p = a := by
  rw [List.takeWhile_append_of_pos ha, List.takeWhile_cons_of_neg (by rw [hc]; exact nofun),
    List.append_nil]

theorem takeWhile_append_drop (p : CodePoint → Bool) (s : PyStr) :
    s.takeWhile p ++ s.drop (s.takeWhile p).length = s := by
  induction s with
  | nil => rfl
  | cons c s ih =>
    by_cases hc : p c = true
    · rw [List.takeWhile_cons_of_pos hc, List.length_cons, List.drop_succ_cons, List.cons_append, ih]
    · rw [List.takeWhile_cons_of_neg hc]
      rfl

theorem UrlBody.no_slash {body : PyStr} (h : UrlBody body) : 0x2F ∉ body := by
  obtain ⟨digits, chars, rfl, _, _, hdigits, hchars⟩ := h
  simp only [List.mem_append, List.mem_cons, not_or]
  refine ⟨⟨by decide, fun h => ?_⟩, by decide, fun h => ?_⟩
  · exact absurd (hdigits _ h) (by decide)
  · exact absurd (hchars _ h) (by decide)

/-- `TOKEN_URL` finds what it describes. -/
theorem matches_TOKEN_URL : Substitution.Matches 0x2F UrlBody TOKEN_URL where
  token := by
    rintro body b - ⟨digits, chars, rfl, hdigits, hchars, hd, hc⟩
    have hs : 0x2F :: ("bot".py ++ digits ++ 0x3A :: chars ++ 0x2F :: b) =
        "/bot".py ++ (digits ++ 0x3A :: (chars ++ 0x2F :: b)) := by
      simp only [List.append_assoc, List.cons_append]
      rfl
    -- what the pattern reads: `/bot`, the digits up to the colon, the characters up to the slash
    have hstart : PyStr.startsWith ("/bot".py ++ (digits ++ 0x3A :: (chars ++ 0x2F :: b))) "/bot".py = true :=
      List.isPrefixOf_iff_prefix.mpr (List.prefix_append _ _)
    have hdrop : ("/bot".py ++ (digits ++ 0x3A :: (chars ++ 0x2F :: b))).drop 4 =
        digits ++ 0x3A :: (chars ++ 0x2F :: b) := rfl
    have htake := takeWhile_append_stop hd (c := 0x3A) rfl (chars ++ 0x2F :: b)
    have hrest : ("/bot".py ++ (digits ++ 0x3A :: (chars ++ 0x2F :: b))).drop (4 + digits.length) =
        0x3A :: (chars ++ 0x2F :: b) := by
      rw [← List.drop_drop, hdrop, List.drop_left]
    have hlength : "bot".py.length = 3 := rfl
    rw [hs, TOKEN_URL, if_pos hstart, hdrop, htake]
    simp only [hrest, takeWhile_append_stop hc (c := 0x2F) rfl b, List.drop_left]
    rw [if_pos ⟨hdigits, trivial, hchars, rfl⟩]
    simp only [List.length_append, List.length_cons, hlength]
    congr 1
    omega
  other := by
    intro s k h
    unfold TOKEN_URL at h
    split at h
    · next hstart =>
      obtain ⟨t, rfl⟩ := List.isPrefixOf_iff_prefix.mp hstart
      have hdrop : ("/bot".py ++ t).drop 4 = t := rfl
      simp only [← List.drop_drop, hdrop] at h
      split at h
      · cases h
      · next c s hrest =>
        split at h
        · next hguard =>
          obtain ⟨hdigits, rfl, hchars, hslash⟩ := hguard
          have ht := takeWhile_append_drop urlDigit t
          have hs := takeWhile_append_drop urlChar s
          obtain ⟨b, hb⟩ := List.head?_eq_some_iff.mp hslash
          rw [hrest] at ht
          rw [hb] at hs
          have hbody : UrlBody ("bot".py ++ t.takeWhile urlDigit ++ 0x3A :: s.takeWhile urlChar) :=
            ⟨_, _, rfl, hdigits, hchars, fun c hc => List.mem_takeWhile_imp hc,
              fun c hc => List.mem_takeWhile_imp hc⟩
          refine ⟨"bot".py ++ t, rfl, _, b, ?_, hbody.no_slash, hbody⟩
          conv_lhs => rw [← ht, ← hs]
          simp only [List.append_assoc, List.cons_append]
        · cases h
    · cases h

theorem has_token_url_iff (s : PyStr) : has_token_url s = true ↔ Substitution.Occurs 0x2F UrlBody s := by
  unfold has_token_url
  rw [List.any_eq_true]
  constructor
  · rintro ⟨t, ht, hsome⟩
    obtain ⟨k, hk⟩ := Option.isSome_iff_exists.mp hsome
    obtain ⟨b, rfl, hb⟩ := matches_TOKEN_URL.other t k hk
    obtain ⟨a, rfl⟩ := (List.mem_tails _ s).mp ht
    exact ⟨a, b, rfl, hb⟩
  · rintro ⟨a, _, rfl, body, b, rfl, hslash, hbody⟩
    refine ⟨0x2F :: (body ++ 0x2F :: b), (List.mem_tails _ _).mpr (List.suffix_append _ _), ?_⟩
    rw [matches_TOKEN_URL.token body b hslash hbody]
    rfl

/-- A token URL is a word of the text. -/
theorem occurs_iff (s : PyStr) : Substitution.Occurs 0x2F UrlBody s ↔
    ∃ body, UrlBody body ∧ 0x2F :: (body ++ [0x2F]) <:+: s := by
  constructor
  · rintro ⟨a, _, rfl, body, b, rfl, _, hbody⟩
    exact ⟨body, hbody, a, b, by simp⟩
  · rintro ⟨body, hbody, a, b, rfl⟩
    exact ⟨a, body ++ 0x2F :: b, by simp, body, b, rfl, hbody.no_slash, hbody⟩

/-- The characters of a token URL. -/
theorem UrlBody.chars {body : PyStr} (h : UrlBody body) :
    ∀ c ∈ 0x2F :: (body ++ [0x2F]), c.isSpace = false ∧ c ≠ 0x7C := by
  obtain ⟨digits, chars, rfl, _, _, hdigits, hchars⟩ := h
  have hchar : ∀ c, urlChar c = true → c.isSpace = false ∧ c ≠ 0x7C := by
    intro c hc
    constructor
    · simp [urlChar, urlDigit] at hc
      simp [CodePoint.isSpace]
      omega
    · rintro rfl
      exact absurd hc (by decide)
  intro c hc
  simp only [List.mem_cons, List.mem_append, List.not_mem_nil, or_false] at hc
  obtain rfl | ((hc | hc) | rfl | hc) | rfl := hc
  · decide
  · have hall : ("bot".py.all urlChar) = true := by decide
    exact hchar c (List.all_eq_true.mp hall c hc)
  · exact hchar c (by rw [urlChar, hdigits c hc]; rfl)
  · decide
  · exact hchar c (hchars c hc)
  · decide

/-! ### Redacted texts -/

theorem sensitive_iff (s : PyStr) : sensitive s = true ↔ ∃ word ∈ SENSITIVE, word <:+: s.map ignoreCase := by
  unfold sensitive
  rw [List.any_eq_true]
  exact exists_congr fun word => and_congr_right fun _ => includes_iff _ _

theorem sensitive_clean_line (raw : PyStr) : sensitive (clean_line raw) = false := by
  unfold clean_line
  split
  · decide
  · next h => exact Bool.eq_false_iff.mpr h

/-- The words have no character of the separator of lines. -/
theorem words_apart : (SENSITIVE.all fun word =>
    word ≠ [] && (" | ".py.map ignoreCase).all fun c => c ∉ word) = true := by
  decide

/-- No sensitive word is left, whatever the text is. -/
theorem sensitive_clean (value : PyStr) : sensitive (clean value) = false := by
  rw [← Bool.not_eq_true, sensitive_iff]
  rintro ⟨word, hword, hin⟩
  have hword' := List.all_eq_true.mp words_apart word hword
  rw [Bool.and_eq_true, decide_eq_true_eq] at hword'
  have hsep : ∀ c ∈ " | ".py.map ignoreCase, c ∉ word := fun c hc =>
    of_decide_eq_true (List.all_eq_true.mp hword'.2 c hc)
  have hjoin := hin.trans ((infix_of_strip _).map ignoreCase)
  rw [map_join, infix_join_iff (by decide) hsep hword'.1] at hjoin
  obtain ⟨part, hpart, hin⟩ := hjoin
  rw [List.map_map, List.mem_map] at hpart
  obtain ⟨raw, _, rfl⟩ := hpart
  exact absurd ((sensitive_iff _).mpr ⟨word, hword, hin⟩)
    (Bool.eq_false_iff.mp (sensitive_clean_line raw))

/-- A token URL is left if a line contributes one. -/
theorem occurs_clean_iff (value : PyStr) : Substitution.Occurs 0x2F UrlBody (clean value) ↔
    ∃ line ∈ log_lines value, Substitution.Occurs 0x2F UrlBody (clean_line line) := by
  have hbody : ∀ body, UrlBody body → (0x2F :: (body ++ [0x2F]) <:+: clean value ↔
      ∃ line ∈ log_lines value, 0x2F :: (body ++ [0x2F]) <:+: clean_line line) := by
    intro body hbody
    have hsep : ∀ c ∈ " | ".py, c ∉ 0x2F :: (body ++ [0x2F]) := by
      intro c hc hmem
      have hchar := hbody.chars c hmem
      have hall : (" | ".py.all fun c => c.isSpace || c = 0x7C) = true := by decide
      have hc' := List.all_eq_true.mp hall c hc
      rw [hchar.1, Bool.false_or, decide_eq_true_eq] at hc'
      exact hchar.2 hc'
    unfold clean
    rw [infix_strip_iff (List.cons_ne_nil _ _) fun c hc => (hbody.chars c hc).1,
      infix_join_iff (by decide) hsep (List.cons_ne_nil _ _)]
    constructor
    · rintro ⟨part, hpart, hin⟩
      obtain ⟨line, hline, rfl⟩ := List.mem_map.mp hpart
      exact ⟨line, hline, hin⟩
    · rintro ⟨line, hline, hin⟩
      exact ⟨_, List.mem_map_of_mem hline, hin⟩
  simp only [occurs_iff]
  constructor
  · rintro ⟨body, h, hin⟩
    obtain ⟨line, hline, hin⟩ := (hbody body h).mp hin
    exact ⟨line, hline, body, h, hin⟩
  · rintro ⟨line, hline, body, h, hin⟩
    exact ⟨body, h, (hbody body h).mpr ⟨line, hline, hin⟩⟩

/-- Two token URLs of the line share a slash. -/
def SharesSlash (line : PyStr) : Prop := Substitution.Shared 0x2F UrlBody line

theorem occurs_redact_urls_iff (line : PyStr) :
    Substitution.Occurs 0x2F UrlBody (redact_urls line) ↔ SharesSlash line := by
  have hslash : 0x2F ∉ "bot[REDACTED]".py := by decide
  have hbody : ¬ UrlBody "bot[REDACTED]".py := by
    rintro ⟨digits, chars, h, _⟩
    have hcolon : 0x3A ∈ "bot[REDACTED]".py := by rw [h]; simp
    exact absurd hcolon (by decide)
  have hurl : REDACTED_URL = 0x2F :: ("bot[REDACTED]".py ++ [0x2F]) := by decide
  rw [redact_urls, hurl]
  exact Substitution.occurs_substitute_iff matches_TOKEN_URL hslash hbody line

/-- The part of a line in front of its first slash is kept. -/
theorem redact_urls_append {a : PyStr} (ha : 0x2F ∉ a) (b : PyStr) :
    ∃ t, redact_urls (a ++ 0x2F :: b) = a ++ 0x2F :: t := by
  have hurl : REDACTED_URL = 0x2F :: ("bot[REDACTED]".py ++ [0x2F]) := by decide
  rw [redact_urls, hurl]
  exact (Substitution.substitute_append matches_TOKEN_URL _ ha).mp ⟨b, rfl⟩

/-- A line without a slash has no token URL. -/
theorem redact_urls_of_no_slash {line : PyStr} (h : 0x2F ∉ line) : redact_urls line = line := by
  apply Substitution.substitute_eq_self matches_TOKEN_URL
  rintro ⟨a, b, rfl, _⟩
  exact h (by simp)

theorem mem_slash_redact_urls {line : PyStr} (h : 0x2F ∈ line) : 0x2F ∈ redact_urls line := by
  obtain ⟨a, b, rfl, ha⟩ := List.eq_append_cons_of_mem h
  obtain ⟨t, ht⟩ := redact_urls_append ha b
  rw [ht]
  simp

theorem clean_line_eq_placeholder_iff {line : PyStr} (h : sensitive line = true) :
    clean_line line = PLACEHOLDER ↔ sensitive (redact_urls line) = true := by
  constructor
  · intro hclean
    by_contra hnot
    unfold clean_line at hclean
    rw [if_neg hnot] at hclean
    -- without a slash in what is left there was none, and no token URL
    have hslash : ¬ 0x2F ∈ line := by
      intro hmem
      have hmem' : 0x2F ∈ PLACEHOLDER := by
        rw [← hclean]
        exact mem_slash_redact_urls hmem
      exact absurd hmem' (by decide)
    rw [redact_urls_of_no_slash hslash] at hnot
    exact hnot h
  · intro hredact
    rw [clean_line, if_pos hredact]

theorem not_isLineBreak_clean_line {line : PyStr} (h : ∀ c ∈ line, PyStr.isLineBreak c = false) :
    ∀ c ∈ clean_line line, PyStr.isLineBreak c = false := by
  have hall : (PLACEHOLDER ++ REDACTED_URL).all (fun c => !PyStr.isLineBreak c) = true := by decide
  have hfixed : ∀ c ∈ PLACEHOLDER ++ REDACTED_URL, PyStr.isLineBreak c = false := by
    intro c hc
    simpa using List.all_eq_true.mp hall c hc
  intro c hc
  unfold clean_line at hc
  split at hc
  · exact hfixed c (List.mem_append_left _ hc)
  · obtain hc | hc := Substitution.mem_substitute matches_TOKEN_URL line hc
    · exact h c hc
    · exact hfixed c (List.mem_append_right _ hc)

/-- The cleaned text is one line. -/
theorem not_isLineBreak_clean (value : PyStr) : ∀ c ∈ clean value, PyStr.isLineBreak c = false := by
  intro c hc
  obtain hc | ⟨part, hpart, hc⟩ := mem_join ((infix_of_strip _).subset hc)
  · have hall : (" | ".py.all fun c => !PyStr.isLineBreak c) = true := by decide
    simpa using List.all_eq_true.mp hall c hc
  · obtain ⟨line, hline, rfl⟩ := List.mem_map.mp hpart
    exact not_isLineBreak_clean_line (PyStr.not_isLineBreak_of_mem_splitlines hline) c hc

theorem log_lines_clean (value : PyStr) :
    log_lines (clean value) = if clean value = [] then [] else [clean value] := by
  have hbreak := not_isLineBreak_clean value
  have hfilter : (clean value).filter (· ≠ 0x0D) = clean value := by
    rw [List.filter_eq_self]
    intro c hc
    apply decide_eq_true
    rintro rfl
    exact absurd (hbreak _ hc) (by decide)
  rw [log_lines, hfilter, PyStr.splitlines_of_not_isLineBreak hbreak]

theorem clean_clean {value : PyStr} (h : ¬ Substitution.Occurs 0x2F UrlBody (clean value)) :
    clean (clean value) = clean value := by
  have hline : clean_line (clean value) = clean value := by
    have hsame : redact_urls (clean value) = clean value :=
      Substitution.substitute_eq_self matches_TOKEN_URL _ h
    rw [clean_line, hsame, sensitive_clean]
    rfl
  have hstrip : PyStr.strip (clean value) = clean value := PyStr.strip_strip _
  conv_lhs => rw [clean, log_lines_clean]
  by_cases hempty : clean value = []
  · rw [if_pos hempty, hempty]
    rfl
  · rw [if_neg hempty, List.map_singleton, hline]
    exact hstrip

/-- What `clean` promises. -/
structure Redacts (value : PyStr) : Prop where
  no_word : sensitive (clean value) = false
  no_url : has_token_url (clean value) = false
  idempotent : clean (clean value) = clean value
  lines : ∀ line ∈ log_lines value, sensitive line = true → clean_line line = PLACEHOLDER

/-- A line that is redacted completely: a sensitive word is left when its token
    URLs are replaced, or it has no sensitive word at all and no two token
    URLs that share a slash. -/
def Redactable (line : PyStr) : Prop :=
  sensitive (redact_urls line) = true ∨ sensitive line = false ∧ ¬ SharesSlash line

theorem redacts_iff (value : PyStr) : Redacts value ↔ ∀ line ∈ log_lines value, Redactable line := by
  have hurl : has_token_url (clean value) = true ↔
      ∃ line ∈ log_lines value, Substitution.Occurs 0x2F UrlBody (clean_line line) :=
    (has_token_url_iff _).trans (occurs_clean_iff value)
  constructor
  · intro h line hline
    by_cases hredact : sensitive (redact_urls line) = true
    · exact .inl hredact
    · refine .inr ⟨?_, fun hshared => ?_⟩
      · rw [← Bool.not_eq_true]
        exact fun hword => hredact ((clean_line_eq_placeholder_iff hword).mp (h.lines line hline hword))
      · have hoccurs : Substitution.Occurs 0x2F UrlBody (clean_line line) := by
          rw [clean_line, if_neg hredact]
          exact (occurs_redact_urls_iff line).mpr hshared
        exact absurd (hurl.mpr ⟨line, hline, hoccurs⟩) (Bool.eq_false_iff.mp h.no_url)
  · intro h
    have hno : ¬ has_token_url (clean value) = true := by
      rw [hurl]
      rintro ⟨line, hline, hoccurs⟩
      unfold clean_line at hoccurs
      split at hoccurs
      · rw [← has_token_url_iff] at hoccurs
        exact absurd hoccurs (by decide)
      · next hredact =>
        obtain hsensitive | ⟨_, hshared⟩ := h line hline
        · exact hredact hsensitive
        · exact hshared ((occurs_redact_urls_iff line).mp hoccurs)
    refine ⟨sensitive_clean value, Bool.eq_false_iff.mpr hno, ?_, ?_⟩
    · exact clean_clean (mt (has_token_url_iff _).mpr hno)
    · intro line hline hword
      obtain hsensitive | ⟨hplain, _⟩ := h line hline
      · exact (clean_line_eq_placeholder_iff hword).mpr hsensitive
      · rw [hword] at hplain
        cases hplain

/-- Two token URLs that share a slash. -/
def two_urls : PyStr := "GET /bot1:aaaa/bot2:bbbb/getMe".py

/-- The second one stays, until the text is cleaned again. -/
theorem token_url_left :
    clean two_urls = "GET /bot[REDACTED]/bot2:bbbb/getMe".py ∧ has_token_url (clean two_urls) = true ∧
      clean (clean two_urls) ≠ clean two_urls ∧ ¬ Redacts two_urls := by
  have hurl : has_token_url (clean two_urls) = true := by decide +kernel
  refine ⟨by decide +kernel, hurl, by decide +kernel, fun h => ?_⟩
  have hno := h.no_url
  rw [hurl] at hno
  cases hno

end BoVpnAgent.VpnDoctor

import BoVpnAgent.Executors.LoginLines
import BoVpnAgent.Lib.Trim
import Mathlib.Data.List.Permutation

/-! # The secret file

    An account is entered in the secret file as two assignments, plain or in
    double quotes, among comments and blank lines.  This file shows which
    accounts `_read_env_file` gives back as they were entered: those whose
    username and password have no quote at either end.  `_read_env_file`
    drops every quote at the two ends, whether it is one of a pair or not.
-/

namespace BoVpnAgent.ContainerNamespaceExecutor

open Trim

/-! ### What is entered -/

def doubleQuote : CodePoint := 0x22

def singleQuote : CodePoint := 0x27

/-- The value stands in a pair of quotes. -/
def Enclosed (value : PyStr) : Prop :=
  2 ≤ value.length ∧ value.head? = value.getLast? ∧
    (value.head? = some doubleQuote ∨ value.head? = some singleQuote)

instance (value : PyStr) : Decidable (Enclosed value) := inferInstanceAs (Decidable (_ ∧ _))

/-- No character at which reading the file ends a line. -/
def OneLine (s : PyStr) : Prop := newline ∉ s ∧ 0x0D ∉ s

instance (s : PyStr) : Decidable (OneLine s) := inferInstanceAs (Decidable (_ ∧ _))

/-- A username or password that can be entered on a line. -/
structure SecretValue where
  text : PyStr
  nonempty : text ≠ []
  trimmed : PyStr.strip text = text
  single_line : OneLine text
  not_enclosed : ¬ Enclosed text

/-- A value as it is entered: plain or in double quotes. -/
def entered (quoted : Bool) (value : PyStr) : PyStr :=
  if quoted then [doubleQuote] ++ value ++ [doubleQuote] else value

/-- `key=value`, or `key="value"`. -/
def assignment (key : PyStr) (quoted : Bool) (value : PyStr) : PyStr :=
  key ++ "=".py ++ entered quoted value

/-- A line that `_read_env_file` passes over: blank, or a comment. -/
def Filler (line : PyStr) : Prop :=
  PyStr.strip line = [] ∨ PyStr.startsWith (PyStr.strip line) "#".py = true

instance (line : PyStr) : Decidable (Filler line) := inferInstanceAs (Decidable (_ ∨ _))

/-- The lines of the file besides comments and blank lines. -/
def entries (text : PyStr) : List PyStr :=
  ((fileLines text).filter fun line => ¬ Filler line).map PyStr.strip

/-- A file with this text has the two assignments, in either order, and else
    only comments and blank lines. -/
def SecretFile (username password : SecretValue) (text : PyStr) : Prop :=
  ∃ quoted quoted', (entries text).Perm
    [assignment "VPN_USERNAME".py quoted username.text,
      assignment "VPN_PASSWORD".py quoted' password.text]

/-- No quote at either end. -/
def Unquoted (value : PyStr) : Prop :=
  Bare (· = doubleQuote) value ∧ Bare (· = singleQuote) value

instance (value : PyStr) : Decidable (Unquoted value) := inferInstanceAs (Decidable (_ ∧ _))

/-! ### Reading one assignment -/

/-- What `_read_env_file` makes of the text behind the equals sign. -/
def readValue (value : PyStr) : PyStr :=
  PyStr.stripChar singleQuote (PyStr.stripChar doubleQuote (PyStr.strip value))

/-- Neither end of a value in the file is a space. -/
theorem bare_entered (value : SecretValue) (quoted : Bool) :
    Bare CodePoint.isSpace (entered quoted value.text) := by
  have hvalue : Bare CodePoint.isSpace value.text := (trim_eq_self_iff _).mp value.trimmed
  have hquote : Bare CodePoint.isSpace [doubleQuote] := by decide
  have hne : [doubleQuote] ≠ [] := List.cons_ne_nil _ _
  cases quoted with
  | false => exact hvalue
  | true =>
    apply (hquote.append hvalue hne value.nonempty).append hquote _ hne
    exact List.append_ne_nil_of_left_ne_nil hne _

/-- The value as it stands in the file is read as the value itself exactly
    when it has no quote at either end. -/
theorem readValue_eq_iff (value : SecretValue) (quoted : Bool) :
    readValue (entered quoted value.text) = value.text ↔ Unquoted value.text := by
  have hplain : readValue value.text = value.text ↔ Unquoted value.text := by
    unfold readValue
    rw [value.trimmed]
    exact trim_trim_eq_self_iff value.text
  cases quoted with
  | false => exact hplain
  | true =>
    -- the quotes around the value are dropped, and any that it has itself
    have hstrip : PyStr.strip ([doubleQuote] ++ value.text ++ [doubleQuote]) =
        [doubleQuote] ++ value.text ++ [doubleQuote] :=
      (trim_eq_self_iff _).mpr (bare_entered value true)
    have hquotes : PyStr.stripChar doubleQuote ([doubleQuote] ++ value.text ++ [doubleQuote]) =
        PyStr.stripChar doubleQuote value.text :=
      trim_append value.text (by simp) (by simp)
    rw [← hplain]
    unfold readValue
    show PyStr.stripChar singleQuote (PyStr.stripChar doubleQuote
      (PyStr.strip ([doubleQuote] ++ value.text ++ [doubleQuote]))) = value.text ↔ _
    rw [hstrip, hquotes, value.trimmed]

/-- A line that is an assignment to a key without `=`. -/
theorem read_assignment {key value : PyStr} (hkey : 0x3D ∉ key)
    (htrimmed : PyStr.strip key = key) (hhash : key.head? ≠ some 0x23)
    {raw_line : PyStr} (hline : PyStr.strip raw_line = key ++ "=".py ++ value)
    (lines : List PyStr) (result : Dict PyStr PyStr) :
    read_env_file (raw_line :: lines) result =
      read_env_file lines (result.set key (readValue value)) := by
  have hequals : (key ++ "=".py ++ value) = key ++ (0x3D :: value) := by
    rw [List.append_assoc]
    rfl
  obtain ⟨htake, hdrop⟩ := Prod.mk.inj (PyStr.partition_append hkey value)
  rw [← hequals] at htake hdrop
  have hincludes : PyStr.includes (key ++ "=".py ++ value) "=".py = true := by
    apply List.any_eq_true.mpr
    refine ⟨"=".py ++ value, ?_, ?_⟩
    · rw [List.append_assoc]
      exact (List.mem_tails _ _).mpr (List.suffix_append _ _)
    · exact List.isPrefixOf_iff_prefix.mpr (List.prefix_append _ _)
  have hne : key ++ "=".py ++ value ≠ [] := by
    rw [hequals]
    simp
  have hcomment : PyStr.startsWith (key ++ "=".py ++ value) "#".py = false := by
    rw [hequals]
    cases key with
    | nil => rfl
    | cons c key =>
      have hc : c ≠ 0x23 := by
        intro hc
        rw [hc] at hhash
        exact hhash rfl
      show ((0x23 : CodePoint) == c && [].isPrefixOf _) = false
      rw [beq_false_of_ne hc.symm, Bool.false_and]
  have hread : ¬ (key ++ "=".py ++ value = [] ∨
      PyStr.startsWith (key ++ "=".py ++ value) "#".py = true ∨
      ¬ PyStr.includes (key ++ "=".py ++ value) "=".py = true) := by
    rw [hcomment, hincludes]
    intro h
    rcases h with h | h | h
    · exact hne h
    · cases h
    · exact h rfl
  rw [read_env_file, hline, if_neg hread, htake, hdrop]
  simp only [htrimmed]
  rfl

/-! ### Reading the file -/

/-- Comments and blank lines do not matter. -/
theorem read_env_file_filter (lines : List PyStr) (result : Dict PyStr PyStr) :
    read_env_file lines result =
      read_env_file (lines.filter fun line => ¬ Filler line) result := by
  induction lines generalizing result with
  | nil => rfl
  | cons line lines ih =>
    by_cases hfiller : Filler line
    · have hskip : PyStr.strip line = [] ∨ PyStr.startsWith (PyStr.strip line) "#".py = true ∨
          ¬ PyStr.includes (PyStr.strip line) "=".py = true := by
        rcases hfiller with hblank | hcomment
        · exact .inl hblank
        · exact .inr (.inl hcomment)
      rw [List.filter_cons_of_neg (by simpa using hfiller), read_env_file, if_pos hskip]
      exact ih result
    · rw [List.filter_cons_of_pos (by simpa using hfiller), read_env_file, read_env_file]
      split
      · exact ih result
      · exact ih _

section file

variable {username password : SecretValue} {text : PyStr}

/-- What the file is read as: the two values, as `_read_env_file` strips
    them. -/
theorem read_secret_file (h : SecretFile username password text) :
    ∃ quoted quoted',
      (read_env_file (fileLines text) Dict.empty).get? "VPN_USERNAME".py =
        some (readValue (entered quoted username.text)) ∧
      (read_env_file (fileLines text) Dict.empty).get? "VPN_PASSWORD".py =
        some (readValue (entered quoted' password.text)) := by
  obtain ⟨quoted, quoted', hperm⟩ := h
  refine ⟨quoted, quoted', ?_⟩
  rw [read_env_file_filter]
  unfold entries at hperm
  generalize ((fileLines text).filter fun line => ¬ Filler line) = lines at hperm ⊢
  have hlength : lines.length = 2 := by simpa using hperm.length_eq
  obtain ⟨first, second, rfl⟩ := List.length_eq_two.mp hlength
  have hread : ∀ (key : PyStr) (quoted : Bool) (value : PyStr) (raw_line : PyStr),
      key = "VPN_USERNAME".py ∨ key = "VPN_PASSWORD".py →
      PyStr.strip raw_line = assignment key quoted value →
      ∀ lines result, read_env_file (raw_line :: lines) result = read_env_file lines (result.set key
        (readValue (entered quoted value))) := by
    intro key quoted value raw_line hkey hline
    rcases hkey with hkey | hkey
    · subst hkey
      exact read_assignment (by decide) (by decide) (by decide) hline
    · subst hkey
      exact read_assignment (by decide) (by decide) (by decide) hline
  have hdistinct : "VPN_USERNAME".py ≠ "VPN_PASSWORD".py := by decide
  -- the two assignments stand in one order or the other
  rcases List.perm_pair.mp hperm with horder | horder
  · obtain ⟨hfirst, hsecond⟩ : PyStr.strip first = _ ∧ PyStr.strip second = _ := by
      simpa using horder
    rw [hread _ quoted _ first (.inl rfl) hfirst, hread _ quoted' _ second (.inr rfl) hsecond]
    simp [read_env_file, hdistinct.symm]
  · obtain ⟨hfirst, hsecond⟩ : PyStr.strip first = _ ∧ PyStr.strip second = _ := by
      simpa using horder
    rw [hread _ quoted' _ first (.inr rfl) hfirst, hread _ quoted _ second (.inl rfl) hsecond]
    simp [read_env_file, hdistinct]

/-- A secret file is read as the account that was entered exactly when neither
    value has a quote at an end. -/
theorem secret_file_exact_iff (config : RunnerDaemonConfig) (vpn : VpnCredentials)
    (hconfig : config.univpn_login_mode = "container_secret".py)
    (hvpn : vpn.mode = "container_secret".py) (h : SecretFile username password text) :
    ((read_env_file (fileLines text) Dict.empty).get? "VPN_USERNAME".py = some username.text ∧
      (read_env_file (fileLines text) Dict.empty).get? "VPN_PASSWORD".py = some password.text ∧
      credentials config vpn (.ok (fileLines text)) = .ok (username.text, password.text)) ↔
    Unquoted username.text ∧ Unquoted password.text := by
  obtain ⟨quoted, quoted', husername, hpassword⟩ := read_secret_file h
  constructor
  · intro ⟨huser, hpass, _⟩
    rw [husername] at huser
    rw [hpassword] at hpass
    exact ⟨(readValue_eq_iff username quoted).mp (Option.some.inj huser),
      (readValue_eq_iff password quoted').mp (Option.some.inj hpass)⟩
  · intro ⟨huser, hpass⟩
    rw [(readValue_eq_iff username quoted).mpr huser] at husername
    rw [(readValue_eq_iff password quoted').mpr hpass] at hpassword
    refine ⟨husername, hpassword, ?_⟩
    have hmode : ¬ vpn.mode = "inline_once".py := by
      rw [hvpn]
      decide
    have hsupported : ¬ (vpn.mode ≠ "container_secret".py ∨
        config.univpn_login_mode ≠ "container_secret".py) := by
      rw [hvpn, hconfig]
      simp
    unfold credentials
    rw [if_neg hmode, if_neg hsupported]
    simp only [husername, hpassword, Option.getD_some, username.nonempty, password.nonempty,
      or_self, if_false]

end file

/-! ### The lines of a text -/

/-- Lines without an end of line of their own are the lines of the text in
    which each is ended by a newline. -/
theorem fileLines_flatten (lines : List PyStr) (h : ∀ l ∈ lines, newline ∉ l ∧ 0x0D ∉ l) :
    fileLines ((lines.map (· ++ [newline])).flatten) = lines.map (· ++ [newline]) := by
  have hline : ∀ (l line rest : PyStr), newline ∉ l →
      linesFrom line (l ++ [newline] ++ rest) = (line ++ l ++ [newline]) :: linesFrom [] rest := by
    intro l line rest hl
    induction l generalizing line with
    | nil => simp [linesFrom]
    | cons c l ih =>
      obtain ⟨hc, hl⟩ := not_or.mp (mt List.mem_cons.mpr hl)
      rw [List.cons_append, List.cons_append, linesFrom, if_neg (Ne.symm hc), ih _ hl]
      simp
  unfold fileLines
  rw [universalNewlines_eq (by
    simp only [List.mem_flatten, List.mem_map, not_exists, not_and]
    rintro _ ⟨l, hl, rfl⟩ hmem
    rcases List.mem_append.mp hmem with hmem | hmem
    · exact (h l hl).2 hmem
    · exact absurd (List.mem_singleton.mp hmem) (by decide))]
  induction lines with
  | nil => rfl
  | cons l lines ih =>
    obtain ⟨⟨hl, _⟩, hlines⟩ := List.forall_mem_cons.mp h
    rw [List.map_cons, List.flatten_cons, hline l [] _ hl, ih hlines, List.nil_append]

theorem OneLine.append {s t : PyStr} (hs : OneLine s) (ht : OneLine t) : OneLine (s ++ t) :=
  ⟨fun h => (List.mem_append.mp h).elim hs.1 ht.1, fun h => (List.mem_append.mp h).elim hs.2 ht.2⟩

theorem oneLine_assignment {key : PyStr} (hkey : OneLine key) (quoted : Bool)
    (value : SecretValue) : OneLine (assignment key quoted value.text) := by
  have hquote : OneLine [doubleQuote] := by decide
  have hequals : OneLine "=".py := by decide
  apply (hkey.append hequals).append
  cases quoted with
  | false => exact value.single_line
  | true => exact (hquote.append value.single_line).append hquote

/-- A line is an entry with or without its end. -/
theorem strip_newline (line : PyStr) : PyStr.strip (line ++ [newline]) = PyStr.strip line := by
  have h := trim_append (p := CodePoint.isSpace) line (s := []) (t := [newline]) (by simp)
    (by simp [newline, CodePoint.isSpace])
  rw [List.nil_append] at h
  exact h

/-- An assignment of the file is one line, is kept by the parser, and has no
    blank at either end. -/
theorem assignment_entry {key : PyStr} (hkey : key = "VPN_USERNAME".py ∨ key = "VPN_PASSWORD".py)
    (quoted : Bool) (value : SecretValue) :
    OneLine (assignment key quoted value.text) ∧ ¬ Filler (assignment key quoted value.text) ∧
      PyStr.strip (assignment key quoted value.text) = assignment key quoted value.text := by
  have hname : key ≠ [] ∧ key.head? = some 0x56 ∧ OneLine key ∧ Bare CodePoint.isSpace key := by
    rcases hkey with hkey | hkey
    · subst hkey
      decide
    · subst hkey
      decide
  obtain ⟨hne, hhead, hline, hbare⟩ := hname
  have hstrip : PyStr.strip (assignment key quoted value.text) =
      assignment key quoted value.text := by
    apply (trim_eq_self_iff _).mpr
    apply (hbare.append (by decide) hne (by decide)).append (bare_entered value quoted)
    · exact List.append_ne_nil_of_left_ne_nil hne _
    · cases quoted with
      | false => exact value.nonempty
      | true => simp [entered]
  refine ⟨oneLine_assignment hline quoted value, ?_, hstrip⟩
  unfold Filler
  rw [hstrip]
  unfold assignment
  cases key with
  | nil => exact absurd rfl hne
  | cons c key =>
    rw [Option.some.inj hhead]
    intro h
    rcases h with h | h
    · cases h
    · cases h

theorem filler_newline (line : PyStr) : Filler (line ++ [newline]) ↔ Filler line := by
  unfold Filler
  rw [strip_newline]

theorem filter_fillers {ls : List PyStr} (hls : ∀ l ∈ ls, Filler l) :
    ls.filter (fun l => ¬ Filler l) = [] := by
  apply List.filter_eq_nil_iff.mpr
  intro l hl
  simpa using hls l hl

/-- The two assignments with any comments and blank lines around them. -/
theorem secretFile_of_lines (username password : SecretValue) (quoted quoted' : Bool)
    {above between below : List PyStr}
    (hfiller : ∀ l ∈ above ++ between ++ below, OneLine l ∧ Filler l) :
    SecretFile username password
      (((above ++ [assignment "VPN_USERNAME".py quoted username.text] ++ between ++
        [assignment "VPN_PASSWORD".py quoted' password.text] ++ below).map (· ++ [newline])).flatten) := by
  refine ⟨quoted, quoted', ?_⟩
  obtain ⟨huserLine, huser, huserStrip⟩ :=
    assignment_entry (.inl rfl) quoted username
  obtain ⟨hpassLine, hpass, hpassStrip⟩ :=
    assignment_entry (.inr rfl) quoted' password
  have hlines : ∀ l ∈ above ++ [assignment "VPN_USERNAME".py quoted username.text] ++ between ++
      [assignment "VPN_PASSWORD".py quoted' password.text] ++ below, OneLine l := by
    intro l hl
    simp only [List.mem_append, List.mem_singleton, or_assoc] at hl
    simp only [List.mem_append, or_assoc] at hfiller
    rcases hl with hl | hl | hl | hl | hl
    · exact (hfiller l (.inl hl)).1
    · exact hl ▸ huserLine
    · exact (hfiller l (.inr (.inl hl))).1
    · exact hl ▸ hpassLine
    · exact (hfiller l (.inr (.inr hl))).1
  simp only [List.mem_append, or_assoc] at hfiller
  unfold entries
  rw [fileLines_flatten _ hlines, List.filter_map, List.map_map]
  have hfun : (fun line => decide ¬ Filler line) ∘ (· ++ [newline]) =
      fun line => decide ¬ Filler line := by
    funext line
    simp only [Function.comp_apply, filler_newline]
  rw [hfun]
  -- of all lines the parser keeps the two assignments
  simp only [List.filter_append, filter_fillers fun l hl => (hfiller l (.inl hl)).2,
    filter_fillers fun l hl => (hfiller l (.inr (.inl hl))).2,
    filter_fillers fun l hl => (hfiller l (.inr (.inr hl))).2]
  simp [huser, hpass, strip_newline, huserStrip, hpassStrip]

/-! ### A password that ends in a quote -/

def plainUsername : SecretValue := ⟨"stand-user".py, by decide, by decide, by decide, by decide⟩

def plainPassword : SecretValue := ⟨"a=b#c".py, by decide, by decide, by decide, by decide⟩

def quotePassword : SecretValue := ⟨"abc\"".py, by decide, by decide, by decide, by decide⟩

/-- The text of a file with these two assignments under a comment. -/
def secretText (quoted : Bool) (username password : SecretValue) : PyStr :=
  ((["# stand".py, []] ++ [assignment "VPN_USERNAME".py quoted username.text] ++ [] ++
    [assignment "VPN_PASSWORD".py quoted password.text] ++ []).map (· ++ [newline])).flatten

theorem secretFile_secretText (quoted : Bool) (username password : SecretValue) :
    SecretFile username password (secretText quoted username password) := by
  have hcomment : OneLine "# stand".py ∧ Filler "# stand".py := by decide
  have hblank : OneLine [] ∧ Filler [] := by decide
  apply secretFile_of_lines
  simp [hcomment, hblank]

def secretCredentials : VpnCredentials :=
  { mode := "container_secret".py, username := [], password := [] }

/-- The password is read without its last character. -/
theorem quote_dropped :
    SecretFile plainUsername quotePassword (secretText false plainUsername quotePassword) ∧
    credentials sampleDaemonConfig secretCredentials
      (.ok (fileLines (secretText false plainUsername quotePassword))) =
        .ok ("stand-user".py, "abc".py) ∧
    "abc".py ≠ quotePassword.text := by
  refine ⟨secretFile_secretText _ _ _, rfl, by decide⟩

/-- Equals signs and hashes inside a password are read. -/
theorem secret_file_exact_sample :
    ((read_env_file (fileLines (secretText true plainUsername plainPassword)) Dict.empty).get?
        "VPN_USERNAME".py = some plainUsername.text ∧
      (read_env_file (fileLines (secretText true plainUsername plainPassword)) Dict.empty).get?
        "VPN_PASSWORD".py = some plainPassword.text ∧
      credentials sampleDaemonConfig secretCredentials
        (.ok (fileLines (secretText true plainUsername plainPassword))) =
          .ok (plainUsername.text, plainPassword.text)) ↔
    Unquoted plainUsername.text ∧ Unquoted plainPassword.text :=
  secret_file_exact_iff sampleDaemonConfig secretCredentials (by decide) (by decide)
    (secretFile_secretText true plainUsername plainPassword)

end BoVpnAgent.ContainerNamespaceExecutor

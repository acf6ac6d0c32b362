import BoVpnAgent.Executors.Runs

/-! # The lines of the login dialogue

    `_login` writes four lines into the menu of the UniVPN client, the last
    two from the credentials.  This file shows when the text it appends splits
    into just these lines again: the secret file never spoils it, since its
    values come from single lines, and the credentials of a request can.
-/

namespace BoVpnAgent.ContainerNamespaceExecutor

/-- The character that ends a line. -/
def newline : CodePoint := 0x0A

/-! ### The lines of a file -/

/-- Universal newlines: every end of a line becomes `\n`.  `cr` says that a
    carriage return has just ended one. -/
def universalNewlines (cr : Bool) : PyStr → PyStr
  | [] => []
  | c :: s =>
    if c = 0x0D then newline :: universalNewlines true s
    else if c = newline ∧ cr = true then universalNewlines false s
    else c :: universalNewlines false s

/-- A text without a carriage return is read as it is. -/
theorem universalNewlines_eq {s : PyStr} (h : 0x0D ∉ s) : universalNewlines false s = s := by
  induction s with
  | nil => rfl
  | cons c s ih =>
    obtain ⟨hc, hs⟩ := not_or.mp (mt List.mem_cons.mpr h)
    rw [universalNewlines, if_neg (Ne.symm hc), if_neg (by simp), ih hs]

/-- The lines of a text with their ends, with the line being read in front. -/
def linesFrom (line : PyStr) : PyStr → List PyStr
  | [] => if line = [] then [] else [line]
  | c :: s => if c = newline then (line ++ [newline]) :: linesFrom [] s else linesFrom (line ++ [c]) s

/-- `for raw_line in stream` for a file with this text. -/
def fileLines (text : PyStr) : List PyStr := linesFrom [] (universalNewlines false text)

/-- A line holds its newline at its end only. -/
theorem linesFrom_newline (line : PyStr) (hline : newline ∉ line) (s : PyStr) :
    ∀ l ∈ linesFrom line s, ∃ t, newline ∉ t ∧ (l = t ∨ l = t ++ [newline]) := by
  induction s generalizing line with
  | nil =>
    intro l hl
    unfold linesFrom at hl
    split at hl
    · cases hl
    · rw [List.mem_singleton.mp hl]
      exact ⟨line, hline, .inl rfl⟩
  | cons c s ih =>
    intro l hl
    unfold linesFrom at hl
    by_cases hc : c = newline
    · rw [if_pos hc] at hl
      rcases List.mem_cons.mp hl with hl | hl
      · exact ⟨line, hline, .inr hl⟩
      · exact ih [] List.not_mem_nil l hl
    · rw [if_neg hc] at hl
      refine ih _ ?_ l hl
      simp only [List.mem_append, List.mem_singleton, not_or]
      exact ⟨hline, fun h => hc h.symm⟩

/-- Stripping such a line leaves no newline. -/
theorem newline_not_mem_strip {l t : PyStr} (ht : newline ∉ t) (hl : l = t ∨ l = t ++ [newline]) :
    newline ∉ PyStr.strip l := by
  have hspace : CodePoint.isSpace newline = true := rfl
  rcases hl with hl | hl
  · rw [hl]
    exact fun h => ht ((PyStr.strip_sublist t).subset h)
  · rw [hl]
    unfold PyStr.strip
    rw [List.dropWhile_append]
    split
    · rw [List.dropWhile_cons_of_pos hspace, List.dropWhile_nil]
      simp
    · rw [List.rdropWhile_concat_pos _ _ _ hspace]
      intro h
      have hsub : (List.rdropWhile CodePoint.isSpace (t.dropWhile CodePoint.isSpace)).Sublist t :=
        (List.rdropWhile_prefix _ _).sublist.trans (List.dropWhile_suffix _).sublist
      exact ht (hsub.subset h)

/-- The values of a secret file have no newline. -/
theorem newline_not_mem_secret {lines : List PyStr} {secrets : Dict PyStr PyStr}
    (hlines : ∀ l ∈ lines, ∃ t, newline ∉ t ∧ (l = t ∨ l = t ++ [newline]))
    (hsecrets : ∀ key value, secrets.get? key = some value → newline ∉ value) {key value : PyStr}
    (h : (read_env_file lines secrets).get? key = some value) : newline ∉ value := by
  induction lines generalizing secrets with
  | nil => exact hsecrets key value h
  | cons l lines ih =>
    obtain ⟨⟨t, ht, hl⟩, hlines⟩ := List.forall_mem_cons.mp hlines
    have hstrip := newline_not_mem_strip ht hl
    unfold read_env_file at h
    simp only at h
    split at h
    · exact ih hlines hsecrets h
    · refine ih hlines ?_ h
      intro key' value' hvalue'
      rw [Dict.get?_set] at hvalue'
      split at hvalue'
      · -- the new value is a part of the stripped line
        have hvalue := Option.some.inj hvalue'
        have hpart : List.Sublist value' (PyStr.strip l) := by
          rw [← hvalue]
          unfold PyStr.stripChar
          refine (List.rdropWhile_prefix _ _).sublist.trans ?_
          refine (List.dropWhile_suffix _).sublist.trans ?_
          refine (List.rdropWhile_prefix _ _).sublist.trans ?_
          refine (List.dropWhile_suffix _).sublist.trans ?_
          refine (PyStr.strip_sublist _).trans ?_
          exact (List.drop_sublist _ _).trans (List.dropWhile_suffix _).sublist
        exact fun hmem => hstrip (hpart.subset hmem)
      · exact hsecrets key' value' hvalue'

/-! ### The credentials -/

/-- An environment whose secret file has this text, or cannot be read. -/
def Environment.reading (env : Environment) (secret : Except Builtin PyStr) : Environment :=
  { env with secret_file := secret.map fileLines }

/-- Neither the menu index nor credentials that come with the request hold a
    newline. -/
def SingleLines (config : RunnerDaemonConfig) (vpn : VpnCredentials) : Prop :=
  newline ∉ config.univpn_profile_menu_index ∧
  (vpn.mode = "inline_once".py → newline ∉ vpn.username ∧ newline ∉ vpn.password)

instance (config : RunnerDaemonConfig) (vpn : VpnCredentials) : Decidable (SingleLines config vpn) :=
  inferInstanceAs (Decidable (_ ∧ _))

section login

variable {I : Interp} {config : RunnerDaemonConfig} {task : Task} {vpn : VpnCredentials}
  {env : Environment}

/-- The credentials that `_login` writes have no newline, unless the request
    brought it. -/
theorem credentials_newline {secret : Except Builtin PyStr} {username password : PyStr}
    (h : credentials config vpn (secret.map fileLines) = .ok (username, password)) :
    (newline ∉ username ∧ newline ∉ password) ↔
      (vpn.mode = "inline_once".py → newline ∉ vpn.username ∧ newline ∉ vpn.password) := by
  unfold credentials at h
  by_cases hinline : vpn.mode = "inline_once".py
  · rw [if_pos hinline] at h
    split at h
    · cases h
    · obtain ⟨hu, hp⟩ := Prod.mk.inj (Except.ok.inj h)
      rw [← hu, ← hp]
      exact ⟨fun hfree _ => hfree, fun hfree => hfree hinline⟩
  · rw [if_neg hinline] at h
    refine iff_of_true ?_ fun hmode => absurd hmode hinline
    split at h
    · cases h
    · cases secret with
      | error kind =>
        cases kind <;> cases h
      | ok text =>
        have hlines := linesFrom_newline [] (List.not_mem_nil) (universalNewlines false text)
        have hvalue : ∀ key, newline ∉
            ((read_env_file (fileLines text) Dict.empty).get? key).getD [] := by
          intro key
          cases hkey : (read_env_file (fileLines text) Dict.empty).get? key with
          | none => simp
          | some value =>
            refine newline_not_mem_secret hlines ?_ hkey
            intro key' value' hempty
            cases hempty
        simp only [Except.map] at h
        split at h
        · cases h
        · obtain ⟨hu, hp⟩ := Prod.mk.inj (Except.ok.inj h)
          rw [← hu, ← hp]
          exact ⟨hvalue _, hvalue _⟩

/-- The rest of a login that completes: every line that is left is written. -/
theorem writing_completes {p : Progress} {username password : PyStr} {written left : Nat}
    (h : p.at_ = .inl (.writing username password written)) (hleft : written + left = 4)
    (hdone : ((advance I config task vpn env)^[left] p).at_ = .inl .polling) :
    writes ((advance I config task vpn env)^[left] p).trace =
      writes p.trace ++ ((loginLines config username password).drop written).map (.login, ·) := by
  induction left generalizing p written with
  | zero =>
    rw [Function.iterate_zero_apply, h] at hdone
    cases hdone
  | succ left ih =>
    have hlength : (loginLines config username password).length = 4 := rfl
    have hwritten : written < (loginLines config username password).length := by omega
    have hline := List.getElem?_eq_getElem hwritten
    rw [Function.iterate_succ_apply] at hdone ⊢
    rcases advance_writing I config task vpn env h hline with
      ⟨-, -, hnext, htrace⟩ | ⟨exc, -, hnext, -⟩
    · have hwrites : writes (advance I config task vpn env p).trace =
          writes p.trace ++ [(.login, (loginLines config username password)[written])] := by
        rw [htrace, List.append_cons, writes_append, writes_append, writes_login_records,
          List.append_nil]
        rfl
      -- one line is written, and the rest by induction
      have hdrop : ((loginLines config username password).drop written).map (ControlBlock.login, ·) =
          (.login, (loginLines config username password)[written]) ::
            ((loginLines config username password).drop (written + 1)).map (.login, ·) := by
        rw [List.drop_eq_getElem_cons hwritten, List.map_cons]
      rw [hdrop]
      rcases pausedThen_cases (behindLine config written) (if written + 1 < 4 then
        .writing username password (written + 1) else .polling) with ⟨-, hthen⟩ | ⟨kind, -, hthen⟩
      · rw [hthen] at hnext
        by_cases hlast : written + 1 < 4
        · rw [if_pos hlast] at hnext
          rw [ih hnext (by omega) hdone, hwrites, List.append_assoc]
          rfl
        · have hzero : left = 0 := by omega
          subst hzero
          rw [Function.iterate_zero_apply, hwrites, List.drop_of_length_le (by omega)]
          rfl
      · -- a delay that is refused ends the login
        have hclosing := closing_iterate I config task vpn env (by rw [hnext, hthen]; trivial) left
        rw [hdone] at hclosing
        exact hclosing.elim
    · -- the write raised, and a run that cleans up does not poll
      have hclosing := closing_iterate I config task vpn env (by rw [hnext]; trivial) left
      rw [hdone] at hclosing
      exact hclosing.elim

/-- A login that completes has written its four lines. -/
theorem login_completes {p : Progress} (h : p.at_ = .inl .login)
    (hdone : ((advance I config task vpn env)^[5] p).at_ = .inl .polling) :
    ∃ username password, credentials config vpn env.secret_file = .ok (username, password) ∧
      writes ((advance I config task vpn env)^[5] p).trace =
        writes p.trace ++ (loginLines config username password).map (.login, ·) := by
  obtain ⟨htrace, hok, herror⟩ := advance_login I config task vpn env h
  rw [Function.iterate_succ_apply] at hdone ⊢
  cases hcredentials : credentials config vpn env.secret_file with
  | ok pair =>
    obtain ⟨username, password⟩ := pair
    have hnext := hok username password hcredentials
    refine ⟨username, password, rfl, ?_⟩
    cases hpath : env.control_path config with
    | ok found =>
      rw [hpath] at hnext
      rw [writing_completes hnext rfl hdone, htrace, writes_append, writes_credential_records,
        List.append_nil, List.drop_zero]
    | error kind =>
      have hclosing := closing_iterate I config task vpn env (by rw [hnext, hpath]; trivial) 4
      rw [hdone] at hclosing
      exact hclosing.elim
  | error exc =>
    have hclosing := closing_iterate I config task vpn env (by rw [herror exc hcredentials]; trivial) 4
    rw [hdone] at hclosing
    exact hclosing.elim

/-- The text that a run appends to the control file between two points. -/
def appended (p p' : Progress) : PyStr :=
  (((writes p'.trace).drop (writes p.trace).length).map Prod.snd).flatten

/-- A login that completes appends a text that splits at newlines into the menu
    index, the choice `1`, the username and the password exactly when neither
    the index nor the credentials of the request hold a newline. -/
theorem login_lines_iff {secret : Except Builtin PyStr} {p : Progress} (h : p.at_ = .inl .login)
    (hdone : ((advance I config task vpn (env.reading secret))^[5] p).at_ = .inl .polling) :
    (∃ username password,
      credentials config vpn (env.reading secret).secret_file = .ok (username, password) ∧
      (appended p ((advance I config task vpn (env.reading secret))^[5] p)).splitOn newline =
        [config.univpn_profile_menu_index, "1".py, username, password] ++ [[]]) ↔
      SingleLines config vpn := by
  obtain ⟨username, password, hcredentials, hwrites⟩ := login_completes h hdone
  have htext : appended p ((advance I config task vpn (env.reading secret))^[5] p) =
      (([config.univpn_profile_menu_index, "1".py, username, password]).map
        (· ++ [newline])).flatten := by
    unfold appended
    rw [hwrites, List.drop_left]
    rfl
  have hnewline := credentials_newline hcredentials
  have hone : newline ∉ "1".py := by decide
  have hsplit := PyStr.splitOn_lines_iff (x := newline)
    [config.univpn_profile_menu_index, "1".py, username, password]
  have hfree : (∀ l ∈ [config.univpn_profile_menu_index, "1".py, username, password],
      newline ∉ l) ↔ SingleLines config vpn := by
    unfold SingleLines
    rw [← hnewline]
    simp [hone]
  constructor
  · rintro ⟨username', password', hcredentials', hlines⟩
    rw [hcredentials] at hcredentials'
    obtain ⟨hu, hp⟩ := Prod.mk.inj (Except.ok.inj hcredentials')
    rw [← hu, ← hp, htext] at hlines
    exact hfree.mp (hsplit.mp hlines)
  · intro hsingle
    refine ⟨username, password, hcredentials, ?_⟩
    rw [htext]
    exact hsplit.mpr (hfree.mpr hsingle)

end login

/-! ### A password with a newline -/

/-- A session that is down, in an environment that lets every write pass. -/
def downEnvironment : Environment :=
  { sampleEnvironment with command := fun _ _ => { returncode := 1, stdout := [] } }

def newlineCredentials : VpnCredentials :=
  { mode := "inline_once".py, username := "u".py, password := "p\n2".py }

/-- The credentials are accepted, the login completes, and a fifth line is
    written: a choice in the menu. -/
theorem newline_adds_line :
    let task := sampleTask "basic_status" 5
    let before := drive sampleInterp sampleDaemonConfig task newlineCredentials downEnvironment 2
    let after := drive sampleInterp sampleDaemonConfig task newlineCredentials downEnvironment 7
    build_vpn [("mode".py, .str "inline_once".py), ("username".py, .str "u".py),
      ("password".py, .str "p\n2".py)] "" = .ok newlineCredentials ∧
    before.at_ = .inl .login ∧ after.at_ = .inl .polling ∧
    (appended before after).splitOn newline =
      ["3".py, "1".py, "u".py, "p".py, "2".py] ++ [[]] := by
  intro task before after
  have htext : appended before after =
      ((["3".py, "1".py, "u".py, "p".py, "2".py]).map (· ++ [newline])).flatten := rfl
  refine ⟨rfl, rfl, rfl, ?_⟩
  rw [htext]
  exact (PyStr.splitOn_lines_iff _).mpr (by decide)

/-- Credentials without newlines give the four lines. -/
theorem login_lines_sample :
    ∃ username password,
      credentials sampleDaemonConfig sampleCredentials
        (downEnvironment.reading (.error .osError)).secret_file = .ok (username, password) ∧
      (appended
        (drive sampleInterp sampleDaemonConfig (sampleTask "basic_status" 5) sampleCredentials
          (downEnvironment.reading (.error .osError)) 2)
        ((advance sampleInterp sampleDaemonConfig (sampleTask "basic_status" 5) sampleCredentials
          (downEnvironment.reading (.error .osError)))^[5]
          (drive sampleInterp sampleDaemonConfig (sampleTask "basic_status" 5) sampleCredentials
            (downEnvironment.reading (.error .osError)) 2))).splitOn newline =
        [sampleDaemonConfig.univpn_profile_menu_index, "1".py, username, password] ++ [[]] :=
  (login_lines_iff rfl rfl).mpr (by decide)

end BoVpnAgent.ContainerNamespaceExecutor

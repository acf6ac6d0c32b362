import BoVpnAgent.Bot.Restart
import BoVpnAgent.Lib.LastWrite

/-! # Starting with any settings file

    `_load_settings` catches what one entry of the file can raise and goes on
    with the next one; what the entry has stored by then stays.  What an entry
    stores does not depend on the entries before it, so the tables end up with
    the last values that the entries of a user give.

    This file shows for which files the bot starts, with tables that agree.
-/

namespace BoVpnAgent.AudioBot

open LastWrite

variable {I : Interp}

/-! ### What an entry stores -/

/-- What an entry of the file stores for its user. -/
structure Entry where
  audio : Audio
  branch : Option PyStr
  target : Option Target

section entry

variable (config : Config I)

/-- `_parse_target` for a branch that has just been stored and a number.  A
    branch whose name is not its own is taken for the number, and the number
    for the volume. -/
def entry_target (audio : Audio) (branch number : PyStr) : Option Target :=
  match config.normalize_branch branch with
  | some name => (parse_number config audio (some name) [number]).toOption
  | none => (parse_number config audio (some branch) [branch, number]).toOption

/-- The entry of a user with a branch. -/
def branch_entry (audio : Audio) (branch : PyStr) (number : Json) : Entry :=
  let target :=
    if number.truthy then ((Json.toStr I number).toOption).bind (entry_target config audio branch)
    else none
  { audio := audio, branch := some ((target.map Target.branch).getD branch), target := target }

/-- `settings.get("volume", 25)` -/
def entry_volume (settings : Json.Fields) : Json := (Json.get? settings "volume".py).getD (.int 25)

/-- What a dictionary of settings stores, if it passes the checks. -/
def user_entry (settings : Json.Fields) : Option Entry :=
  match Json.toInt I (entry_volume settings), (Json.get? settings "output".py).getD (.str "salon".py) with
  | .ok volume, .str output =>
    if (1 ≤ volume ∧ volume ≤ 100) ∧ IsChannel output then
      match normalize_json config ((Json.get? settings "branch".py).getD .null) with
      | .ok (some branch) =>
        some (branch_entry config { volume, output } branch
          ((Json.get? settings "number".py).getD .null))
      | _ => some { audio := { volume, output }, branch := none, target := none }
    else none
  | _, _ => none

/-- What an entry of the file stores for the user `u`. -/
def entry_for (u : Int) (e : PyStr × Json) : Option Entry :=
  match e.2 with
  | .obj settings =>
    if Json.toInt I (.str e.1) = .ok u ∧ u ∈ config.allowed_users then user_entry config settings
    else none
  | _ => none

/-- The entry is that of an allowed user, and its volume is infinite. -/
def Infinite (e : PyStr × Json) : Prop :=
  ∃ u settings neg, Json.toInt I (.str e.1) = .ok u ∧ u ∈ config.allowed_users ∧
    e.2 = .obj settings ∧ entry_volume settings = .float (.inf neg)

end entry

/-- The user's tables after an entry. -/
def View.record (v : View) (e : Entry) : View :=
  { v with audio := some e.audio, branch := e.branch.or v.branch, target := e.target.or v.target }

/-! ### One turn of the loop -/

section turn

variable {config : Config I} {b : Bot} {user_id : Int}

theorem parse_target_some {audio : Audio} {branch number : PyStr} {target : Target}
    (haudio : b.audio user_id = audio) (hbranch : b.user_branches.get? user_id = some branch)
    (h : entry_target config audio branch number = some target) :
    ∃ b', parse_target config b user_id [branch, number] = .ok (target, b') ∧
      b'.view user_id = { b.view user_id with branch := some target.branch } ∧
      ∀ u, u ≠ user_id → b'.view u = b.view u := by
  unfold entry_target at h
  unfold parse_target
  simp only [haudio, hbranch]
  cases hname : config.normalize_branch branch with
  | some name =>
    rw [hname] at h
    simp only at h ⊢
    cases hparse : parse_number config audio (some name) [number] with
    | error exc =>
      rw [hparse] at h
      cases h
    | ok target' =>
      rw [hparse] at h
      have htarget : target' = target := Option.some.inj h
      have hchosen := (parse_number_ok hparse).2.2.2 name rfl
      rw [htarget] at hchosen ⊢
      refine ⟨b.store_branch user_id name, rfl, ?_, ?_⟩
      · rw [view_store_branch, hchosen]
      · intro u hu
        exact view_store_branch_ne hu b name
  | none =>
    rw [hname] at h
    simp only at h ⊢
    cases hparse : parse_number config audio (some branch) [branch, number] with
    | error exc =>
      rw [hparse] at h
      cases h
    | ok target' =>
      rw [hparse] at h
      have htarget : target' = target := Option.some.inj h
      have hchosen := (parse_number_ok hparse).2.2.2 branch rfl
      rw [htarget] at hchosen ⊢
      refine ⟨b, rfl, ?_, fun _ _ => rfl⟩
      have hview : (b.view user_id).branch = some branch := hbranch
      rw [hchosen, ← hview]

theorem parse_target_none {audio : Audio} {branch number : PyStr}
    (haudio : b.audio user_id = audio) (hbranch : b.user_branches.get? user_id = some branch)
    (h : entry_target config audio branch number = none) :
    ∃ exc, parse_target config b user_id [branch, number] = .error exc := by
  unfold entry_target at h
  unfold parse_target
  simp only [haudio, hbranch]
  cases hname : config.normalize_branch branch with
  | some name =>
    rw [hname] at h
    simp only at h ⊢
    cases hparse : parse_number config audio (some name) [number] with
    | error exc => exact ⟨exc, rfl⟩
    | ok target =>
      rw [hparse] at h
      cases h
  | none =>
    rw [hname] at h
    simp only at h ⊢
    cases hparse : parse_number config audio (some branch) [branch, number] with
    | error exc => exact ⟨exc, rfl⟩
    | ok target =>
      rw [hparse] at h
      cases h

/-- A turn of the loop that stores `e` and goes on. -/
structure Stores (b : Bot) (user_id : Int) (e : Entry) (r : Bot × Option Builtin) : Prop where
  goes_on : ∀ exc, r.2 = some exc → skipsUser exc = true
  view : r.1.view user_id = (b.view user_id).record e
  others : ∀ u, u ≠ user_id → r.1.view u = b.view u

/-- What is stored by the time the target is looked up. -/
theorem stores_stored (audio : Audio) (branch : PyStr) {exc : Option Builtin}
    (hexc : ∀ kind, exc = some kind → skipsUser kind = true) :
    Stores b user_id { audio := audio, branch := some branch, target := none }
      ((b.withAudio user_id audio).store_branch user_id branch, exc) := by
  refine ⟨hexc, ?_, ?_⟩
  · show ((b.withAudio user_id audio).store_branch user_id branch).view user_id = _
    rw [view_store_branch, view_withAudio]
    rfl
  · intro u hu
    show ((b.withAudio user_id audio).store_branch user_id branch).view u = _
    rw [view_store_branch_ne hu, view_withAudio_ne hu]

/-- What is stored without a branch. -/
theorem stores_audio (audio : Audio) {exc : Option Builtin}
    (hexc : ∀ kind, exc = some kind → skipsUser kind = true) :
    Stores b user_id { audio := audio, branch := none, target := none }
      (b.withAudio user_id audio, exc) := by
  refine ⟨hexc, view_withAudio b user_id audio, ?_⟩
  intro u hu
  exact view_withAudio_ne hu b audio

theorem normalize_json_caught {value : Json} {exc : Builtin}
    (h : normalize_json config value = .error exc) {kind : Builtin} (hkind : some exc = some kind) :
    skipsUser kind = true := by
  rw [← Option.some.inj hkind]
  unfold normalize_json at h
  split at h
  · cases h
  · split at h
    · rw [← Except.error.inj h]
      rfl
    · cases h

theorem view_withTarget (b : Bot) (user_id : Int) (target : Target) :
    (b.withTarget user_id target).view user_id = { b.view user_id with target := some target } := by
  simp [Bot.view, Bot.withTarget]

theorem stores_branch (audio : Audio) (branch : PyStr) (number : Json) :
    Stores b user_id (branch_entry config audio branch number)
      (load_target config (b.withAudio user_id audio) user_id branch number) := by
  have haudio : ((b.withAudio user_id audio).store_branch user_id branch).audio user_id = audio :=
    audio_withAudio b user_id audio
  have hbranch : ((b.withAudio user_id audio).store_branch user_id branch).user_branches.get? user_id =
      some branch := Dict.get?_set_self _ _ _
  unfold load_target branch_entry
  simp only
  -- no number, a number that is no text, or a text that is parsed like an argument
  cases htruthy : number.truthy with
  | false => exact stores_stored audio branch fun kind h => by cases h
  | true =>
    simp only [Bool.not_true, Bool.false_eq_true, if_false, if_true]
    cases htext : Json.toStr I number with
    | error exc =>
      have hvalue : exc = .valueError := by
        unfold Json.toStr at htext
        split at htext
        · cases htext
        · exact (Except.error.inj htext).symm
      rw [hvalue]
      apply stores_stored audio branch
      intro kind hkind
      rw [← Option.some.inj hkind]
      rfl
    | ok text =>
      dsimp only
      cases htarget : entry_target config audio branch text with
      | none =>
        obtain ⟨exc, hparse⟩ := parse_target_none haudio hbranch htarget
        rw [hparse]
        simp only [Except.toOption, Option.bind_some, htarget, Option.map_none, Option.getD_none]
        apply stores_stored audio branch
        intro kind hkind
        rw [← Option.some.inj hkind]
        rfl
      | some target =>
        obtain ⟨b', hparse, hview, hothers⟩ := parse_target_some haudio hbranch htarget
        rw [hparse]
        simp only [Except.toOption, Option.bind_some, htarget, Option.map_some, Option.getD_some]
        refine ⟨fun exc h => (by cases h), ?_, ?_⟩
        · show (b'.withTarget user_id target).view user_id = _
          rw [view_withTarget, hview, view_store_branch, view_withAudio]
          rfl
        · intro u hu
          show (b'.withTarget user_id target).view u = _
          rw [view_withTarget_ne hu, hothers u hu, view_store_branch_ne hu, view_withAudio_ne hu]

/-- A turn that stores nothing and goes on. -/
structure Skips (b : Bot) (r : Bot × Option Builtin) : Prop where
  goes_on : ∀ exc, r.2 = some exc → skipsUser exc = true
  same : r.1 = b

theorem skips_none (b : Bot) : Skips b (b, none) := ⟨fun exc h => (by cases h), rfl⟩

theorem skips_some {exc : Builtin} (h : skipsUser exc = true) (b : Bot) : Skips b (b, some exc) := by
  refine ⟨?_, rfl⟩
  intro kind hkind
  rw [← Option.some.inj hkind]
  exact h

/-- The user's turn does what the entry says, or nothing. -/
def Turn (b : Bot) (user_id : Int) (r : Bot × Option Builtin) : Option Entry → Prop
  | some e => Stores b user_id e r
  | none => Skips b r

/-- `int` of a finite number fails only with what is caught. -/
theorem toInt_caught {j : Json} (hfinite : ∀ neg, j ≠ .float (.inf neg)) {exc : Builtin}
    (h : Json.toInt I j = .error exc) : skipsUser exc = true := by
  unfold Json.toInt at h
  split at h
  · cases h
  · cases h
  · rename_i x
    cases x with
    | nan =>
      rw [← Except.error.inj h]
      rfl
    | inf neg => exact absurd rfl (hfinite neg)
    | fin neg m e => cases h
  · split at h
    · cases h
    · rw [← Except.error.inj h]
      rfl
  · rw [← Except.error.inj h]
    rfl

theorem turn_user {settings : Json.Fields}
    (hfinite : ∀ neg, entry_volume settings ≠ .float (.inf neg)) (b : Bot) (user_id : Int) :
    Turn b user_id (load_user config b user_id settings) (user_entry config settings) := by
  unfold load_user user_entry
  have hentry : (Json.get? settings "volume".py).getD (.int 25) = entry_volume settings := rfl
  rw [hentry]
  cases hvolume : Json.toInt I (entry_volume settings) with
  | error exc => exact skips_some (toInt_caught hfinite hvolume) b
  | ok volume =>
    generalize (Json.get? settings "output".py).getD (.str "salon".py) = output
    -- the code tests the range and the channel in one condition
    by_cases hrange : 1 ≤ volume ∧ volume ≤ 100
    · simp only [hrange, and_self, not_true, if_false]
      cases output with
      | str output =>
        by_cases hchannel : IsChannel output
        · simp only [hchannel, hrange, not_true, if_false, and_self, if_true]
          cases hbranch : normalize_json config ((Json.get? settings "branch".py).getD .null) with
          | error exc => exact stores_audio _ fun kind => normalize_json_caught hbranch
          | ok found =>
            cases found with
            | none => exact stores_audio _ fun kind h => by cases h
            | some branch => exact stores_branch _ branch _
        · simp only [hchannel, not_false_eq_true, if_true, and_false, if_false]
          exact skips_none b
      | arr xs => exact skips_some rfl b
      | obj fields => exact skips_some rfl b
      | null => exact skips_none b
      | bool x => exact skips_none b
      | int n => exact skips_none b
      | float x => exact skips_none b
    · simp only [hrange, not_false_eq_true, if_true]
      cases output with
      | str output =>
        simp only [hrange, false_and, if_false]
        exact skips_none b
      | arr xs => exact skips_none b
      | obj fields => exact skips_none b
      | null => exact skips_none b
      | bool x => exact skips_none b
      | int n => exact skips_none b
      | float x => exact skips_none b

/-- A turn of the loop for an entry with a finite volume. -/
theorem load_entry_views {e : PyStr × Json} (hfinite : ¬ Infinite config e) (b : Bot) :
    (∀ exc, (load_entry config b e.1 e.2).2 = some exc → skipsUser exc = true) ∧
    ∀ u, (load_entry config b e.1 e.2).1.view u =
      (entry_for config u e).elim (b.view u) (b.view u).record := by
  obtain ⟨key, value⟩ := e
  -- a turn that skips, for an entry that is nobody's
  have hskip : ∀ r : Bot × Option Builtin, Skips b r →
      (∀ u, entry_for config u (key, value) = none) →
      (∀ exc, r.2 = some exc → skipsUser exc = true) ∧
        ∀ u, r.1.view u = (entry_for config u (key, value)).elim (b.view u) (b.view u).record := by
    intro r hr hnone
    refine ⟨hr.goes_on, ?_⟩
    intro u
    rw [hnone u, hr.same]
    rfl
  show (∀ exc, (load_entry config b key value).2 = some exc → _) ∧
    ∀ u, (load_entry config b key value).1.view u = _
  unfold load_entry
  -- a key that is no number belongs to no user
  cases hkey : Json.toInt I (.str key) with
  | error exc =>
    apply hskip _ (skips_some (toInt_caught (fun neg h => by cases h) hkey) b)
    intro u
    unfold entry_for
    cases value with
    | obj settings => exact if_neg fun h => by rw [hkey] at h; cases h.1
    | _ => rfl
  | ok user_id =>
    cases value with
    | obj settings =>
      have hentry : ∀ u, entry_for config u (key, .obj settings) =
          if user_id = u ∧ u ∈ config.allowed_users then user_entry config settings else none := by
        intro u
        show (if Json.toInt I (.str key) = .ok u ∧ u ∈ config.allowed_users then _ else _) = _
        rw [hkey]
        simp only [Except.ok.injEq]
      simp only
      -- an entry of a user who is no longer allowed is left out
      by_cases hallowed : user_id ∈ config.allowed_users
      · rw [if_neg (not_not.mpr hallowed)]
        have hvolume : ∀ neg, entry_volume settings ≠ .float (.inf neg) := by
          intro neg h
          exact hfinite ⟨user_id, settings, neg, hkey, hallowed, rfl, h⟩
        have hturn : Turn b user_id (load_user config b user_id settings)
            (user_entry config settings) := turn_user hvolume b user_id
        generalize load_user config b user_id settings = r at hturn
        cases hstores : user_entry config settings with
        | none =>
          rw [hstores] at hturn
          apply hskip r hturn
          intro u
          rw [hentry u, hstores, ite_self]
        | some stored =>
          rw [hstores] at hturn
          have hstored : Stores b user_id stored r := hturn
          refine ⟨hstored.goes_on, ?_⟩
          intro u
          rw [hentry u, hstores]
          by_cases hu : user_id = u
          · rw [if_pos ⟨hu, hu ▸ hallowed⟩, ← hu]
            exact hstored.view
          · rw [if_neg fun h => hu h.1]
            exact hstored.others u fun h => hu h.symm
      · rw [if_pos hallowed]
        apply hskip _ (skips_none b)
        intro u
        rw [hentry u, if_neg]
        intro ⟨hu, hu'⟩
        exact hallowed (hu ▸ hu')
    | _ => exact hskip _ (skips_none b) fun u => rfl

/-- An infinite volume raises what is not caught. -/
theorem load_entry_infinite {e : PyStr × Json} (h : Infinite config e) (b : Bot) :
    load_entry config b e.1 e.2 = (b, some .overflowError) := by
  obtain ⟨user_id, settings, neg, hkey, hallowed, hobj, hvolume⟩ := h
  unfold load_entry
  rw [hkey, hobj]
  simp only
  rw [if_neg (not_not.mpr hallowed)]
  unfold load_user
  have hentry : (Json.get? settings "volume".py).getD (.int 25) = entry_volume settings := rfl
  rw [hentry, hvolume]
  rfl

/-! ### The loop -/

/-- Without an infinite volume the loop comes to its end, with the last values
    of each user. -/
theorem load_users_views {users : List (PyStr × Json)} (h : ∀ e ∈ users, ¬ Infinite config e) (b : Bot) :
    ∃ b', load_users config b users = .ok b' ∧
      ∀ u, b'.view u = (users.filterMap (entry_for config u)).foldl View.record (b.view u) := by
  induction users generalizing b with
  | nil => exact ⟨b, rfl, fun u => rfl⟩
  | cons e users ih =>
    obtain ⟨he, husers⟩ := List.forall_mem_cons.mp h
    obtain ⟨hgoes, hviews⟩ := load_entry_views he b
    obtain ⟨b', hload, hrest⟩ := ih husers (load_entry config b e.1 e.2).1
    refine ⟨b', ?_, ?_⟩
    · rw [← hload]
      obtain ⟨key, value⟩ := e
      rw [load_users]
      generalize load_entry config b key value = r at hgoes
      obtain ⟨b₁, exc⟩ := r
      cases exc with
      | none => rfl
      | some exc => exact if_pos (hgoes exc rfl)
    · intro u
      rw [hrest u, hviews u, List.filterMap_cons]
      cases entry_for config u e with
      | none => rfl
      | some stored => rfl

/-- With one it raises, wherever the entry is. -/
theorem load_users_infinite {users : List (PyStr × Json)} (h : ∃ e ∈ users, Infinite config e)
    (b : Bot) : ∃ exc, load_users config b users = .error exc := by
  induction users generalizing b with
  | nil =>
    obtain ⟨e, he, _⟩ := h
    cases he
  | cons e users ih =>
    obtain ⟨key, value⟩ := e
    rw [load_users]
    by_cases he : Infinite config (key, value)
    · rw [load_entry_infinite he b]
      exact ⟨.overflowError, rfl⟩
    · have hrest : ∃ e ∈ users, Infinite config e := by
        obtain ⟨e, hmem, hinfinite⟩ := h
        rcases List.mem_cons.mp hmem with hsame | hmem
        · exact absurd (hsame ▸ hinfinite) he
        · exact ⟨e, hmem, hinfinite⟩
      have hgoes := (load_entry_views he b).1
      change ∀ exc, (load_entry config b key value).2 = some exc → _ at hgoes
      generalize load_entry config b key value = r at hgoes
      obtain ⟨b₁, exc⟩ := r
      cases exc with
      | none => exact ih hrest b₁
      | some exc =>
        simp only [hgoes exc rfl, if_true]
        exact ih hrest b₁

end turn

/-! ### The tables in the end -/

section tables

variable {config : Config I}

/-- A user's tables after all entries: the last values. -/
theorem foldl_record (rs : List Entry) (v : View) :
    rs.foldl View.record v =
      { v with audio := (last (fun e => some e.audio) rs).or v.audio
               branch := (last Entry.branch rs).or v.branch
               target := (last Entry.target rs).or v.target } := by
  induction rs generalizing v with
  | nil => rfl
  | cons e rs ih =>
    rw [List.foldl_cons, ih]
    simp only [View.record, last, Option.or_assoc, Option.some_or]

/-- An entry that has passed the checks. -/
structure Entry.Sound (config : Config I) (e : Entry) : Prop where
  audio : e.audio.Valid
  target : ∀ target, e.target = some target →
    e.branch = some target.branch ∧ config.address? target.branch target.number = some target.ip

theorem address_entry_target {audio : Audio} {branch number : PyStr} {target : Target}
    (h : entry_target config audio branch number = some target) :
    config.address? target.branch target.number = some target.ip := by
  have hok : ∀ chosen args, (parse_number config audio chosen args).toOption = some target →
      config.address? target.branch target.number = some target.ip := by
    intro chosen args hparsed
    cases hparse : parse_number config audio chosen args with
    | error exc =>
      rw [hparse] at hparsed
      cases hparsed
    | ok target' =>
      rw [hparse] at hparsed
      have htarget : target' = target := Option.some.inj hparsed
      rw [htarget] at hparse
      exact (parse_number_ok hparse).1
  unfold entry_target at h
  split at h
  · exact hok _ _ h
  · exact hok _ _ h

theorem sound_entry {u : Int} {e : PyStr × Json} {stored : Entry}
    (h : entry_for config u e = some stored) : u ∈ config.allowed_users ∧ stored.Sound config := by
  unfold entry_for at h
  split at h
  · rename_i settings _
    split at h
    · rename_i huser
      refine ⟨huser.2, ?_⟩
      unfold user_entry at h
      split at h
      · split at h
        · rename_i hchecks
          split at h
          · rename_i branch _
            rw [← Option.some.inj h]
            refine ⟨hchecks, ?_⟩
            intro target htarget
            unfold branch_entry at htarget ⊢
            simp only at htarget ⊢
            rw [htarget]
            refine ⟨rfl, ?_⟩
            split at htarget
            · obtain ⟨number, _, hparsed⟩ := Option.bind_eq_some_iff.mp htarget
              exact address_entry_target hparsed
            · cases htarget
          · rw [← Option.some.inj h]
            exact ⟨hchecks, fun target htarget => by cases htarget⟩
        · cases h
      · cases h
    · cases h
  · cases h

/-- The entries of a user do not contradict each other: behind the last one
    with a target, the last one of all has the volume and the channel of the
    target, and no branch that stays is another one. -/
def Steady (rs : List Entry) : Prop :=
  ∀ e rest target, (e :: rest) <:+ rs → e.target = some target →
    (∀ later ∈ rest, later.target = none) →
    (∀ final, (e :: rest).getLast? = some final →
      final.audio = { volume := target.volume, output := target.output }) ∧
    ∀ later after branch, (later :: after) <:+ rest → later.branch = some branch →
      (∀ e' ∈ after, e'.branch = none) → branch = target.branch

theorem last_audio (rs : List Entry) :
    last (fun e : Entry => some e.audio) rs = rs.getLast?.map Entry.audio := by
  induction rs with
  | nil => rfl
  | cons e rs ih =>
    rw [last, ih]
    cases hlast : rs.getLast? with
    | none =>
      rw [List.getLast?_eq_none_iff.mp hlast]
      rfl
    | some final =>
      rw [List.getLast?_cons, hlast]
      rfl

/-- The tables of the user agree exactly when the entries are steady. -/
theorem coherent_iff {u : Int} {rs : List Entry} (hsound : ∀ e ∈ rs, e.Sound config)
    (hallowed : u ∉ config.allowed_users → rs = []) :
    Coherent config u (rs.foldl View.record View.empty) ↔ Steady rs := by
  have hview : rs.foldl View.record View.empty =
      { View.empty with audio := rs.getLast?.map Entry.audio
                        branch := last Entry.branch rs
                        target := last Entry.target rs } := by
    rw [foldl_record, last_audio]
    simp only [View.empty, Option.or_none]
  rw [hview]
  -- the last entry with a target decides; later entries may still change what it was built from
  constructor
  · intro hcoherent e rest target hsuffix htarget hrest
    obtain ⟨hbranch, _, haudio⟩ :=
      hcoherent.target target (last_eq_some_iff.mpr ⟨e, rest, hsuffix, htarget, hrest⟩)
    constructor
    · intro final hfinal
      obtain ⟨front, hfront⟩ := hsuffix
      have hlast : rs.getLast? = some final := by
        rw [← hfront, List.getLast?_append, hfinal]
        rfl
      have hsame : (rs.getLast?.map Entry.audio) = some _ := haudio
      rw [hlast] at hsame
      exact Option.some.inj hsame
    · intro later after branch hlater hset hafter
      have hwhole : (later :: after) <:+ rs :=
        (hlater.trans (List.suffix_cons e rest)).trans hsuffix
      have hlast := last_eq_some_iff.mpr ⟨later, after, hwhole, hset, hafter⟩
      exact Option.some.inj (hlast.symm.trans hbranch)
  · intro hsteady
    refine ⟨by simp [View.empty], ?_, ?_, ?_⟩
    · intro audio haudio
      obtain ⟨final, hfinal, haudio⟩ := Option.map_eq_some_iff.mp haudio
      rw [← haudio]
      exact (hsound final (List.mem_of_getLast? hfinal)).audio
    · intro target htarget
      obtain ⟨e, rest, hsuffix, htarget, hrest⟩ := last_eq_some_iff.mp htarget
      obtain ⟨hfinals, hbranches⟩ := hsteady e rest target hsuffix htarget hrest
      obtain ⟨hown, haddress⟩ := (hsound e (hsuffix.subset List.mem_cons_self)).target target htarget
      obtain ⟨front, hfront⟩ := hsuffix
      refine ⟨?_, haddress, ?_⟩
      · -- the branch of the entry itself, unless a later one has stored its own
        show last Entry.branch rs = some target.branch
        rw [← hfront, last_append, last]
        cases hlater : last Entry.branch rest with
        | none =>
          rw [hown]
          rfl
        | some branch =>
          obtain ⟨later, after, hlater, hset, hafter⟩ := last_eq_some_iff.mp hlater
          rw [hbranches later after branch hlater hset hafter]
          rfl
      · show rs.getLast?.map Entry.audio = _
        obtain ⟨final, hfinal⟩ : ∃ final, (e :: rest).getLast? = some final :=
          ⟨_, List.getLast?_eq_some_getLast (List.cons_ne_nil e rest)⟩
        have hlast : rs.getLast? = some final := by
          rw [← hfront, List.getLast?_append, hfinal]
          rfl
        rw [hlast, Option.map_some, hfinals final hfinal]
    · intro hnot
      rw [hallowed hnot]
      rfl

/-- A bot starts with this file, and its tables agree. -/
def StartsWell (config : Config I) (file : Option Bytes) : Prop :=
  ∃ b, load_settings config file Bot.empty = .ok b ∧ TablesOk config b

/-- A text in the file is not nested too deep for `json.loads`; when it is a
    dictionary, no entry has an infinite volume and the entries of each user are
    steady. -/
def Harmless (config : Config I) (file : Option Bytes) : Prop :=
  ∀ text, file.bind Utf8.decode = some text →
    (∀ exc, Json.loads I text = .error exc → isValueError exc = true) ∧
    ∀ users, Json.loads I text = .ok (.obj users) →
      (∀ e ∈ users, ¬ Infinite config e) ∧ ∀ u, Steady (users.filterMap (entry_for config u))

theorem tablesOk_empty (config : Config I) : TablesOk config Bot.empty :=
  tables_ok Lts.Reachable.init

/-- The entries of a dictionary. -/
theorem load_users_iff (config : Config I) (users : List (PyStr × Json)) :
    (∃ b, load_users config Bot.empty users = .ok b ∧ TablesOk config b) ↔
      (∀ e ∈ users, ¬ Infinite config e) ∧ ∀ u, Steady (users.filterMap (entry_for config u)) := by
  by_cases hfinite : ∀ e ∈ users, ¬ Infinite config e
  · obtain ⟨b, hload, hviews⟩ := load_users_views hfinite Bot.empty
    have hcoherent : ∀ u, Coherent config u (b.view u) ↔
        Steady (users.filterMap (entry_for config u)) := by
      intro u
      rw [hviews u, view_empty]
      apply coherent_iff
      · intro stored hstored
        obtain ⟨e, _, he⟩ := List.mem_filterMap.mp hstored
        exact (sound_entry he).2
      · intro hnot
        apply List.filterMap_eq_nil_iff.mpr
        intro e _
        cases he : entry_for config u e with
        | none => rfl
        | some stored => exact absurd (sound_entry he).1 hnot
    constructor
    · intro ⟨b', hload', hok⟩
      rw [hload] at hload'
      rw [← Except.ok.inj hload'] at hok
      exact ⟨hfinite, fun u => (hcoherent u).mp (hok u)⟩
    · intro ⟨_, hsteady⟩
      exact ⟨b, hload, fun u => (hcoherent u).mpr (hsteady u)⟩
  · apply iff_of_false
    · intro ⟨b, hload, _⟩
      have hinfinite : ∃ e ∈ users, Infinite config e := by
        simpa using hfinite
      obtain ⟨exc, hraise⟩ := load_users_infinite hinfinite Bot.empty
      rw [hraise] at hload
      cases hload
    · intro ⟨hall, _⟩
      exact hfinite hall

/-- The bot starts with a settings file, and with tables that agree, exactly
    when the file is harmless. -/
theorem starts_well_iff (config : Config I) (file : Option Bytes) :
    StartsWell config file ↔ Harmless config file := by
  have hempty : ∃ b, Except.ok Bot.empty = (.ok b : Except Builtin Bot) ∧ TablesOk config b :=
    ⟨Bot.empty, rfl, tablesOk_empty config⟩
  unfold StartsWell Harmless load_settings
  cases htext : file.bind Utf8.decode with
  | none => exact iff_of_true hempty fun text h => by cases h
  | some text =>
    simp only [Option.some.injEq, forall_eq']
    cases hload : Json.loads I text with
    | error exc =>
      simp only [Except.error.injEq, forall_eq', reduceCtorEq, false_implies, forall_const, and_true]
      by_cases hcaught : isValueError exc = true
      · rw [if_pos hcaught]
        exact iff_of_true hempty hcaught
      · rw [if_neg hcaught]
        apply iff_of_false _ hcaught
        intro ⟨b, hb, _⟩
        cases hb
    | ok value =>
      have hno : ∀ exc, (Except.ok value : Except Builtin Json) = .error exc → isValueError exc = true :=
        fun exc h => by cases h
      cases value with
      | obj users =>
        refine (load_users_iff config users).trans ⟨fun h => ⟨hno, ?_⟩, fun h => h.2 users rfl⟩
        intro users' husers'
        rw [← Json.obj.inj (Except.ok.inj husers')]
        exact h
      | _ => exact iff_of_true hempty ⟨hno, fun users h => by cases h⟩

end tables

/-! ### Two files that the bot does not start with -/

/-- The entry of one user, with an infinite volume. -/
def infiniteUsers : Json.Fields := [("100".py, .obj [("volume".py, .float (.inf false))])]

/-- Two entries of one user. -/
def twoEntries : Json.Fields :=
  [("100".py, .obj [("volume".py, .int 15), ("branch".py, .str "pat".py),
      ("number".py, .str "6217".py)]),
    ("0100".py, .obj [("volume".py, .int 30)])]

/-- What the second entry leaves of the first one is the target. -/
def twiceLoaded : Bot :=
  match load_users sampleBotConfig Bot.empty twoEntries with
  | .ok b => b
  | .error _ => Bot.empty

theorem nodes_infiniteUsers :
    (Json.obj infiniteUsers).Nodes (Json.FloatReads sampleInterp) Json.DistinctKeys := by
  have hkeys : List.Nodup ["100".py] ∧ List.Nodup ["volume".py] := by decide
  have hreads : Json.FloatReads sampleInterp (.inf false) := by
    show Json.scanLiteral sampleInterp "Infinity".py = _
    rfl
  exact ⟨hkeys.1, ⟨hkeys.2, hreads, trivial⟩, trivial⟩

theorem nodes_twoEntries :
    (Json.obj twoEntries).Nodes (Json.FloatReads sampleInterp) Json.DistinctKeys := by
  have hkeys : List.Nodup ["100".py, "0100".py] ∧
      List.Nodup ["volume".py, "branch".py, "number".py] ∧ List.Nodup ["volume".py] := by decide
  exact ⟨hkeys.1, ⟨hkeys.2.1, trivial, trivial, trivial, trivial⟩, ⟨hkeys.2.2, trivial, trivial⟩,
    trivial⟩

/-- The bytes of a text that `json.dump` gives. -/
theorem dumped_of_encode {text : PyStr} {bytes : Bytes} {j : Json}
    (hbytes : Utf8.encode text = some bytes)
    (h : Utf8.encode text = (Json.dumpsUtf8 I dumpOptions j).toOption) :
    Json.dumpsUtf8 I dumpOptions j = .ok bytes := by
  rw [hbytes] at h
  cases hdumped : Json.dumpsUtf8 I dumpOptions j with
  | error exc =>
    rw [hdumped] at h
    cases h
  | ok bytes' =>
    rw [hdumped] at h
    exact congrArg Except.ok (Option.some.inj h).symm

/-- A volume that is not finite ends the start; of two entries of one user
    the second one gives the volume and the first one the target. -/
theorem startup_broken :
    (∃ bytes, Utf8.encode "\x7b\"100\": \x7b\"volume\": Infinity\x7d\x7d".py = some bytes ∧
      load_settings sampleBotConfig (some bytes) Bot.empty = .error .overflowError ∧
      ¬ StartsWell sampleBotConfig (some bytes)) ∧
    ∃ bytes b, Utf8.encode ("\x7b\"100\": \x7b\"volume\": 15, \"branch\": \"pat\", " ++
        "\"number\": \"6217\"\x7d, \"0100\": \x7b\"volume\": 30\x7d\x7d").py = some bytes ∧
      load_settings sampleBotConfig (some bytes) Bot.empty = .ok b ∧
      (b.audio 100).volume = 30 ∧ (b.targets.get? 100).map Target.volume = some 15 ∧
      ¬ StartsWell sampleBotConfig (some bytes) := by
  constructor
  · obtain ⟨bytes, hbytes⟩ : ∃ bytes,
        Utf8.encode "\x7b\"100\": \x7b\"volume\": Infinity\x7d\x7d".py = some bytes :=
      Option.isSome_iff_exists.mp (by decide +kernel)
    have hdumped := dumped_of_encode (I := sampleInterp) (j := .obj infiniteUsers) hbytes
      (by decide +kernel)
    have hload : load_settings sampleBotConfig (some bytes) Bot.empty =
        load_users sampleBotConfig Bot.empty infiniteUsers :=
      load_settings_dumped nodes_infiniteUsers (by decide) hdumped Bot.empty
    have hraise : load_users sampleBotConfig Bot.empty infiniteUsers = .error .overflowError := rfl
    refine ⟨bytes, hbytes, hload.trans hraise, ?_⟩
    intro ⟨b, hstarts, _⟩
    rw [hload, hraise] at hstarts
    cases hstarts
  · obtain ⟨bytes, hbytes⟩ : ∃ bytes,
        Utf8.encode ("\x7b\"100\": \x7b\"volume\": 15, \"branch\": \"pat\", " ++
          "\"number\": \"6217\"\x7d, \"0100\": \x7b\"volume\": 30\x7d\x7d").py = some bytes :=
      Option.isSome_iff_exists.mp (by decide +kernel)
    have hdumped := dumped_of_encode (I := sampleInterp) (j := .obj twoEntries) hbytes
      (by decide +kernel)
    have hload : load_settings sampleBotConfig (some bytes) Bot.empty =
        load_users sampleBotConfig Bot.empty twoEntries :=
      load_settings_dumped nodes_twoEntries (by decide) hdumped Bot.empty
    have hend : load_users sampleBotConfig Bot.empty twoEntries = .ok twiceLoaded := by
      have hok : (load_users sampleBotConfig Bot.empty twoEntries).toBool = true := by
        decide +kernel
      unfold twiceLoaded
      cases h : load_users sampleBotConfig Bot.empty twoEntries with
      | ok b => rfl
      | error exc =>
        rw [h] at hok
        cases hok
    have hvolume : (twiceLoaded.audio 100).volume = 30 := by decide +kernel
    have htarget : (twiceLoaded.targets.get? 100).map Target.volume = some 15 := by decide +kernel
    refine ⟨bytes, twiceLoaded, hbytes, hload.trans hend, hvolume, htarget, ?_⟩
    intro ⟨b, hstarts, hok⟩
    rw [hload, hend] at hstarts
    rw [← Except.ok.inj hstarts] at hok
    -- the target has the volume of the tables when they agree
    obtain ⟨target, hset, hsame⟩ := Option.map_eq_some_iff.mp htarget
    have haudio : twiceLoaded.user_audio.get? 100 = some _ := ((hok 100).target target hset).2.2
    unfold Bot.audio at hvolume
    rw [haudio, Option.getD_some, hsame] at hvolume
    have hne : ¬ (15 : Int) = 30 := by decide
    exact hne hvolume

end BoVpnAgent.AudioBot

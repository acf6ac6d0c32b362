import BoVpnAgent.Bot.Saving
import BoVpnAgent.Bot.Selectable
import BoVpnAgent.Bot.Startup

/-! # Tables from a saved file

    Where every branch is its own name, the tables that a bot reads from a
    file it has saved are again tables that it can have: they agree with each
    other, and every user has the settings that were saved.
-/

namespace BoVpnAgent.AudioBot

variable {I : Interp} {config : Config I} {b b' : Bot} {user_id u : Int} {ids : List Int}

variable (config) in
/-- The name of every branch with a map stands for that branch. -/
def OwnNames : Prop := ∀ name, Known config name → config.normalize_branch name = some name

variable (config) in
/-- The tables agree, and every branch that is set has a map. -/
structure Proper (b : Bot) : Prop where
  tables : TablesOk config b
  known : ∀ u branch, b.user_branches.get? u = some branch → Known config branch

theorem known_of_address {branch number ip : PyStr} (h : config.address? branch number = some ip) :
    Known config branch := by
  unfold Config.address? at h
  cases hmap : config.vehicle_maps.get? branch with
  | none =>
    rw [hmap] at h
    cases h
  | some mapping =>
    show (config.vehicle_maps.get? branch).isSome = true
    rw [hmap]
    rfl

theorem proper_empty (config : Config I) : Proper config Bot.empty :=
  ⟨tablesOk_empty config, fun _ _ h => by cases h⟩

/-- A user whose branch is set anew has a branch with a map. -/
theorem known_set {table : Dict Int PyStr} {branch : PyStr} (hbranch : Known config branch)
    (h : ∀ u branch, table.get? u = some branch → Known config branch) :
    ∀ u other, (table.set user_id branch).get? u = some other → Known config other := by
  intro u other hu
  by_cases heq : user_id = u
  · rw [heq, Dict.get?_set_self] at hu
    exact Option.some.inj hu ▸ hbranch
  · rw [Dict.get?_set_ne _ _ heq] at hu
    exact h u other hu

theorem proper_kept (hallowed : user_id ∈ config.allowed_users) :
    Kept config user_id (Proper config) where
  clear b h := ⟨(tablesOk_kept hallowed).clear b h.tables, h.known⟩
  discard b h := ⟨(tablesOk_kept hallowed).discard b h.tables, h.known⟩
  ask_target b h := ⟨(tablesOk_kept hallowed).ask_target b h.tables, h.known⟩
  ask_branch b h := ⟨(tablesOk_kept hallowed).ask_branch b h.tables, h.known⟩
  ask_volume b h := ⟨(tablesOk_kept hallowed).ask_volume b h.tables, h.known⟩
  volume b volume h hlow hhigh :=
    ⟨(tablesOk_kept hallowed).volume b volume h.tables hlow hhigh, h.known⟩
  channel b output h houtput :=
    ⟨(tablesOk_kept hallowed).channel b output h.tables houtput, h.known⟩
  target b args target b' h hparse := by
    refine ⟨(tablesOk_kept hallowed).target b args target b' h.tables hparse, ?_⟩
    obtain ⟨haddress, -, -, hb'⟩ := parse_target_ok hparse
    have hknown := known_of_address haddress
    have hold : ∀ u branch, b'.user_branches.get? u = some branch → Known config branch := by
      rcases hb' with rfl | rfl
      · exact h.known
      · exact known_set hknown h.known
    exact known_set hknown hold
  branch b branch h hbranch :=
    ⟨⟨((tablesOk_kept hallowed).branch b branch h.tables hbranch).1, known_set hbranch h.known⟩,
      ⟨((tablesOk_kept hallowed).branch b branch h.tables hbranch).2, known_set hbranch h.known⟩⟩

/-- Where every branch is its own name, every branch comes back. -/
theorem comesBack_of_ownNames (hown : OwnNames config) {branch : PyStr}
    (hknown : Known config branch) (b : Bot) (user_id : Int) : ComesBack config b user_id branch := by
  have hname := normalize_branch_eq_some.mp (hown branch hknown)
  unfold ComesBack
  split
  · exact hname
  · exact ⟨branch, hname, hname⟩

/-! ### The entries of a saved file -/

/-- The file has entries of allowed users only. -/
theorem allowed_of_users (h : TablesOk config b) (hu : u ∈ b.users) : u ∈ config.allowed_users := by
  by_contra hnot
  have hempty := (h u).allowed hnot
  have hbranch : b.user_branches.get? u = none := congrArg View.branch hempty
  have haudio : b.user_audio.get? u = none := congrArg View.audio hempty
  have hentry := mem_users.mp hu
  rw [hbranch, haudio] at hentry
  simp at hentry

/-- The one entry of a user in a saved file. -/
theorem entries_saved (b : Bot) (u : Int) (hids : ids.Nodup)
    (hallowed : ∀ v ∈ ids, v ∈ config.allowed_users) :
    (ids.map fun v => (Json.intRepr v, user_json b v)).filterMap (entry_for config u) =
      (if u ∈ ids then entry_for config u (Json.intRepr u, user_json b u) else none).toList := by
  induction ids with
  | nil => rfl
  | cons v ids ih =>
    obtain ⟨hnew, hids⟩ := List.nodup_cons.mp hids
    obtain ⟨hv, hrest⟩ := List.forall_mem_cons.mp hallowed
    have hkey : Json.toInt I (.str (Json.intRepr v)) = .ok v := by
      simp only [Json.toInt, Decimal.toInt_intRepr (config.digits v hv)]
    have ih := ih hids hrest
    by_cases heq : u = v
    · subst heq
      rw [if_neg hnew] at ih
      rw [List.map_cons, List.filterMap_cons, ih, if_pos List.mem_cons_self]
      cases entry_for config u (Json.intRepr u, user_json b u) <;> rfl
    · have hnone : entry_for config u (Json.intRepr v, user_json b v) = none := by
        unfold entry_for user_json
        simp only [hkey, Except.ok.injEq]
        rw [if_neg fun h => heq h.1.symm]
      rw [List.map_cons, List.filterMap_cons, hnone, ih]
      simp only [List.mem_cons, heq, false_or]

/-- The saved volume is a number. -/
theorem not_infinite_saved (b : Bot) (u v : Int) :
    ¬ Infinite config (Json.intRepr v, user_json b u) := by
  intro ⟨_, settings, neg, _, _, hsettings, hvolume⟩
  unfold user_json at hsettings
  obtain rfl := Json.obj.inj hsettings
  cases haudio : b.user_audio.get? u with
  | none =>
    rw [haudio] at hvolume
    cases hvolume
  | some audio =>
    rw [haudio] at hvolume
    cases hvolume

theorem parse_number_audio {audio : Audio} {chosen : Option PyStr} {number : PyStr} {target : Target}
    (h : parse_number config audio chosen [number] = .ok target) :
    audio = { volume := target.volume, output := target.output } := by
  unfold parse_number at h
  obtain ⟨branch, -, h⟩ := bind_ok.mp h
  obtain ⟨ip, -, h⟩ := bind_ok.mp h
  split at h
  · cases h
  · obtain ⟨volume, hvolume, h⟩ := bind_ok.mp h
    obtain rfl := Except.ok.inj hvolume
    simp only at h
    split at h
    · cases h
    · split at h
      · cases h
      · obtain rfl := Except.ok.inj h
        rfl

/-- A number behind a name of its own branch is looked up with the settings of
    the entry. -/
theorem entry_target_audio (hown : OwnNames config) {audio : Audio} {branch number : PyStr}
    {target : Target} (hknown : Known config branch)
    (h : entry_target config audio branch number = some target) :
    audio = { volume := target.volume, output := target.output } := by
  unfold entry_target at h
  rw [hown branch hknown] at h
  simp only at h
  cases hparse : parse_number config audio (some branch) [number] with
  | error exc =>
    rw [hparse] at h
    cases h
  | ok target' =>
    rw [hparse] at h
    obtain rfl := Option.some.inj h
    exact parse_number_audio hparse

theorem branch_entry_audio (hown : OwnNames config) {audio : Audio} {branch : PyStr} {number : Json}
    {target : Target} (hknown : Known config branch)
    (h : (branch_entry config audio branch number).target = some target) :
    (branch_entry config audio branch number).audio =
      { volume := target.volume, output := target.output } := by
  unfold branch_entry at h ⊢
  simp only at h ⊢
  split at h
  · obtain ⟨text, -, htarget⟩ := Option.bind_eq_some_iff.mp h
    exact entry_target_audio hown hknown htarget
  · cases h

theorem user_entry_audio (hown : OwnNames config) {settings : Json.Fields} {e : Entry}
    {target : Target} (h : user_entry config settings = some e) (htarget : e.target = some target) :
    e.audio = { volume := target.volume, output := target.output } := by
  unfold user_entry at h
  split at h
  · split at h
    · split at h
      · next branch hbranch =>
        obtain rfl := Option.some.inj h
        refine branch_entry_audio hown ?_ htarget
        -- the branch is one that a name stands for
        unfold normalize_json at hbranch
        split at hbranch
        · exact isSome_normalize_branch (Except.ok.inj hbranch)
        · split at hbranch <;> cases hbranch
      · obtain rfl := Option.some.inj h
        cases htarget
    · cases h
  · cases h

/-- One entry that agrees with itself is steady. -/
theorem steady_toList {found : Option Entry} (h : ∀ e ∈ found, ∀ target, e.target = some target →
    e.audio = { volume := target.volume, output := target.output }) : Steady found.toList := by
  intro e rest target hsuffix htarget _
  cases found with
  | none =>
    cases List.suffix_nil.mp hsuffix
  | some e' =>
    have hlen := hsuffix.length_le
    obtain rfl : rest = [] := by
      cases rest with
      | nil => rfl
      | cons => simp at hlen
    obtain rfl : e = e' := by
      have heq := hsuffix.eq_of_length rfl
      exact (List.cons.inj heq).1
    refine ⟨fun final hfinal => ?_, fun later after branch hlater => ?_⟩
    · obtain rfl := Option.some.inj hfinal
      exact h e rfl target htarget
    · cases List.suffix_nil.mp hlater

/-- The bot starts with what it has saved: every user has the same settings. -/
theorem restored (hown : OwnNames config) (h : Proper config b) (hids : ids.Perm b.users)
    {bytes : Bytes} (hsaved : saved I b ids = .ok bytes) :
    ∃ b', load_settings config (some bytes) Bot.empty = .ok b' ∧ Proper config b' ∧ AllSame b b' := by
  have hback : ∀ u branch, b.user_branches.get? u = some branch → ComesBack config b u branch :=
    fun u branch hbranch => comesBack_of_ownNames hown (h.known u branch hbranch) b u
  obtain ⟨b', hload, hsame⟩ := (restart_iff h.tables hids hsaved config.default_branch).mpr hback
  change load_settings config (some bytes) Bot.empty = .ok b' at hload
  have hnodup : ids.Nodup := hids.nodup_iff.mpr (List.nodup_dedup _)
  have hallowed : ∀ v ∈ ids, v ∈ config.allowed_users :=
    fun v hv => allowed_of_users h.tables (hids.mem_iff.mp hv)
  -- the entries of the file are finite and steady, so the tables agree
  obtain ⟨b'', hload', htables⟩ := (load_users_iff config
      (ids.map fun v => (Json.intRepr v, user_json b v))).mpr (by
    refine ⟨fun e he => ?_, fun u => ?_⟩
    · obtain ⟨v, -, rfl⟩ := List.mem_map.mp he
      exact not_infinite_saved b v v
    · rw [entries_saved b u hnodup hallowed]
      refine steady_toList fun e he target htarget => ?_
      split at he
      · unfold entry_for user_json at he
        simp only at he
        split at he
        · exact user_entry_audio hown he htarget
        · cases he
      · cases he)
  rw [← load_settings_saved hnodup hsaved, hload] at hload'
  obtain rfl := Except.ok.inj hload'
  refine ⟨b', hload, ⟨htables, fun u branch hbranch => ?_⟩, hsame⟩
  rw [(hsame u).branch] at hbranch
  exact h.known u branch hbranch

end BoVpnAgent.AudioBot

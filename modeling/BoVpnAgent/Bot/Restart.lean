import BoVpnAgent.Bot.Isolation
import BoVpnAgent.Lib.JsonRoundTrip

/-! # Settings after a restart

    A bot that starts reads the settings file that the one before it has
    written.  The volume, the channel and the vehicle number come back as
    they were, but a branch comes back under the name that
    `_normalize_branch` gives it, and it is looked up once more for the
    target.

    This file shows which branch names survive: for any tables of the polling
    loop, every user has the same settings after the restart exactly when the
    names of all branches in use come back.
-/

namespace BoVpnAgent.AudioBot

variable {I : Interp} {config : Config I} {b b' : Bot} {user_id u : Int}

/-! ### Names of branches -/

variable (config) in
/-- A name stands for a branch: it has the branch as its alias, or it has no
    alias of a branch and is the branch itself, in its normal form. -/
def Names (name branch : PyStr) : Prop :=
  name ≠ [] ∧ (config.vehicle_maps.get? branch).isSome ∧
    (config.branch_aliases.get? (normalized config.lower name) = some branch ∨
      (normalized config.lower name = branch ∧
        ∀ other, config.branch_aliases.get? (normalized config.lower name) = some other →
          config.vehicle_maps.get? other = none))

theorem normalize_branch_eq_some {name branch : PyStr} :
    config.normalize_branch name = some branch ↔ Names config name branch := by
  unfold Config.normalize_branch normalize_branch Names
  by_cases hempty : name = []
  · simp [hempty]
  · rw [if_neg hempty]
    generalize normalized config.lower name = form
    -- an alias wins over a name only if it leads to a known branch
    cases halias : config.branch_aliases.get? form with
    | none =>
      simp only [Option.filter_none]
      constructor
      · intro h
        split at h
        · next hknown =>
          cases h
          exact ⟨hempty, hknown, .inr ⟨rfl, fun _ h => nomatch h⟩⟩
        · cases h
      · rintro ⟨-, hknown, h | ⟨rfl, -⟩⟩
        · cases h
        · rw [if_pos hknown]
    | some other =>
      by_cases hother : (config.vehicle_maps.get? other).isSome
      · simp only [Option.filter_some, hother, if_true, Option.some.injEq]
        constructor
        · rintro rfl
          exact ⟨hempty, hother, .inl rfl⟩
        · rintro ⟨-, -, h | ⟨-, hno⟩⟩
          · exact h
          · rw [hno other rfl] at hother
            cases hother
      · simp only [Option.filter_some, hother, Bool.false_eq_true, if_false]
        have hnone := Option.not_isSome_iff_eq_none.mp hother
        constructor
        · intro h
          split at h
          · next hknown =>
            cases h
            refine ⟨hempty, hknown, .inr ⟨rfl, ?_⟩⟩
            rintro _ ⟨⟩
            exact hnone
          · cases h
        · rintro ⟨-, hknown, h | ⟨rfl, -⟩⟩
          · cases h
            exact absurd hknown hother
          · rw [if_pos hknown]

variable (config) in
/-- The branch of a user comes back from the settings file.  Its name is
    looked up once, and the result once more when there is a target. -/
def ComesBack (b : Bot) (user_id : Int) (branch : PyStr) : Prop :=
  match b.targets.get? user_id with
  | none => Names config branch branch
  | some _ => ∃ name, Names config branch name ∧ Names config name branch

theorem ComesBack.known {branch : PyStr} (h : ComesBack config b user_id branch) :
    ∃ name, Names config branch name := by
  unfold ComesBack at h
  split at h
  · exact ⟨branch, h⟩
  · obtain ⟨name, hname, -⟩ := h
    exact ⟨name, hname⟩

/-- A user has the same settings in two bots. -/
structure SameSettings (b b' : Bot) (user_id : Int) : Prop where
  branch : b'.user_branches.get? user_id = b.user_branches.get? user_id
  audio : b'.audio user_id = b.audio user_id
  target : b'.targets.get? user_id = b.targets.get? user_id

/-! ### One entry of the file -/

/-- `self.user_audio[user_id] = ..` in `_load_settings` -/
def Bot.withAudio (b : Bot) (user_id : Int) (audio : Audio) : Bot :=
  { b with user_audio := b.user_audio.set user_id audio }

@[simp] theorem view_withAudio (b : Bot) (user_id : Int) (audio : Audio) :
    (b.withAudio user_id audio).view user_id = { b.view user_id with audio := some audio } := by
  simp [Bot.view, Bot.withAudio]

theorem view_withAudio_ne (hne : u ≠ user_id) (b : Bot) (audio : Audio) :
    (b.withAudio user_id audio).view u = b.view u := by
  simp [Bot.view, Bot.withAudio, hne.symm]

@[simp] theorem audio_withAudio (b : Bot) (user_id : Int) (audio : Audio) :
    (b.withAudio user_id audio).audio user_id = audio := by
  simp [Bot.audio, Bot.withAudio]

/-- The target of a vehicle that is in the map of the branch named. -/
theorem parse_target_known {name branch number ip : PyStr} (hname : Names config name branch)
    (haddress : config.address? branch number = some ip) (hvalid : (b.audio user_id).Valid) :
    parse_target config b user_id [name, number] =
      .ok ({ branch := branch, number := number, ip := ip, volume := (b.audio user_id).volume,
             output := (b.audio user_id).output }, b.store_branch user_id branch) := by
  have hnumber := scalar_number haddress
  obtain ⟨address, hmap, rfl⟩ := Option.map_eq_some_iff.mp haddress
  have hinside : in_network address.value = true := address.inside
  have htext : IpAddress.ipv4Str address.value = address.text :=
    IpAddress.ipv4Str_ipv4? address.parsed
  unfold parse_target
  simp only [normalize_branch_eq_some.mpr hname]
  have hparse : parse_number config (b.audio user_id) (some branch) [number] =
      .ok { branch := branch, number := number, ip := address.text,
            volume := (b.audio user_id).volume, output := (b.audio user_id).output } := by
    unfold parse_number
    simp only [hnumber.stripped, choose_branch, find_vehicle, hmap, volume_arg, output_arg, bind,
      Except.bind, hinside, htext, Bool.not_true, Bool.false_eq_true, if_false, hvalid.1, hvalid.2,
      and_self, not_true]
    rfl
  rw [hparse]
  rfl

/-- With a name in front, the target is in the branch of that name. -/
theorem parse_target_branch {name : PyStr} {args : List PyStr} {target : Target}
    (h : parse_target config b user_id (name :: args) = .ok (target, b')) :
    (Names config name target.branch ∧ b' = b.store_branch user_id target.branch) ∨
      (config.normalize_branch name = none ∧ b' = b) := by
  unfold parse_target at h
  simp only at h
  split at h
  · next branch hname =>
    obtain ⟨target', hparse, h⟩ := bind_ok.mp h
    cases h
    have hchosen := (parse_number_ok hparse).2.2.2 branch rfl
    exact .inl ⟨hchosen ▸ normalize_branch_eq_some.mp hname, by rw [hchosen]⟩
  · next hname =>
    obtain ⟨target', -, h⟩ := bind_ok.mp h
    cases h
    exact .inr ⟨hname, rfl⟩

theorem audio_valid (h : TablesOk config b) (user_id : Int) : (b.audio user_id).Valid := by
  unfold Bot.audio
  cases haudio : b.user_audio.get? user_id with
  | none => exact ⟨by decide, by decide⟩
  | some audio => exact (h user_id).audio audio haudio

/-- What the loader makes of the entry that is saved for a user. -/
theorem load_entry_saved (h : TablesOk config b) (hallowed : user_id ∈ config.allowed_users)
    (bl : Bot) :
    load_entry config bl (Json.intRepr user_id) (user_json b user_id) =
      match (b.user_branches.get? user_id).bind config.normalize_branch with
      | none => (bl.withAudio user_id (b.audio user_id), none)
      | some branch =>
        load_target config (bl.withAudio user_id (b.audio user_id))
          user_id branch
          (((b.targets.get? user_id).map fun target => Json.str target.number).getD .null) := by
  have hvalid := audio_valid h user_id
  have hkey : Json.toInt I (.str (Json.intRepr user_id)) = .ok user_id := by
    simp only [Json.toInt, Decimal.toInt_intRepr (config.digits user_id hallowed)]
  have hload : ∀ settings branch number found,
      (Json.get? settings "volume".py).getD (.int 25) = .int (b.audio user_id).volume →
      (Json.get? settings "output".py).getD (.str "salon".py) = .str (b.audio user_id).output →
      (Json.get? settings "branch".py).getD .null = branch →
      (Json.get? settings "number".py).getD .null = number →
      normalize_json config branch = .ok found →
      load_user config bl user_id settings =
        found.elim (bl.withAudio user_id (b.audio user_id), none) fun branch =>
          load_target config (bl.withAudio user_id (b.audio user_id)) user_id branch number := by
    rintro settings _ _ found hvolume houtput rfl rfl hfound
    unfold load_user
    simp only [hvolume, houtput, Json.toInt, hvalid.1, hvalid.2, and_self, not_true, if_false,
      hfound]
    cases found <;> rfl
  have hfound : normalize_json config (((b.user_branches.get? user_id).map Json.str).getD .null) =
      .ok ((b.user_branches.get? user_id).bind config.normalize_branch) := by
    cases b.user_branches.get? user_id with
    | none => rfl
    | some branch => rfl
  have hentry : load_entry config bl (Json.intRepr user_id) (user_json b user_id) =
      ((b.user_branches.get? user_id).bind config.normalize_branch).elim
        (bl.withAudio user_id (b.audio user_id), none) fun branch =>
          load_target config (bl.withAudio user_id (b.audio user_id)) user_id branch
            (((b.targets.get? user_id).map fun target => Json.str target.number).getD .null) := by
    unfold load_entry user_json
    simp only [hkey, hallowed, not_true, if_false]
    unfold Bot.audio at hload ⊢
    cases haudio : b.user_audio.get? user_id with
    | none =>
      rw [haudio] at hload
      exact hload _ _ _ _ rfl rfl rfl rfl hfound
    | some audio =>
      rw [haudio] at hload
      exact hload _ _ _ _ rfl rfl rfl rfl hfound
  rw [hentry]
  cases (b.user_branches.get? user_id).bind config.normalize_branch <;> rfl

/-- `self.targets[user_id] = ..` in `_load_settings` -/
def Bot.withTarget (b : Bot) (user_id : Int) (target : Target) : Bot :=
  { b with targets := b.targets.set user_id target }

theorem view_withTarget_ne (hne : u ≠ user_id) (b : Bot) (target : Target) :
    (b.withTarget user_id target).view u = b.view u := by
  simp [Bot.view, Bot.withTarget, hne.symm]

/-- A turn of the loader's loop for a saved user: it goes on to the next
    one, leaves the other users alone, and restores the user's settings when
    the branch comes back. -/
structure Reread (config : Config I) (b bl : Bot) (user_id : Int) (r : Bot × Option Builtin) :
    Prop where
  goes_on : ∀ exc, r.2 = some exc → skipsUser exc = true
  others : ∀ u, u ≠ user_id → r.1.view u = bl.view u
  settings : SameSettings b r.1 user_id ↔
    ∀ branch, b.user_branches.get? user_id = some branch → ComesBack config b user_id branch

theorem sameSettings_iff {r : Bot} (haudio : r.audio user_id = b.audio user_id) :
    SameSettings b r user_id ↔
      r.user_branches.get? user_id = b.user_branches.get? user_id ∧
        r.targets.get? user_id = b.targets.get? user_id :=
  ⟨fun h => ⟨h.branch, h.target⟩, fun h => ⟨h.1, haudio, h.2⟩⟩

theorem sameSettings_congr {r r' : Bot} (hview : r.view user_id = r'.view user_id) :
    SameSettings b r user_id ↔ SameSettings b r' user_id := by
  have hbranch : r.user_branches.get? user_id = r'.user_branches.get? user_id :=
    congrArg View.branch hview
  have htarget : r.targets.get? user_id = r'.targets.get? user_id := congrArg View.target hview
  have haudio : r.audio user_id = r'.audio user_id :=
    congrArg (fun v : View => v.audio.getD defaultAudio) hview
  constructor
  · intro h
    exact ⟨hbranch ▸ h.branch, haudio ▸ h.audio, htarget ▸ h.target⟩
  · intro h
    exact ⟨hbranch ▸ h.branch, haudio ▸ h.audio, htarget ▸ h.target⟩

/-- The branch of a user without a target comes back when its name is its
    own. -/
theorem reread_branch {bl : Bot} {branch name : PyStr}
    (hbranch : b.user_branches.get? user_id = some branch) (hname : Names config branch name)
    (htarget : b.targets.get? user_id = none) (hempty : bl.targets.get? user_id = none) :
    Reread config b bl user_id
      (load_target config (bl.withAudio user_id (b.audio user_id)) user_id name .null) := by
  have haudio : ((bl.withAudio user_id (b.audio user_id)).store_branch user_id name).audio user_id =
      b.audio user_id := audio_withAudio bl user_id _
  have hload : load_target config (bl.withAudio user_id (b.audio user_id)) user_id name .null =
      ((bl.withAudio user_id (b.audio user_id)).store_branch user_id name, none) := rfl
  rw [hload]
  refine ⟨fun _ h => (nomatch h), fun u hu => ?_, ?_⟩
  · rw [view_store_branch_ne hu, view_withAudio_ne hu]
  · refine (sameSettings_iff haudio).trans ?_
    have hname' : ((bl.withAudio user_id (b.audio user_id)).store_branch user_id
        name).user_branches.get? user_id = some name := Dict.get?_set_self _ _ _
    have htarget' : ((bl.withAudio user_id (b.audio user_id)).store_branch user_id
        name).targets.get? user_id = none := hempty
    rw [hname', htarget', hbranch, htarget]
    constructor
    · rintro ⟨heq, -⟩ _ ⟨⟩
      unfold ComesBack
      rw [htarget]
      exact Option.some.inj heq ▸ hname
    · intro hall
      have hown := hall branch rfl
      unfold ComesBack at hown
      rw [htarget] at hown
      have heq : some name = some branch := by
        rw [← normalize_branch_eq_some.mpr hname, normalize_branch_eq_some.mpr hown]
      exact ⟨heq, rfl⟩

/-- For a user with a target, what is read back is decided by the name under which
    the branch was saved. -/
theorem comesBack_iff {branch name : PyStr} {target : Target}
    (hbranch : b.user_branches.get? user_id = some branch) (hname : Names config branch name)
    (htarget : b.targets.get? user_id = some target) :
    (∀ branch, b.user_branches.get? user_id = some branch →
      ComesBack config b user_id branch) ↔ Names config name branch := by
  unfold ComesBack
  rw [hbranch, htarget]
  constructor
  · intro hall
    obtain ⟨name', hname', hagain⟩ := hall branch rfl
    -- a branch has one name
    have heq : some name' = some name := by
      rw [← normalize_branch_eq_some.mpr hname, normalize_branch_eq_some.mpr hname']
    exact Option.some.inj heq ▸ hagain
  · rintro hagain _ ⟨⟩
    exact ⟨name, hname, hagain⟩

/-- The branch of a user with a target is looked up once more. -/
theorem reread_target (h : TablesOk config b) {bl : Bot} {branch name : PyStr} {target : Target}
    (hbranch : b.user_branches.get? user_id = some branch) (hname : Names config branch name)
    (htarget : b.targets.get? user_id = some target) (hempty : bl.targets.get? user_id = none) :
    Reread config b bl user_id
      (load_target config (bl.withAudio user_id (b.audio user_id)) user_id name
        (.str target.number)) := by
  obtain ⟨htbranch, haddress, htaudio⟩ := (h user_id).target target htarget
  obtain rfl : branch = target.branch := Option.some.inj (hbranch.symm.trans htbranch)
  have hnumber := scalar_number haddress
  have haudio : b.audio user_id = { volume := target.volume, output := target.output } := by
    have hentry : b.user_audio.get? user_id = some _ := htaudio
    unfold Bot.audio
    rw [hentry]
    rfl
  have hvalid := audio_valid h user_id
  have hbl : (bl.withAudio user_id (b.audio user_id)).audio user_id = b.audio user_id :=
    audio_withAudio bl user_id _
  generalize hblw : bl.withAudio user_id (b.audio user_id) = blw at hbl ⊢
  have hothers : ∀ u, u ≠ user_id → blw.view u = bl.view u := by
    intro u hu
    rw [← hblw, view_withAudio_ne hu]
  have hnone : blw.targets.get? user_id = none := by rw [← hblw]; exact hempty
  have htruthy : (Json.str target.number).truthy = true := decide_eq_true hnumber.nonempty
  have htext : Json.toStr I (.str target.number) = .ok target.number := rfl
  have hback := comesBack_iff hbranch hname htarget
  -- the line of the file is refused, or gives a target that may be another one
  cases hparse : parse_target config (blw.store_branch user_id name) user_id
      [name, target.number] with
  | error exc =>
    have hload : load_target config blw user_id name (.str target.number) =
        (blw.store_branch user_id name, some .valueError) := by
      simp only [load_target, htruthy, htext, hparse, Bool.not_true, Bool.false_eq_true, if_false]
    rw [hload]
    refine ⟨?_, fun u hu => ?_, ?_⟩
    · rintro _ ⟨⟩
      rfl
    · rw [view_store_branch_ne hu, hothers u hu]
    · rw [hback]
      constructor
      · intro hsame
        have hlost : blw.targets.get? user_id = some target := by
          rw [← htarget]
          exact hsame.target
        rw [hnone] at hlost
        cases hlost
      · intro hagain
        rw [parse_target_known hagain haddress (by rw [← hbl] at hvalid; exact hvalid)] at hparse
        cases hparse
  | ok parsed =>
    obtain ⟨target', b'⟩ := parsed
    have hload : load_target config blw user_id name (.str target.number) =
        (b'.withTarget user_id target', none) := by
      simp only [load_target, htruthy, htext, hparse, Bool.not_true, Bool.false_eq_true, if_false,
        Bot.withTarget]
    rw [hload]
    have hb' : b' = blw.store_branch user_id name ∨
        b' = (blw.store_branch user_id name).store_branch user_id target'.branch :=
      (parse_target_ok hparse).2.2.2
    refine ⟨fun exc h => (by cases h), fun u hu => ?_, ?_⟩
    · show (b'.withTarget user_id target').view u = bl.view u
      rw [view_withTarget_ne hu, ← hothers u hu]
      rcases hb' with rfl | rfl
      · rw [view_store_branch_ne hu]
      · rw [view_store_branch_ne hu, view_store_branch_ne hu]
    · rw [hback]
      have htarget' : (b'.withTarget user_id target').targets.get? user_id = some target' :=
        Dict.get?_set_self _ _ _
      constructor
      · intro hsame
        have hsame_target := hsame.target
        have hsame_branch : b'.user_branches.get? user_id = b.user_branches.get? user_id :=
          hsame.branch
        obtain rfl : target' = target :=
          Option.some.inj (htarget'.symm.trans (hsame_target.trans htarget))
        rcases parse_target_branch hparse with ⟨hagain, -⟩ | ⟨hlost, rfl⟩
        · exact hagain
        · -- the number would be read as a volume, in a branch that has its own name
          have hstored : (blw.store_branch user_id name).user_branches.get? user_id = some name :=
            Dict.get?_set_self _ _ _
          obtain rfl : name = target'.branch :=
            Option.some.inj (hstored.symm.trans (hsame_branch.trans hbranch))
          exact hname
      · intro hagain
        have hknown := parse_target_known (b := blw.store_branch user_id name) hagain haddress
          (hbl ▸ hvalid)
        rw [hparse] at hknown
        have hpair := Except.ok.inj hknown
        obtain ⟨rfl, rfl⟩ := Prod.mk.inj hpair
        have hread : (blw.store_branch user_id name).audio user_id = b.audio user_id := hbl
        refine ⟨?_, hread, ?_⟩
        · rw [hbranch]
          exact Dict.get?_set_self _ _ _
        · rw [htarget]
          refine htarget'.trans ?_
          rw [hread, haudio]

theorem reread_saved (h : TablesOk config b) (hallowed : user_id ∈ config.allowed_users) {bl : Bot}
    (hempty : bl.view user_id = View.empty) :
    Reread config b bl user_id (load_entry config bl (Json.intRepr user_id) (user_json b user_id)) := by
  have hnotarget : bl.targets.get? user_id = none := congrArg View.target hempty
  have hnobranch : bl.user_branches.get? user_id = none := congrArg View.branch hempty
  rw [load_entry_saved h hallowed]
  cases hbranch : b.user_branches.get? user_id with
  | none =>
    have htarget : b.targets.get? user_id = none := by
      cases htarget : b.targets.get? user_id with
      | none => rfl
      | some target =>
        obtain ⟨hbranch', -⟩ := (h user_id).target target htarget
        have : b.user_branches.get? user_id = some target.branch := hbranch'
        rw [hbranch] at this
        cases this
    refine ⟨fun _ h => (nomatch h), fun u hu => view_withAudio_ne hu _ _, ?_⟩
    refine (sameSettings_iff (audio_withAudio bl user_id _)).trans ?_
    rw [hbranch, htarget]
    exact ⟨fun _ _ h => (nomatch h), fun _ => ⟨hnobranch, hnotarget⟩⟩
  | some branch =>
    simp only [Option.bind_some]
    -- a branch that the code no longer knows is lost, and its target with it
    cases hname : config.normalize_branch branch with
    | none =>
      refine ⟨fun _ h => (nomatch h), fun u hu => view_withAudio_ne hu _ _, ?_⟩
      refine (sameSettings_iff (audio_withAudio bl user_id _)).trans ?_
      rw [hbranch]
      constructor
      · rintro ⟨hsame, -⟩
        have hnone : bl.user_branches.get? user_id = some branch := hsame
        rw [hnobranch] at hnone
        cases hnone
      · intro hall
        have hback := hall branch rfl
        obtain ⟨name, hname'⟩ := hback.known
        rw [normalize_branch_eq_some.mpr hname'] at hname
        cases hname
    | some name =>
      have hname := normalize_branch_eq_some.mp hname
      cases htarget : b.targets.get? user_id with
      | none => exact reread_branch hbranch hname htarget hnotarget
      | some target => exact reread_target h hbranch hname htarget hnotarget

/-! ### The whole file -/

theorem depth_users_json (b : Bot) (ids : List Int) : (users_json b ids).depth ≤ 2 := by
  have huser : ∀ u, (user_json b u).depth ≤ 1 := by
    intro u
    unfold user_json
    cases b.user_audio.get? u <;> cases b.user_branches.get? u <;> cases b.targets.get? u <;>
      exact Nat.le_refl 1
  unfold users_json
  rw [Json.depth]
  have hfields : Json.depthFields (ids.map fun u => (Json.intRepr u, user_json b u)) ≤ 1 := by
    rw [Json.depthFields_le]
    intro e he
    obtain ⟨u, -, rfl⟩ := List.mem_map.mp he
    exact huser u
  omega

theorem nodes_users_json (b : Bot) {ids : List Int} (hids : ids.Nodup) :
    (users_json b ids).Nodes (Json.FloatReads I) Json.DistinctKeys := by
  have huser : ∀ u, (user_json b u).Nodes (Json.FloatReads I) Json.DistinctKeys := by
    intro u
    unfold user_json
    cases b.user_audio.get? u with
    | none =>
      refine ⟨show List.Nodup ["branch".py, "number".py] by decide, ?_⟩
      cases b.user_branches.get? u <;> cases b.targets.get? u <;> exact ⟨trivial, trivial, trivial⟩
    | some audio =>
      refine ⟨show List.Nodup ["volume".py, "output".py, "branch".py, "number".py] by decide, ?_⟩
      cases b.user_branches.get? u <;> cases b.targets.get? u <;>
        exact ⟨trivial, trivial, trivial, trivial, trivial⟩
  refine ⟨?_, ?_⟩
  · show List.Nodup _
    rw [List.map_map]
    exact hids.map fun u v huv => Decimal.intRepr_injective huv
  · induction ids with
    | nil => trivial
    | cons u ids ih => exact ⟨huser u, ih (List.nodup_cons.mp hids).2⟩

/-- The loop of the loader over the entries of the users `ids`. -/
theorem load_users_saved (h : TablesOk config b) {ids : List Int} (hids : ids.Nodup)
    (hallowed : ∀ u ∈ ids, u ∈ config.allowed_users) {bl : Bot}
    (hempty : ∀ u ∈ ids, bl.view u = View.empty) :
    ∃ b', load_users config bl (ids.map fun u => (Json.intRepr u, user_json b u)) = .ok b' ∧
      (∀ u, u ∉ ids → b'.view u = bl.view u) ∧
      ∀ u ∈ ids, SameSettings b b' u ↔
        ∀ branch, b.user_branches.get? u = some branch → ComesBack config b u branch := by
  induction ids generalizing bl with
  | nil => exact ⟨bl, rfl, fun _ _ => rfl, fun _ hu => (nomatch hu)⟩
  | cons u ids ih =>
    obtain ⟨hnew, hids⟩ := List.nodup_cons.mp hids
    have hread := reread_saved h (hallowed u List.mem_cons_self) (hempty u List.mem_cons_self)
    -- the entry of one user leaves the others as they were, so the rest is still empty
    generalize hr : load_entry config bl (Json.intRepr u) (user_json b u) = r at hread
    have hne : ∀ v ∈ ids, v ≠ u := by
      rintro v hv rfl
      exact hnew hv
    have hrest : ∀ v ∈ ids, r.1.view v = View.empty := by
      intro v hv
      rw [hread.others v (hne v hv)]
      exact hempty v (List.mem_cons_of_mem u hv)
    obtain ⟨b', hload, hothers, hsettings⟩ := ih hids
      (fun v hv => hallowed v (List.mem_cons_of_mem u hv)) hrest
    refine ⟨b', ?_, fun v hv => ?_, fun v hv => ?_⟩
    · rw [List.map_cons, load_users, hr]
      obtain ⟨b₁, exc⟩ := r
      cases exc with
      | none => exact hload
      | some exc =>
        simp only [hread.goes_on exc rfl, if_true]
        exact hload
    · obtain ⟨hvu, hv⟩ := not_or.mp (List.mem_cons.not.mp hv)
      rw [hothers v hv, hread.others v hvu]
    · rcases List.mem_cons.mp hv with rfl | hv
      · rw [← hread.settings]
        exact sameSettings_congr (hothers v hnew)
      · exact hsettings v hv

/-- What the bot finds in a file with the text of a dictionary. -/
theorem load_settings_dumped {users : Json.Fields} {bytes : Bytes}
    (hnodes : (Json.obj users).Nodes (Json.FloatReads I) Json.DistinctKeys)
    (hdepth : (Json.obj users).depth ≤ 2)
    (hdumped : Json.dumpsUtf8 I dumpOptions (.obj users) = .ok bytes) (b : Bot) :
    load_settings config (some bytes) b = load_users config b users := by
  have hplain : dumpOptions.Plain := ⟨⟨_, rfl, rfl⟩, ⟨_, rfl, rfl⟩, rfl⟩
  have hclean : Json.Clean I (.obj users) :=
    ((Json.dumpsUtf8_ok_iff rfl _).mp ⟨bytes, hdumped⟩).leaves
  obtain ⟨text, htext, hload⟩ := Json.loads_dumpsUtf8 hplain ⟨hclean, hnodes⟩
    (le_trans hdepth (le_trans (by decide) I.loads_min)) hdumped
  unfold load_settings
  simp only [Option.bind_some, htext, hload]

/-- What the bot finds in the file when it starts again. -/
theorem load_settings_saved {ids : List Int} {bytes : Bytes}
    (hids : ids.Nodup) (hsaved : saved I b ids = .ok bytes) :
    load_settings config (some bytes) Bot.empty =
      load_users config Bot.empty (ids.map fun u => (Json.intRepr u, user_json b u)) :=
  load_settings_dumped (nodes_users_json b hids) (depth_users_json b ids) hsaved Bot.empty

/-- The configuration with another default branch: the same vehicle maps,
    aliases and allowed users. -/
def Config.withDefault (config : Config I) (default_branch : PyStr) : Config I :=
  { config with default_branch }

/-- The tables agree with the vehicle maps whatever the default branch is. -/
theorem TablesOk.withDefault (h : TablesOk config b) (default_branch : PyStr) :
    TablesOk (config.withDefault default_branch) b :=
  fun u => ⟨(h u).one_input, (h u).audio, (h u).target, (h u).allowed⟩

/-- The settings of tables that agree survive when the names of their
    branches come back. -/
theorem restart_iff (h : TablesOk config b) {ids : List Int} (hids : ids.Perm b.users)
    {bytes : Bytes} (hsaved : saved I b ids = .ok bytes) (default_branch : PyStr) :
    (∃ b', load_settings (config.withDefault default_branch) (some bytes) Bot.empty = .ok b' ∧
      ∀ u, SameSettings b b' u) ↔
    ∀ u branch, b.user_branches.get? u = some branch → ComesBack config b u branch := by
  have hok := h.withDefault default_branch
  have hnodup : ids.Nodup := hids.nodup_iff.mpr (List.nodup_dedup _)
  -- the tables hold nothing for a user who is not allowed
  have hallowed : ∀ u ∈ ids, u ∈ config.allowed_users := by
    intro u hu
    by_contra hnot
    have hempty := (hok u).allowed hnot
    have hbranch : b.user_branches.get? u = none := congrArg View.branch hempty
    have haudio : b.user_audio.get? u = none := congrArg View.audio hempty
    have hentry := mem_users.mp (hids.mem_iff.mp hu)
    rw [hbranch, haudio] at hentry
    simp at hentry
  obtain ⟨b', hload, hothers, hsettings⟩ :=
    load_users_saved hok hnodup hallowed fun u _ => view_empty u
  rw [load_settings_saved hnodup hsaved, hload]
  have hiff : ∀ u, SameSettings b b' u ↔
      ∀ branch, b.user_branches.get? u = some branch → ComesBack config b u branch := by
    intro u
    by_cases hu : u ∈ ids
    · exact hsettings u hu
    · -- a user without an entry has none of the settings
      have hnone := mem_users.not.mp (hids.mem_iff.not.mp hu)
      have hbranch : b.user_branches.get? u = none :=
        Option.not_isSome_iff_eq_none.mp fun h => hnone (.inl h)
      have haudio : b.user_audio.get? u = none :=
        Option.not_isSome_iff_eq_none.mp fun h => hnone (.inr h)
      have htarget : b.targets.get? u = none := by
        cases htarget : b.targets.get? u with
        | none => rfl
        | some target =>
          have hset : b.user_branches.get? u = some target.branch :=
            ((hok u).target target htarget).1
          rw [hbranch] at hset
          cases hset
      have hsame : SameSettings b Bot.empty u := by
        refine ⟨hbranch.symm, ?_, htarget.symm⟩
        unfold Bot.audio
        rw [haudio]
        rfl
      constructor
      · intro _ branch h
        rw [hbranch] at h
        cases h
      · intro _
        exact (sameSettings_congr (hothers u hu)).mpr hsame
  constructor
  · rintro ⟨_, ⟨⟩, hsame⟩ u
    exact (hiff u).mp (hsame u)
  · intro hback
    exact ⟨b', rfl, fun u => (hiff u).mpr (hback u)⟩

/-- A branch with a name that stands for no branch is lost. -/
theorem settings_lost_of_unknown (h : TablesOk config b) {ids : List Int} (hids : ids.Perm b.users)
    {bytes : Bytes} (hsaved : saved I b ids = .ok bytes) (default_branch : PyStr) {branch : PyStr}
    (hbranch : b.user_branches.get? u = some branch)
    (hunknown : config.normalize_branch branch = none) :
    ¬ ∃ b', load_settings (config.withDefault default_branch) (some bytes) Bot.empty = .ok b' ∧
      ∀ u, SameSettings b b' u := by
  intro hsame
  obtain ⟨name, hname⟩ :=
    ((restart_iff h hids hsaved default_branch).mp hsame u branch hbranch).known
  rw [normalize_branch_eq_some.mpr hname] at hunknown
  cases hunknown

/-- A bot that starts with the vehicle maps, the aliases and the allowed users
    of the one that has just saved its settings gives every user the same
    branch, volume, channel and target exactly when the name of every branch
    in use comes back. -/
theorem settings_survive_iff (h : Lts.Reachable (polling config) b) {ids : List Int}
    (hids : ids.Perm b.users) {bytes : Bytes} (hsaved : saved I b ids = .ok bytes)
    (default_branch : PyStr) :
    (∃ b', load_settings (config.withDefault default_branch) (some bytes) Bot.empty = .ok b' ∧
      ∀ u, SameSettings b b' u) ↔
    ∀ u branch, b.user_branches.get? u = some branch → ComesBack config b u branch :=
  restart_iff (tables_ok h) hids hsaved default_branch

/-- The bot of the sample after its updates. -/
def sampleBot : Bot := (polling sampleBotConfig).play sampleUpdates

theorem saves_sampleBot : ∃ bytes, saved sampleInterp sampleBot sampleBot.users = .ok bytes := by
  have hsaves : saves sampleInterp sampleBot = true := by decide +kernel
  unfold saves at hsaves
  cases h : saved sampleInterp sampleBot sampleBot.users with
  | ok bytes => exact ⟨bytes, rfl⟩
  | error exc =>
    rw [h] at hsaves
    cases hsaves

theorem settings_survive_iff_sample :
    ∃ bytes, saved sampleInterp sampleBot sampleBot.users = .ok bytes ∧
      ((∃ b', load_settings (sampleBotConfig.withDefault "pat".py) (some bytes)
          Bot.empty = .ok b' ∧ ∀ u, SameSettings sampleBot b' u) ↔
        ∀ u branch, sampleBot.user_branches.get? u = some branch →
          ComesBack sampleBotConfig sampleBot u branch) := by
  obtain ⟨bytes, hsaved⟩ := saves_sampleBot
  exact ⟨bytes, hsaved, settings_survive_iff (Lts.reachable_play _) (List.Perm.refl _) hsaved _⟩

theorem sampleBot_branch : sampleBot.user_branches.get? 101 = some "north_depot".py := by
  decide +kernel

theorem sampleBot_unknown : sampleBotConfig.normalize_branch "north_depot".py = none := by
  decide +kernel

/-- The user who chose a vehicle by its number alone loses the branch, whose
    name has an underscore. -/
theorem settings_lost :
    Lts.Reachable (polling sampleBotConfig) sampleBot ∧
    ∃ bytes, saved sampleInterp sampleBot sampleBot.users = .ok bytes ∧
      ¬ ∃ b', load_settings (sampleBotConfig.withDefault "pat".py) (some bytes) Bot.empty = .ok b' ∧
        ∀ u, SameSettings sampleBot b' u := by
  have hreach : Lts.Reachable (polling sampleBotConfig) sampleBot := Lts.reachable_play sampleUpdates
  have hok : TablesOk sampleBotConfig sampleBot := tables_ok hreach
  obtain ⟨bytes, hsaved⟩ := saves_sampleBot
  refine ⟨hreach, bytes, hsaved, ?_⟩
  exact settings_lost_of_unknown hok (List.Perm.refl _) hsaved "pat".py sampleBot_branch
    sampleBot_unknown

end BoVpnAgent.AudioBot

import BoVpnAgent.Bot.Updates
import BoVpnAgent.Service

/-! # The tables agree with each other

    What the six tables hold about one user is the `View` of that user.  A
    change for one user leaves the views of the others alone, so an invariant
    of the tables is an invariant of views.

    This file shows that the view of every user is `Coherent` in every state
    of the polling loop, whatever the updates are and whichever calls raise.
-/

namespace BoVpnAgent.AudioBot

variable {I : Interp} {config : Config I} {b b' : Bot} {user_id u : Int}

/-! ### Views -/

/-- The entries of one user. -/
@[ext] structure View where
  target : Option Target
  branch : Option PyStr
  audio : Option Audio
  awaiting_target : Prop
  awaiting_branch : Prop
  awaiting_volume : Prop

/-- A user without entries. -/
def View.empty : View := ⟨none, none, none, False, False, False⟩

/-- The entries of `user_id`. -/
def Bot.view (b : Bot) (user_id : Int) : View where
  target := b.targets.get? user_id
  branch := b.user_branches.get? user_id
  audio := b.user_audio.get? user_id
  awaiting_target := user_id ∈ b.awaiting_target
  awaiting_branch := user_id ∈ b.awaiting_branch
  awaiting_volume := user_id ∈ b.awaiting_volume

@[simp] theorem view_empty (u : Int) : Bot.empty.view u = View.empty := by
  simp [Bot.view, Bot.empty, View.empty]

/-- A view after `_clear_input`. -/
def View.clear (v : View) : View :=
  { v with awaiting_target := False, awaiting_branch := False, awaiting_volume := False }

@[simp] theorem view_clear_input (b : Bot) (user_id : Int) :
    (b.clear_input user_id).view user_id = (b.view user_id).clear := by
  simp [Bot.view, Bot.clear_input, View.clear]

@[simp] theorem view_discard_branch (b : Bot) (user_id : Int) :
    (b.discard_branch user_id).view user_id =
      { b.view user_id with awaiting_branch := False } := by
  simp [Bot.view, Bot.discard_branch]

@[simp] theorem view_await_target (b : Bot) (user_id : Int) :
    (b.await_target user_id).view user_id = { b.view user_id with awaiting_target := True } := by
  simp [Bot.view, Bot.await_target]

@[simp] theorem view_await_branch (b : Bot) (user_id : Int) :
    (b.await_branch user_id).view user_id = { b.view user_id with awaiting_branch := True } := by
  simp [Bot.view, Bot.await_branch]

@[simp] theorem view_await_volume (b : Bot) (user_id : Int) :
    (b.await_volume user_id).view user_id = { b.view user_id with awaiting_volume := True } := by
  simp [Bot.view, Bot.await_volume]

@[simp] theorem view_set_audio (b : Bot) (user_id : Int) (settings : Audio) :
    (b.set_audio user_id settings).view user_id =
      { b.view user_id with
        audio := some settings
        target := (b.targets.get? user_id).map fun target =>
          { target with volume := settings.volume, output := settings.output } } := by
  cases h : b.targets.get? user_id <;> simp [Bot.view, Bot.set_audio, h]

@[simp] theorem view_set_branch (b : Bot) (user_id : Int) (branch : PyStr) :
    (b.set_branch user_id branch).view user_id =
      { b.view user_id with branch := some branch, target := none } := by
  simp [Bot.view, Bot.set_branch]

@[simp] theorem view_store_branch (b : Bot) (user_id : Int) (branch : PyStr) :
    (b.store_branch user_id branch).view user_id =
      { b.view user_id with branch := some branch } := by
  simp [Bot.view, Bot.store_branch]

@[simp] theorem view_set_target (b : Bot) (user_id : Int) (target : Target) :
    (b.set_target user_id target).view user_id =
      { b.view user_id with
        target := some target
        branch := some target.branch
        audio := some { volume := target.volume, output := target.output } } := by
  simp [Bot.view, Bot.set_target]

/-! ### Other users -/

section others

variable (hne : u ≠ user_id)
include hne

@[simp] theorem view_clear_input_ne (b : Bot) : (b.clear_input user_id).view u = b.view u := by
  simp [Bot.view, Bot.clear_input, hne]

@[simp] theorem view_discard_branch_ne (b : Bot) :
    (b.discard_branch user_id).view u = b.view u := by
  simp [Bot.view, Bot.discard_branch, hne]

@[simp] theorem view_await_target_ne (b : Bot) : (b.await_target user_id).view u = b.view u := by
  simp [Bot.view, Bot.await_target, hne]

@[simp] theorem view_await_branch_ne (b : Bot) : (b.await_branch user_id).view u = b.view u := by
  simp [Bot.view, Bot.await_branch, hne]

@[simp] theorem view_await_volume_ne (b : Bot) : (b.await_volume user_id).view u = b.view u := by
  simp [Bot.view, Bot.await_volume, hne]

@[simp] theorem view_set_audio_ne (b : Bot) (settings : Audio) :
    (b.set_audio user_id settings).view u = b.view u := by
  cases h : b.targets.get? user_id <;> simp [Bot.view, Bot.set_audio, h, hne.symm]

@[simp] theorem view_set_branch_ne (b : Bot) (branch : PyStr) :
    (b.set_branch user_id branch).view u = b.view u := by
  simp [Bot.view, Bot.set_branch, hne.symm]

@[simp] theorem view_store_branch_ne (b : Bot) (branch : PyStr) :
    (b.store_branch user_id branch).view u = b.view u := by
  simp [Bot.view, Bot.store_branch, hne.symm]

@[simp] theorem view_set_target_ne (b : Bot) (target : Target) :
    (b.set_target user_id target).view u = b.view u := by
  simp [Bot.view, Bot.set_target, hne.symm]

end others

/-! ### What `_parse_target` returns -/

/-- `self.vehicle_maps[branch][number]` -/
def Config.address? (config : Config I) (branch number : PyStr) : Option PyStr :=
  ((config.vehicle_maps.get? branch).bind fun mapping => mapping.numbers.get? number).map
    MntAddress.text

theorem parse_number_ok {audio : Audio} {chosen : Option PyStr} {args : List PyStr}
    {target : Target} (h : parse_number config audio chosen args = .ok target) :
    config.address? target.branch target.number = some target.ip ∧
      (1 ≤ target.volume ∧ target.volume ≤ 100) ∧ IsChannel target.output ∧
      ∀ branch, chosen = some branch → target.branch = branch := by
  unfold parse_number at h
  split at h
  · cases h
  · next arg args =>
    obtain ⟨branch, hbranch, h⟩ := bind_ok.mp h
    obtain ⟨ip, hip, h⟩ := bind_ok.mp h
    split at h
    · cases h
    · obtain ⟨volume, hvolume, h⟩ := bind_ok.mp h
      simp only at h
      split at h
      · cases h
      · next hrange =>
        split at h
        · cases h
        · next hchannel =>
          cases h
          refine ⟨?_, not_not.mp hrange, not_not.mp hchannel, ?_⟩
          · unfold find_vehicle at hip
            split at hip
            · next haddress =>
              cases hip
              show Option.map _ _ = some (IpAddress.ipv4Str ip.value)
              rw [haddress, IpAddress.ipv4Str_ipv4? ip.parsed]
              rfl
            · split at hip <;> cases hip
          · rintro _ rfl
            cases hbranch
            rfl

theorem parse_target_ok {args : List PyStr} {target : Target}
    (h : parse_target config b user_id args = .ok (target, b')) :
    config.address? target.branch target.number = some target.ip ∧
      (1 ≤ target.volume ∧ target.volume ≤ 100) ∧ IsChannel target.output ∧
      (b' = b ∨ b' = b.store_branch user_id target.branch) := by
  unfold parse_target at h
  split at h
  · cases h
  · split at h
    · next branch _ =>
      obtain ⟨target', hparse, h⟩ := bind_ok.mp h
      cases h
      obtain ⟨haddress, hvolume, hchannel, hchosen⟩ := parse_number_ok hparse
      refine ⟨haddress, hvolume, hchannel, .inr ?_⟩
      rw [hchosen branch rfl]
    · obtain ⟨target', hparse, h⟩ := bind_ok.mp h
      cases h
      obtain ⟨haddress, hvolume, hchannel, -⟩ := parse_number_ok hparse
      exact ⟨haddress, hvolume, hchannel, .inl rfl⟩

/-! ### The invariant -/

/-- Settings that the bot accepts. -/
def Audio.Valid (audio : Audio) : Prop :=
  (1 ≤ audio.volume ∧ audio.volume ≤ 100) ∧ IsChannel audio.output

variable (config) in
/-- The entries of one user agree with each other and with the vehicle maps. -/
structure Coherent (user_id : Int) (v : View) : Prop where
  one_input : ¬ (v.awaiting_target ∧ v.awaiting_branch) ∧
    ¬ (v.awaiting_target ∧ v.awaiting_volume) ∧ ¬ (v.awaiting_branch ∧ v.awaiting_volume)
  audio : ∀ audio, v.audio = some audio → audio.Valid
  target : ∀ target, v.target = some target →
    v.branch = some target.branch ∧
    config.address? target.branch target.number = some target.ip ∧
    v.audio = some { volume := target.volume, output := target.output }
  allowed : user_id ∉ config.allowed_users → v = View.empty

variable (config) in
/-- The tables agree with each other. -/
def TablesOk (b : Bot) : Prop := ∀ user_id, Coherent config user_id (b.view user_id)

theorem coherent_empty (user_id : Int) : Coherent config user_id View.empty where
  one_input := by simp [View.empty]
  audio := fun _ h => nomatch h
  target := fun _ h => nomatch h
  allowed := fun _ => rfl

/-- A change for an allowed user keeps the tables coherent when that user's
    entries are. -/
theorem tablesOk_of_view (user_id : Int) (h : TablesOk config b)
    (hview : Coherent config user_id (b'.view user_id))
    (hothers : ∀ u, u ≠ user_id → b'.view u = b.view u) : TablesOk config b' := by
  intro u
  by_cases hu : u = user_id
  · rw [hu]
    exact hview
  · rw [hothers u hu]
    exact h u

theorem defaultAudio_valid : defaultAudio.Valid := ⟨by decide, by decide⟩

theorem Coherent.valid_audio (h : TablesOk config b) (user_id : Int) :
    (b.audio user_id).Valid := by
  unfold Bot.audio
  cases haudio : b.user_audio.get? user_id with
  | none => exact defaultAudio_valid
  | some audio => exact (h user_id).audio audio haudio

/-- An input mode is entered with the others cleared. -/
theorem Coherent.input {v : View} (h : Coherent config user_id v)
    (hallowed : user_id ∈ config.allowed_users) {t br vol : Prop}
    (hone : ¬ (t ∧ br) ∧ ¬ (t ∧ vol) ∧ ¬ (br ∧ vol)) :
    Coherent config user_id
      { v with awaiting_target := t, awaiting_branch := br, awaiting_volume := vol } where
  one_input := hone
  audio := h.audio
  target := h.target
  allowed := fun hnot => absurd hallowed hnot

theorem Coherent.settings {v : View} (h : Coherent config user_id v)
    (hallowed : user_id ∈ config.allowed_users) {settings : Audio} (hvalid : settings.Valid) :
    Coherent config user_id
      { v with
        audio := some settings
        target := v.target.map fun target =>
          { target with volume := settings.volume, output := settings.output } } where
  one_input := h.one_input
  audio := by
    rintro audio ⟨⟩
    exact hvalid
  target := by
    intro target htarget
    obtain ⟨old, hold, rfl⟩ := Option.map_eq_some_iff.mp htarget
    obtain ⟨hbranch, haddress, -⟩ := h.target old hold
    exact ⟨hbranch, haddress, rfl⟩
  allowed := fun hnot => absurd hallowed hnot

/-- A branch is chosen and the target given up. -/
theorem Coherent.branch {v : View} (h : Coherent config user_id v)
    (hallowed : user_id ∈ config.allowed_users) (branch : PyStr) :
    Coherent config user_id { v with branch := some branch, target := none } where
  one_input := h.one_input
  audio := h.audio
  target := fun _ htarget => nomatch htarget
  allowed := fun hnot => absurd hallowed hnot

theorem tablesOk_kept (hallowed : user_id ∈ config.allowed_users) :
    Kept config user_id (TablesOk config) where
  clear b h := by
    refine tablesOk_of_view user_id h ?_ fun u hu => by simp [hu]
    rw [view_clear_input]
    exact (h user_id).input hallowed (by simp)
  discard b h := by
    obtain ⟨-, htv, -⟩ := (h user_id).one_input
    refine tablesOk_of_view user_id h ?_ fun u hu => by simp [hu]
    rw [view_discard_branch]
    exact (h user_id).input hallowed (by simpa using htv)
  ask_target b h := by
    refine tablesOk_of_view user_id h ?_ fun u hu => by simp [hu]
    rw [view_await_target, view_clear_input]
    exact (h user_id).input hallowed (by simp [View.clear])
  ask_branch b h := by
    refine tablesOk_of_view user_id h ?_ fun u hu => by simp [hu]
    rw [view_await_branch, view_clear_input]
    exact (h user_id).input hallowed (by simp [View.clear])
  ask_volume b h := by
    refine tablesOk_of_view user_id h ?_ fun u hu => by simp [hu]
    rw [view_await_volume, view_clear_input]
    exact (h user_id).input hallowed (by simp [View.clear])
  volume b volume h hlow hhigh := by
    refine tablesOk_of_view user_id h ?_ fun u hu => by simp [hu]
    rw [view_set_audio]
    exact (h user_id).settings hallowed ⟨⟨hlow, hhigh⟩, (Coherent.valid_audio h user_id).2⟩
  channel b output h hchannel := by
    refine tablesOk_of_view user_id h ?_ fun u hu => by simp [hu]
    rw [view_set_audio]
    exact (h user_id).settings hallowed ⟨(Coherent.valid_audio h user_id).1, hchannel⟩
  target b args target b' h hparse := by
    obtain ⟨haddress, hvolume, hchannel, hb'⟩ := parse_target_ok hparse
    have hview : Coherent config user_id (((b'.clear_input user_id).set_target user_id target).view
        user_id) := by
      rw [view_set_target, view_clear_input]
      refine ⟨by simp [View.clear], ?_, ?_, fun hnot => absurd hallowed hnot⟩
      · rintro audio ⟨⟩
        exact ⟨hvolume, hchannel⟩
      · rintro _ ⟨⟩
        exact ⟨rfl, haddress, rfl⟩
    refine tablesOk_of_view user_id h hview fun u hu => ?_
    -- the parser stores a branch or leaves the one that was there
    rcases hb' with rfl | rfl
    · simp [hu]
    · simp [hu]
  branch b branch h hsome := by
    have hnone : ¬ (False ∧ False) ∧ ¬ (False ∧ False) ∧ ¬ (False ∧ False) := by simp
    have hclear := ((h user_id).input hallowed hnone).branch hallowed branch
    constructor
    · refine tablesOk_of_view user_id h ?_ fun u hu => by simp [hu]
      rw [view_set_branch, view_clear_input]
      exact hclear
    · refine tablesOk_of_view user_id h ?_ fun u hu => by simp [hu]
      rw [view_await_target, view_set_branch, view_clear_input]
      exact hclear.input hallowed (by simp [View.clear])

/-- In every state of the polling loop, whatever the updates are and
    whichever calls raise, the tables agree with each other. -/
theorem tables_ok (h : Lts.Reachable (polling config) b) : TablesOk config b := by
  refine polling_invariant ?_ (fun user_id hallowed => tablesOk_kept hallowed) h
  intro user_id
  rw [view_empty]
  exact coherent_empty user_id

/-- A user is asked for one thing at most, has settings in range, and a target
    that agrees with the branch, the vehicle maps and the settings.  Whoever is
    not allowed has no entry at all. -/
theorem tables_agree (h : Lts.Reachable (polling config) b) (u : Int) :
    (¬ (u ∈ b.awaiting_target ∧ u ∈ b.awaiting_branch) ∧
      ¬ (u ∈ b.awaiting_target ∧ u ∈ b.awaiting_volume) ∧
      ¬ (u ∈ b.awaiting_branch ∧ u ∈ b.awaiting_volume)) ∧
    (∀ audio, b.user_audio.get? u = some audio →
      1 ≤ audio.volume ∧ audio.volume ≤ 100 ∧ IsChannel audio.output) ∧
    (∀ target, b.targets.get? u = some target →
      b.user_branches.get? u = some target.branch ∧
      config.address? target.branch target.number = some target.ip ∧
      b.user_audio.get? u = some { volume := target.volume, output := target.output }) ∧
    (u ∉ config.allowed_users →
      b.targets.get? u = none ∧ b.user_branches.get? u = none ∧ b.user_audio.get? u = none ∧
      u ∉ b.awaiting_target ∧ u ∉ b.awaiting_branch ∧ u ∉ b.awaiting_volume) := by
  have hu := tables_ok h u
  refine ⟨hu.one_input, fun audio haudio => ?_, hu.target, fun hnot => ?_⟩
  · have hvalid := hu.audio audio haudio
    exact ⟨hvalid.1.1, hvalid.1.2, hvalid.2⟩
  · have hempty := hu.allowed hnot
    refine ⟨congrArg View.target hempty, congrArg View.branch hempty, congrArg View.audio hempty,
      ?_, ?_, ?_⟩
    · exact (congrArg View.awaiting_target hempty).mp
    · exact (congrArg View.awaiting_branch hempty).mp
    · exact (congrArg View.awaiting_volume hempty).mp

/-! ### A bot with two branches -/

/-- `str.lower` on Latin and Russian letters. -/
def sampleLower (s : PyStr) : PyStr :=
  s.map fun c =>
    if (0x41 ≤ c.val ∧ c.val ≤ 0x5A) ∨ (0x410 ≤ c.val ∧ c.val ≤ 0x42F) then
      Fin.ofNat 0x110000 (c.val + 0x20)
    else c

/-- A vehicle in each of two files. -/
def sampleFiles (path : PyStr) : InventoryFile :=
  let row (number ip : String) : CsvRow := fun key =>
    if key = "vehicle_number" then some ⟨number.py, PyStr.scalar_py _⟩
    else if key = "ip" then some ⟨ip.py, PyStr.scalar_py _⟩
    else none
  if path = "/pat.csv".py then some [row "6217" "172.27.133.20"]
  else if path = "/north.csv".py then some [row "1001" "172.26.0.1"]
  else none

/-- `VEHICLE_MAP_PATHS=pat=/pat.csv,north_depot=/north.csv` -/
def sampleMaps : VehicleMaps :=
  match load_vehicle_maps sampleLower "pat=/pat.csv,north_depot=/north.csv".py [] sampleFiles with
  | .ok maps => maps
  | .error _ => Dict.empty

def sampleBotConfig : Config sampleInterp where
  lower := sampleLower
  allowed_users := {100, 101}
  digits := by decide
  vehicle_maps := sampleMaps
  branch_aliases := load_branch_aliases sampleLower []
  default_branch := "pat".py

/-- A message of text. -/
def sampleMessage (user_id : Int) (text : String) : Update × Env :=
  (.message { user_id, chat_id := 200, text := text.py, media := none, oversize := false },
    { jobs := fun _ => none, edit_refused := false, raises := [] })

/-- Two users choose vehicles, one by its number alone. -/
def sampleUpdates : List (Update × Env) :=
  [sampleMessage 100 "/target pat 6217 15 street", sampleMessage 101 "/target 1001",
    sampleMessage 100 "/volume", sampleMessage 999 "/stop", sampleMessage 100 "30"]

theorem tables_agree_sample :
    let b := (polling sampleBotConfig).play sampleUpdates
    ∃ target, b.targets.get? 100 = some target ∧
      b.user_branches.get? 100 = some target.branch ∧
      sampleBotConfig.address? target.branch target.number = some target.ip ∧
      b.user_audio.get? 100 = some { volume := target.volume, output := target.output } := by
  intro b
  have hsome : (b.targets.get? 100).isSome = true := by decide +kernel
  obtain ⟨target, htarget⟩ := Option.isSome_iff_exists.mp hsome
  exact ⟨target, htarget, (tables_agree (Lts.reachable_play _) 100).2.2.1 target htarget⟩

end BoVpnAgent.AudioBot

import BoVpnAgent.Bot.Restart
import BoVpnAgent.Lib.Trim
import BoVpnAgent.Lib.Url

/-! # Choosing a branch by its name

    The panel shows a button for each branch of the configuration, with the
    name of the branch in its data, and `_normalize_branch` reads it back.
    The names of the branches are stripped and put in lower case when they are
    configured; what `_normalize_branch` looks up has hyphens for underscores
    as well, and aliases come first.  This file shows for which configurations
    every button chooses its branch.
-/

namespace BoVpnAgent.AudioBot

/-! ### `str.lower` -/

/-- What the loader and `_normalize_branch` rely on: lower case is kept, a
    text without spaces at its ends stays one, and ASCII letters are those of
    ASCII. -/
structure LowerLaws (lower : PyStr → PyStr) : Prop where
  idempotent : ∀ s, lower (lower s) = lower s
  stripped : ∀ s, PyStr.strip s = s → PyStr.strip (lower s) = lower s
  ascii : ∀ s, s.isAscii = true → lower s = Url.lower s

/-- `name.replace("_", "-")` -/
def hyphenated (name : PyStr) : PyStr := name.map fun c => if c = 0x5F then 0x2D else c

theorem hyphenated_eq_self_iff (name : PyStr) : hyphenated name = name ↔ 0x5F ∉ name := by
  induction name with
  | nil => simp [hyphenated]
  | cons c name ih =>
    unfold hyphenated at ih ⊢
    rw [List.map_cons, List.cons.injEq, ih, List.mem_cons, not_or]
    apply and_congr_left
    intro _
    by_cases hc : c = 0x5F
    · rw [if_pos hc, hc]
      decide
    · rw [if_neg hc]
      exact iff_of_true rfl fun h => hc h.symm

/-! ### The names in the table -/

section names

variable {lower : PyStr → PyStr} {files : PyStr → InventoryFile}

/-- The entries are named by what stands before the equals sign, stripped and
    in lower case. -/
theorem load_entries_names {maps maps' : VehicleMaps} {items : List PyStr}
    (h : load_entries lower files maps items = .ok maps') {name : PyStr}
    (hname : (maps'.get? name).isSome) :
    (maps.get? name).isSome ∨ ∃ text, name = lower (PyStr.strip text) := by
  induction items generalizing maps with
  | nil =>
    rw [← Except.ok.inj h] at hname
    exact .inl hname
  | cons item items ih =>
    unfold load_entries at h
    split at h
    · exact ih h
    · split at h
      · cases h
      · obtain ⟨mapping, _, h⟩ := bind_ok.mp h
        rcases ih h with hold | htext
        · -- set by this entry, or before it
          rw [Dict.get?_set] at hold
          split at hold
          · rename_i heq
            exact .inr ⟨_, heq.symm⟩
          · exact .inl hold
        · exact .inr htext

/-- What `_normalize_branch` looks up for a name of the table. -/
theorem normalized_name (laws : LowerLaws lower) {raw vehicle_map_path : PyStr} {maps : VehicleMaps}
    (h : load_vehicle_maps lower raw vehicle_map_path files = .ok maps) {name : PyStr}
    (hname : (maps.get? name).isSome) : normalized lower name = hyphenated name := by
  have hnormal : ∀ text, normalized lower (lower (PyStr.strip text)) =
      hyphenated (lower (PyStr.strip text)) := by
    intro text
    unfold normalized
    rw [laws.stripped _ (PyStr.strip_strip text), laws.idempotent]
    rfl
  unfold load_vehicle_maps at h
  split at h
  · -- no paths are configured: the one branch is `piteravto`
    obtain ⟨mapping, _, h⟩ := bind_ok.mp h
    rw [← Except.ok.inj h, Dict.get?_set] at hname
    split at hname
    · rename_i heq
      have hlower : lower (PyStr.strip "piteravto".py) = "piteravto".py :=
        (laws.ascii _ (by decide)).trans (by decide)
      have hpiteravto := hnormal "piteravto".py
      rw [hlower] at hpiteravto
      rw [← heq]
      exact hpiteravto
    · cases hname
  · obtain ⟨loaded, hloaded, h⟩ := bind_ok.mp h
    split at h
    · cases h
    · rw [← Except.ok.inj h] at hname
      rcases load_entries_names hloaded hname with hnone | ⟨text, htext⟩
      · cases hnone
      · rw [htext]
        exact hnormal text

end names

section config

variable {I : Interp} (config : Config I)

/-- The branch has a map. -/
def Known (name : PyStr) : Prop := (config.vehicle_maps.get? name).isSome = true

/-- The name is not blank, no alias with its hyphenated form leads to another
    branch, and it has no underscore unless it is its own alias. -/
def OwnName (name : PyStr) : Prop :=
  name ≠ [] ∧
  (∀ branch, config.branch_aliases.get? (hyphenated name) = some branch → Known config branch →
    branch = name) ∧
  (0x5F ∉ name ∨ config.branch_aliases.get? (hyphenated name) = some name)

variable {config} in
/-- The name of a branch stands for it in just this case. -/
theorem normalize_branch_self_iff {name : PyStr}
    (hnormal : normalized config.lower name = hyphenated name) (hknown : Known config name) :
    config.normalize_branch name = some name ↔ OwnName config name := by
  rw [normalize_branch_eq_some]
  unfold Names OwnName
  rw [hnormal]
  constructor
  · intro ⟨hne, _, hname⟩
    refine ⟨hne, ?_, ?_⟩
    · intro branch halias hbranch
      rcases hname with hself | ⟨_, hno⟩
      · exact Option.some.inj (halias.symm.trans hself)
      · unfold Known at hbranch
        rw [hno branch halias] at hbranch
        cases hbranch
    · rcases hname with hself | ⟨hsame, _⟩
      · exact .inr hself
      · exact .inl ((hyphenated_eq_self_iff name).mp hsame)
  · intro ⟨hne, haliases, hform⟩
    refine ⟨hne, hknown, ?_⟩
    by_cases hself : config.branch_aliases.get? (hyphenated name) = some name
    · exact .inl hself
    · have hplain := (hyphenated_eq_self_iff name).mpr (hform.resolve_right hself)
      refine .inr ⟨hplain, ?_⟩
      intro other hother
      by_contra hsome
      have hbranch : Known config other := Option.isSome_iff_ne_none.mpr hsome
      exact hself (haliases other hother hbranch ▸ hother)

/-! ### Pressing a button -/

/-- The data of the button of a branch. -/
def branch_data (user_id : Int) (name : PyStr) : PyStr :=
  "audio:".py ++ Json.intRepr user_id ++ ":".py ++ ("branch=".py ++ name)

theorem action?_branch_data (user_id : Int) (name : PyStr) :
    action? user_id (branch_data user_id name) = some ("branch=".py ++ name) := by
  have hdata : branch_data user_id name =
      "audio".py ++ 0x3A :: (Json.intRepr user_id ++ 0x3A :: ("branch=".py ++ name)) := by
    unfold branch_data
    rw [show "audio:".py = "audio".py ++ [0x3A] from by decide, show ":".py = [0x3A] from by decide]
    simp only [List.append_assoc, List.cons_append, List.nil_append]
  have haudio : (0x3A : CodePoint) ∉ "audio".py := by decide
  have hnumber : (0x3A : CodePoint) ∉ Json.intRepr user_id := by
    intro hmem
    exact absurd (Decimal.val_of_mem_intRepr hmem).2 (by decide)
  unfold action?
  rw [hdata, PyStr.partition_append haudio]
  simp only
  rw [PyStr.partition_append hnumber, if_pos]
  simp

variable (env : Env)

variable {config env} in
/-- A press of the button of a branch is the command for its name. -/
theorem press_eq {user_id chat_id message_id : Int} (hallowed : user_id ∈ config.allowed_users)
    (name : PyStr) (c : Ctx) :
    handle_callback config env
        { user_id := user_id, data := branch_data user_id name, panel := some (chat_id, message_id) } c =
      handle_branch config env user_id chat_id [name]
        ((c.call (.answer none)).update (·.clear_input user_id)) := by
  unfold handle_callback
  simp only [if_pos hallowed, action?_branch_data]
  have hequals : (0x3D : CodePoint) ∉ "branch".py := by decide
  have hstart : PyStr.startsWith ("branch=".py ++ name) "branch=".py = true :=
    List.isPrefixOf_iff_prefix.mpr (List.prefix_append _ _)
  have hname : (PyStr.partition 0x3D ("branch=".py ++ name)).2 = name := by
    rw [show "branch=".py ++ name = "branch".py ++ 0x3D :: name from by
      rw [show "branch=".py = "branch".py ++ [0x3D] from by decide, List.append_assoc]
      rfl, PyStr.partition_append hequals]
  unfold handle_action
  rw [if_pos hstart, hname]

/-- Every branch is chosen by its own name and by its button, and
    `_normalize_branch` is idempotent. -/
def Selectable : Prop :=
  (∀ name, Known config name → config.normalize_branch name = some name) ∧
  (∀ name, Known config name → ∀ (env : Env) (user_id chat_id message_id : Int) (c : Ctx),
    user_id ∈ config.allowed_users →
      (handle_callback config env
        { user_id := user_id, data := branch_data user_id name
          panel := some (chat_id, message_id) } c).bot.user_branches.get? user_id = some name) ∧
  ∀ value branch, config.normalize_branch value = some branch →
    config.normalize_branch branch = some branch

variable {config} in
/-- The branches of a configuration are selectable exactly when each of them is
    its own name. -/
theorem selectable_iff (laws : LowerLaws config.lower) {raw vehicle_map_path : PyStr}
    {files : PyStr → InventoryFile}
    (hmaps : load_vehicle_maps config.lower raw vehicle_map_path files = .ok config.vehicle_maps) :
    Selectable config ↔ ∀ name, Known config name → OwnName config name := by
  have hself : ∀ name, Known config name →
      (config.normalize_branch name = some name ↔ OwnName config name) := by
    intro name hknown
    exact normalize_branch_self_iff (normalized_name laws hmaps hknown) hknown
  constructor
  · intro ⟨hnames, _, _⟩ name hknown
    exact (hself name hknown).mp (hnames name hknown)
  · intro hown
    have hnames : ∀ name, Known config name → config.normalize_branch name = some name :=
      fun name hknown => (hself name hknown).mpr (hown name hknown)
    refine ⟨hnames, ?_, ?_⟩
    · intro name hknown env user_id chat_id message_id c hallowed
      rw [press_eq hallowed, handle_branch]
      simp only [hnames name hknown]
      exact Dict.get?_set_self _ _ _
    · intro value branch hbranch
      exact hnames branch (normalize_branch_eq_some.mp hbranch).2.1

end config

/-! ### A branch with an underscore -/

/-- The letter of `sampleLower`. -/
def sampleLetter (c : CodePoint) : CodePoint :=
  if (0x41 ≤ c.val ∧ c.val ≤ 0x5A) ∨ (0x410 ≤ c.val ∧ c.val ≤ 0x42F) then
    Fin.ofNat 0x110000 (c.val + 0x20)
  else c

/-- A capital letter becomes another letter, which is no capital. -/
theorem val_sampleLetter (c : CodePoint) :
    (((0x41 ≤ c.val ∧ c.val ≤ 0x5A) ∨ (0x410 ≤ c.val ∧ c.val ≤ 0x42F)) ∧
      (sampleLetter c).val = c.val + 0x20) ∨
    (¬ ((0x41 ≤ c.val ∧ c.val ≤ 0x5A) ∨ (0x410 ≤ c.val ∧ c.val ≤ 0x42F)) ∧ sampleLetter c = c) := by
  unfold sampleLetter
  by_cases hcapital : (0x41 ≤ c.val ∧ c.val ≤ 0x5A) ∨ (0x410 ≤ c.val ∧ c.val ≤ 0x42F)
  · rw [if_pos hcapital]
    refine .inl ⟨hcapital, ?_⟩
    simp only [Fin.ofNat]
    omega
  · rw [if_neg hcapital]
    exact .inr ⟨hcapital, rfl⟩

theorem isSpace_sampleLetter (c : CodePoint) :
    CodePoint.isSpace (sampleLetter c) = CodePoint.isSpace c := by
  rcases val_sampleLetter c with ⟨hcapital, hval⟩ | ⟨_, hsame⟩
  · -- neither is a space
    have hspaces : ∀ d : CodePoint, (0x41 ≤ d.val ∧ d.val ≤ 0x7A) ∨ (0x410 ≤ d.val ∧ d.val ≤ 0x44F) →
        CodePoint.isSpace d = false := by
      intro d hd
      rw [Bool.eq_false_iff]
      intro hspace
      simp only [CodePoint.isSpace, Bool.or_eq_true, Bool.and_eq_true, decide_eq_true_eq,
        List.contains_eq_mem, List.mem_cons, List.not_mem_nil, or_false] at hspace
      omega
    rw [hspaces c (by omega), hspaces _ (by omega)]
  · rw [hsame]

theorem strip_map {f : CodePoint → CodePoint}
    (hf : ∀ c, CodePoint.isSpace (f c) = CodePoint.isSpace c) (s : PyStr) :
    PyStr.strip (s.map f) = (PyStr.strip s).map f := by
  have hcomp : CodePoint.isSpace ∘ f = CodePoint.isSpace := funext hf
  unfold PyStr.strip List.rdropWhile
  rw [List.dropWhile_map, hcomp, ← List.map_reverse, List.dropWhile_map, hcomp, List.map_reverse]

theorem lowerLaws_sampleLower : LowerLaws sampleLower := by
  have hlower : ∀ s, sampleLower s = s.map sampleLetter := fun _ => rfl
  constructor
  · intro s
    rw [hlower, hlower, List.map_map]
    apply List.map_congr_left
    intro c _
    show sampleLetter (sampleLetter c) = sampleLetter c
    rcases val_sampleLetter c with ⟨hcapital, hval⟩ | ⟨_, hsame⟩
    · rcases val_sampleLetter (sampleLetter c) with ⟨htwice, _⟩ | ⟨_, hkept⟩
      · omega
      · exact hkept
    · rw [hsame, hsame]
  · intro s hs
    rw [hlower, strip_map isSpace_sampleLetter, hs]
  · intro s hs
    rw [hlower]
    unfold Url.lower
    apply List.map_congr_left
    intro c hc
    have hascii : c.val < 0x80 := by simpa using List.all_eq_true.mp hs c hc
    unfold sampleLetter
    by_cases hcapital : 0x41 ≤ c.val ∧ c.val ≤ 0x5A
    · rw [if_pos (.inl hcapital), if_pos (by simpa using hcapital)]
    · rw [if_neg (by omega), if_neg (by simpa using hcapital)]

theorem selectable_sample :
    Selectable sampleBotConfig ↔
      ∀ name, Known sampleBotConfig name → OwnName sampleBotConfig name := by
  have hmaps : load_vehicle_maps sampleLower "pat=/pat.csv,north_depot=/north.csv".py [] sampleFiles =
      .ok sampleBotConfig.vehicle_maps := rfl
  exact selectable_iff lowerLaws_sampleLower hmaps

/-- `north_depot` is configured and has a button; pressing it chooses no
    branch. -/
theorem underscore_not_selectable :
    load_vehicle_maps sampleLower "pat=/pat.csv,north_depot=/north.csv".py [] sampleFiles =
      .ok sampleBotConfig.vehicle_maps ∧
    Known sampleBotConfig "north_depot".py ∧
    sampleBotConfig.normalize_branch "north_depot".py = none ∧
    (handle_callback sampleBotConfig { jobs := fun _ => none, edit_refused := false, raises := [] }
      { user_id := 100, data := branch_data 100 "north_depot".py, panel := some (200, 1) }
      ⟨Bot.empty, []⟩).bot.user_branches.get? 100 = none ∧
    ¬ Selectable sampleBotConfig := by
  have hknown : Known sampleBotConfig "north_depot".py := rfl
  refine ⟨rfl, hknown, rfl, rfl, ?_⟩
  intro h
  have hself := h.1 _ hknown
  cases hself

end BoVpnAgent.AudioBot

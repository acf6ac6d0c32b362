import BoVpnAgent.Bot.Restart

/-! # The target of a command

    `_parse_target` chooses a branch, looks the number up in it and takes what
    the arguments leave open from the settings of the user.  This file says
    which target a list of arguments stands for, and shows that
    `_parse_target` finds it from any tables: it raises `ValueError` for all
    other lists, and then leaves the tables as they are.
-/

namespace BoVpnAgent.AudioBot

variable {I : Interp} (config : Config I)

/-! ### Running on the tables -/

/-- `_parse_target`, with the tables that it leaves.  The branch of the
    arguments is stored right in front of the `return`. -/
def parse_target_method (user_id : Int) (args : List PyStr) (b : Bot) : Except PyExc Target × Bot :=
  match args with
  | [] => (raiseValue "не указан номер ТС".py, b)
  | arg :: args =>
    match config.normalize_branch arg with
    | some branch =>
      match parse_number config (b.audio user_id) (some branch) args with
      | .ok target => (.ok target, b.store_branch user_id branch)
      | .error exc => (.error exc, b)
    | none =>
      (parse_number config (b.audio user_id) (b.user_branches.get? user_id) (arg :: args), b)

/-- It leaves the tables that `parse_target` returns, or those it has found. -/
theorem parse_target_method_eq (b : Bot) (user_id : Int) (args : List PyStr) :
    parse_target_method config user_id args b =
      match parse_target config b user_id args with
      | .ok (target, b') => (.ok target, b')
      | .error exc => (.error exc, b) := by
  unfold parse_target_method parse_target
  cases args with
  | nil => rfl
  | cons arg args =>
    cases hname : config.normalize_branch arg with
    | some branch =>
      cases hparse : parse_number config (b.audio user_id) (some branch) args with
      | ok target => simp [bind, Except.bind, pure, Except.pure, hname, hparse]
      | error exc => simp [bind, Except.bind, hname, hparse]
    | none =>
      cases hparse : parse_number config (b.audio user_id) (b.user_branches.get? user_id)
          (arg :: args) with
      | ok target => simp [bind, Except.bind, pure, Except.pure, hname, hparse]
      | error exc => simp [bind, Except.bind, hname, hparse]

/-! ### What the arguments stand for -/

/-- The number is in the map of the branch. -/
def HasNumber (branch number : PyStr) : Prop := (config.address? branch number).isSome = true

/-- The arguments of `/target`: the branch that the first one names, the
    number, and the options behind it. -/
structure Arguments where
  branch : Option PyStr
  number : PyStr
  options : List PyStr

/-- How a list of arguments is read: the first one is a branch when it names
    one, and then the number is the next. -/
inductive Reads : List PyStr → Arguments → Prop where
  | named {arg number branch : PyStr} {options : List PyStr} (h : Names config arg branch) :
    Reads (arg :: number :: options) ⟨some branch, PyStr.strip number, options⟩
  | plain {arg : PyStr} {options : List PyStr} (h : ∀ branch, ¬ Names config arg branch) :
    Reads (arg :: options) ⟨none, PyStr.strip arg, options⟩

/-- The branch that the number is looked up in: that of the arguments, else
    that of the user, else the only one with the number. -/
inductive Chosen (stored : Option PyStr) (a : Arguments) (branch : PyStr) : Prop where
  | argument (h : a.branch = some branch)
  | stored (hnone : a.branch = none) (h : stored = some branch)
  | only (hnone : a.branch = none) (hstored : stored = none)
      (h : ∀ name, HasNumber config name a.number ↔ name = branch)

variable (I) in
/-- The volume of the arguments, else that of the settings; `none` when the
    argument is not a number. -/
def Arguments.volume? (a : Arguments) (audio : Audio) : Option Int :=
  match a.options[0]? with
  | some arg => PyStr.toInt I.int_max_str_digits arg
  | none => some audio.volume

/-- The channel of the arguments, else that of the settings. -/
def Arguments.channel (a : Arguments) (audio : Audio) : PyStr := a.options[1]?.getD audio.output

/-- The target that the arguments stand for, with the tables `b`. -/
structure Resolves (b : Bot) (user_id : Int) (a : Arguments) (target : Target) : Prop where
  branch : Chosen config (b.user_branches.get? user_id) a target.branch
  number : target.number = a.number
  ip : config.address? target.branch target.number = some target.ip
  volume : a.volume? I (b.audio user_id) = some target.volume
  channel : target.output = a.channel (b.audio user_id)
  valid : Audio.Valid ⟨target.volume, target.output⟩

/-- Why arguments stand for no target. -/
inductive Rejected (b : Bot) (user_id : Int) (a : Arguments) : Prop where
  /-- the number is not in the branch -/
  | absent {branch : PyStr} (hchosen : Chosen config (b.user_branches.get? user_id) a branch)
      (h : ¬ HasNumber config branch a.number)
  /-- no branch is chosen, and the number is in none -/
  | nowhere (hnone : a.branch = none) (hstored : b.user_branches.get? user_id = none)
      (h : ∀ name, ¬ HasNumber config name a.number)
  /-- no branch is chosen, and the number is in several -/
  | ambiguous (hnone : a.branch = none) (hstored : b.user_branches.get? user_id = none)
      {name name' : PyStr} (hne : name ≠ name') (h : HasNumber config name a.number)
      (h' : HasNumber config name' a.number)
  | volume (h : ∀ volume, a.volume? I (b.audio user_id) = some volume → ¬ (1 ≤ volume ∧ volume ≤ 100))
  | channel (h : ¬ IsChannel (a.channel (b.audio user_id)))

variable {config} {b b' : Bot} {user_id : Int} {a : Arguments} {target : Target}

/-! ### Choosing the branch -/

/-- The branches with the number, in the order of the table. -/
def found (config : Config I) (number : PyStr) : List PyStr :=
  config.vehicle_maps.keys.filter fun name =>
    ((config.vehicle_maps.get? name).bind fun mapping => mapping.numbers.get? number).isSome

theorem mem_found {name number : PyStr} : name ∈ found config number ↔ HasNumber config name number := by
  unfold found HasNumber Config.address?
  rw [List.mem_filter, Option.isSome_map]
  constructor
  · intro h
    exact h.2
  · intro h
    refine ⟨?_, h⟩
    rw [Dict.mem_keys_iff]
    obtain ⟨ip, hip⟩ := Option.isSome_iff_exists.mp h
    obtain ⟨mapping, hmapping, _⟩ := Option.bind_eq_some_iff.mp hip
    rw [hmapping]
    rfl

theorem nodup_found (number : PyStr) : (found config number).Nodup :=
  List.Nodup.filter _ config.vehicle_maps.nodup

/-- A branch that is chosen and has the number is the one that
    `_parse_target` looks it up in. -/
theorem choose_branch_iff {stored : Option PyStr} {branch : PyStr}
    (hhas : HasNumber config branch a.number) :
    choose_branch config (a.branch.or stored) a.number (found config a.number) = .ok branch ↔
      Chosen config stored a branch := by
  cases hargument : a.branch with
  | some name =>
    rw [Option.some_or]
    constructor
    · intro h
      cases h
      exact .argument hargument
    · intro h
      cases h with
      | argument h => rw [← Option.some.inj (hargument.symm.trans h)]; rfl
      | stored hnone | only hnone => rw [hargument] at hnone; cases hnone
  | none =>
    rw [Option.none_or]
    cases stored with
    | some name =>
      constructor
      · intro h
        cases h
        exact .stored hargument rfl
      · intro h
        cases h with
        | argument h => rw [hargument] at h; cases h
        | stored _ h => rw [← Option.some.inj h]; rfl
        | only _ hstored => cases hstored
    | none =>
      -- the only branch with the number, or none of several
      have honly : Chosen config none a branch ↔ found config a.number = [branch] := by
        constructor
        · intro h
          cases h with
          | argument h => rw [hargument] at h; cases h
          | stored _ h => cases h
          | only _ _ h =>
            apply List.perm_singleton.mp
            rw [List.perm_ext_iff_of_nodup (nodup_found _) (List.nodup_singleton _)]
            intro name
            rw [mem_found, h, List.mem_singleton]
        · intro h
          refine .only hargument rfl fun name => ?_
          rw [← mem_found, h, List.mem_singleton]
      rw [honly]
      have hmem := mem_found.mpr hhas
      generalize found config a.number = names at hmem
      unfold choose_branch
      match names, hmem with
      | [name], _ => simp [eq_comm]
      | _ :: _ :: _, _ => simp [raiseValue]

/-! ### Looking the number up -/

theorem find_vehicle_ok_iff {branch number : PyStr} {names : List PyStr} {ip : MntAddress} :
    find_vehicle config branch number names = .ok ip ↔
      ((config.vehicle_maps.get? branch).bind fun mapping => mapping.numbers.get? number) = some ip := by
  unfold find_vehicle
  cases (config.vehicle_maps.get? branch).bind fun mapping => mapping.numbers.get? number with
  | some ip' => simp
  | none => cases names <;> simp [raiseValue]

theorem volume_arg_ok_iff {audio : Audio} {volume : Int} :
    volume_arg I audio a.options = .ok volume ↔ a.volume? I audio = some volume := by
  unfold volume_arg Arguments.volume?
  cases a.options with
  | nil => simp
  | cons arg options =>
    rw [liftBuiltin_ok]
    simp only [List.getElem?_cons_zero, Json.toInt]
    cases PyStr.toInt I.int_max_str_digits arg <;> simp

theorem output_arg_eq (audio : Audio) : output_arg audio a.options = a.channel audio := by
  unfold output_arg Arguments.channel
  match a.options with
  | [] => rfl
  | [_] => rfl
  | _ :: _ :: _ => rfl

/-- The part of `_parse_target` behind the branch argument finds the target
    that the arguments stand for. -/
theorem parse_number_iff {arg : PyStr} (hnumber : a.number = PyStr.strip arg) :
    parse_number config (b.audio user_id) (a.branch.or (b.user_branches.get? user_id))
        (arg :: a.options) = .ok target ↔ Resolves config b user_id a target := by
  simp only [parse_number, ← hnumber]
  -- the code looks up the branch, the vehicle, the volume and the channel in this order
  constructor
  · intro h
    obtain ⟨branch, hbranch, h⟩ := bind_ok.mp h
    obtain ⟨ip, hip, h⟩ := bind_ok.mp h
    have hmap := find_vehicle_ok_iff.mp hip
    have haddress : config.address? branch a.number = some ip.text := by
      unfold Config.address?
      rw [hmap]
      rfl
    split at h
    · cases h
    · obtain ⟨volume, hvolume, h⟩ := bind_ok.mp h
      split at h
      · cases h
      · next hrange =>
        split at h
        · cases h
        · next hchannel =>
          cases h
          have hhas : HasNumber config branch a.number := by
            unfold HasNumber
            rw [haddress]
            rfl
          refine ⟨(choose_branch_iff hhas).mp hbranch, rfl, ?_, volume_arg_ok_iff.mp hvolume,
            output_arg_eq _, not_not.mp hrange, not_not.mp hchannel⟩
          show config.address? branch a.number = some (IpAddress.ipv4Str ip.value)
          rw [IpAddress.ipv4Str_ipv4? ip.parsed]
          exact haddress
  · intro h
    obtain ⟨branch, number, text, volume, output⟩ := target
    obtain ⟨hchosen, hsame, hip, hvolume, hchannel, hrange, hvalid⟩ := h
    simp only at hchosen hsame hip hvolume hchannel hrange hvalid
    rw [hsame] at hip ⊢
    obtain ⟨ip, hmap, htext⟩ := Option.map_eq_some_iff.mp hip
    have hhas : HasNumber config branch a.number := by
      unfold HasNumber
      rw [hip]
      rfl
    have hinside : in_network ip.value = true := ip.inside
    have hbranch := (choose_branch_iff hhas).mpr hchosen
    unfold found at hbranch
    simp only [hbranch, bind, Except.bind, find_vehicle_ok_iff.mpr hmap, hinside, Bool.not_true,
      Bool.false_eq_true, if_false, volume_arg_ok_iff.mpr hvolume, hrange, and_self, not_true,
      output_arg_eq]
    rw [← hchannel, if_neg (not_not.mpr hvalid), ← htext, IpAddress.ipv4Str_ipv4? ip.parsed]
    rfl

/-- It raises nothing but `ValueError`. -/
theorem parse_number_error {audio : Audio} {stored : Option PyStr} {args : List PyStr} {exc : PyExc}
    (h : parse_number config audio stored args = .error exc) :
    ∃ text, exc = .builtin .valueError text := by
  unfold parse_number at h
  cases args with
  | nil => exact ⟨_, (Except.error.inj h).symm⟩
  | cons arg options =>
    rcases bind_error.mp h with h | ⟨branch, _, h⟩
    · unfold choose_branch at h
      split at h
      · cases h
      · split at h
        · cases h
        · cases h
        · exact ⟨_, (Except.error.inj h).symm⟩
    · rcases bind_error.mp h with h | ⟨ip, _, h⟩
      · unfold find_vehicle at h
        split at h
        · cases h
        · split at h
          · exact ⟨_, (Except.error.inj h).symm⟩
          · exact ⟨_, (Except.error.inj h).symm⟩
      · split at h
        · exact ⟨_, (Except.error.inj h).symm⟩
        · rcases bind_error.mp h with h | ⟨volume, _, h⟩
          · unfold volume_arg at h
            cases options with
            | nil => cases h
            | cons text options =>
              simp only [Json.toInt] at h
              cases hint : PyStr.toInt I.int_max_str_digits text with
              | some n => rw [hint] at h; cases h
              | none => rw [hint] at h; exact ⟨_, (Except.error.inj h).symm⟩
          · simp only at h
            split at h
            · exact ⟨_, (Except.error.inj h).symm⟩
            · split at h
              · exact ⟨_, (Except.error.inj h).symm⟩
              · cases h

/-! ### The result -/

theorem hasNumber_iff {branch number : PyStr} :
    HasNumber config branch number ↔ ∃ ip, config.address? branch number = some ip :=
  Option.isSome_iff_exists

/-- A branch is chosen, or the number decides why not. -/
theorem chosen_cases (b : Bot) (user_id : Int) (a : Arguments) :
    (∃ branch, Chosen config (b.user_branches.get? user_id) a branch) ∨ Rejected config b user_id a := by
  cases hargument : a.branch with
  | some branch => exact .inl ⟨branch, .argument hargument⟩
  | none =>
    cases hstored : b.user_branches.get? user_id with
    | some branch => exact .inl ⟨branch, .stored hargument rfl⟩
    | none =>
      by_cases hsome : ∃ name, HasNumber config name a.number
      · obtain ⟨name, hname⟩ := hsome
        by_cases hother : ∃ name', name ≠ name' ∧ HasNumber config name' a.number
        · obtain ⟨name', hne, hname'⟩ := hother
          exact .inr (.ambiguous hargument hstored hne hname hname')
        · refine .inl ⟨name, .only hargument rfl fun name' => ?_⟩
          constructor
          · intro hname'
            by_contra hne
            exact hother ⟨name', Ne.symm hne, hname'⟩
          · rintro rfl
            exact hname
      · exact .inr (.nowhere hargument hstored fun name hname => hsome ⟨name, hname⟩)

/-- Arguments stand for a target unless there is a reason to reject them. -/
theorem resolves_or_rejected (b : Bot) (user_id : Int) (a : Arguments) :
    (∃ target, Resolves config b user_id a target) ∨ Rejected config b user_id a := by
  rcases chosen_cases b user_id a with ⟨branch, hchosen⟩ | hrejected
  · by_cases hhas : HasNumber config branch a.number
    · obtain ⟨ip, hip⟩ := hasNumber_iff.mp hhas
      by_cases hvolume : ∃ volume, a.volume? I (b.audio user_id) = some volume ∧
          1 ≤ volume ∧ volume ≤ 100
      · obtain ⟨volume, hvolume, hrange⟩ := hvolume
        by_cases hchannel : IsChannel (a.channel (b.audio user_id))
        · exact .inl ⟨⟨branch, a.number, ip, volume, a.channel (b.audio user_id)⟩,
            hchosen, rfl, hip, hvolume, rfl, hrange, hchannel⟩
        · exact .inr (.channel hchannel)
      · exact .inr (.volume fun volume h hrange => hvolume ⟨volume, h, hrange⟩)
    · exact .inr (.absent hchosen hhas)
  · exact .inr hrejected

/-- A branch is chosen in one way. -/
theorem Chosen.unique {stored : Option PyStr} {branch branch' : PyStr}
    (h : Chosen config stored a branch) (h' : Chosen config stored a branch')
    (hhas : HasNumber config branch a.number) : branch = branch' := by
  cases h with
  | argument h =>
    cases h' with
    | argument h' => exact Option.some.inj (h.symm.trans h')
    | stored hnone | only hnone => rw [hnone] at h; cases h
  | stored hnone h =>
    cases h' with
    | argument h' => rw [hnone] at h'; cases h'
    | stored _ h' => exact Option.some.inj (h.symm.trans h')
    | only _ hstored => rw [hstored] at h; cases h
  | only hnone hstored h =>
    cases h' with
    | argument h' => rw [hnone] at h'; cases h'
    | stored _ h' => rw [hstored] at h'; cases h'
    | only _ _ h' => exact (h' branch).mp hhas

theorem Resolves.not_rejected (h : Resolves config b user_id a target) :
    ¬ Rejected config b user_id a := by
  have hhas : HasNumber config target.branch a.number := by
    rw [← h.number]
    exact hasNumber_iff.mpr ⟨_, h.ip⟩
  intro hrejected
  cases hrejected with
  | absent hchosen habsent => exact habsent (h.branch.unique hchosen hhas ▸ hhas)
  | nowhere _ _ hnone => exact hnone _ hhas
  | ambiguous hnone hstored hne hname hname' =>
    cases h.branch with
    | argument h => rw [hnone] at h; cases h
    | stored _ h => rw [hstored] at h; cases h
    | only _ _ honly => exact hne (((honly _).mp hname).trans ((honly _).mp hname').symm)
  | volume hvolume => exact hvolume _ h.volume h.valid.1
  | channel hchannel => exact hchannel (h.channel ▸ h.valid.2)

theorem normalize_branch_eq_none {name : PyStr} :
    config.normalize_branch name = none ↔ ∀ branch, ¬ Names config name branch := by
  rw [Option.eq_none_iff_forall_ne_some]
  exact forall_congr' fun branch => not_congr normalize_branch_eq_some

theorem parse_target_method_named {arg branch : PyStr} (h : Names config arg branch)
    (args : List PyStr) :
    (∃ b', parse_target_method config user_id (arg :: args) b = (.ok target, b')) ↔
      parse_number config (b.audio user_id) (some branch) args = .ok target := by
  unfold parse_target_method
  simp only [normalize_branch_eq_some.mpr h]
  cases parse_number config (b.audio user_id) (some branch) args <;> simp

theorem parse_target_method_plain {arg : PyStr} (h : ∀ branch, ¬ Names config arg branch)
    (args : List PyStr) :
    parse_target_method config user_id (arg :: args) b =
      (parse_number config (b.audio user_id) (b.user_branches.get? user_id) (arg :: args), b) := by
  unfold parse_target_method
  simp only [normalize_branch_eq_none.mpr h]

/-- It returns the target that the arguments stand for. -/
theorem parse_target_method_iff {args : List PyStr} :
    (∃ b', parse_target_method config user_id args b = (.ok target, b')) ↔
      ∃ a, Reads config args a ∧ Resolves config b user_id a target := by
  constructor
  · rintro ⟨b', h⟩
    cases args with
    | nil => cases h
    | cons arg args =>
      by_cases hnames : ∃ branch, Names config arg branch
      · obtain ⟨branch, hnames⟩ := hnames
        have hparse := (parse_target_method_named hnames args).mp ⟨b', h⟩
        cases args with
        | nil => cases hparse
        | cons number options => exact ⟨_, .named hnames, (parse_number_iff rfl).mp hparse⟩
      · rw [not_exists] at hnames
        rw [parse_target_method_plain hnames] at h
        exact ⟨_, .plain hnames, (parse_number_iff rfl).mp (congrArg Prod.fst h)⟩
  · rintro ⟨a, hreads, hresolves⟩
    cases hreads with
    | named hnames =>
      exact (parse_target_method_named hnames _).mpr ((parse_number_iff rfl).mpr hresolves)
    | plain hnames =>
      rw [parse_target_method_plain hnames]
      exact ⟨b, congrArg (·, b) ((parse_number_iff rfl).mpr hresolves)⟩

/-- Whatever it raises is a `ValueError`, and the tables stay as they are. -/
theorem parse_target_method_error {args : List PyStr} {exc : PyExc}
    (h : parse_target_method config user_id args b = (.error exc, b')) :
    b' = b ∧ ∃ text, exc = .builtin .valueError text := by
  cases args with
  | nil =>
    cases h
    exact ⟨rfl, _, rfl⟩
  | cons arg args =>
    unfold parse_target_method at h
    simp only at h
    split at h
    · split at h
      · cases h
      · next hparse =>
        obtain ⟨hexc, hsame⟩ := Prod.mk.inj h
        exact ⟨hsame.symm, Except.error.inj hexc ▸ parse_number_error hparse⟩
    · obtain ⟨hparse, hsame⟩ := Prod.mk.inj h
      exact ⟨hsame.symm, parse_number_error hparse⟩

/-- From any tables, `_parse_target` returns the target that its arguments
    stand for.  It raises `ValueError` when there is none, and that is when a
    number is missing, when it is not in the branch or in several and none is
    chosen, or when the volume or the channel is not one.  Then the tables
    are unchanged. -/
theorem parse_target_resolves (config : Config I) (b : Bot) (user_id : Int) (args : List PyStr) :
    (∀ target b', parse_target_method config user_id args b = (.ok target, b') →
      ∃ a, Reads config args a ∧ Resolves config b user_id a target) ∧
    (∀ a target, Reads config args a → Resolves config b user_id a target →
      ∃ b', parse_target_method config user_id args b = (.ok target, b')) ∧
    ((∀ a, Reads config args a → Rejected config b user_id a) →
      ∃ text, parse_target_method config user_id args b = (.error (.builtin .valueError text), b)) ∧
    (∀ exc b', parse_target_method config user_id args b = (.error exc, b') →
      (∀ a, Reads config args a → Rejected config b user_id a) ∧
      (∃ text, exc = .builtin .valueError text) ∧ b' = b) := by
  refine ⟨?_, ?_, ?_, ?_⟩
  · intro target b' h
    exact parse_target_method_iff.mp ⟨b', h⟩
  · intro a target hreads hresolves
    exact parse_target_method_iff.mpr ⟨a, hreads, hresolves⟩
  · intro hrejected
    rcases hrun : parse_target_method config user_id args b with ⟨exc | target, b'⟩
    · obtain ⟨hsame, text, htext⟩ := parse_target_method_error hrun
      exact ⟨text, by rw [hsame, htext]⟩
    · obtain ⟨a, hreads, hresolves⟩ := parse_target_method_iff.mp ⟨b', hrun⟩
      exact absurd (hrejected a hreads) hresolves.not_rejected
  · intro exc b' h
    obtain ⟨hsame, htext⟩ := parse_target_method_error h
    refine ⟨fun a hreads => ?_, htext, hsame⟩
    rcases resolves_or_rejected b user_id a with ⟨target, hresolves⟩ | hrejected
    · obtain ⟨b'', h'⟩ := parse_target_method_iff.mpr ⟨a, hreads, hresolves⟩
      rw [h] at h'
      cases h'
    · exact hrejected

end BoVpnAgent.AudioBot

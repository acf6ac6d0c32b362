import BoVpnAgent.Bot.Tables

/-! # Users do not affect each other

    A handler reads and changes the entries of the sender only: it commutes
    with leaving out the entries of everybody else.  So two runs of the
    polling loop that agree on the updates of one user agree on the entries
    of that user, whatever the other updates are.
-/

namespace BoVpnAgent.AudioBot

variable {I : Interp} {config : Config I} {env : Env} {b b' : Bot} {user_id u : Int}

/-! ### The entries of one user -/

/-- The tables without the entries of other users. -/
def Bot.only (b : Bot) (user_id : Int) : Bot where
  targets := b.targets.only user_id
  awaiting_target := b.awaiting_target.filter (· = user_id)
  awaiting_branch := b.awaiting_branch.filter (· = user_id)
  awaiting_volume := b.awaiting_volume.filter (· = user_id)
  user_branches := b.user_branches.only user_id
  user_audio := b.user_audio.only user_id

theorem filter_congr_mem {s t : Finset Int} {user_id : Int} (h : user_id ∈ s ↔ user_id ∈ t) :
    s.filter (· = user_id) = t.filter (· = user_id) := by
  ext x
  simp only [Finset.mem_filter]
  constructor
  · rintro ⟨hx, rfl⟩
    exact ⟨h.mp hx, rfl⟩
  · rintro ⟨hx, rfl⟩
    exact ⟨h.mpr hx, rfl⟩

/-- They are determined by the view. -/
theorem only_of_view (h : b.view user_id = b'.view user_id) : b.only user_id = b'.only user_id := by
  simp only [Bot.view, View.mk.injEq, eq_iff_iff] at h
  obtain ⟨htarget, hbranch, haudio, ht, hb, hv⟩ := h
  simp only [Bot.only, Dict.only_congr htarget, Dict.only_congr hbranch, Dict.only_congr haudio,
    filter_congr_mem ht, filter_congr_mem hb, filter_congr_mem hv]

@[simp] theorem view_only (b : Bot) (user_id : Int) :
    (b.only user_id).view user_id = b.view user_id := by
  simp [Bot.view, Bot.only]

theorem view_of_only (h : b.only user_id = b'.only user_id) : b.view user_id = b'.view user_id := by
  rw [← view_only b, h, view_only]

@[simp] theorem only_clear_input (b : Bot) :
    (b.clear_input user_id).only user_id = (b.only user_id).clear_input user_id := by
  simp [Bot.only, Bot.clear_input, Finset.filter_erase]

@[simp] theorem only_discard_branch (b : Bot) :
    (b.discard_branch user_id).only user_id = (b.only user_id).discard_branch user_id := by
  simp [Bot.only, Bot.discard_branch, Finset.filter_erase]

@[simp] theorem only_await_target (b : Bot) :
    (b.await_target user_id).only user_id = (b.only user_id).await_target user_id := by
  simp [Bot.only, Bot.await_target, Finset.filter_insert]

@[simp] theorem only_await_branch (b : Bot) :
    (b.await_branch user_id).only user_id = (b.only user_id).await_branch user_id := by
  simp [Bot.only, Bot.await_branch, Finset.filter_insert]

@[simp] theorem only_await_volume (b : Bot) :
    (b.await_volume user_id).only user_id = (b.only user_id).await_volume user_id := by
  simp [Bot.only, Bot.await_volume, Finset.filter_insert]

@[simp] theorem only_set_audio (b : Bot) (settings : Audio) :
    (b.set_audio user_id settings).only user_id = (b.only user_id).set_audio user_id settings := by
  cases h : b.targets.get? user_id <;> simp [Bot.only, Bot.set_audio, h]

@[simp] theorem only_set_target (b : Bot) (target : Target) :
    (b.set_target user_id target).only user_id = (b.only user_id).set_target user_id target := by
  simp [Bot.only, Bot.set_target]

@[simp] theorem only_set_branch (b : Bot) (branch : PyStr) :
    (b.set_branch user_id branch).only user_id = (b.only user_id).set_branch user_id branch := by
  simp [Bot.only, Bot.set_branch]

@[simp] theorem only_store_branch (b : Bot) (branch : PyStr) :
    (b.store_branch user_id branch).only user_id = (b.only user_id).store_branch user_id branch := by
  simp [Bot.only, Bot.store_branch]

/-! ### What a handler reads -/

@[simp] theorem audio_only (b : Bot) : (b.only user_id).audio user_id = b.audio user_id := by
  simp [Bot.audio, Bot.only]

@[simp] theorem get?_targets_only (b : Bot) :
    (b.only user_id).targets.get? user_id = b.targets.get? user_id := by
  simp [Bot.only]

@[simp] theorem get?_branches_only (b : Bot) :
    (b.only user_id).user_branches.get? user_id = b.user_branches.get? user_id := by
  simp [Bot.only]

@[simp] theorem branch_for_user_only (b : Bot) :
    branch_for_user config (b.only user_id) user_id = branch_for_user config b user_id := by
  simp [branch_for_user]

@[simp] theorem mem_awaiting_target_only (b : Bot) :
    user_id ∈ (b.only user_id).awaiting_target ↔ user_id ∈ b.awaiting_target := by
  simp [Bot.only]

@[simp] theorem mem_awaiting_branch_only (b : Bot) :
    user_id ∈ (b.only user_id).awaiting_branch ↔ user_id ∈ b.awaiting_branch := by
  simp [Bot.only]

@[simp] theorem mem_awaiting_volume_only (b : Bot) :
    user_id ∈ (b.only user_id).awaiting_volume ↔ user_id ∈ b.awaiting_volume := by
  simp [Bot.only]

@[simp] theorem panel_text_only (b : Bot) :
    panel_text config env (b.only user_id) user_id = panel_text config env b user_id := by
  simp [panel_text]

@[simp] theorem panel_rows_only (b : Bot) (mode : String) :
    panel_rows config (b.only user_id) user_id mode = panel_rows config b user_id mode := by
  simp [panel_rows]

theorem parse_target_only (b : Bot) (args : List PyStr) :
    parse_target config (b.only user_id) user_id args =
      (parse_target config b user_id args).map fun r => (r.1, r.2.only user_id) := by
  unfold parse_target
  split
  · rfl
  · next arg args =>
    rw [audio_only, get?_branches_only]
    split
    · next branch _ =>
      cases parse_number config (b.audio user_id) (some branch) args with
      | error exc => rfl
      | ok target => simp [bind, Except.bind, Except.map, pure, Except.pure]
    · cases parse_number config (b.audio user_id) (b.user_branches.get? user_id) (arg :: args) with
      | error exc => rfl
      | ok target => simp [bind, Except.bind, Except.map, pure, Except.pure]

/-! ### Handlers commute -/

/-- A handler at work, without the entries of other users. -/
def Ctx.only (c : Ctx) (user_id : Int) : Ctx where
  bot := c.bot.only user_id
  calls := c.calls.map fun e => (e.1, e.2.only user_id)

variable {c : Ctx}

@[simp] theorem bot_only (c : Ctx) (user_id : Int) : (c.only user_id).bot = c.bot.only user_id := rfl

theorem call_only (c : Ctx) (call : Call) :
    (c.only user_id).call call = (c.call call).only user_id := by
  simp [Ctx.only, Ctx.call]

theorem send_only (c : Ctx) (chat_id : Int) (text : PyStr) :
    (c.only user_id).send chat_id text = (c.send chat_id text).only user_id := call_only c _

theorem update_only {f : Bot → Bot} (hf : f (c.bot.only user_id) = (f c.bot).only user_id) :
    (c.only user_id).update f = (c.update f).only user_id := by
  simp [Ctx.only, Ctx.update, hf]

theorem replace_only (c : Ctx) (b : Bot) :
    (c.only user_id).update (fun _ => b.only user_id) = (c.update fun _ => b).only user_id := rfl

theorem clear_only (c : Ctx) :
    (c.only user_id).update (·.clear_input user_id) =
      (c.update (·.clear_input user_id)).only user_id :=
  update_only (only_clear_input c.bot).symm

theorem panel_only (c : Ctx) (chat_id : Int) (mode : String) (message_id : Option Int) :
    panel config env user_id chat_id mode message_id (c.only user_id) =
      (panel config env user_id chat_id mode message_id c).only user_id := by
  unfold panel
  simp only [bot_only, panel_text_only, panel_rows_only]
  split
  · exact call_only c _
  · rw [call_only]
    split
    · exact call_only _ _
    · rfl

theorem set_audio_only (c : Ctx) (settings : Audio) :
    set_audio user_id settings (c.only user_id) = (set_audio user_id settings c).only user_id := by
  unfold set_audio
  rw [update_only (only_set_audio c.bot settings).symm, call_only]

theorem stop_only (c : Ctx) (chat_id : Int) :
    stop env user_id chat_id (c.only user_id) = (stop env user_id chat_id c).only user_id := by
  unfold stop
  split
  · exact send_only c _ _
  · rw [call_only, send_only]

theorem handle_branch_only (c : Ctx) (chat_id : Int) (args : List PyStr) :
    handle_branch config env user_id chat_id args (c.only user_id) =
      (handle_branch config env user_id chat_id args c).only user_id := by
  unfold handle_branch
  split
  · rw [update_only (by simp), panel_only]
  · split
    · exact send_only c _ _
    · simp only
      rw [update_only (by simp), call_only, update_only (by simp), send_only]

theorem volume_command_only (c : Ctx) (chat_id : Int) (args : List PyStr) :
    volume_command config env user_id chat_id args (c.only user_id) =
      (volume_command config env user_id chat_id args c).only user_id := by
  unfold volume_command
  simp only [clear_only]
  split
  · rw [update_only (by simp), send_only]
  · split
    · split
      · rw [bot_only, audio_only, set_audio_only, panel_only]
      · rw [update_only (by simp), send_only]
    · rw [update_only (by simp), send_only]

theorem target_command_only (c : Ctx) (chat_id : Int) (args : List PyStr) :
    target_command config env user_id chat_id args (c.only user_id) =
      (target_command config env user_id chat_id args c).only user_id := by
  unfold target_command
  split
  · simp only [clear_only, bot_only, get?_branches_only, branch_for_user_only]
    split
    · exact handle_branch_only _ _ _
    · rw [update_only (by simp), send_only]
  · rw [bot_only, parse_target_only]
    cases parse_target config c.bot user_id _ with
    | error exc => exact send_only c _ _
    | ok r =>
      have hset : ((r.2.only user_id).clear_input user_id).set_target user_id r.1 =
          ((r.2.clear_input user_id).set_target user_id r.1).only user_id := by simp
      simp only [Except.map, hset]
      rw [replace_only, call_only, panel_only]

theorem handle_command_only (c : Ctx) (chat_id : Int) (text : PyStr) :
    handle_command config env user_id chat_id text (c.only user_id) =
      (handle_command config env user_id chat_id text c).only user_id := by
  unfold handle_command
  split
  · rfl
  · simp only [clear_only]
    split_ifs
    · rw [send_only, panel_only]
    · exact panel_only _ _ _ _
    · exact volume_command_only _ _ _
    · exact handle_branch_only _ _ _
    · exact target_command_only _ _ _
    · exact panel_only _ _ _ _
    · exact stop_only _ _
    · exact send_only _ _ _

theorem handle_action_only (c : Ctx) (chat_id message_id : Int) (action : PyStr) :
    handle_action config env user_id chat_id message_id action (c.only user_id) =
      (handle_action config env user_id chat_id message_id action c).only user_id := by
  unfold handle_action
  simp only [bot_only, audio_only]
  split
  · exact handle_branch_only _ _ _
  · split
    · split
      · rw [set_audio_only, panel_only]
      · rfl
    · split
      · rw [set_audio_only, panel_only]
      · split_ifs
        · rw [update_only (by simp), panel_only]
        · exact panel_only _ _ _ _
        · exact panel_only _ _ _ _
        · exact handle_command_only _ _ _
        · rfl

theorem handle_media_only (c : Ctx) (m : Message) :
    handle_media config env m (c.only m.user_id) = (handle_media config env m c).only m.user_id := by
  unfold handle_media
  split
  · exact send_only _ _ _
  · split
    · exact send_only _ _ _
    · rw [bot_only, get?_targets_only]
      split
      · exact handle_command_only _ _ _
      · split
        · exact send_only _ _ _
        · exact call_only _ _

theorem handle_message_only (c : Ctx) (m : Message) :
    handle_message config env m (c.only m.user_id) =
      (handle_message config env m c).only m.user_id := by
  unfold handle_message
  simp only [bot_only, mem_awaiting_volume_only, mem_awaiting_target_only, mem_awaiting_branch_only]
  split
  · rfl
  · split_ifs
    · exact handle_command_only _ _ _
    · exact handle_command_only _ _ _
    · exact handle_command_only _ _ _
    · rw [update_only (by simp), handle_command_only]
    · exact handle_media_only _ _

theorem handle_callback_only (c : Ctx) (cb : Callback) :
    handle_callback config env cb (c.only cb.user_id) =
      (handle_callback config env cb c).only cb.user_id := by
  unfold handle_callback
  split
  · exact call_only _ _
  · simp only [call_only]
    split
    · rfl
    · rw [clear_only, handle_action_only]

/-- The handler of an update does not see the entries of other users. -/
theorem dispatch_only (update : Update) (b : Bot) :
    dispatch config env update (b.only update.sender) =
      (dispatch config env update b).only update.sender := by
  cases update with
  | message m => exact handle_message_only ⟨b, []⟩ m
  | callback cb => exact handle_callback_only ⟨b, []⟩ cb

/-! ### Other users -/

theorem view_kept (hne : u ≠ user_id) (v : View) :
    Kept config user_id fun b => b.view u = v where
  clear b h := by simp [hne, h]
  discard b h := by simp [hne, h]
  ask_target b h := by simp [hne, h]
  ask_branch b h := by simp [hne, h]
  ask_volume b h := by simp [hne, h]
  volume b volume h _ _ := by simp [hne, h]
  channel b output h _ := by simp [hne, h]
  target b args target b' h hparse := by
    obtain ⟨-, -, -, rfl | rfl⟩ := parse_target_ok hparse
    · simp [hne, h]
    · simp [hne, h]
  branch b branch h _ := by simp [hne, h]

/-- An update leaves the entries of everybody but its sender alone. -/
theorem view_of_other {l : Update × Env} (hne : u ≠ l.1.sender)
    (hstep : (polling config).step b l b') : b'.view u = b.view u :=
  polling_step (P := fun s => s.view u = b.view u) (fun _ => view_kept hne _) rfl hstep

/-- An update of a sender who is not allowed changes nothing. -/
theorem unallowed_unchanged {l : Update × Env} (hnot : l.1.sender ∉ config.allowed_users)
    (hstep : (polling config).step b l b') : b' = b :=
  polling_step (P := fun s => s = b) (fun hallowed => absurd hallowed hnot) rfl hstep

/-! ### Two runs -/

/-- The tables after a sequence of updates; `none` when an exception leaves
    `run`. -/
def handleAll (config : Config I) : List (Update × Env) → Bot → Option Bot
  | [], b => some b
  | l :: ls, b => ((polling config).next b l).bind (handleAll config ls)

/-- The updates of one sender. -/
def sentBy (user_id : Int) (ls : List (Update × Env)) : List (Update × Env) :=
  ls.filter fun l => l.1.sender = user_id

/-- Two handlers of one update, whose sender's entries agree, end with
    entries that agree. -/
theorem settle_view {calls calls' : List (Call × Bot)} {raises : List Bool} {final final' : Bot}
    (hcalls : calls.map (fun e => (e.1, e.2.only user_id)) =
      calls'.map fun e => (e.1, e.2.only user_id))
    (hfinal : final.only user_id = final'.only user_id)
    (h : settle I raises calls final = some b) (h' : settle I raises calls' final' = some b') :
    b.view user_id = b'.view user_id := by
  induction calls generalizing calls' raises with
  | nil =>
    rw [List.map_nil, eq_comm, List.map_eq_nil_iff] at hcalls
    subst hcalls
    cases h
    cases h'
    exact view_of_only hfinal
  | cons e calls ih =>
    cases calls' with
    | nil => cases hcalls
    | cons e' calls' =>
      rw [List.map_cons, List.map_cons, List.cons.injEq, Prod.mk.injEq] at hcalls
      unfold settle at h h'
      by_cases hraise : raises.headD false = true
      · rw [if_pos hraise] at h h'
        cases h
        cases h'
        exact view_of_only hcalls.1.2
      · rw [if_neg hraise] at h h'
        split at h
        · cases h
        · split at h'
          · cases h'
          · exact ih hcalls.2 h h'

theorem step_view {l : Update × Env} {c c' : Bot} (h : b.view l.1.sender = b'.view l.1.sender)
    (hstep : (polling config).step b l c) (hstep' : (polling config).step b' l c') :
    c.view l.1.sender = c'.view l.1.sender := by
  have honly : (dispatch config l.2 l.1 b).only l.1.sender =
      (dispatch config l.2 l.1 b').only l.1.sender := by
    rw [← dispatch_only, ← dispatch_only, only_of_view h]
  exact settle_view (congrArg Ctx.calls honly) (congrArg Ctx.bot honly) hstep hstep'

theorem handleAll_view {ls : List (Update × Env)} {c c' : Bot} (h : handleAll config ls b = some c)
    (h' : handleAll config (sentBy user_id ls) b' = some c')
    (hview : b.view user_id = b'.view user_id) : c.view user_id = c'.view user_id := by
  induction ls generalizing b b' with
  | nil =>
    cases h
    cases h'
    exact hview
  | cons l ls ih =>
    obtain ⟨b₁, hstep, h⟩ := Option.bind_eq_some_iff.mp h
    by_cases hsender : l.1.sender = user_id
    · have hsent : sentBy user_id (l :: ls) = l :: sentBy user_id ls :=
        List.filter_cons_of_pos (decide_eq_true hsender)
      rw [hsent] at h'
      obtain ⟨b₁', hstep', h'⟩ := Option.bind_eq_some_iff.mp h'
      refine ih h h' ?_
      subst hsender
      exact step_view hview hstep hstep'
    · have hsent : sentBy user_id (l :: ls) = sentBy user_id ls :=
        List.filter_cons_of_neg (by simpa using hsender)
      rw [hsent] at h'
      refine ih h h' ?_
      rw [view_of_other (Ne.symm hsender) hstep, hview]

/-! ### Settings that can be saved -/

theorem scalar_channel {output : PyStr} (h : IsChannel output) : output.Scalar := by
  obtain ⟨text, htext⟩ := Option.isSome_iff_exists.mp h
  obtain ⟨e, he, -⟩ := Option.map_eq_some_iff.mp htext
  have hkey := List.find?_some he
  rw [← of_decide_eq_true hkey]
  exact PyStr.scalar_py e.1

theorem scalar_number {branch number ip : PyStr} (h : config.address? branch number = some ip) :
    IsNumber number := by
  obtain ⟨address, haddress, -⟩ := Option.map_eq_some_iff.mp h
  obtain ⟨mapping, -, hnumber⟩ := Option.bind_eq_some_iff.mp haddress
  exact mapping.keys number address hnumber

theorem renderable_volume {volume : Int} (h : 1 ≤ volume ∧ volume ≤ 100) :
    Json.RenderableAt I 2 (.int volume) := by
  have hdumps := I.dumps_min
  have hdigits := I.digits_min
  have hshort : (Nat.toDigits 10 volume.natAbs).length ≤ 3 := by
    rw [Nat.length_toDigits_le_iff (by decide) (by decide)]
    omega
  refine ⟨?_, ?_⟩
  · show 2 + 0 ≤ I.dumps_depth
    omega
  · show (Nat.toDigits 10 volume.natAbs).length ≤ I.int_max_str_digits
    omega

/-- The settings of a user can be written out if the branch can. -/
theorem renderable_user (h : TablesOk config b) (user_id : Int) :
    Json.RenderableAt I 1 (user_json b user_id) ↔
      ∀ branch, b.user_branches.get? user_id = some branch → branch.Scalar := by
  have hdumps := I.dumps_min
  have hnull : Json.RenderableAt I 2 .null := ⟨by simp only [Json.depth]; omega, trivial⟩
  have hstr : ∀ s, Json.RenderableAt I 2 (.str s) ↔ s.Scalar :=
    fun s => Json.renderableAt_str (by omega)
  rw [user_json, Json.renderableAt_obj (by omega)]
  constructor
  · intro hall branch hbranch
    have hmem := hall ("branch".py, .str branch) (by simp [hbranch])
    exact (hstr branch).mp hmem.2
  · intro hscalar e he
    rcases List.mem_append.mp he with he | he
    · split at he
      · next audio haudio =>
        have hvalid := (h user_id).audio audio haudio
        simp only [List.mem_cons, List.not_mem_nil, or_false] at he
        rcases he with rfl | rfl
        · exact ⟨PyStr.scalar_py _, renderable_volume hvalid.1⟩
        · exact ⟨PyStr.scalar_py _, (hstr _).mpr (scalar_channel hvalid.2)⟩
      · cases he
    · simp only [List.mem_cons, List.not_mem_nil, or_false] at he
      rcases he with rfl | rfl
      · refine ⟨PyStr.scalar_py _, ?_⟩
        cases hbranch : b.user_branches.get? user_id with
        | none => exact hnull
        | some branch => exact (hstr branch).mpr (hscalar branch hbranch)
      · refine ⟨PyStr.scalar_py _, ?_⟩
        cases htarget : b.targets.get? user_id with
        | none => exact hnull
        | some target =>
          obtain ⟨-, haddress, -⟩ := (h user_id).target target htarget
          exact (hstr target.number).mpr (scalar_number haddress).scalar

theorem mem_users {user_id : Int} :
    user_id ∈ b.users ↔
      (b.user_branches.get? user_id).isSome ∨ (b.user_audio.get? user_id).isSome := by
  rw [Bot.users, List.mem_dedup, List.mem_append, Dict.mem_keys_iff, Dict.mem_keys_iff]

/-- The settings can be saved if every branch can be encoded. -/
theorem saves_iff (h : TablesOk config b) :
    saves I b = true ↔
      ∀ user_id branch, b.user_branches.get? user_id = some branch → branch.Scalar := by
  have hdumps := I.dumps_min
  have hok : saves I b = true ↔ ∃ bytes, saved I b b.users = .ok bytes := by
    unfold saves
    cases saved I b b.users with
    | ok bytes => simp
    | error exc => simp
  rw [hok, saved, Json.dumpsUtf8_ok_iff rfl, Json.renderable_iff, users_json,
    Json.renderableAt_obj (by omega)]
  constructor
  · intro hall user_id branch hbranch
    have hmem : user_id ∈ b.users := mem_users.mpr (.inl (by rw [hbranch]; rfl))
    have huser := hall _ (List.mem_map_of_mem hmem)
    exact (renderable_user h user_id).mp huser.2 branch hbranch
  · intro hscalar e he
    obtain ⟨user_id, -, rfl⟩ := List.mem_map.mp he
    exact ⟨Json.scalar_intRepr _, (renderable_user h user_id).mpr (hscalar user_id)⟩

/-! ### The updates of one sender can be handled -/

theorem Kept.all {ι : Type} {P : ι → Bot → Prop} (h : ∀ i, Kept config user_id (P i)) :
    Kept config user_id fun b => ∀ i, P i b where
  clear b hb i := (h i).clear b (hb i)
  discard b hb i := (h i).discard b (hb i)
  ask_target b hb i := (h i).ask_target b (hb i)
  ask_branch b hb i := (h i).ask_branch b (hb i)
  ask_volume b hb i := (h i).ask_volume b (hb i)
  volume b volume hb hlow hhigh i := (h i).volume b volume (hb i) hlow hhigh
  channel b output hb houtput i := (h i).channel b output (hb i) houtput
  target b args target b' hb hparse i := (h i).target b args target b' (hb i) hparse
  branch b branch hb hsome :=
    ⟨fun i => ((h i).branch b branch (hb i) hsome).1, fun i => ((h i).branch b branch (hb i) hsome).2⟩

/-- Only `user_id` has entries. -/
def Alone (user_id : Int) (b : Bot) : Prop := ∀ u : {u // u ≠ user_id}, b.view u.val = View.empty

theorem alone_kept : Kept config user_id (Alone user_id) :=
  Kept.all fun u => view_kept u.property View.empty

/-- If the settings of all users can be saved, so can those of one alone. -/
theorem saves_alone (h : TablesOk config b) (h' : TablesOk config b') (halone : Alone user_id b')
    (hview : b.view user_id = b'.view user_id) (hsaves : saves I b = true) :
    saves I b' = true := by
  rw [saves_iff h] at hsaves
  rw [saves_iff h']
  intro u branch hbranch
  by_cases hu : u = user_id
  · subst hu
    refine hsaves u branch ?_
    have heq : (b.view u).branch = (b'.view u).branch := congrArg View.branch hview
    exact heq.trans hbranch
  · have hnone : (b'.view u).branch = none := congrArg View.branch (halone ⟨u, hu⟩)
    rw [show (b'.view u).branch = some branch from hbranch] at hnone
    cases hnone

theorem settle_alone {calls calls' : List (Call × Bot)} {raises : List Bool} {final final' : Bot}
    (hok : ∀ e ∈ calls, TablesOk config e.2)
    (hok' : ∀ e ∈ calls', TablesOk config e.2 ∧ Alone user_id e.2)
    (hcalls : calls.map (fun e => (e.1, e.2.only user_id)) =
      calls'.map fun e => (e.1, e.2.only user_id))
    (h : settle I raises calls final = some b) :
    ∃ b', settle I raises calls' final' = some b' := by
  induction calls generalizing calls' raises with
  | nil =>
    rw [List.map_nil, eq_comm, List.map_eq_nil_iff] at hcalls
    subst hcalls
    exact ⟨final', rfl⟩
  | cons e calls ih =>
    cases calls' with
    | nil => cases hcalls
    | cons e' calls' =>
      rw [List.map_cons, List.map_cons, List.cons.injEq, Prod.mk.injEq] at hcalls
      obtain ⟨⟨hcall, honly⟩, hcalls⟩ := hcalls
      rw [List.forall_mem_cons] at hok hok'
      unfold settle at h ⊢
      -- a call that raises ends the turn, a save that fails stops the bot
      by_cases hraise : raises.headD false = true
      · rw [if_pos hraise]
        exact ⟨e'.2, rfl⟩
      · rw [if_neg hraise] at h ⊢
        rw [hcall] at h
        by_cases hsave : (e'.1.isSave && !saves I e.2) = true
        · rw [if_pos hsave] at h
          cases h
        · rw [if_neg hsave] at h
          have hsave' : ¬ (e'.1.isSave && !saves I e'.2) = true := by
            intro hbad
            rw [Bool.and_eq_true, Bool.not_eq_true'] at hbad
            have hsaves : saves I e.2 = true := by
              simpa [hbad.1] using hsave
            have hsaves' := saves_alone hok.1 hok'.1.1 hok'.1.2 (view_of_only honly) hsaves
            rw [hbad.2] at hsaves'
            cases hsaves'
          rw [if_neg hsave']
          exact ih hok.2 hok'.2 hcalls h

theorem step_alone {l : Update × Env} {c : Bot} (hok : TablesOk config b) (hok' : TablesOk config b')
    (halone : Alone l.1.sender b') (hview : b.view l.1.sender = b'.view l.1.sender)
    (hstep : (polling config).step b l c) : ∃ c', (polling config).step b' l c' := by
  have honly : (dispatch config l.2 l.1 b).only l.1.sender =
      (dispatch config l.2 l.1 b').only l.1.sender := by
    rw [← dispatch_only, ← dispatch_only, only_of_view hview]
  have hcalls : Always (TablesOk config) (dispatch config l.2 l.1 b) :=
    always_dispatch (fun hallowed => tablesOk_kept hallowed) hok
  have hcalls' : Always (TablesOk config) (dispatch config l.2 l.1 b') :=
    always_dispatch (fun hallowed => tablesOk_kept hallowed) hok'
  have halone' : Always (Alone l.1.sender) (dispatch config l.2 l.1 b') :=
    always_dispatch (fun _ => alone_kept) halone
  exact settle_alone hcalls.calls (fun e he => ⟨hcalls'.calls e he, halone'.calls e he⟩)
    (congrArg Ctx.calls honly) hstep

theorem handleAll_alone {ls : List (Update × Env)} {c : Bot} (h : handleAll config ls b = some c)
    (hok : TablesOk config b) (hok' : TablesOk config b') (halone : Alone user_id b')
    (hview : b.view user_id = b'.view user_id) :
    ∃ c', handleAll config (sentBy user_id ls) b' = some c' := by
  induction ls generalizing b b' with
  | nil => exact ⟨b', rfl⟩
  | cons l ls ih =>
    obtain ⟨b₁, hstep, h⟩ := Option.bind_eq_some_iff.mp h
    have hok₁ : TablesOk config b₁ :=
      polling_step (fun hallowed => tablesOk_kept hallowed) hok hstep
    by_cases hsender : l.1.sender = user_id
    · have hsent : sentBy user_id (l :: ls) = l :: sentBy user_id ls :=
        List.filter_cons_of_pos (decide_eq_true hsender)
      subst hsender
      obtain ⟨b₁', hstep'⟩ := step_alone hok hok' halone hview hstep
      have hok₁' : TablesOk config b₁' :=
        polling_step (fun hallowed => tablesOk_kept hallowed) hok' hstep'
      have halone₁ : Alone l.1.sender b₁' := polling_step (fun _ => alone_kept) halone hstep'
      obtain ⟨c', hc'⟩ := ih h hok₁ hok₁' halone₁ (step_view hview hstep hstep')
      refine ⟨c', ?_⟩
      rw [hsent]
      exact Option.bind_eq_some_iff.mpr ⟨b₁', hstep', hc'⟩
    · have hsent : sentBy user_id (l :: ls) = sentBy user_id ls :=
        List.filter_cons_of_neg (by simpa using hsender)
      rw [hsent]
      refine ih h hok₁ hok' halone ?_
      rw [view_of_other (Ne.symm hsender) hstep, hview]

/-- The entries of a user after a sequence of updates are those after the
    user's own updates alone, from any tables, and these can be handled when
    the whole sequence can.  A sender who is not allowed changes nothing. -/
theorem users_isolated (config : Config I) (user_id : Int) (ls : List (Update × Env)) :
    (∀ b₀ b b', handleAll config ls b₀ = some b →
      handleAll config (sentBy user_id ls) b₀ = some b' → b.view user_id = b'.view user_id) ∧
    (∀ b, handleAll config ls Bot.empty = some b →
      ∃ b', handleAll config (sentBy user_id ls) Bot.empty = some b') ∧
    (∀ l b b', l.1.sender ∉ config.allowed_users → (polling config).step b l b' → b' = b) := by
  refine ⟨?_, ?_, ?_⟩
  · intro b₀ b b' h h'
    exact handleAll_view h h' rfl
  · intro b h
    have hok : TablesOk config Bot.empty := tables_ok Lts.Reachable.init
    exact handleAll_alone h hok hok (fun u => view_empty u.val) rfl
  · intro l b b' hnot hstep
    exact unallowed_unchanged hnot hstep

theorem users_isolated_sample :
    ∃ b b', handleAll sampleBotConfig sampleUpdates Bot.empty = some b ∧
      handleAll sampleBotConfig (sentBy 101 sampleUpdates) Bot.empty = some b' ∧
      b.view 101 = b'.view 101 := by
  have hsome : (handleAll sampleBotConfig sampleUpdates Bot.empty).isSome = true := by
    decide +kernel
  obtain ⟨hview, halone, -⟩ := users_isolated sampleBotConfig 101 sampleUpdates
  obtain ⟨b, hb⟩ := Option.isSome_iff_exists.mp hsome
  obtain ⟨b', hb'⟩ := halone b hb
  exact ⟨b, b', hb, hb', hview Bot.empty b b' hb hb'⟩

end BoVpnAgent.AudioBot

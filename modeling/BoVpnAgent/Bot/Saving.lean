import BoVpnAgent.Bot.Restart

/-! # Settings are saved as they change

    The settings of a user are the branch, the volume, the channel and the
    target.  A handler changes them at most once and then calls
    `_save_settings` before it does anything else, so the tables at any call
    have the settings from before the update or those that are saved.
-/

namespace BoVpnAgent.AudioBot

variable {I : Interp} {config : Config I} {env : Env} {b b₁ b₂ : Bot} {user_id : Int} {c : Ctx}

/-- Every user has the same settings in two bots. -/
def AllSame (b b' : Bot) : Prop := ∀ u, SameSettings b b' u

theorem AllSame.refl (b : Bot) : AllSame b b := fun _ => ⟨rfl, rfl, rfl⟩

theorem AllSame.symm (h : AllSame b b₁) : AllSame b₁ b :=
  fun u => ⟨(h u).branch.symm, (h u).audio.symm, (h u).target.symm⟩

theorem AllSame.trans (h : AllSame b b₁) (h' : AllSame b₁ b₂) : AllSame b b₂ := fun u =>
  ⟨(h' u).branch.trans (h u).branch, (h' u).audio.trans (h u).audio,
    (h' u).target.trans (h u).target⟩

/-! ### Changes of the input mode -/

theorem same_clear_input (b : Bot) (user_id : Int) : AllSame b (b.clear_input user_id) :=
  fun _ => ⟨rfl, rfl, rfl⟩

theorem same_discard_branch (b : Bot) (user_id : Int) : AllSame b (b.discard_branch user_id) :=
  fun _ => ⟨rfl, rfl, rfl⟩

theorem same_await_target (b : Bot) (user_id : Int) : AllSame b (b.await_target user_id) :=
  fun _ => ⟨rfl, rfl, rfl⟩

theorem same_await_branch (b : Bot) (user_id : Int) : AllSame b (b.await_branch user_id) :=
  fun _ => ⟨rfl, rfl, rfl⟩

theorem same_await_volume (b : Bot) (user_id : Int) : AllSame b (b.await_volume user_id) :=
  fun _ => ⟨rfl, rfl, rfl⟩

/-! ### The calls of a handler -/

/-- None of the calls saves, and the settings are those of `b` throughout. -/
structure Unchanged (b : Bot) (calls : List (Call × Bot)) (final : Bot) : Prop where
  calls : ∀ e ∈ calls, e.1.isSave = false ∧ AllSame b e.2
  final : AllSame b final

/-- The settings stay those of `b`, or they change to those of `saved` right
    in front of the one call that saves them. -/
inductive SavesOnce (b : Bot) (calls : List (Call × Bot)) (final : Bot) : Prop where
  | unchanged (h : Unchanged b calls final)
  | saved (before after : List (Call × Bot)) (saved : Bot)
      (hcalls : calls = before ++ (.save_settings, saved) :: after) (hbefore : Unchanged b before b)
      (hafter : Unchanged saved after final)

theorem Unchanged.call (h : Unchanged b c.calls c.bot) {call : Call} (hcall : call.isSave = false) :
    Unchanged b (c.call call).calls (c.call call).bot where
  calls e he := by
    rcases List.mem_append.mp he with he | he
    · exact h.calls e he
    · rw [List.mem_singleton.mp he]
      exact ⟨hcall, h.final⟩
  final := h.final

theorem Unchanged.update (h : Unchanged b c.calls c.bot) {f : Bot → Bot}
    (hf : AllSame c.bot (f c.bot)) : Unchanged b (c.update f).calls (c.update f).bot :=
  ⟨h.calls, h.final.trans hf⟩

theorem SavesOnce.call (h : SavesOnce b c.calls c.bot) {call : Call} (hcall : call.isSave = false) :
    SavesOnce b (c.call call).calls (c.call call).bot := by
  cases h with
  | unchanged h => exact .unchanged (h.call hcall)
  | saved before after saved hcalls hbefore hafter =>
    have hafter' := Unchanged.call (c := ⟨c.bot, after⟩) hafter hcall
    refine .saved before (after ++ [(call, c.bot)]) saved ?_ hbefore hafter'
    rw [Ctx.call, hcalls, List.append_assoc, List.cons_append]

theorem SavesOnce.update (h : SavesOnce b c.calls c.bot) {f : Bot → Bot}
    (hf : AllSame c.bot (f c.bot)) : SavesOnce b (c.update f).calls (c.update f).bot := by
  cases h with
  | unchanged h => exact .unchanged (h.update hf)
  | saved before after saved hcalls hbefore hafter =>
    exact .saved before after saved hcalls hbefore ⟨hafter.calls, hafter.final.trans hf⟩

/-- A change of the settings that is saved. -/
theorem Unchanged.save (h : Unchanged b c.calls c.bot) (f : Bot → Bot) :
    SavesOnce b ((c.update f).call .save_settings).calls (f c.bot) :=
  .saved c.calls [] (f c.bot) rfl ⟨h.calls, .refl b⟩ ⟨List.forall_mem_nil _, .refl _⟩

/-! ### The handlers -/

theorem saves_panel (h : SavesOnce b c.calls c.bot) (chat_id : Int) (mode : String)
    (message_id : Option Int) :
    SavesOnce b (panel config env user_id chat_id mode message_id c).calls
      (panel config env user_id chat_id mode message_id c).bot := by
  unfold panel
  cases message_id with
  | none => exact h.call rfl
  | some message_id =>
    simp only
    split
    · exact (h.call rfl).call rfl
    · exact h.call rfl

theorem saves_stop (h : SavesOnce b c.calls c.bot) (chat_id : Int) :
    SavesOnce b (stop env user_id chat_id c).calls (stop env user_id chat_id c).bot := by
  unfold stop
  split
  · exact h.call rfl
  · exact (h.call rfl).call rfl

theorem saves_handle_branch (h : Unchanged b c.calls c.bot) (chat_id : Int) (args : List PyStr) :
    SavesOnce b (handle_branch config env user_id chat_id args c).calls
      (handle_branch config env user_id chat_id args c).bot := by
  unfold handle_branch
  split
  · refine saves_panel (.unchanged (h.update ?_)) _ _ _
    exact (same_clear_input _ _).trans (same_await_branch _ _)
  · split
    · exact .unchanged (h.call rfl)
    · next branch _ =>
      have hsaved := h.save fun b => (b.clear_input user_id).set_branch user_id branch
      exact (SavesOnce.update hsaved (same_await_target _ _)).call rfl

theorem saves_volume_command (h : Unchanged b c.calls c.bot) (chat_id : Int) (args : List PyStr) :
    SavesOnce b (volume_command config env user_id chat_id args c).calls
      (volume_command config env user_id chat_id args c).bot := by
  have hclear := h.update (f := (·.clear_input user_id)) (same_clear_input c.bot user_id)
  have hask := hclear.update (f := (·.await_volume user_id)) (same_await_volume _ user_id)
  unfold volume_command
  split
  · exact .unchanged (hask.call rfl)
  · split
    · split
      · exact saves_panel (hclear.save _) _ _ _
      · exact .unchanged (hask.call rfl)
    · exact .unchanged (hask.call rfl)

theorem saves_target_command (h : Unchanged b c.calls c.bot) (chat_id : Int) (args : List PyStr) :
    SavesOnce b (target_command config env user_id chat_id args c).calls
      (target_command config env user_id chat_id args c).bot := by
  have hclear := h.update (f := (·.clear_input user_id)) (same_clear_input c.bot user_id)
  unfold target_command
  split
  · simp only
    split
    · exact saves_handle_branch hclear _ _
    · exact .unchanged
        ((hclear.update (f := (·.await_target user_id)) (same_await_target _ user_id)).call rfl)
  · split
    · exact .unchanged (h.call rfl)
    · exact saves_panel (h.save _) _ _ _

theorem saves_handle_command (h : Unchanged b c.calls c.bot) (chat_id : Int) (text : PyStr) :
    SavesOnce b (handle_command config env user_id chat_id text c).calls
      (handle_command config env user_id chat_id text c).bot := by
  have hclear := h.update (f := (·.clear_input user_id)) (same_clear_input c.bot user_id)
  unfold handle_command
  split
  · exact .unchanged h
  · simp only
    split_ifs
    · exact saves_panel (.unchanged (hclear.call rfl)) _ _ _
    · exact saves_panel (.unchanged hclear) _ _ _
    · exact saves_volume_command h _ _
    · exact saves_handle_branch h _ _
    · exact saves_target_command h _ _
    · exact saves_panel (.unchanged hclear) _ _ _
    · exact saves_stop (.unchanged hclear) _
    · exact .unchanged (h.call rfl)

theorem saves_handle_action (h : Unchanged b c.calls c.bot) (chat_id message_id : Int)
    (action : PyStr) :
    SavesOnce b (handle_action config env user_id chat_id message_id action c).calls
      (handle_action config env user_id chat_id message_id action c).bot := by
  unfold handle_action
  split
  · exact saves_handle_branch h _ _
  · split
    · simp only
      split
      · exact saves_panel (h.save _) _ _ _
      · exact .unchanged h
    · split
      · exact saves_panel (h.save _) _ _ _
      · split_ifs
        · exact saves_panel (.unchanged (h.update (same_await_branch _ _))) _ _ _
        · exact saves_panel (.unchanged h) _ _ _
        · exact saves_panel (.unchanged h) _ _ _
        · exact saves_handle_command h _ _
        · exact .unchanged h

theorem saves_handle_media (m : Message) (h : Unchanged b c.calls c.bot) :
    SavesOnce b (handle_media config env m c).calls (handle_media config env m c).bot := by
  unfold handle_media
  split
  · exact .unchanged (h.call rfl)
  · split
    · exact .unchanged (h.call rfl)
    · split
      · exact saves_handle_command h _ _
      · split
        · exact .unchanged (h.call rfl)
        · exact .unchanged (h.call rfl)

theorem saves_handle_message (m : Message) (h : Unchanged b c.calls c.bot) :
    SavesOnce b (handle_message config env m c).calls (handle_message config env m c).bot := by
  unfold handle_message
  split
  · exact .unchanged h
  · simp only
    split_ifs
    · exact saves_handle_command h _ _
    · exact saves_handle_command h _ _
    · exact saves_handle_command h _ _
    · exact saves_handle_command (h.update (same_discard_branch _ _)) _ _
    · exact saves_handle_media m h

theorem saves_handle_callback (cb : Callback) (h : Unchanged b c.calls c.bot) :
    SavesOnce b (handle_callback config env cb c).calls (handle_callback config env cb c).bot := by
  unfold handle_callback
  split
  · exact .unchanged (h.call rfl)
  · simp only
    split
    · exact .unchanged (h.call rfl)
    · exact saves_handle_action ((h.call rfl).update (same_clear_input _ _)) _ _ _

/-- Whatever the update is, its handler saves what it changes. -/
theorem saves_dispatch (config : Config I) (env : Env) (update : Update) (b : Bot) :
    SavesOnce b (dispatch config env update b).calls (dispatch config env update b).bot := by
  have hstart : Unchanged b (⟨b, []⟩ : Ctx).calls (⟨b, []⟩ : Ctx).bot :=
    ⟨List.forall_mem_nil _, .refl b⟩
  cases update with
  | message m => exact saves_handle_message m hstart
  | callback cb => exact saves_handle_callback cb hstart

/-! ### What is left of the calls -/

variable {call : Call} {calls : List (Call × Bot)} {final : Bot}

theorem SavesOnce.nil (h : SavesOnce b [] final) : AllSame b final := by
  cases h with
  | unchanged h => exact h.final
  | saved before after saved hcalls => cases before <;> cases hcalls

/-- Behind the call that saves nothing changes. -/
theorem SavesOnce.at_save (h : SavesOnce b ((.save_settings, b₁) :: calls) final) :
    Unchanged b₁ calls final := by
  cases h with
  | unchanged h =>
    have hsave := (h.calls _ List.mem_cons_self).1
    cases hsave
  | saved before after saved hcalls hbefore hafter =>
    cases before with
    | nil =>
      cases hcalls
      exact hafter
    | cons e before =>
      obtain ⟨he, -⟩ := List.cons.inj hcalls
      have hsave := (hbefore.calls _ List.mem_cons_self).1
      rw [← he] at hsave
      cases hsave

/-- In front of it too, and it is still to come. -/
theorem SavesOnce.at_call (h : SavesOnce b ((call, b₁) :: calls) final)
    (hcall : call.isSave = false) : AllSame b b₁ ∧ SavesOnce b calls final := by
  cases h with
  | unchanged h =>
    obtain ⟨hfirst, hrest⟩ := List.forall_mem_cons.mp h.calls
    exact ⟨hfirst.2, .unchanged ⟨hrest, h.final⟩⟩
  | saved before after saved hcalls hbefore hafter =>
    cases before with
    | nil =>
      obtain ⟨he, -⟩ := List.cons.inj hcalls
      rw [(Prod.mk.inj he).1] at hcall
      cases hcall
    | cons e before =>
      obtain ⟨he, hrest⟩ := List.cons.inj hcalls
      obtain ⟨hfirst, hbefore'⟩ := List.forall_mem_cons.mp hbefore.calls
      rw [← he] at hfirst
      exact ⟨hfirst.2, .saved before after saved hrest ⟨hbefore', hbefore.final⟩ hafter⟩

end BoVpnAgent.AudioBot

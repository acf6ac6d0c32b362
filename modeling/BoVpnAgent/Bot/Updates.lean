import BoVpnAgent.Bot.Settings

/-! # What an update does to the tables

    Every change that a handler makes to the tables is one of eight, all of
    them for the sender of the update.  A property of the tables that these
    changes keep therefore holds at every call of a handler and at its end,
    and so in every state of the polling loop.
-/

namespace BoVpnAgent.AudioBot

variable {I : Interp} {config : Config I} {env : Env} {P : Bot → Prop} {user_id : Int}

/-! ### The changes -/

variable (config) in
/-- The changes of the handlers for `user_id` keep `P`. -/
structure Kept (user_id : Int) (P : Bot → Prop) : Prop where
  clear : ∀ b, P b → P (b.clear_input user_id)
  discard : ∀ b, P b → P (b.discard_branch user_id)
  ask_target : ∀ b, P b → P ((b.clear_input user_id).await_target user_id)
  ask_branch : ∀ b, P b → P ((b.clear_input user_id).await_branch user_id)
  ask_volume : ∀ b, P b → P ((b.clear_input user_id).await_volume user_id)
  volume : ∀ b volume, P b → 1 ≤ volume → volume ≤ 100 →
    P (b.set_audio user_id { b.audio user_id with volume })
  channel : ∀ b output, P b → IsChannel output →
    P (b.set_audio user_id { b.audio user_id with output })
  target : ∀ b args target b', P b → parse_target config b user_id args = .ok (target, b') →
    P ((b'.clear_input user_id).set_target user_id target)
  branch : ∀ b branch, P b → (config.vehicle_maps.get? branch).isSome →
    P ((b.clear_input user_id).set_branch user_id branch) ∧
    P (((b.clear_input user_id).set_branch user_id branch).await_target user_id)

@[simp] theorem clear_input_clear_input (b : Bot) :
    (b.clear_input user_id).clear_input user_id = b.clear_input user_id := by
  simp [Bot.clear_input]

theorem isSome_normalize_branch {value branch : PyStr}
    (h : config.normalize_branch value = some branch) :
    (config.vehicle_maps.get? branch).isSome := by
  unfold Config.normalize_branch normalize_branch at h
  split at h
  · cases h
  · split at h
    · next b hb =>
      cases h
      exact (Option.filter_eq_some_iff.mp hb).2
    · split at h
      · next hsome => cases h; exact hsome
      · cases h

/-! ### At every call -/

/-- `P` holds at every call so far and now. -/
structure Always (P : Bot → Prop) (c : Ctx) : Prop where
  calls : ∀ e ∈ c.calls, P e.2
  now : P c.bot

variable {c : Ctx}

theorem Always.call (h : Always P c) (call : Call) : Always P (c.call call) := by
  refine ⟨fun e he => ?_, h.now⟩
  rcases List.mem_append.mp he with he | he
  · exact h.calls e he
  · rw [List.mem_singleton.mp he]
    exact h.now

theorem Always.send (h : Always P c) (chat_id : Int) (text : PyStr) :
    Always P (c.send chat_id text) := h.call _

theorem Always.update {f : Bot → Bot} (h : Always P c) (hf : P (f c.bot)) :
    Always P (c.update f) := ⟨h.calls, hf⟩

theorem always_panel (h : Always P c) (chat_id : Int) (mode : String) (message_id : Option Int) :
    Always P (panel config env user_id chat_id mode message_id c) := by
  unfold panel
  cases message_id with
  | none => exact h.call _
  | some message_id =>
    simp only
    split
    · exact (h.call _).call _
    · exact h.call _

theorem always_set_audio {settings : Audio} (h : Always P c)
    (hset : P (c.bot.set_audio user_id settings)) : Always P (set_audio user_id settings c) :=
  (h.update hset).call _

theorem always_stop (h : Always P c) (chat_id : Int) : Always P (stop env user_id chat_id c) := by
  unfold stop
  split
  · exact h.send _ _
  · exact (h.call _).send _ _

variable (hkept : Kept config user_id P)
include hkept

theorem always_handle_branch (h : Always P c) (chat_id : Int) (args : List PyStr) :
    Always P (handle_branch config env user_id chat_id args c) := by
  unfold handle_branch
  split
  · exact always_panel (h.update (hkept.ask_branch c.bot h.now)) _ _ _
  · next arg args =>
    split
    · exact h.send _ _
    · next branch hbranch =>
      obtain ⟨hset, hawait⟩ := hkept.branch c.bot branch h.now (isSome_normalize_branch hbranch)
      have hsaved := (h.update (f := fun b => (b.clear_input user_id).set_branch user_id branch)
        hset).call .save_settings
      exact (hsaved.update hawait).send _ _

theorem always_volume_command (h : Always P c) (chat_id : Int) (args : List PyStr) :
    Always P (volume_command config env user_id chat_id args c) := by
  have hclear := h.update (f := (·.clear_input user_id)) (hkept.clear c.bot h.now)
  have hask := hclear.update (f := (·.await_volume user_id)) (hkept.ask_volume c.bot h.now)
  unfold volume_command
  split
  · exact hask.send _ _
  · split
    · next volume _ =>
      split
      · next hrange =>
        have hset := hkept.volume _ volume hclear.now hrange.1 hrange.2
        exact always_panel (always_set_audio hclear hset) _ _ _
      · exact hask.send _ _
    · exact hask.send _ _

theorem always_target_command (h : Always P c) (chat_id : Int) (args : List PyStr) :
    Always P (target_command config env user_id chat_id args c) := by
  have hclear := h.update (f := (·.clear_input user_id)) (hkept.clear c.bot h.now)
  unfold target_command
  split
  · simp only
    split
    · exact always_handle_branch hkept hclear _ _
    · exact (hclear.update (f := (·.await_target user_id)) (hkept.ask_target c.bot h.now)).send _ _
  · split
    · exact h.send _ _
    · next target b hparse =>
      have hset := hkept.target c.bot _ target b h.now hparse
      exact always_panel ((h.update (f := fun _ => (b.clear_input user_id).set_target user_id target)
        hset).call _) _ _ _

theorem always_handle_command (h : Always P c) (chat_id : Int) (text : PyStr) :
    Always P (handle_command config env user_id chat_id text c) := by
  have hclear := h.update (f := (·.clear_input user_id)) (hkept.clear c.bot h.now)
  unfold handle_command
  split
  · exact h
  · simp only
    split_ifs
    · exact always_panel (hclear.send _ _) _ _ _
    · exact always_panel hclear _ _ _
    · exact always_volume_command hkept h _ _
    · exact always_handle_branch hkept h _ _
    · exact always_target_command hkept h _ _
    · exact always_panel hclear _ _ _
    · exact always_stop hclear _
    · exact h.send _ _

theorem always_handle_action (h : Always P c) (hclear : c.bot.clear_input user_id = c.bot)
    (chat_id message_id : Int) (action : PyStr) :
    Always P (handle_action config env user_id chat_id message_id action c) := by
  unfold handle_action
  split
  · exact always_handle_branch hkept h _ _
  · split
    · simp only
      split
      · next houtput =>
        exact always_panel (always_set_audio h (hkept.channel c.bot _ h.now houtput)) _ _ _
      · exact h
    · split
      · simp only
        generalize (c.bot.audio user_id).volume + (if action = "louder".py then 5 else -5) = volume
        have hset := hkept.volume c.bot (max 1 (min 100 volume)) h.now (by omega) (by omega)
        exact always_panel (always_set_audio h hset) _ _ _
      · split_ifs
        · have hask := hkept.ask_branch c.bot h.now
          rw [hclear] at hask
          exact always_panel (h.update hask) _ _ _
        · exact always_panel h _ _ _
        · exact always_panel h _ _ _
        · exact always_handle_command hkept h _ _
        · exact h

omit hkept in
theorem always_handle_media {m : Message} (hkept : Kept config m.user_id P) (h : Always P c) :
    Always P (handle_media config env m c) := by
  unfold handle_media
  split
  · exact h.send _ _
  · split
    · exact h.send _ _
    · split
      · exact always_handle_command hkept h _ _
      · split
        · exact h.send _ _
        · exact h.call _

omit hkept in
theorem always_handle_message {m : Message}
    (hkept : m.user_id ∈ config.allowed_users → Kept config m.user_id P) (h : Always P c) :
    Always P (handle_message config env m c) := by
  unfold handle_message
  split
  · exact h
  · next hallowed =>
    have hkept := hkept (not_not.mp hallowed)
    simp only
    split_ifs
    · exact always_handle_command hkept h _ _
    · exact always_handle_command hkept h _ _
    · exact always_handle_command hkept h _ _
    · exact always_handle_command hkept (h.update (hkept.discard c.bot h.now)) _ _
    · exact always_handle_media hkept h

omit hkept in
theorem always_handle_callback {cb : Callback}
    (hkept : cb.user_id ∈ config.allowed_users → Kept config cb.user_id P) (h : Always P c) :
    Always P (handle_callback config env cb c) := by
  unfold handle_callback
  split
  · exact h.call _
  · next action haction =>
    have hallowed : cb.user_id ∈ config.allowed_users := by
      by_contra hnot
      rw [if_neg hnot] at haction
      cases haction
    have hkept := hkept hallowed
    simp only
    split
    · exact h.call _
    · refine always_handle_action hkept ?_ (clear_input_clear_input _) _ _ _
      exact (h.call _).update (hkept.clear c.bot h.now)

omit hkept in
/-- A property that the changes of an allowed sender keep holds at every call
    of the handler. -/
theorem always_dispatch {update : Update} {b : Bot}
    (hkept : update.sender ∈ config.allowed_users → Kept config update.sender P) (h : P b) :
    Always P (dispatch config env update b) := by
  have hstart : Always P ⟨b, []⟩ := ⟨List.forall_mem_nil _, h⟩
  cases update with
  | message m => exact always_handle_message hkept hstart
  | callback cb => exact always_handle_callback hkept hstart

/-! ### From a handler to the loop -/

omit hkept

theorem settle_of_all {calls : List (Call × Bot)} {raises : List Bool} {b b' : Bot}
    (hcalls : ∀ e ∈ calls, P e.2) (hb : P b) (h : settle I raises calls b = some b') : P b' := by
  induction calls generalizing raises with
  | nil => cases h; exact hb
  | cons e calls ih =>
    rw [List.forall_mem_cons] at hcalls
    unfold settle at h
    split_ifs at h
    · cases h; exact hcalls.1
    · exact ih hcalls.2 h

/-- The update of one sender, from any tables. -/
theorem polling_step {b b' : Bot} {l : Update × Env}
    (hkept : l.1.sender ∈ config.allowed_users → Kept config l.1.sender P) (h : P b)
    (hstep : (polling config).step b l b') : P b' := by
  have halways : Always P (dispatch config l.2 l.1 b) := always_dispatch hkept h
  exact settle_of_all halways.calls halways.now hstep

/-- A property that the changes of every allowed user keep holds in every
    state of the loop. -/
theorem polling_invariant {b : Bot} (hinit : P Bot.empty)
    (hkept : ∀ user_id ∈ config.allowed_users, Kept config user_id P)
    (h : Lts.Reachable (polling config) b) : P b := by
  refine h.invariant hinit ?_
  intro b l b' _ hb hstep
  exact polling_step (fun hallowed => hkept _ hallowed) hb hstep

end BoVpnAgent.AudioBot

import BoVpnAgent.Bot.Selectable
import BoVpnAgent.Bot.Startup

/-! # Questions to a user

    `/volume`, `/target` and `/branch` without arguments ask the user for
    one, and the next text of the user is taken as the answer.  An answer that
    the command rejects should leave the question open.  The three commands do
    this in different ways: `/volume` forgets the question and asks again,
    `/target` forgets it with a valid answer only, and for `/branch` it is
    `handle_message` that forgets it, before the answer is looked at.
-/

namespace BoVpnAgent.AudioBot

variable {I : Interp} {config : Config I} {env : Env} {b b' : Bot} {user_id u : Int}

/-! ### Bots that have started -/

variable (config) in
/-- A bot has read its settings file, and has handled some updates. -/
def Started (b : Bot) : Prop :=
  ∃ file b₀, load_settings config file Bot.empty = .ok b₀ ∧ Lts.Star (polling config) b₀ b

variable (config) in
/-- The user is asked for one thing at most, and is allowed to answer. -/
structure Asking (b : Bot) (u : Int) : Prop where
  one : ¬ (u ∈ b.awaiting_target ∧ u ∈ b.awaiting_branch) ∧
    ¬ (u ∈ b.awaiting_target ∧ u ∈ b.awaiting_volume) ∧
    ¬ (u ∈ b.awaiting_branch ∧ u ∈ b.awaiting_volume)
  allowed : u ∈ b.awaiting_target ∨ u ∈ b.awaiting_branch ∨ u ∈ b.awaiting_volume →
    u ∈ config.allowed_users

theorem Asking.congr (ht : u ∈ b'.awaiting_target ↔ u ∈ b.awaiting_target)
    (hb : u ∈ b'.awaiting_branch ↔ u ∈ b.awaiting_branch)
    (hv : u ∈ b'.awaiting_volume ↔ u ∈ b.awaiting_volume) (h : Asking config b u) :
    Asking config b' u := by
  obtain ⟨hone, hallowed⟩ := h
  exact ⟨by rw [ht, hb, hv]; exact hone, by rw [ht, hb, hv]; exact hallowed⟩

theorem asking_kept (hallowed : user_id ∈ config.allowed_users) :
    Kept config user_id fun b => ∀ u, Asking config b u := by
  -- a change of the questions of `user_id` alone
  have hown : ∀ b b' : Bot, (∀ u, Asking config b u) →
      (∀ u, u ≠ user_id → (u ∈ b'.awaiting_target ↔ u ∈ b.awaiting_target) ∧
        (u ∈ b'.awaiting_branch ↔ u ∈ b.awaiting_branch) ∧
        (u ∈ b'.awaiting_volume ↔ u ∈ b.awaiting_volume)) →
      (¬ (user_id ∈ b'.awaiting_target ∧ user_id ∈ b'.awaiting_branch) ∧
        ¬ (user_id ∈ b'.awaiting_target ∧ user_id ∈ b'.awaiting_volume) ∧
        ¬ (user_id ∈ b'.awaiting_branch ∧ user_id ∈ b'.awaiting_volume)) →
      ∀ u, Asking config b' u := by
    intro b b' h hothers hone u
    by_cases hu : u = user_id
    · rw [hu]
      exact ⟨hone, fun _ => hallowed⟩
    · obtain ⟨ht, hb, hv⟩ := hothers u hu
      exact (h u).congr ht hb hv
  constructor
  case clear => intro b h; exact hown b _ h (by simp_all [Bot.clear_input]) (by simp [Bot.clear_input])
  case discard =>
    intro b h
    exact hown b _ h (by simp_all [Bot.discard_branch])
      (by have := (h user_id).one; simp_all [Bot.discard_branch])
  case ask_target =>
    intro b h
    exact hown b _ h (by simp_all [Bot.clear_input, Bot.await_target])
      (by simp [Bot.clear_input, Bot.await_target])
  case ask_branch =>
    intro b h
    exact hown b _ h (by simp_all [Bot.clear_input, Bot.await_branch])
      (by simp [Bot.clear_input, Bot.await_branch])
  case ask_volume =>
    intro b h
    exact hown b _ h (by simp_all [Bot.clear_input, Bot.await_volume])
      (by simp [Bot.clear_input, Bot.await_volume])
  case volume => intro b volume h _ _; exact fun u => ⟨(h u).one, (h u).allowed⟩
  case channel => intro b output h _; exact fun u => ⟨(h u).one, (h u).allowed⟩
  case target =>
    intro b args target b' h hparse
    have hsets : b'.awaiting_target = b.awaiting_target ∧ b'.awaiting_branch = b.awaiting_branch ∧
        b'.awaiting_volume = b.awaiting_volume := by
      rcases (parse_target_ok hparse).2.2.2 with rfl | rfl <;> exact ⟨rfl, rfl, rfl⟩
    exact hown b _ h (by simp_all [Bot.clear_input, Bot.set_target])
      (by simp [Bot.clear_input, Bot.set_target])
  case branch =>
    intro b branch h _
    constructor
    · exact hown b _ h (by simp_all [Bot.clear_input, Bot.set_branch])
        (by simp [Bot.clear_input, Bot.set_branch])
    · exact hown b _ h (by simp_all [Bot.clear_input, Bot.set_branch, Bot.await_target])
        (by simp [Bot.clear_input, Bot.set_branch, Bot.await_target])

/-- Loading the settings asks nothing. -/
theorem load_users_asks {users : List (PyStr × Json)} {b : Bot}
    (h : load_users config Bot.empty users = .ok b) (u : Int) : Asking config b u := by
  have hfinite : ∀ e ∈ users, ¬ Infinite config e := by
    intro e he hinfinite
    obtain ⟨exc, hraise⟩ := load_users_infinite ⟨e, he, hinfinite⟩ Bot.empty
    rw [h] at hraise
    cases hraise
  obtain ⟨b', hload, hviews⟩ := load_users_views hfinite Bot.empty
  rw [h] at hload
  cases hload
  have hview := hviews u
  rw [view_empty, foldl_record] at hview
  have ht : u ∉ b.awaiting_target := (congrArg View.awaiting_target hview).mp
  have hb : u ∉ b.awaiting_branch := (congrArg View.awaiting_branch hview).mp
  have hv : u ∉ b.awaiting_volume := (congrArg View.awaiting_volume hview).mp
  exact ⟨by simp [ht, hb], by simp [ht, hb, hv]⟩

theorem load_settings_asks {file : Option Bytes} {b : Bot}
    (h : load_settings config file Bot.empty = .ok b) (u : Int) : Asking config b u := by
  have hempty : Asking config Bot.empty u := ⟨by simp [Bot.empty], by simp [Bot.empty]⟩
  unfold load_settings at h
  split at h
  · cases h
    exact hempty
  · split at h
    · split at h
      · cases h
        exact hempty
      · cases h
    · exact load_users_asks h u
    · cases h
      exact hempty

theorem asking (h : Started config b) (u : Int) : Asking config b u := by
  obtain ⟨file, b₀, hload, hrun⟩ := h
  have hall : ∀ u, Asking config b u := by
    apply hrun.preserves (P := fun b => ∀ u, Asking config b u) ?_ (load_settings_asks hload)
    intro s l s' hs hstep
    exact polling_step asking_kept hs hstep
  exact hall u

/-! ### Commands for answers -/

section answers

variable {c : Ctx} (laws : LowerLaws config.lower)
include laws

/-- A command that `handle_message` puts in front of an answer. -/
theorem handle_command_word (word : PyStr) (hword : (word.all fun c => !c.isSpace) = true)
    (hne : word ≠ []) (hascii : word.isAscii = true) (hlower : Url.lower word = word) (hat : 0x40 ∉ word)
    (text : PyStr) :
    PyStr.split (word ++ 0x20 :: text) = word :: PyStr.split text ∧
      config.lower (PyStr.partition 0x40 word).1 = word := by
  have hspace : ∀ c ∈ word, c.isSpace = false := by simpa using hword
  refine ⟨PyStr.split_append hne hspace rfl text, ?_⟩
  have hall : ∀ c ∈ word, decide (c ≠ 0x40) = true := by
    intro c hc
    apply decide_eq_true
    rintro rfl
    exact hat hc
  unfold PyStr.partition
  rw [List.takeWhile_eq_self_iff.mpr hall, laws.ascii word hascii, hlower]

theorem handle_command_volume (chat_id : Int) (text : PyStr) :
    handle_command config env user_id chat_id ("/volume ".py ++ text) c =
      volume_command config env user_id chat_id (PyStr.split text) c := by
  obtain ⟨hsplit, hcommand⟩ := handle_command_word laws "/volume".py (by decide) (by decide)
    (by decide) (by decide) (by decide) text
  have htext : "/volume ".py ++ text = "/volume".py ++ 0x20 :: text := rfl
  unfold handle_command
  rw [htext, hsplit]
  simp only [hcommand]
  rw [if_neg (by decide), if_neg (by decide), if_pos trivial]

theorem handle_command_target (chat_id : Int) (text : PyStr) :
    handle_command config env user_id chat_id ("/target ".py ++ text) c =
      target_command config env user_id chat_id (PyStr.split text) c := by
  obtain ⟨hsplit, hcommand⟩ := handle_command_word laws "/target".py (by decide) (by decide)
    (by decide) (by decide) (by decide) text
  have htext : "/target ".py ++ text = "/target".py ++ 0x20 :: text := rfl
  unfold handle_command
  rw [htext, hsplit]
  simp only [hcommand]
  rw [if_neg (by decide), if_neg (by decide), if_neg (by decide), if_neg (by decide), if_pos trivial]

theorem handle_command_branch (chat_id : Int) (text : PyStr) :
    handle_command config env user_id chat_id ("/branch ".py ++ text) c =
      handle_branch config env user_id chat_id (PyStr.split text) c := by
  obtain ⟨hsplit, hcommand⟩ := handle_command_word laws "/branch".py (by decide) (by decide)
    (by decide) (by decide) (by decide) text
  have htext : "/branch ".py ++ text = "/branch".py ++ 0x20 :: text := rfl
  unfold handle_command
  rw [htext, hsplit]
  simp only [hcommand]
  rw [if_neg (by decide), if_neg (by decide), if_neg (by decide), if_pos trivial]

end answers

/-! ### Answers that are rejected -/

/-- What the user can be asked for. -/
inductive Prompt where
  | volume
  | target
  | branch
  deriving DecidableEq

/-- The user is being asked. -/
def Prompt.Open (b : Bot) (u : Int) : Prompt → Prop
  | volume => u ∈ b.awaiting_volume
  | target => u ∈ b.awaiting_target
  | branch => u ∈ b.awaiting_branch

instance (b : Bot) (u : Int) : (p : Prompt) → Decidable (p.Open b u)
  | .volume => inferInstanceAs (Decidable (u ∈ b.awaiting_volume))
  | .target => inferInstanceAs (Decidable (u ∈ b.awaiting_target))
  | .branch => inferInstanceAs (Decidable (u ∈ b.awaiting_branch))

variable (config) in
/-- The command of the question rejects these words. -/
def Prompt.Rejects (b : Bot) (u : Int) (words : List PyStr) : Prompt → Prop
  | volume => ∀ word ∈ words.head?, ∀ volume,
      PyStr.toInt I.int_max_str_digits word = some volume → ¬ (1 ≤ volume ∧ volume ≤ 100)
  | target => ∃ exc, parse_target config b u words = .error exc
  | branch => ∀ word ∈ words.head?, config.normalize_branch word = none

/-- The text is an answer: not blank, no command and no reply-keyboard button. -/
structure Message.Answers (m : Message) : Prop where
  nonempty : PyStr.strip m.text ≠ []
  no_button : text? BUTTON_COMMANDS (PyStr.strip m.text) = none
  no_command : PyStr.startsWith (PyStr.strip m.text) "/".py = false

/-- The user is still asked for the same thing and for nothing else, and has
    the same settings. -/
structure StaysOpen (p : Prompt) (b b' : Bot) (u : Int) : Prop where
  question : ∀ q : Prompt, q.Open b' u ↔ q = p
  branch : b'.user_branches.get? u = b.user_branches.get? u
  target : b'.targets.get? u = b.targets.get? u
  audio : b'.user_audio.get? u = b.user_audio.get? u

/-- The tables behind a rejected answer. -/
def Prompt.rejected (b : Bot) (u : Int) : Prompt → Bot
  | volume => (b.clear_input u).await_volume u
  | target => b
  | branch => b.discard_branch u

theorem volume_command_rejects {words : List PyStr} {c : Ctx} (hwords : words ≠ [])
    (h : Prompt.volume.Rejects config c.bot user_id words) (chat_id : Int) :
    ∃ text, volume_command config env user_id chat_id words c =
      (c.update (Prompt.volume.rejected · user_id)).send chat_id text := by
  cases words with
  | nil => exact absurd rfl hwords
  | cons word words =>
    have hrange := h word rfl
    unfold volume_command
    simp only [Json.toInt]
    cases hint : PyStr.toInt I.int_max_str_digits word with
    | none => exact ⟨_, rfl⟩
    | some volume =>
      simp only
      rw [if_neg (hrange volume hint)]
      exact ⟨_, rfl⟩

theorem target_command_rejects {words : List PyStr} {c : Ctx} (hwords : words ≠ [])
    (h : Prompt.target.Rejects config c.bot user_id words) (chat_id : Int) :
    ∃ text, target_command config env user_id chat_id words c = c.send chat_id text := by
  cases words with
  | nil => exact absurd rfl hwords
  | cons word words =>
    obtain ⟨exc, hexc⟩ := h
    unfold target_command
    simp only [hexc]
    exact ⟨_, rfl⟩

theorem handle_branch_rejects {words : List PyStr} {c : Ctx} (hwords : words ≠ [])
    (h : ∀ word ∈ words.head?, config.normalize_branch word = none) (chat_id : Int) :
    ∃ text, handle_branch config env user_id chat_id words c = c.send chat_id text := by
  cases words with
  | nil => exact absurd rfl hwords
  | cons word words =>
    unfold handle_branch
    simp only [h word rfl]
    exact ⟨_, rfl⟩

/-- A message that answers the open question goes to its command, and a
    rejected answer ends with one message to the user. -/
theorem handle_message_rejects (laws : LowerLaws config.lower) {m : Message} {p : Prompt}
    (hasking : Asking config b m.user_id) (hopen : p.Open b m.user_id) (hanswers : m.Answers)
    (hrejects : p.Rejects config b m.user_id (PyStr.split (PyStr.strip m.text))) :
    ∃ text, handle_message config env m ⟨b, []⟩ =
      (Ctx.update ⟨b, []⟩ (p.rejected · m.user_id)).send m.chat_id text := by
  have hallowed : m.user_id ∈ config.allowed_users := by
    apply hasking.allowed
    cases p with
    | volume => exact .inr (.inr hopen)
    | target => exact .inl hopen
    | branch => exact .inr (.inl hopen)
  have hwords := PyStr.split_strip_ne_nil hanswers.nonempty
  obtain ⟨htb, htv, hbv⟩ := hasking.one
  unfold handle_message
  rw [if_neg (not_not.mpr hallowed)]
  simp only [hanswers.no_button, Option.getD_none, hanswers.no_command]
  rw [if_neg Bool.false_ne_true]
  -- the other questions are not open
  cases p with
  | volume =>
    have hvolume : m.user_id ∈ b.awaiting_volume := hopen
    rw [if_pos ⟨hanswers.nonempty, hvolume⟩, handle_command_volume laws]
    exact volume_command_rejects (c := ⟨b, []⟩) hwords hrejects m.chat_id
  | target =>
    have htarget : m.user_id ∈ b.awaiting_target := hopen
    rw [if_neg fun h => htv ⟨htarget, h.2⟩, if_pos ⟨hanswers.nonempty, htarget⟩,
      handle_command_target laws]
    exact target_command_rejects (c := ⟨b, []⟩) hwords hrejects m.chat_id
  | branch =>
    have hbranch : m.user_id ∈ b.awaiting_branch := hopen
    rw [if_neg fun h => hbv ⟨hbranch, h.2⟩, if_neg fun h => htb ⟨h.2, hbranch⟩,
      if_pos ⟨hanswers.nonempty, hbranch⟩, handle_command_branch laws]
    exact handle_branch_rejects (c := Ctx.update ⟨b, []⟩ (·.discard_branch m.user_id)) hwords
      hrejects m.chat_id

/-- Whichever call raises, the tables are those behind the answer. -/
theorem polling_rejects (laws : LowerLaws config.lower) {m : Message} {p : Prompt}
    (hasking : Asking config b m.user_id) (hopen : p.Open b m.user_id) (hanswers : m.Answers)
    (hrejects : p.Rejects config b m.user_id (PyStr.split (PyStr.strip m.text))) :
    (polling config).step b (.message m, env) b' ↔ b' = p.rejected b m.user_id := by
  obtain ⟨text, hhandle⟩ : ∃ text, handle_message config env m ⟨b, []⟩ =
      (Ctx.update ⟨b, []⟩ (p.rejected · m.user_id)).send m.chat_id text :=
    handle_message_rejects laws hasking hopen hanswers hrejects
  have hdispatch : dispatch config env (.message m) b =
      (Ctx.update ⟨b, []⟩ (p.rejected · m.user_id)).send m.chat_id text := hhandle
  have hnext : (polling config).next b (.message m, env) = some (p.rejected b m.user_id) := by
    unfold polling
    simp only [hdispatch]
    unfold Ctx.send Ctx.call Ctx.update settle
    simp only [List.nil_append, Call.isSave, Bool.false_and, Bool.false_eq_true, if_false]
    split <;> rfl
  unfold Lts.System.step
  rw [hnext]
  exact ⟨fun h => (Option.some.inj h).symm, fun h => by rw [h]⟩

/-- A rejected answer leaves the question open exactly when it was not for a
    branch. -/
theorem rejected_stays_open_iff (laws : LowerLaws config.lower) (hstarted : Started config b)
    {m : Message} {p : Prompt} (hopen : p.Open b m.user_id) (hanswers : m.Answers)
    (hrejects : p.Rejects config b m.user_id (PyStr.split (PyStr.strip m.text))) :
    (∃ b', (polling config).step b (.message m, env) b' ∧ StaysOpen p b b' m.user_id) ↔
      p ≠ .branch := by
  have hasking := asking hstarted m.user_id
  have hstep : ∀ b', (polling config).step b (.message m, env) b' ↔ b' = p.rejected b m.user_id :=
    fun b' => polling_rejects laws hasking hopen hanswers hrejects
  simp only [hstep, exists_eq_left]
  obtain ⟨htb, htv, hbv⟩ := hasking.one
  cases p with
  | volume =>
    refine iff_of_true ⟨fun q => ?_, rfl, rfl, rfl⟩ (by decide)
    cases q <;> simp [Prompt.Open, Prompt.rejected, Bot.clear_input, Bot.await_volume]
  | target =>
    have htarget : m.user_id ∈ b.awaiting_target := hopen
    have hnb : m.user_id ∉ b.awaiting_branch := fun h => htb ⟨htarget, h⟩
    have hnv : m.user_id ∉ b.awaiting_volume := fun h => htv ⟨htarget, h⟩
    refine iff_of_true ⟨fun q => ?_, rfl, rfl, rfl⟩ (by decide)
    cases q <;> simp [Prompt.Open, Prompt.rejected, htarget, hnb, hnv]
  | branch =>
    apply iff_of_false _ (not_not.mpr rfl)
    intro hstays
    have hstill := (hstays.question .branch).mpr rfl
    simp [Prompt.Open, Prompt.rejected, Bot.discard_branch] at hstill

/-! ### Two answers -/

/-- A text of user 100. -/
def sampleAnswer (text : String) : Message :=
  { user_id := 100, chat_id := 200, text := text.py, media := none, oversize := false }

/-- The tables behind one message of user 100. -/
def sampleAsked (text : String) : Bot := (polling sampleBotConfig).play [sampleMessage 100 text]

theorem started_sampleAsked (text : String) : Started sampleBotConfig (sampleAsked text) :=
  ⟨none, Bot.empty, rfl, Lts.star_play [] [sampleMessage 100 text]⟩

theorem rejected_stays_open_sample :
    (∃ b', (polling sampleBotConfig).step (sampleAsked "/volume")
        (.message (sampleAnswer "101"), { jobs := fun _ => none, edit_refused := false, raises := [true] })
        b' ∧
      StaysOpen .volume (sampleAsked "/volume") b' (sampleAnswer "101").user_id) ↔
      Prompt.volume ≠ .branch := by
  have hrange : Prompt.volume.Rejects sampleBotConfig (sampleAsked "/volume") 100
      (PyStr.split (PyStr.strip (sampleAnswer "101").text)) := by
    rintro word hword volume hvolume ⟨_, hle⟩
    have hfirst : (PyStr.split (PyStr.strip (sampleAnswer "101").text)).head? = some "101".py := by
      decide
    rw [hfirst] at hword
    cases hword
    have hnumber : PyStr.toInt sampleInterp.int_max_str_digits "101".py = some 101 := by decide
    rw [hnumber] at hvolume
    cases hvolume
    omega
  exact rejected_stays_open_iff lowerLaws_sampleLower (started_sampleAsked "/volume") (by decide)
    ⟨by decide, by decide, by decide⟩ hrange

/-- `/branch`, and then a text that names none: the bot no longer asks. -/
theorem branch_question_lost :
    Started sampleBotConfig (sampleAsked "/branch") ∧
    Prompt.branch.Open (sampleAsked "/branch") 100 ∧
    (sampleAnswer "depot").Answers ∧
    Prompt.branch.Rejects sampleBotConfig (sampleAsked "/branch") 100
      (PyStr.split (PyStr.strip (sampleAnswer "depot").text)) ∧
    ¬ ∃ b', (polling sampleBotConfig).step (sampleAsked "/branch")
        (.message (sampleAnswer "depot"), { jobs := fun _ => none, edit_refused := false, raises := [] })
        b' ∧ StaysOpen .branch (sampleAsked "/branch") b' 100 := by
  have hopen : Prompt.branch.Open (sampleAsked "/branch") 100 := by decide
  have hanswers : (sampleAnswer "depot").Answers := ⟨by decide, by decide, by decide⟩
  have hrejects : Prompt.branch.Rejects sampleBotConfig (sampleAsked "/branch") 100
      (PyStr.split (PyStr.strip (sampleAnswer "depot").text)) := by
    have hfirst : (PyStr.split (PyStr.strip (sampleAnswer "depot").text)).head? = some "depot".py := by
      decide
    intro word hword
    rw [hfirst] at hword
    cases hword
    decide
  refine ⟨started_sampleAsked "/branch", hopen, hanswers, hrejects, ?_⟩
  rintro ⟨b', hstep, hstays⟩
  have hasking := asking (started_sampleAsked "/branch") 100
  rw [(polling_rejects lowerLaws_sampleLower (m := sampleAnswer "depot") hasking hopen hanswers
    hrejects).mp hstep] at hstays
  have hstill := (hstays.question .branch).mpr rfl
  simp only [Prompt.Open, Prompt.rejected, Bot.discard_branch, Finset.mem_erase] at hstill
  exact hstill.1 rfl

end BoVpnAgent.AudioBot

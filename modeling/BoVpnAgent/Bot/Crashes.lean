import BoVpnAgent.Bot.Restored
import BoVpnAgent.Lib.FileOps

/-! # The settings file when the bot is killed

    `_save_settings` writes a temporary file and renames it over the settings
    file.  The bot can be killed between any two of its calls and any two of
    its operations on files, and it starts again with whatever the settings
    file then has.

    This file shows that in every run
    - the settings file is whole: it has the complete text of a save, and a
      bot starts with it, though operations fail and the bot is killed
      (`settings_file_whole`)
    - no setting is lost: without failing operations the file has the
      settings of the last update, and a bot that is killed while it handles
      an update starts with the settings from before it or after it
      (`settings_kept`)
-/

namespace BoVpnAgent.AudioBot

open FileOps

variable {I : Interp} (config : Config I)

/-! ### The bot and its files -/

/-- A file of the settings directory: the one at `settings_path`, or one that
    `NamedTemporaryFile` has made. -/
inductive FileName where
  | settings
  | temporary (n : Nat)
  deriving DecidableEq

/-- The settings directory. -/
abbrev Disk := Files FileName UInt8

/-- Where the bot is, outside `_save_settings`. -/
inductive Place where
  | down
  /-- in `get_updates` -/
  | polling (b : Bot)
  /-- in a handler: its calls still to come, and the tables at its end -/
  | handling (calls : List (Call × Bot)) (final : Bot)

/-- `_save_settings` at work: what it saves, and its operations still to
    come. -/
structure Save where
  tables : Bot
  ops : List (Op FileName UInt8)

/-- The bot and its settings directory. -/
structure Host where
  disk : Disk
  /-- where the bot is, or is once it has saved the settings -/
  place : Place
  save : Option Save

/-- What happens to the host. -/
inductive HostLabel where
  | start
  /-- `get_updates` has returned the update -/
  | update (update : Update) (env : Env)
  /-- the next call of the handler, other than `_save_settings`; behind the
      last one the handler is left -/
  | call (raises : Bool)
  /-- `_save_settings` with a name for its temporary file, an order of the
      users, and the chunks in which the text is written -/
  | save (n : Nat) (ids : List Int) (chunks : List Bytes)
  /-- the next operation of `_save_settings` -/
  | file (fault : Bool)
  | kill

/-- The operations of `_save_settings`, and where the bot is after them. -/
def save_settings (b : Bot) (n : Nat) (ids : List Int) (chunks : List Bytes) (place : Place) :
    Option (List (Op FileName UInt8) × Place) :=
  match saved I b ids with
  | .ok bytes =>
    if chunks.flatten = bytes then
      some (replaceWith (.temporary n) .settings chunks, place)
    else none
  -- `run` does not catch what `json.dump` raises
  | .error _ => some (writes (.temporary n) chunks ++ [.unlink (.temporary n)], .down)

/-- The `finally` clause of `_save_settings` when the operation has failed. -/
def cleanup : Op FileName UInt8 → List (Op FileName UInt8)
  | .append temporary _ | .rename temporary _ => [.unlink temporary]
  -- there is no temporary file yet, or it is the clause itself that failed
  | .create _ | .unlink _ => []

/-- An operation of a save.  `run` catches the exception of a failed one. -/
def Host.file (h : Host) (s : Save) (fault : Bool) : Host :=
  match s.ops with
  | [] => { h with save := none }
  | op :: ops =>
    if fault then
      { h with place := .polling s.tables, save := some { s with ops := cleanup op } }
    else { h with disk := op.apply h.disk, save := some { s with ops := ops } }

/-- A step of the handler. -/
def Host.handle (h : Host) (calls : List (Call × Bot)) (final : Bot) : HostLabel → Option Host
  | .call raises =>
    match calls with
    | [] => some { h with place := .polling final }
    | (call, b) :: calls =>
      if call.isSave then none
      else some { h with place := if raises then .polling b else .handling calls final }
  | .save n ids chunks =>
    match calls with
    | (.save_settings, b) :: calls =>
      if ids.Perm b.users ∧ (h.disk (.temporary n)).isNone then
        (save_settings (I := I) b n ids chunks (.handling calls final)).map fun r =>
          { h with place := r.2, save := some { tables := b, ops := r.1 } }
      else none
    | _ => none
  | _ => none

/-- A step of the bot outside `_save_settings`. -/
def Host.step (h : Host) (l : HostLabel) : Option Host :=
  match h.place, l with
  | .down, .start =>
    match load_settings config (h.disk .settings) Bot.empty with
    | .ok b => some { h with place := .polling b }
    | .error _ => none
  | .polling b, .update update env =>
    some { h with place := .handling (dispatch config env update b).calls
                                     (dispatch config env update b).bot }
  | .handling calls final, l => h.handle (I := I) calls final l
  | _, _ => none

/-- The bot from its first start on, with an empty directory. -/
def host : Lts.System Host HostLabel where
  init := { disk := fun _ => none, place := .down, save := none }
  next := fun h l =>
    match l, h.save with
    | .kill, _ => some { h with place := .down, save := none }
    | .file fault, some s => some (h.file s fault)
    | .file _, none => none
    | l, none => h.step config l
    | _, some _ => none

/-! ### A save at work -/

/-- The operations still to come. -/
def Host.ops (h : Host) : List (Op FileName UInt8) := (h.save.map Save.ops).getD []

variable {config} {h h' : Host} {disk : Disk} {op : Op FileName UInt8}
  {ops : List (Op FileName UInt8)} {Q Q' : Option Bytes → Prop}

theorem Host.ops_of_save {s : Save} (hsave : h.save = some s) : h.ops = s.ops := by
  rw [Host.ops, hsave]
  rfl

theorem Host.ops_of_idle (hidle : h.save = none) : h.ops = [] := by
  rw [Host.ops, hidle]
  rfl

/-- The content of the settings file meets `Q` at any moment of the
    operations, and `Q'` after them. -/
structure Writing (disk : Disk) (ops : List (Op FileName UInt8)) (Q Q' : Option Bytes → Prop) :
    Prop where
  now : Q (disk .settings)
  later : Q' (FileOps.run ops disk .settings)
  within : ∀ content, Q' content → Q content
  once : Once .settings ops
  tidy : ∀ op ∈ ops, ∀ op' ∈ cleanup op, op'.touches .settings = false

namespace Writing

theorem idle (hnow : Q' (disk .settings)) (hwithin : ∀ content, Q' content → Q content) :
    Writing disk [] Q Q' :=
  ⟨hwithin _ hnow, hnow, hwithin, Nat.zero_le 1, List.forall_mem_nil _⟩

theorem done (h : Writing disk [] Q Q') : Q' (disk .settings) := h.later

theorem step (h : Writing disk (op :: ops) Q Q') : Writing (op.apply disk) ops Q Q' where
  now := by
    rcases h.once.step disk with hold | hnew
    · rw [hold]
      exact h.now
    · rw [hnew]
      exact h.within _ h.later
  later := h.later
  within := h.within
  once := h.once.tail
  tidy := fun op hop => h.tidy op (List.mem_cons_of_mem _ hop)

/-- The clean-up after a failed operation leaves the settings alone. -/
theorem fault (h : Writing disk (op :: ops) Q Q') : Writing disk (cleanup op) Q Q where
  now := h.now
  later := by
    rw [run_untouched (h.tidy op List.mem_cons_self)]
    exact h.now
  within := fun _ h => h
  once := by
    have hnone : (cleanup op).countP (Op.touches .settings) = 0 :=
      List.countP_eq_zero.mpr fun op' hop' => by simp [h.tidy op List.mem_cons_self op' hop']
    rw [Once, hnone]
    exact Nat.zero_le 1
  tidy := by
    cases op with
    | create | unlink => exact List.forall_mem_nil _
    | append | rename =>
      intro op hop op' hop'
      rw [List.mem_singleton.mp hop] at hop'
      cases hop'

theorem temporary_ne (n : Nat) : FileName.temporary n ≠ .settings := by
  intro h
  cases h

theorem tidy_writes (n : Nat) (chunks : List Bytes) :
    ∀ op ∈ writes (.temporary n) chunks, ∀ op' ∈ cleanup op, op'.touches .settings = false := by
  intro op hop op' hop'
  rcases List.mem_cons.mp hop with rfl | hop
  · cases hop'
  · obtain ⟨chunk, -, rfl⟩ := List.mem_map.mp hop
    rw [List.mem_singleton.mp hop']
    exact decide_eq_false (temporary_ne n)

/-- A save that gets through. -/
theorem replace (n : Nat) (chunks : List Bytes) (hnow : Q (disk .settings))
    (hlater : Q' (some chunks.flatten)) (hwithin : ∀ content, Q' content → Q content) :
    Writing disk (replaceWith (.temporary n) .settings chunks) Q Q' where
  now := hnow
  later := by
    rw [run_replaceWith (temporary_ne n)]
    exact hlater
  within := hwithin
  once := once_replaceWith (temporary_ne n) chunks
  tidy := by
    intro op hop op' hop'
    rcases List.mem_append.mp hop with hop | hop
    · exact tidy_writes n chunks op hop op' hop'
    · rcases List.mem_cons.mp hop with rfl | hop
      · rw [List.mem_singleton.mp hop']
        exact decide_eq_false (temporary_ne n)
      · rw [List.mem_singleton.mp hop] at hop'
        cases hop'

/-- A save whose text cannot be encoded. -/
theorem abandon (n : Nat) (chunks : List Bytes) (hnow : Q (disk .settings)) :
    Writing disk (writes (.temporary n) chunks ++ [.unlink (.temporary n)]) Q Q where
  now := hnow
  later := by
    rw [run_untouched]
    · exact hnow
    · intro op hop
      rcases List.mem_append.mp hop with hop | hop
      · exact writes_untouched (temporary_ne n) chunks op hop
      · rw [List.mem_singleton.mp hop]
        exact decide_eq_false (temporary_ne n)
  within := fun _ h => h
  once := by
    refine once_writes (temporary_ne n) chunks _ ?_
    rw [Once, List.countP_cons, List.countP_nil]
    simp [Op.touches]
  tidy := by
    intro op hop op' hop'
    rcases List.mem_append.mp hop with hop | hop
    · exact tidy_writes n chunks op hop op' hop'
    · rw [List.mem_singleton.mp hop] at hop'
      cases hop'

end Writing

/-! ### Steps of the host -/

theorem save_settings_cases {b : Bot} {n : Nat} {ids : List Int} {chunks : List Bytes} {place : Place}
    {r : List (Op FileName UInt8) × Place}
    (h : save_settings (I := I) b n ids chunks place = some r) :
    (saved I b ids = .ok chunks.flatten ∧
      r = (replaceWith (.temporary n) .settings chunks, place)) ∨
    r = (writes (.temporary n) chunks ++ [.unlink (.temporary n)], .down) := by
  unfold save_settings at h
  split at h
  · next bytes hsaved =>
    split at h
    · next hflatten =>
      rw [hflatten]
      exact .inl ⟨hsaved, (Option.some.inj h).symm⟩
    · cases h
  · exact .inr (Option.some.inj h).symm

/-- A step outside `_save_settings`. -/
inductive Moves (config : Config I) (h : Host) : HostLabel → Host → Prop where
  | start {b : Bot} (hplace : h.place = .down)
      (hload : load_settings config (h.disk .settings) Bot.empty = .ok b) :
      Moves config h .start { h with place := .polling b }
  | update {b : Bot} {update : Update} {env : Env} (hplace : h.place = .polling b) :
      Moves config h (.update update env)
        { h with place := .handling (dispatch config env update b).calls
                                    (dispatch config env update b).bot }
  | leave {final : Bot} {raises : Bool} (hplace : h.place = .handling [] final) :
      Moves config h (.call raises) { h with place := .polling final }
  | call {call : Call} {b : Bot} {calls : List (Call × Bot)} {final : Bot} {raises : Bool}
      (hplace : h.place = .handling ((call, b) :: calls) final) (hcall : call.isSave = false) :
      Moves config h (.call raises)
        { h with place := if raises then .polling b else .handling calls final }
  | save {b : Bot} {calls : List (Call × Bot)} {final : Bot} {n : Nat} {ids : List Int}
      {chunks : List Bytes} {r : List (Op FileName UInt8) × Place}
      (hplace : h.place = .handling ((.save_settings, b) :: calls) final) (hids : ids.Perm b.users)
      (hops : save_settings (I := I) b n ids chunks (.handling calls final) = some r) :
      Moves config h (.save n ids chunks)
        { h with place := r.2, save := some { tables := b, ops := r.1 } }

theorem handle_cases {l : HostLabel} {calls : List (Call × Bot)} {final : Bot}
    (hplace : h.place = .handling calls final) (hstep : h.handle (I := I) calls final l = some h') :
    Moves config h l h' := by
  unfold Host.handle at hstep
  split at hstep
  · next raises =>
    split at hstep
    · obtain rfl := Option.some.inj hstep
      exact .leave hplace
    · next call b calls =>
      split at hstep
      · cases hstep
      · next hcall =>
        obtain rfl := Option.some.inj hstep
        exact .call hplace (Bool.eq_false_iff.mpr hcall)
  · next n ids chunks =>
    split at hstep
    · next b calls =>
      split at hstep
      · next hready =>
        obtain ⟨r, hops, rfl⟩ := Option.map_eq_some_iff.mp hstep
        exact .save hplace hready.1 hops
      · cases hstep
    · cases hstep
  · cases hstep

theorem moves_of_step {l : HostLabel} (hstep : h.step config l = some h') : Moves config h l h' := by
  unfold Host.step at hstep
  split at hstep
  · next hplace =>
    split at hstep
    · next b hload =>
      obtain rfl := Option.some.inj hstep
      exact .start hplace hload
    · cases hstep
  · next b update env hplace =>
    obtain rfl := Option.some.inj hstep
    exact .update hplace
  · next hplace => exact handle_cases hplace hstep
  · cases hstep

/-- The bot is killed, or saves, or goes on. -/
theorem host_step_cases {l : HostLabel} (hstep : (host config).step h l h') :
    h' = { h with place := .down, save := none } ∨
    (∃ s fault, l = .file fault ∧ h.save = some s ∧ h' = h.file s fault) ∨
    (h.save = none ∧ Moves config h l h') := by
  unfold Lts.System.step host at hstep
  simp only at hstep
  split at hstep
  · exact .inl (Option.some.inj hstep).symm
  · next fault s hsave => exact .inr (.inl ⟨s, fault, rfl, hsave, (Option.some.inj hstep).symm⟩)
  · cases hstep
  · next hsave => exact .inr (.inr ⟨hsave, moves_of_step hstep⟩)
  · cases hstep

/-! ### The file is whole -/

/-- The content is nothing, or the complete text of a save. -/
def Whole (I : Interp) (content : Option Bytes) : Prop :=
  ∀ bytes, content = some bytes → ∃ b ids, ids.Perm (Bot.users b) ∧ saved I b ids = .ok bytes

/-- A step of a save. -/
theorem writing_works {s : Save} (hsave : h.save = some s) (hw : Writing h.disk h.ops Q Q') :
    Writing (h.file s false).disk (h.file s false).ops Q Q' := by
  rw [Host.ops_of_save hsave] at hw
  unfold Host.file
  cases hrest : s.ops with
  | nil =>
    rw [hrest] at hw
    exact hw
  | cons op ops =>
    rw [hrest] at hw
    exact hw.step

/-- A step of a save, with or without a fault. -/
theorem writing_file {s : Save} {fault : Bool} (hsave : h.save = some s)
    (hw : Writing h.disk h.ops Q Q) : Writing (h.file s fault).disk (h.file s fault).ops Q Q := by
  cases fault with
  | false => exact writing_works hsave hw
  | true =>
    rw [Host.ops_of_save hsave] at hw
    unfold Host.file
    cases hrest : s.ops with
    | nil =>
      rw [hrest] at hw
      exact hw
    | cons op ops =>
      rw [hrest] at hw
      exact hw.fault

theorem writing_whole (hr : Lts.Reachable (host config) h) :
    Writing h.disk h.ops (Whole I) (Whole I) := by
  have hnone : Whole I none := fun _ h => by cases h
  refine hr.invariant (P := fun h => Writing h.disk h.ops (Whole I) (Whole I))
    (Writing.idle hnone fun _ h => h) ?_
  intro h l h' _ hw hstep
  have hidle : Writing h.disk [] (Whole I) (Whole I) := Writing.idle hw.now fun _ h => h
  obtain rfl | ⟨s, fault, -, hsave, rfl⟩ | ⟨hsave, hmoves⟩ := host_step_cases hstep
  · exact hidle
  · exact writing_file hsave hw
  · have hops (place : Place) : ({ h with place := place } : Host).ops = [] :=
      Host.ops_of_idle hsave
    cases hmoves with
    | start | update | leave | call =>
      rw [hops]
      exact hidle
    | save hplace hids hstart =>
      rcases save_settings_cases hstart with ⟨hsaved, rfl⟩ | rfl
      · refine Writing.replace _ _ hw.now ?_ fun _ h => h
        intro bytes hbytes
        obtain rfl := Option.some.inj hbytes
        exact ⟨_, _, hids, hsaved⟩
      · exact Writing.abandon _ _ hw.now

/-- Whatever is in the file, the bot starts with it. -/
theorem starts_of_whole {content : Option Bytes} (h : Whole I content) :
    ∃ b, load_settings config content Bot.empty = .ok b := by
  cases content with
  | none => exact ⟨Bot.empty, rfl⟩
  | some bytes =>
    obtain ⟨b, ids, hids, hsaved⟩ := h bytes rfl
    have hnodup : ids.Nodup := hids.nodup_iff.mpr (List.nodup_dedup _)
    rw [load_settings_saved hnodup hsaved]
    have hfinite : ∀ e ∈ ids.map fun u => (Json.intRepr u, user_json b u), ¬ Infinite config e := by
      intro e he
      obtain ⟨u, -, rfl⟩ := List.mem_map.mp he
      exact not_infinite_saved b u u
    obtain ⟨b', hload, -⟩ := load_users_views hfinite Bot.empty
    exact ⟨b', hload⟩

/-- In every run, whatever operations on files fail and whenever the bot is
    killed, the settings file is not there or has the complete text of a save,
    and the bot can start. -/
theorem settings_file_whole (hr : Lts.Reachable (host config) h) :
    Whole I (h.disk .settings) ∧ ∃ b, load_settings config (h.disk .settings) Bot.empty = .ok b :=
  ⟨(writing_whole hr).now, starts_of_whole (writing_whole hr).now⟩

/-- `VEHICLE_MAP_PATHS=pat=/pat.csv`: one branch, with its own name. -/
def plainConfig : Config sampleInterp :=
  { sampleBotConfig with
    vehicle_maps :=
      match load_vehicle_maps sampleLower "pat=/pat.csv".py [] sampleFiles with
      | .ok maps => maps
      | .error _ => Dict.empty }

/-- The tables with which the handler of the sample's update ends. -/
def plainSaved : Bot :=
  (dispatch plainConfig (sampleMessage 100 "/target pat 6217 15 street").2
    (sampleMessage 100 "/target pat 6217 15 street").1 Bot.empty).bot

/-- A user chooses a vehicle, and the target is saved in two chunks. -/
def savedRun : List HostLabel :=
  let bytes := (saved sampleInterp plainSaved [100]).toOption.getD []
  [.start, .update (sampleMessage 100 "/target pat 6217 15 street").1
      (sampleMessage 100 "/target pat 6217 15 street").2,
    .save 0 [100] [bytes.take 10, bytes.drop 10], .file false, .file false, .file false,
    .file false, .file false, .file false, .call false, .call false]

/-- The bot is killed between the two chunks of a second save. -/
def killedRun : List HostLabel := savedRun ++ (savedRun.drop 1).take 4 ++ [.kill]

theorem settings_file_whole_sample :
    let h := (host plainConfig).play killedRun
    (h.disk .settings).isSome = true ∧ (h.disk (.temporary 0)).isSome = true ∧
      Whole sampleInterp (h.disk .settings) ∧
      ∃ b, load_settings plainConfig (h.disk .settings) Bot.empty = .ok b :=
  ⟨by decide +kernel, by decide +kernel, settings_file_whole (Lts.reachable_play killedRun)⟩

/-! ### The settings are in the file -/

variable {b b₁ : Bot} {content : Option Bytes} {P : Bot → Prop}

variable (config) in
/-- The settings of `b` are those of the file. -/
inductive Stored (content : Option Bytes) (b : Bot) : Prop where
  | nothing (hcontent : content = none) (hsame : AllSame Bot.empty b)
  | saved (b₀ : Bot) (ids : List Int) (bytes : Bytes) (hcontent : content = some bytes)
      (hproper : Proper config b₀) (hids : ids.Perm b₀.users) (hsaved : saved I b₀ ids = .ok bytes)
      (hsame : AllSame b₀ b)

theorem Stored.same (h : Stored config content b) (hsame : AllSame b b₁) :
    Stored config content b₁ := by
  cases h with
  | nothing hcontent hempty => exact .nothing hcontent (hempty.trans hsame)
  | saved b₀ ids bytes hcontent hproper hids hsaved h₀ =>
    exact .saved b₀ ids bytes hcontent hproper hids hsaved (h₀.trans hsame)

/-- The bot starts with them. -/
theorem Stored.load (hown : OwnNames config) (h : Stored config content b) :
    ∃ b', load_settings config content Bot.empty = .ok b' ∧ Proper config b' ∧ AllSame b b' := by
  cases h with
  | nothing hcontent hempty =>
    rw [hcontent]
    exact ⟨Bot.empty, rfl, proper_empty config, hempty.symm⟩
  | saved b₀ ids bytes hcontent hproper hids hsaved hsame =>
    rw [hcontent]
    obtain ⟨b', hload, hproper', hsame'⟩ := restored hown hproper hids hsaved
    exact ⟨b', hload, hproper', hsame.symm.trans hsame'⟩

variable (config) in
/-- Some tables that meet `P` have the settings of the file. -/
def StoredFor (P : Bot → Prop) (content : Option Bytes) : Prop := ∃ b, P b ∧ Stored config content b

variable (config) in
/-- Outside a save: the file has the settings of the tables, or of those from
    before the update that is being handled, and the handler saves its own. -/
def Settled (P : Bot → Prop) : Place → Option Bytes → Prop
  | .down, content => StoredFor config P content
  | .polling b, content => P b ∧ Proper config b ∧ Stored config content b
  | .handling calls final, content =>
    (∀ e ∈ calls, Proper config e.2) ∧ Proper config final ∧ P final ∧
      ∃ b, P b ∧ Stored config content b ∧ SavesOnce b calls final

theorem Settled.storedFor {place : Place} (h : Settled config P place content) :
    StoredFor config P content := by
  cases place with
  | down => exact h
  | polling b => exact ⟨b, h.1, h.2.2⟩
  | handling calls final =>
    obtain ⟨-, -, -, b, hb, hstored, -⟩ := h
    exact ⟨b, hb, hstored⟩

variable (config) in
/-- The file has settings that meet `P`, now and when the save is over. -/
def SettledHost (P : Bot → Prop) (h : Host) : Prop :=
  Writing h.disk h.ops (StoredFor config P) (Settled config P h.place)

theorem SettledHost.idle (hidle : h.save = none)
    (hsettled : Settled config P h.place (h.disk .settings)) : SettledHost config P h := by
  unfold SettledHost
  rw [Host.ops_of_idle hidle]
  exact Writing.idle hsettled fun _ => Settled.storedFor

/-- Outside a save the file is `Settled`. -/
theorem SettledHost.settled (hs : SettledHost config P h) (hidle : h.save = none) :
    Settled config P h.place (h.disk .settings) := by
  unfold SettledHost at hs
  rw [Host.ops_of_idle hidle] at hs
  exact hs.done

/-- No operation on files fails in the step. -/
def HostLabel.works : HostLabel → Bool
  | file fault => !fault
  | _ => true

/-- The step is no update. -/
def HostLabel.noUpdate : HostLabel → Bool
  | update _ _ => false
  | _ => true

/-- A step of the bot outside a save, when it keeps the tables in `P`. -/
theorem settled_moves (hown : OwnNames config) (hP : ∀ b b', P b → AllSame b b' → P b')
    {l : HostLabel} (hsettled : Settled config P h.place (h.disk .settings))
    (hupdate : ∀ update env b, l = .update update env → h.place = .polling b →
      P (dispatch config env update b).bot)
    (hmoves : Moves config h l h') (hidle : h.save = none) : SettledHost config P h' := by
  -- unless it starts a save, the step leaves nothing to do on the disk
  have hrest : ∀ place, Settled config P place (h.disk .settings) →
      SettledHost config P { h with place := place } :=
    fun _ hplace => SettledHost.idle hidle hplace
  cases hmoves with
  | start hplace hload =>
    rw [hplace] at hsettled
    obtain ⟨b, hb, hstored⟩ := hsettled
    obtain ⟨b', hload', hproper, hsame⟩ := hstored.load hown
    rw [hload] at hload'
    obtain rfl := Except.ok.inj hload'
    exact hrest _ ⟨hP _ _ hb hsame, hproper, hstored.same hsame⟩
  | @update b update env hplace =>
    rw [hplace] at hsettled
    obtain ⟨hb, hproper, hstored⟩ := hsettled
    have halways : Always (Proper config) (dispatch config env update b) :=
      always_dispatch (fun hallowed => proper_kept hallowed) hproper
    exact hrest _ ⟨halways.calls, halways.now, hupdate update env b rfl hplace, b, hb, hstored,
      saves_dispatch config env update b⟩
  | leave hplace =>
    rw [hplace] at hsettled
    obtain ⟨-, hproper, hfinal, b, -, hstored, hsaves⟩ := hsettled
    exact hrest _ ⟨hfinal, hproper, hstored.same hsaves.nil⟩
  | @call call b₁ calls final raises hplace hcall =>
    rw [hplace] at hsettled
    obtain ⟨hcalls, hproper, hfinal, b, hb, hstored, hsaves⟩ := hsettled
    obtain ⟨hfirst, hproper_calls⟩ := List.forall_mem_cons.mp hcalls
    obtain ⟨hsame, hsaves'⟩ := hsaves.at_call hcall
    cases raises with
    | true => exact hrest _ ⟨hP _ _ hb hsame, hfirst, hstored.same hsame⟩
    | false => exact hrest _ ⟨hproper_calls, hproper, hfinal, b, hb, hstored, hsaves'⟩
  | @save b₁ calls final n ids chunks r hplace hids hstart =>
    have hnow := hsettled.storedFor
    rw [hplace] at hsettled
    obtain ⟨hcalls, hproper, hfinal, b, hb, hstored, hsaves⟩ := hsettled
    obtain ⟨hfirst, hproper_calls⟩ := List.forall_mem_cons.mp hcalls
    have hafter := hsaves.at_save
    rcases save_settings_cases hstart with ⟨hsaved, rfl⟩ | rfl
    · refine Writing.replace _ _ hnow ?_ fun _ => Settled.storedFor
      exact ⟨hproper_calls, hproper, hfinal, b₁, hP _ _ hfinal hafter.final.symm,
        .saved b₁ ids _ rfl hfirst hids hsaved (.refl b₁), .unchanged hafter⟩
    · exact Writing.abandon _ _ hnow

theorem Host.file_place (h : Host) (s : Save) : (h.file s false).place = h.place := by
  unfold Host.file
  cases s.ops <;> rfl

theorem SettledHost.step (hown : OwnNames config) (hP : ∀ b b', P b → AllSame b b' → P b')
    {l : HostLabel} (hworks : l.works = true) (hs : SettledHost config P h)
    (hupdate : ∀ update env b, l = .update update env → h.place = .polling b →
      P (dispatch config env update b).bot)
    (hstep : (host config).step h l h') : SettledHost config P h' := by
  obtain rfl | ⟨s, fault, rfl, hsave, rfl⟩ | ⟨hidle, hmoves⟩ := host_step_cases hstep
  · exact Writing.idle hs.now fun _ h => h
  · obtain rfl : fault = false := by simpa [HostLabel.works] using hworks
    unfold SettledHost
    rw [Host.file_place]
    exact writing_works hsave hs
  · exact settled_moves hown hP (hs.settled hidle) hupdate hmoves hidle

/-! ### No setting is lost -/

variable (config) in
/-- A bot that starts now has the settings of `b`. -/
def Restores (h : Host) (b : Bot) : Prop :=
  ∃ b', load_settings config (h.disk .settings) Bot.empty = .ok b' ∧ AllSame b b'

theorem settled_host (hown : OwnNames config)
    (hr : Lts.Reachable ((host config).restrict fun _ l => l.works = true) h) :
    SettledHost config (fun _ => True) h := by
  refine hr.invariant (P := SettledHost config fun _ => True) ?_ ?_
  · exact Writing.idle ⟨Bot.empty, trivial, .nothing rfl (.refl _)⟩ fun _ h => h
  · intro h l h' _ hs hstep
    obtain ⟨hworks, hstep⟩ := Lts.restrict_step.mp hstep
    exact hs.step hown (fun _ _ _ _ => trivial) hworks (fun _ _ _ _ _ => trivial) hstep

/-- In every run in which no operation on files fails: between two updates the
    file has the settings of every user, and when the bot is killed while it
    handles an update, it starts with the settings from before the update or
    with those from after it, also when it is killed and started again and
    again. -/
theorem settings_kept (hown : OwnNames config)
    (hr : Lts.Reachable ((host config).restrict fun _ l => l.works = true) h) {b : Bot}
    (hplace : h.place = .polling b) (hidle : h.save = none) :
    Restores config h b ∧
    ∀ update env h₁ h₂, (host config).step h (.update update env) h₁ →
      Lts.Star ((host config).restrict fun _ l => (l.works && l.noUpdate) = true) h₁ h₂ →
      Restores config h₂ b ∨ Restores config h₂ (dispatch config env update b).bot := by
  have hdone := (settled_host hown hr).settled hidle
  rw [hplace] at hdone
  obtain ⟨-, hproper, hstored⟩ := hdone
  constructor
  · obtain ⟨b', hload, -, hsame⟩ := hstored.load hown
    exact ⟨b', hload, hsame⟩
  · intro update env h₁ h₂ hfirst hlater
    -- from now on the tables are those from before the update, or from after it
    have hP : ∀ c c', (AllSame b c ∨ AllSame (dispatch config env update b).bot c) →
        AllSame c c' → (AllSame b c' ∨ AllSame (dispatch config env update b).bot c') :=
      fun c c' hc hsame => hc.imp (fun h => h.trans hsame) fun h => h.trans hsame
    have hbefore : SettledHost config
        (fun c => AllSame b c ∨ AllSame (dispatch config env update b).bot c) h := by
      refine SettledHost.idle hidle ?_
      rw [hplace]
      exact ⟨.inl (.refl b), hproper, hstored⟩
    have hstart := hbefore.step hown hP (l := .update update env) rfl (by
      intro update' env' b' heq hplace'
      obtain ⟨rfl, rfl⟩ := HostLabel.update.inj heq
      obtain rfl := Place.polling.inj (hplace.symm.trans hplace')
      exact .inr (.refl _)) hfirst
    have hend := hlater.preserves (P := SettledHost config
        (fun c => AllSame b c ∨ AllSame (dispatch config env update b).bot c)) (by
      intro s l s' hs hstep
      obtain ⟨hquiet, hstep⟩ := Lts.restrict_step.mp hstep
      obtain ⟨hworks, hno⟩ := Bool.and_eq_true_iff.mp hquiet
      refine hs.step hown hP hworks (fun update env b heq => ?_) hstep
      rw [heq] at hno
      cases hno) hstart
    obtain ⟨c, hc, hstored'⟩ := hend.now
    obtain ⟨b', hload, -, hsame⟩ := hstored'.load hown
    exact hc.imp (fun h => ⟨b', hload, h.trans hsame⟩) fun h => ⟨b', hload, h.trans hsame⟩

theorem ownNames_plainConfig : OwnNames plainConfig := by
  intro name hknown
  have hkeys : plainConfig.vehicle_maps.keys = ["pat".py] := by decide +kernel
  have hmem : name ∈ plainConfig.vehicle_maps.keys := (Dict.mem_keys_iff _ _).mpr hknown
  rw [hkeys, List.mem_singleton] at hmem
  rw [hmem]
  decide +kernel

def Place.isPolling : Place → Bool
  | polling _ => true
  | _ => false

theorem settings_kept_sample :
    let h := ((host plainConfig).restrict fun _ l => l.works = true).play savedRun
    (h.disk .settings).isSome = true ∧ ∃ b, h.place = .polling b ∧ Restores plainConfig h b := by
  intro h
  have hsaved : (h.disk .settings).isSome = true := by decide +kernel
  have hpolling : h.place.isPolling = true := by decide +kernel
  have hidle : h.save.isNone = true := by decide +kernel
  cases hplace : h.place with
  | polling b =>
    exact ⟨hsaved, b, rfl, (settings_kept ownNames_plainConfig (Lts.reachable_play savedRun) hplace
      (Option.isNone_iff_eq_none.mp hidle)).1⟩
  | down | handling =>
    rw [hplace] at hpolling
    cases hpolling

end BoVpnAgent.AudioBot

import Mathlib.Data.Finset.Basic
import BoVpnAgent.Bot.Branches

/-! # The audio bot

    The update handlers of `AudioBot`.  A handler works on the tables of the
    bot and makes calls to the Telegram API.  None of its decisions depends on
    what a call returns, but every call may raise, and then the handler ends
    with the tables as they are: so a handler is modelled by the calls it
    makes, each with the tables at that moment, and the tables at its end.

    This file defines:
    - `Bot`: the tables
    - the handlers of messages, commands and callbacks
    - `dispatch`: the handler of an update

    Jobs are changed by other threads; what a handler sees of them is part of
    its environment.
-/

namespace BoVpnAgent.AudioBot

/-! ### Constants -/

/-- `CHANNELS` -/
def CHANNELS : List (String × String) :=
  [("salon", "Салон"), ("street", "Улица"), ("tangenta", "Тангента")]

/-- `BRANCH_NAMES` -/
def BRANCH_NAMES : List (String × String) := [("pat", "ПАТ"), ("piteravto", "Питеравто")]

/-- `BUTTON_COMMANDS` -/
def BUTTON_COMMANDS : List (String × String) :=
  [("🎯 Выбрать ТС", "/target"), ("🏢 Филиал", "/branch"), ("📋 Статус", "/status"),
   ("⏹ Стоп", "/stop")]

/-- `table.get(key)` of a constant table -/
def text? (table : List (String × String)) (key : PyStr) : Option PyStr :=
  (table.find? fun e => e.1.py = key).map fun e => e.2.py

/-- `output in CHANNELS` -/
def IsChannel (output : PyStr) : Prop := (text? CHANNELS output).isSome

instance (output : PyStr) : Decidable (IsChannel output) :=
  inferInstanceAs (Decidable (_ = true))

/-! ### Tables -/

/-- `Target` -/
structure Target where
  branch : PyStr
  number : PyStr
  ip : PyStr
  volume : Int
  output : PyStr
  deriving DecidableEq

/-- A value of `user_audio`. -/
structure Audio where
  volume : Int
  output : PyStr
  deriving DecidableEq

/-- The settings of a user without any. -/
def defaultAudio : Audio := { volume := 25, output := "salon".py }

/-- The tables of the bot. -/
structure Bot where
  targets : Dict Int Target
  awaiting_target : Finset Int
  awaiting_branch : Finset Int
  awaiting_volume : Finset Int
  user_branches : Dict Int PyStr
  user_audio : Dict Int Audio

variable (I : Interp)

/-- What the bot is configured with. -/
structure Config where
  /-- `str.lower` -/
  lower : PyStr → PyStr
  allowed_users : Finset Int
  /-- they come from `int` -/
  digits : ∀ user_id ∈ allowed_users, Json.DigitsWithin I.int_max_str_digits user_id
  vehicle_maps : VehicleMaps
  branch_aliases : Dict PyStr PyStr
  default_branch : PyStr

/-- The tables of a bot without settings. -/
def Bot.empty : Bot where
  targets := Dict.empty
  awaiting_target := ∅
  awaiting_branch := ∅
  awaiting_volume := ∅
  user_branches := Dict.empty
  user_audio := Dict.empty

namespace Bot

variable (b : Bot) (user_id : Int)

/-- `_clear_input` -/
def clear_input : Bot :=
  { b with awaiting_target := b.awaiting_target.erase user_id
           awaiting_branch := b.awaiting_branch.erase user_id
           awaiting_volume := b.awaiting_volume.erase user_id }

/-- `self.awaiting_target.add(user_id)` -/
def await_target : Bot := { b with awaiting_target := insert user_id b.awaiting_target }

/-- `self.awaiting_branch.add(user_id)` -/
def await_branch : Bot := { b with awaiting_branch := insert user_id b.awaiting_branch }

/-- `self.awaiting_volume.add(user_id)` -/
def await_volume : Bot := { b with awaiting_volume := insert user_id b.awaiting_volume }

/-- `self.awaiting_branch.discard(user_id)` -/
def discard_branch : Bot := { b with awaiting_branch := b.awaiting_branch.erase user_id }

/-- `self.user_audio.get(user_id, {})` with the defaults of its readers -/
def audio : Audio := (b.user_audio.get? user_id).getD defaultAudio

/-- What `_set_audio` does to the tables; `settings` is its first line. -/
def set_audio (settings : Audio) : Bot :=
  { b with
    user_audio := b.user_audio.set user_id settings
    targets :=
      match b.targets.get? user_id with
      | some target =>
        b.targets.set user_id { target with volume := settings.volume, output := settings.output }
      | none => b.targets }

/-- What `/target` does to the tables. -/
def set_target (target : Target) : Bot :=
  { b with
    targets := b.targets.set user_id target
    user_branches := b.user_branches.set user_id target.branch
    user_audio := b.user_audio.set user_id { volume := target.volume, output := target.output } }

/-- What `_handle_branch` does to the tables. -/
def set_branch (branch : PyStr) : Bot :=
  { b with user_branches := b.user_branches.set user_id branch, targets := b.targets.pop user_id }

/-- `self.user_branches[user_id] = branch` in `_parse_target` -/
def store_branch (branch : PyStr) : Bot :=
  { b with user_branches := b.user_branches.set user_id branch }

end Bot

variable {I}
variable (config : Config I)

/-- `_normalize_branch` -/
def Config.normalize_branch (value : PyStr) : Option PyStr :=
  AudioBot.normalize_branch config.lower config.vehicle_maps config.branch_aliases value

/-- `_branch_for_user` -/
def branch_for_user (b : Bot) (user_id : Int) : PyStr :=
  (b.user_branches.get? user_id).getD config.default_branch

/-- `sorted(names)` -/
def sortedNames (names : List PyStr) : List PyStr :=
  names.insertionSort fun a b => Json.strLE a b

/-! ### Targets -/

/-- `raise ValueError(text)` -/
def raiseValue {α : Type} (text : PyStr) : Except PyExc α := .error (.builtin .valueError text)

/-- The address of a vehicle in a branch, or the error that says where it is. -/
def find_vehicle (branch number : PyStr) (found : List PyStr) : Except PyExc MntAddress :=
  match (config.vehicle_maps.get? branch).bind fun mapping => mapping.numbers.get? number with
  | some ip => .ok ip
  | none =>
    match found with
    | name :: _ =>
      raiseValue ("ТС ".py ++ number ++ " найдена в филиале ".py ++ name ++
        ", но выбран филиал ".py ++ branch ++ ". Выбери: /branch ".py ++ name)
    | [] => raiseValue ("ТС ".py ++ number ++ " нет в справочнике филиала ".py ++ branch)

/-- The branch that a vehicle number is looked up in. -/
def choose_branch (chosen : Option PyStr) (number : PyStr) (found : List PyStr) :
    Except PyExc PyStr :=
  match chosen with
  | some branch => .ok branch
  | none =>
    match found with
    | [] => .ok config.default_branch
    | [name] => .ok name
    | _ =>
      raiseValue ("номер ТС ".py ++ number ++ " есть в нескольких филиалах: ".py ++
        PyStr.join ", ".py (sortedNames found) ++ ". Укажи филиал: /target ФИЛИАЛ ".py ++ number)

variable (I) in
/-- `int(args[1]) if len(args) > 1 else settings.get("volume", 25)`, with the
    arguments behind the number -/
def volume_arg (audio : Audio) : List PyStr → Except PyExc Int
  | [] => .ok audio.volume
  | arg :: _ => liftBuiltin (Json.toInt I (.str arg))

/-- `args[2] if len(args) > 2 else settings.get("output", "salon")` -/
def output_arg (audio : Audio) : List PyStr → PyStr
  | _ :: output :: _ => output
  | _ => audio.output

/-- `_parse_target` once the branch argument, if any, is taken off. -/
def parse_number (audio : Audio) (chosen : Option PyStr) : List PyStr → Except PyExc Target
  | [] => raiseValue "не указан номер ТС".py
  | arg :: args => do
    let number := PyStr.strip arg
    let found := config.vehicle_maps.keys.filter fun name =>
      ((config.vehicle_maps.get? name).bind fun mapping => mapping.numbers.get? number).isSome
    let branch ← choose_branch config chosen number found
    let ip ← find_vehicle config branch number found
    -- a map has no other addresses
    if !in_network ip.value then raiseValue "нужен адрес МНТ из сети 172.26.0.0/15".py
    else
      let volume ← volume_arg I audio args
      let output := output_arg audio args
      if ¬ (1 ≤ volume ∧ volume ≤ 100) then raiseValue "громкость должна быть от 1 до 100".py
      else if ¬ IsChannel output then raiseValue "канал: salon, street или tangenta".py
      else
        return { branch := branch, number := number, ip := IpAddress.ipv4Str ip.value,
                 volume := volume, output := output }

/-- `_parse_target`; the tables change with an explicit branch only. -/
def parse_target (b : Bot) (user_id : Int) : List PyStr → Except PyExc (Target × Bot)
  | [] => raiseValue "не указан номер ТС".py
  | arg :: args =>
    match config.normalize_branch arg with
    | some branch => do
      let target ← parse_number config (b.audio user_id) (some branch) args
      return (target, b.store_branch user_id branch)
    | none => do
      let target ← parse_number config (b.audio user_id) (b.user_branches.get? user_id) (arg :: args)
      return (target, b)

/-! ### Calls -/

/-- A button of an inline keyboard. -/
structure Button where
  text : PyStr
  callback_data : PyStr

/-- What a handler does outside its tables. -/
inductive Call where
  /-- `send_message`; without rows the keyboard is `KEYBOARD` -/
  | send_message (chat_id : Int) (text : PyStr) (rows : Option (List (List Button)))
  | edit_message (chat_id message_id : Int) (text : PyStr) (rows : List (List Button))
  /-- `answerCallbackQuery` -/
  | answer (text : Option PyStr)
  | save_settings
  /-- `_stop` finds a job and cancels it -/
  | cancel (user_id : Int)
  /-- a new job and its thread -/
  | play (user_id chat_id : Int) (file_id suffix : PyStr) (target : Target)

/-- A handler at work: the calls so far, each with the tables at its time,
    and the tables now. -/
structure Ctx where
  bot : Bot
  calls : List (Call × Bot)

/-- A call. -/
def Ctx.call (c : Ctx) (call : Call) : Ctx := { c with calls := c.calls ++ [(call, c.bot)] }

/-- A change of the tables. -/
def Ctx.update (c : Ctx) (f : Bot → Bot) : Ctx := { c with bot := f c.bot }

/-- `self.api.send_message(chat_id, text)` -/
def Ctx.send (c : Ctx) (chat_id : Int) (text : PyStr) : Ctx := c.call (.send_message chat_id text none)

/-- What a handler sees of the outside. -/
structure Env where
  /-- the users with a job, and whether its process is alive -/
  jobs : Int → Option Bool
  /-- an edited message is refused, and not because it is the same -/
  edit_refused : Bool
  /-- which of the calls raise -/
  raises : List Bool

variable (env : Env)

/-! ### Panels -/

/-- The text of `_panel`. -/
def panel_text (b : Bot) (user_id : Int) : PyStr :=
  let branch := branch_for_user config b user_id
  let target := b.targets.get? user_id
  let audio := b.audio user_id
  "Филиал: ".py ++ (text? BRANCH_NAMES branch).getD branch ++ "\n".py ++
    (match target with
     | some target => "ТС: ".py ++ target.number ++ "\nIP: ".py ++ target.ip ++ "\n".py
     | none => "ТС не выбрана\n".py) ++
    "Громкость: ".py ++ Json.intRepr audio.volume ++ "%\nКанал: ".py ++
    (text? CHANNELS audio.output).getD [] ++ "\n".py ++
    (if (env.jobs user_id).isSome then
       "Задача выполняется. Настройки ниже — для следующего аудио.".py
     else if target.isSome then "Готов к аудио".py
     else "Выбери филиал и ТС".py)

/-- The rows of buttons of `_panel`. -/
def panel_rows (b : Bot) (user_id : Int) (mode : String) : List (List Button) :=
  let audio := b.audio user_id
  let button (label action : PyStr) : Button :=
    { text := label
      callback_data := "audio:".py ++ Json.intRepr user_id ++ ":".py ++ action }
  (if mode = "branch" then
     [(sortedNames config.vehicle_maps.keys).map fun name =>
       button ((text? BRANCH_NAMES name).getD name) ("branch=".py ++ name)]
   else if mode = "channel" then
     [CHANNELS.map fun e =>
       button ((if e.1.py = audio.output then "✓ ".py else []) ++ e.2.py) ("channel=".py ++ e.1.py)]
   else []) ++
  [[button "Филиал".py "branch".py, button "Выбрать ТС".py "target".py],
   [button ("Канал: ".py ++ (text? CHANNELS audio.output).getD []) "channel".py],
   [button "−5%".py "quieter".py, button (Json.intRepr audio.volume ++ "%".py) "volume".py,
    button "+5%".py "louder".py],
   [button "Стоп".py "stop".py, button "Обновить".py "status".py]]

/-- `_panel` -/
def panel (user_id chat_id : Int) (mode : String) (message_id : Option Int) (c : Ctx) : Ctx :=
  let text := panel_text config env c.bot user_id
  let rows := panel_rows config c.bot user_id mode
  match message_id with
  | none => c.call (.send_message chat_id text (some rows))
  | some message_id =>
    let c := c.call (.edit_message chat_id message_id text rows)
    if env.edit_refused then c.call (.send_message chat_id text (some rows)) else c

/-! ### Commands -/

/-- The text of `/start` and `/help`. -/
def helpText : PyStr :=
  ("Команды:\n" ++
   "/branch ФИЛИАЛ — выбрать филиал\n" ++
   "/target НОМЕР_ТС [громкость] [канал]\n" ++
   "/target ФИЛИАЛ НОМЕР_ТС [громкость] [канал]\n" ++
   "/status — текущая цель\n" ++
   "/stop — остановить звук\n\n" ++
   "/volume 15 — громкость для следующего аудио\n" ++
   "/channel — выбрать канал\n\n" ++
   "Пришли или перешли трек Telegram, голосовое, MP3, M4A, AAC, OGG, WAV или FLAC (до 20 МБ).\n" ++
   "Филиалы: piteravto, pat.\n" ++
   "Каналы: salon, street, tangenta.").py

/-- `_set_audio`, with the settings it stores. -/
def set_audio (user_id : Int) (settings : Audio) (c : Ctx) : Ctx :=
  (c.update (·.set_audio user_id settings)).call .save_settings

/-- `_stop` -/
def stop (user_id chat_id : Int) (c : Ctx) : Ctx :=
  match env.jobs user_id with
  | none => c.send chat_id "Активного воспроизведения нет.".py
  | some alive =>
    (c.call (.cancel user_id)).send chat_id
      (if alive then "Останавливаю воспроизведение…".py
       else "Отменяю задачу до начала воспроизведения…".py)

/-- `_handle_branch` -/
def handle_branch (user_id chat_id : Int) (args : List PyStr) (c : Ctx) : Ctx :=
  match args with
  | [] =>
    panel config env user_id chat_id "branch" none
      (c.update fun b => (b.clear_input user_id).await_branch user_id)
  | arg :: _ =>
    match config.normalize_branch arg with
    | none =>
      c.send chat_id ("Ошибка: неизвестный филиал ".py ++ arg ++ ". Доступны: ".py ++
        PyStr.join ", ".py (sortedNames config.vehicle_maps.keys))
    | some branch =>
      let c := c.update fun b => (b.clear_input user_id).set_branch user_id branch
      let c := (c.call .save_settings).update (·.await_target user_id)
      c.send chat_id ("Филиал сохранён: ".py ++ branch ++ "\nВведи номер ТС.".py)

/-- The branch of `handle_command` for `/volume`. -/
def volume_command (user_id chat_id : Int) (args : List PyStr) (c : Ctx) : Ctx :=
  let c := c.update (·.clear_input user_id)
  match args with
  | [] =>
    (c.update (·.await_volume user_id)).send chat_id
      "Введи громкость от 1 до 100 для следующего аудио.".py
  | arg :: _ =>
    match Json.toInt I (.str arg) with
    | .ok volume =>
      if 1 ≤ volume ∧ volume ≤ 100 then
        panel config env user_id chat_id "main" none
          (set_audio user_id { c.bot.audio user_id with volume } c)
      else (c.update (·.await_volume user_id)).send chat_id "Нужно целое число от 1 до 100.".py
    | .error _ =>
      (c.update (·.await_volume user_id)).send chat_id "Нужно целое число от 1 до 100.".py

/-- The branch of `handle_command` for `/target`. -/
def target_command (user_id chat_id : Int) (args : List PyStr) (c : Ctx) : Ctx :=
  match args with
  | [] =>
    let c := c.update (·.clear_input user_id)
    if (c.bot.user_branches.get? user_id).isNone then handle_branch config env user_id chat_id [] c
    else
      let branch := branch_for_user config c.bot user_id
      (c.update (·.await_target user_id)).send chat_id
        ("Филиал: ".py ++ (text? BRANCH_NAMES branch).getD branch ++ ". Введи номер ТС.".py)
  | args =>
    match parse_target config c.bot user_id args with
    | .error exc =>
      c.send chat_id ("Ошибка: ".py ++ exc.str ++ "\nПример: /target pat 6317 25 salon".py)
    | .ok (target, b) =>
      let c := c.update fun _ => (b.clear_input user_id).set_target user_id target
      panel config env user_id chat_id "main" none (c.call .save_settings)

/-- `handle_command` -/
def handle_command (user_id chat_id : Int) (text : PyStr) (c : Ctx) : Ctx :=
  match PyStr.split text with
  | [] => c
  | word :: args =>
    let command := config.lower (PyStr.partition 0x40 word).1
    if command = "/start".py ∨ command = "/help".py then
      panel config env user_id chat_id "main" none
        ((c.update (·.clear_input user_id)).send chat_id helpText)
    else if command = "/channel".py then
      panel config env user_id chat_id "channel" none (c.update (·.clear_input user_id))
    else if command = "/volume".py then volume_command config env user_id chat_id args c
    else if command = "/branch".py then handle_branch config env user_id chat_id args c
    else if command = "/target".py then target_command config env user_id chat_id args c
    else if command = "/status".py then
      panel config env user_id chat_id "main" none (c.update (·.clear_input user_id))
    else if command = "/stop".py then stop env user_id chat_id (c.update (·.clear_input user_id))
    else c.send chat_id "Неизвестная команда. Используй /help.".py

/-! ### Updates -/

/-- What `handle_message` reads of a message. -/
structure Message where
  user_id : Int
  chat_id : Int
  text : PyStr
  /-- `_media(message)` -/
  media : Option (PyStr × PyStr)
  /-- the file is larger than `MAX_AUDIO_BYTES` -/
  oversize : Bool

/-- What `handle_callback` reads of a callback. -/
structure Callback where
  user_id : Int
  data : PyStr
  /-- the chat and the id of the message the button belongs to -/
  panel : Option (Int × Int)

/-- The branch of `handle_message` for anything but text that is asked for. -/
def handle_media (m : Message) (c : Ctx) : Ctx :=
  match m.media with
  | none =>
    c.send m.chat_id
      ("Пришли трек Telegram, голосовое или аудиофайл: " ++
       "MP3, M4A, AAC, OGG, WAV, FLAC (до 20 МБ).").py
  | some (file_id, suffix) =>
    if m.oversize then
      c.send m.chat_id "Файл слишком большой. Отправь аудио размером до 20 МБ.".py
    else
      match c.bot.targets.get? m.user_id with
      | none => handle_command config env m.user_id m.chat_id "/target".py c
      | some target =>
        if (env.jobs m.user_id).isSome then
          c.send m.chat_id "У тебя уже идёт задача. Используй /stop.".py
        else c.call (.play m.user_id m.chat_id file_id suffix target)

/-- `handle_message` -/
def handle_message (m : Message) (c : Ctx) : Ctx :=
  if m.user_id ∉ config.allowed_users then c
  else
    let text := (text? BUTTON_COMMANDS (PyStr.strip m.text)).getD (PyStr.strip m.text)
    if PyStr.startsWith text "/".py then handle_command config env m.user_id m.chat_id text c
    else if text ≠ [] ∧ m.user_id ∈ c.bot.awaiting_volume then
      handle_command config env m.user_id m.chat_id ("/volume ".py ++ text) c
    else if text ≠ [] ∧ m.user_id ∈ c.bot.awaiting_target then
      handle_command config env m.user_id m.chat_id ("/target ".py ++ text) c
    else if text ≠ [] ∧ m.user_id ∈ c.bot.awaiting_branch then
      handle_command config env m.user_id m.chat_id ("/branch ".py ++ text)
        (c.update (·.discard_branch m.user_id))
    else handle_media config env m c

/-- The action of callback data `audio:<user_id>:<action>`. -/
def action? (user_id : Int) (data : PyStr) : Option PyStr :=
  let rest := (PyStr.partition 0x3A data).2
  if 0x3A ∈ data ∧ 0x3A ∈ rest ∧ (PyStr.partition 0x3A data).1 = "audio".py ∧
      (PyStr.partition 0x3A rest).1 = Json.intRepr user_id then
    some (PyStr.partition 0x3A rest).2
  else none

/-- The branches of `handle_callback` on the action. -/
def handle_action (user_id chat_id message_id : Int) (action : PyStr) (c : Ctx) : Ctx :=
  if PyStr.startsWith action "branch=".py then
    handle_branch config env user_id chat_id [(PyStr.partition 0x3D action).2] c
  else if PyStr.startsWith action "channel=".py then
    let output := (PyStr.partition 0x3D action).2
    if IsChannel output then
      panel config env user_id chat_id "main" (some message_id)
        (set_audio user_id { c.bot.audio user_id with output } c)
    else c
  else if action = "quieter".py ∨ action = "louder".py then
    let current := (c.bot.audio user_id).volume
    let volume := max 1 (min 100 (current + if action = "louder".py then 5 else -5))
    panel config env user_id chat_id "main" (some message_id)
      (set_audio user_id { c.bot.audio user_id with volume } c)
  else if action = "branch".py then
    panel config env user_id chat_id "branch" (some message_id) (c.update (·.await_branch user_id))
  else if action = "channel".py then
    panel config env user_id chat_id "channel" (some message_id) c
  else if action = "status".py then
    panel config env user_id chat_id "status" (some message_id) c
  else if action = "target".py ∨ action = "volume".py ∨ action = "stop".py then
    handle_command config env user_id chat_id ("/".py ++ action) c
  else c

/-- `handle_callback` -/
def handle_callback (cb : Callback) (c : Ctx) : Ctx :=
  match (if cb.user_id ∈ config.allowed_users then action? cb.user_id cb.data else none) with
  | none => c.call (.answer (some "Это не твоя панель. Открой /start.".py))
  | some action =>
    let c := c.call (.answer none)
    match cb.panel with
    | none => c
    | some (chat_id, message_id) =>
      handle_action config env cb.user_id chat_id message_id action
        (c.update (·.clear_input cb.user_id))

/-- An update. -/
inductive Update where
  | message (m : Message)
  | callback (cb : Callback)

/-- The sender of an update. -/
def Update.sender : Update → Int
  | message m => m.user_id
  | callback cb => cb.user_id

/-- The handler of an update, in `run`. -/
def dispatch (update : Update) (b : Bot) : Ctx :=
  match update with
  | .message m => handle_message config env m ⟨b, []⟩
  | .callback cb => handle_callback config env cb ⟨b, []⟩

end BoVpnAgent.AudioBot

import BoVpnAgent.Bot.AudioBot
import BoVpnAgent.Lib.JsonLoads
import BoVpnAgent.Lib.Transition

/-! # The settings file and the polling loop

    `_save_settings` and `_load_settings`, and the loop of `run`.  An
    exception that `run` catches ends a handler and no more; saving settings
    that cannot be encoded raises one that it does not catch.
-/

namespace BoVpnAgent.AudioBot

variable {I : Interp} (config : Config I)

/-! ### Saving -/

/-- `json.dump(users, destination, ensure_ascii=False)` -/
def dumpOptions : Json.DumpOptions where
  sort_keys := false
  ensure_ascii := false
  item_separator := ", "
  key_separator := ": "

/-- `user_branches.keys() | user_audio.keys()`, in some order -/
def Bot.users (b : Bot) : List Int := (b.user_branches.keys ++ b.user_audio.keys).dedup

/-- What `_save_settings` writes for a user. -/
def user_json (b : Bot) (user_id : Int) : Json :=
  let audio : Json.Fields :=
    match b.user_audio.get? user_id with
    | some audio => [("volume".py, .int audio.volume), ("output".py, .str audio.output)]
    | none => []
  .obj (audio ++
    [("branch".py, ((b.user_branches.get? user_id).map Json.str).getD .null),
     ("number".py, ((b.targets.get? user_id).map fun target => Json.str target.number).getD .null)])

/-- The dictionary `users` of `_save_settings`, with the users in the order
    `ids`. -/
def users_json (b : Bot) (ids : List Int) : Json :=
  .obj (ids.map fun user_id => (Json.intRepr user_id, user_json b user_id))

variable (I) in
/-- The bytes that `_save_settings` leaves in the file. -/
def saved (b : Bot) (ids : List Int) : Except Builtin Bytes :=
  Json.dumpsUtf8 I dumpOptions (users_json b ids)

/-! ### The loop of `run` -/

variable (I) in
/-- `_save_settings` gets as far as the file system. -/
def saves (b : Bot) : Bool :=
  match saved I b b.users with
  | .ok _ => true
  | .error _ => false

/-- The call saves the settings. -/
def Call.isSave : Call → Bool
  | save_settings => true
  | _ => false

variable (I) in
/-- The tables after a handler: those of the first call that raises, or of
    the end.  There are none when an exception leaves `run`. -/
def settle : List Bool → List (Call × Bot) → Bot → Option Bot
  | _, [], b => some b
  | raises, (call, b) :: calls, final =>
    if raises.headD false then some b
    else if call.isSave && !saves I b then none
    else settle raises.tail calls final

/-- `run` from a bot without settings on. -/
def polling : Lts.System Bot (Update × Env) where
  init := Bot.empty
  next := fun b (update, env) =>
    settle I env.raises (dispatch config env update b).calls (dispatch config env update b).bot

/-! ### Loading -/

/-- `_normalize_branch(value)` of a value of the settings file -/
def normalize_json (value : Json) : Except Builtin (Option PyStr) :=
  match value with
  | .str s => .ok (config.normalize_branch s)
  | value => if value.truthy then .error .attributeError else .ok none

/-- The part of `_load_settings` for a branch and a vehicle number.  With an
    exception go the tables that it leaves behind. -/
def load_target (b : Bot) (user_id : Int) (branch : PyStr) (number : Json) :
    Bot × Option Builtin :=
  let b := b.store_branch user_id branch
  if !number.truthy then (b, none)
  else
    match Json.toStr I number with
    | .error exc => (b, some exc)
    | .ok number =>
      match parse_target config b user_id [branch, number] with
      | .ok (target, b) => ({ b with targets := b.targets.set user_id target }, none)
      -- `_parse_target` raises nothing else
      | .error _ => (b, some .valueError)

/-- The part of `_load_settings` for a user whose settings are a dictionary. -/
def load_user (b : Bot) (user_id : Int) (settings : Json.Fields) : Bot × Option Builtin :=
  match Json.toInt I ((Json.get? settings "volume".py).getD (.int 25)) with
  | .error exc => (b, some exc)
  | .ok volume =>
    if ¬ (1 ≤ volume ∧ volume ≤ 100) then (b, none)
    else
      match (Json.get? settings "output".py).getD (.str "salon".py) with
      | .str output =>
        if ¬ IsChannel output then (b, none)
        else
          let b := { b with user_audio := b.user_audio.set user_id { volume, output } }
          match normalize_json config ((Json.get? settings "branch".py).getD .null) with
          | .error exc => (b, some exc)
          | .ok none => (b, none)
          | .ok (some branch) =>
            load_target config b user_id branch ((Json.get? settings "number".py).getD .null)
      -- neither can be a key of `CHANNELS`
      | .arr _ | .obj _ => (b, some .typeError)
      | _ => (b, none)

/-- One turn of the loop of `_load_settings`. -/
def load_entry (b : Bot) (key : PyStr) (settings : Json) : Bot × Option Builtin :=
  match Json.toInt I (.str key), settings with
  | .error exc, _ => (b, some exc)
  | .ok user_id, .obj settings =>
    if user_id ∉ config.allowed_users then (b, none) else load_user config b user_id settings
  | .ok _, _ => (b, none)

/-- `isinstance(exc, ValueError)` -/
def isValueError : Builtin → Bool
  | .valueError | .jsonDecodeError | .unicodeDecodeError | .unicodeEncodeError => true
  | _ => false

/-- `isinstance(exc, (ValueError, TypeError, AttributeError))` -/
def skipsUser (exc : Builtin) : Bool :=
  isValueError exc || exc = .typeError || exc = .attributeError

/-- The loop of `_load_settings`. -/
def load_users (b : Bot) : List (PyStr × Json) → Except Builtin Bot
  | [] => .ok b
  | (key, settings) :: users =>
    match load_entry config b key settings with
    | (b, none) => load_users b users
    | (b, some exc) => if skipsUser exc then load_users b users else .error exc

/-- `_load_settings`, with the bytes of the file or `none` when it cannot be
    read.  The translation of newlines changes nothing that `json.loads`
    tells apart. -/
def load_settings (file : Option Bytes) (b : Bot) : Except Builtin Bot :=
  match file.bind Utf8.decode with
  | none => .ok b
  | some text =>
    match Json.loads I text with
    | .error exc => if isValueError exc then .ok b else .error exc
    | .ok (.obj users) => load_users config b users
    | .ok _ => .ok b

end BoVpnAgent.AudioBot

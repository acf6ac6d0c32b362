import BoVpnAgent.Bot.AudioBot
import BoVpnAgent.Lib.TextTail
import BoVpnAgent.Service

/-! # What the script writes and what the bot makes of it

    `play_vehicle_audio.sh` writes markers between the diagnostics of its
    `ssh` sessions, and `_play` reads both as one text.  When the script has
    failed, the message to the user follows from the words in the last 4000
    characters of that text.

    This file defines:
    - the output of a run of the script that no signal ends
    - the loop of `_play` over the lines, and the message behind it

    and shows for which runs the message names the stage that failed.
-/

namespace BoVpnAgent.PlayVehicleAudio

/-! ### The output of the script -/

def echo (text : PyStr) : PyStr := text ++ [0x0A]

/-- One upload.  The texts are what its `ssh` writes, as the text mode of the
    pipe hands it on. -/
structure Attempt where
  diagnostics : PyStr
  /-- what `ssh` writes behind each `TRANSFER_WAIT` -/
  waited : List PyStr
  deriving DecidableEq

/-- The lines of the loop that polls `transfer_pid`, from a minute on. -/
def waits (attempt minute : Nat) : List PyStr → PyStr
  | [] => []
  | text :: later =>
    echo ("TRANSFER_WAIT seconds=".py ++ Json.intRepr (60 * minute : Nat) ++ " attempt=".py ++
      Json.intRepr attempt) ++ text ++ waits attempt (minute + 1) later

def Attempt.output (a : Attempt) (attempt : Nat) : PyStr :=
  echo ("TRANSFER_ATTEMPT attempt=".py ++ Json.intRepr attempt) ++ a.diagnostics ++ waits attempt 1 a.waited

/-- An upload that failed. -/
def Attempt.retried (a : Attempt) (attempt : Nat) : PyStr :=
  a.output attempt ++ echo ("TRANSFER_RETRY attempt=".py ++ Json.intRepr attempt)

/-- `cleanup_remote` -/
structure Cleanup where
  diagnostics : PyStr
  cleaned : Bool
  deriving DecidableEq

def Cleanup.output (c : Cleanup) : PyStr :=
  c.diagnostics ++
    echo (if c.cleaned then "Remote playback stopped and temporary files removed".py
      else "Could not stop remote playback cleanly".py)

/-- An upload that succeeded, at the first or at the second attempt. -/
structure Transfer where
  failed : Option Attempt
  last : Attempt
  deriving DecidableEq

def Transfer.output (t : Transfer) : PyStr :=
  match t.failed with
  | none => t.last.output 1
  | some first => first.retried 1 ++ t.last.output 2

/-- A run of the script. -/
inductive Run where
  | transfer_failed (first second : Attempt) (cleanup : Cleanup)
  | playback_failed (transfer : Transfer) (playback : PyStr) (cleanup : Cleanup)
  | done (transfer : Transfer) (playback : PyStr)
  deriving DecidableEq

namespace Run

def returncode : Run → Int
  | transfer_failed .. => 20
  | playback_failed .. => 21
  | done .. => 0

/-- The lines in front of the playback. -/
def transferred (audio_bytes : Nat) (transfer : Transfer) : PyStr :=
  echo ("TRANSFER_START bytes=".py ++ Json.intRepr audio_bytes) ++ transfer.output ++
    echo ("TRANSFER_COMPLETE bytes=".py ++ Json.intRepr audio_bytes)

/-- What the script has written when it reports its end. -/
def front (audio_bytes : Nat) : Run → PyStr
  | transfer_failed first second _ =>
    echo ("TRANSFER_START bytes=".py ++ Json.intRepr audio_bytes) ++ first.retried 1 ++ second.retried 2
  | playback_failed transfer playback _ => transferred audio_bytes transfer ++ playback
  | done transfer playback => transferred audio_bytes transfer ++ playback

/-- The line that tells the end. -/
def marker : Run → PyStr
  | transfer_failed .. => "TRANSFER_FAILED".py
  | playback_failed .. => "PLAYBACK_FAILED".py
  | done .. => "Done".py

/-- What the exit trap writes. -/
def behind : Run → PyStr
  | transfer_failed _ _ cleanup => cleanup.output
  | playback_failed _ _ cleanup => cleanup.output
  | done .. => []

/-- The output of the run, with both streams in one. -/
def output (audio_bytes : Nat) (run : Run) : PyStr :=
  run.front audio_bytes ++ echo run.marker ++ run.behind

end Run

end BoVpnAgent.PlayVehicleAudio

namespace BoVpnAgent.AudioBot

open PlayVehicleAudio TextTail

/-! ### The loop of `_play` -/

variable (I : Interp)

/-- `_marker_int` -/
def marker_int (line key : PyStr) : Option Int :=
  let start := key ++ "=".py
  match (PyStr.split line).find? fun token => PyStr.startsWith token start with
  | some token => PyStr.toInt I.int_max_str_digits (PyStr.removePrefix token start)
  | none => none

/-- The variables of the loop, with what was sent. -/
structure Reading where
  output : PyStr
  playback_announced : Bool
  sent : List PyStr

def Reading.send (r : Reading) (text : PyStr) : Reading := { r with sent := r.sent ++ [text] }

variable (target : Target)

/-- The messages of the loop for one line. -/
def announce (r : Reading) (line : PyStr) : Reading :=
  if PyStr.startsWith line "TRANSFER_WAIT ".py then
    match marker_int I line "seconds".py with
    | some seconds =>
      if seconds = 0 then r
      else
        r.send ("Трек всё ещё передаётся на ТС: ".py ++ Json.intRepr seconds ++
          " сек. Ожидаю медленный SSH…".py)
    | none => r
  else if PyStr.startsWith line "TRANSFER_RETRY ".py then
    r.send "Связь с ТС прервалась во время передачи. Повторяю загрузку…".py
  else if PyStr.startsWith line "TRANSFER_COMPLETE ".py then
    r.send "Трек передан. Запускаю аудиоканал…".py
  else if r.playback_announced = false ∧ PyStr.startsWith line "Playback started:".py then
    { r with playback_announced := true }.send
      ("Воспроизведение началось на ТС ".py ++ target.number ++ " (".py ++ target.ip ++ "): ".py ++
        target.output ++ ", ".py ++ Json.intRepr target.volume ++ "%.\nДля остановки: /stop".py)
  else r

end BoVpnAgent.AudioBot

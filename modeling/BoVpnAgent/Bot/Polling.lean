import BoVpnAgent.Bot.Prompts
import BoVpnAgent.Lib.Feed

/-! # The loop over updates

    `run` asks Telegram for the updates from an offset on and handles them one
    by one.  It moves the offset behind an update before its handlers run; an
    exception of a handler, or of the request, ends the batch, and the rest is
    asked for again.

    Telegram is part of the system: it numbers the updates in the order in
    which they arrive, and answers with those from the offset on, up to a
    limit.  This file takes the loop to a `Feed`, and its tables to those of
    `polling`.
-/

namespace BoVpnAgent.AudioBot

open Lts

variable {I : Interp} (config : Config I)

/-- What `run` reads of an update. -/
structure Incoming where
  update_id : Int
  callback_query : Option Callback
  message : Option Message

/-- The loop, with the updates that have arrived at Telegram. -/
structure RunState where
  arrived : List Incoming
  offset : Option Int
  /-- the updates of the last answer that the `for` loop has not come to -/
  batch : List Incoming
  /-- the updates that the `for` loop has come to -/
  dispatched : List Incoming
  bot : Bot

inductive RunLabel where
  | arrive (update : Incoming)
  /-- `get_updates` returns `limit` updates at most -/
  | get_updates (limit : Nat)
  /-- `get_updates` raises -/
  | get_updates_raises
  /-- one turn of the `for` loop; which calls of the two handlers raise is
      part of what they see -/
  | turn (callback_env message_env : Env)

/-- A handler: the tables behind it, and whether it raises.  Without its part
    of the update it is not called. -/
def handler (update : Option Update) (env : Env) (b : Bot) : Option (Bot × Bool) :=
  match update with
  | some update =>
    let c := dispatch config env update b
    (settle I env.raises c.calls c.bot).map fun b => (b, (env.raises.take c.calls.length).any id)
  | none => some (b, false)

/-- The body of the `for` loop behind the offset. -/
def handle_update (update : Incoming) (callback_env message_env : Env) (b : Bot) :
    Option (Bot × Bool) :=
  match handler config (update.callback_query.map .callback) callback_env b with
  | some (b, false) => handler config (update.message.map .message) message_env b
  | raised => raised

/-- The result of `getUpdates` without its limit. -/
def pending_updates (s : RunState) : List Incoming :=
  match s.offset with
  | some offset => s.arrived.filter fun update => offset ≤ update.update_id
  | none => s.arrived

def run_next (s : RunState) : RunLabel → Option RunState
  | .arrive update =>
    if ∀ earlier ∈ s.arrived, earlier.update_id < update.update_id then
      some { s with arrived := s.arrived ++ [update] }
    else none
  | .get_updates limit =>
    if s.batch.isEmpty ∧ 0 < limit then some { s with batch := (pending_updates s).take limit }
    else none
  -- caught, and asked again with the same offset
  | .get_updates_raises => if s.batch.isEmpty then some s else none
  | .turn callback_env message_env =>
    match s.batch with
    | [] => none
    | update :: batch =>
      match handle_update config update callback_env message_env s.bot with
      | some (bot, raised) =>
        some { s with offset := some (update.update_id + 1)
                      batch := if raised then [] else batch
                      dispatched := s.dispatched ++ [update]
                      bot := bot }
      -- an exception that `run` does not catch
      | none => none

/-- `run`, with the tables of a bot that has started. -/
def run (b₀ : Bot) : System RunState RunLabel := ⟨⟨[], none, [], [], b₀⟩, run_next config⟩

/-- `get_updates` returns. -/
def RunLabel.returns : RunLabel → Bool
  | get_updates _ => true
  | _ => false

variable {config} {b₀ : Bot} {s t : RunState} {ls : List RunLabel}

/-! ### The loop is a feed -/

/-- The loop without the tables. -/
def RunState.feed (s : RunState) : Feed.State Incoming := ⟨s.arrived, s.offset, s.batch, s.dispatched⟩

variable (config) in
/-- The labels of the feed. -/
def feedLabel (s : RunState) : RunLabel → Feed.Label Incoming
  | .arrive update => .arrive update
  | .get_updates limit => .answer limit
  | .get_updates_raises => .refuse
  | .turn callback_env message_env =>
    match s.batch with
    | [] => .refuse
    | update :: _ =>
      .dispatch (((handle_update config update callback_env message_env s.bot).map Prod.snd).getD true)

theorem feed_step {l : RunLabel} {s' : RunState} (h : (run config b₀).step s l s') :
    (Feed.system Incoming.update_id).step s.feed (feedLabel config s l) s'.feed := by
  unfold System.step run at h
  unfold System.step Feed.system
  cases l with
  | arrive update =>
    simp only [run_next] at h
    split at h
    · next hnew => cases h; exact if_pos hnew
    · cases h
  | get_updates limit =>
    simp only [run_next] at h
    split at h
    · next hguard => cases h; exact if_pos hguard
    · cases h
  | get_updates_raises =>
    simp only [run_next] at h
    split at h
    · next hempty => cases h; exact if_pos hempty
    · cases h
  | turn callback_env message_env =>
    simp only [run_next] at h
    split at h
    · cases h
    · next update batch hbatch =>
      split at h
      · next bot raised hhandled =>
        cases h
        simp only [feedLabel, hbatch, hhandled, Option.map_some, Option.getD_some]
        unfold Feed.next RunState.feed
        simp only [hbatch]
      · cases h

variable (config b₀) in
def runFeed : Simulation (run config b₀) (Feed.system Incoming.update_id) where
  state := RunState.feed
  label := feedLabel config
  init := rfl
  step := fun _ _ _ h => feed_step h

theorem isAnswer_feedLabel (s : RunState) (l : RunLabel) :
    (feedLabel config s l).isAnswer = l.returns := by
  cases l with
  | turn callback_env message_env =>
    unfold feedLabel
    simp only
    split <;> rfl
  | arrive | get_updates | get_updates_raises => rfl

/-- Whichever handlers and requests raise: the updates are dispatched in the
    order of their numbers, none twice and none left out; and those that have
    arrived are all dispatched once `get_updates` has returned more often than
    there were some to dispatch. -/
theorem updates_dispatched_once (h : Reachable (run config b₀) s) :
    s.dispatched <+: s.arrived ∧
    (s.dispatched.map Incoming.update_id).Pairwise (· < ·) ∧
    ∀ ls t, Runs (run config b₀) s ls t →
      s.arrived.length - s.dispatched.length < ls.countP RunLabel.returns →
      s.arrived <+: t.dispatched := by
  have hfeed : Reachable (Feed.system Incoming.update_id) s.feed := h.simulated (runFeed config b₀)
  refine ⟨Feed.prefix_dispatched hfeed, ?_, ?_⟩
  · rw [List.pairwise_map]
    exact Feed.dispatched_sorted hfeed
  · intro ls t hrun hreturns
    obtain ⟨ls', hrun', hcount⟩ := hrun.simulated (runFeed config b₀) isAnswer_feedLabel
    rw [← hcount] at hreturns
    exact Feed.all_dispatched hfeed hrun' hreturns

/-! ### The tables -/

theorem handler_star {update : Option Update} {env : Env} {b b' : Bot} {raised : Bool}
    (h : handler config update env b = some (b', raised)) : Star (polling config) b b' := by
  cases update with
  | none =>
    cases h
    exact Star.refl b
  | some update =>
    obtain ⟨b'', hsettle, heq⟩ := Option.map_eq_some_iff.mp h
    cases heq
    exact (Star.refl b).tail (l := (update, env)) hsettle

theorem handle_update_star {update : Incoming} {callback_env message_env : Env} {b b' : Bot}
    {raised : Bool}
    (h : handle_update config update callback_env message_env b = some (b', raised)) :
    Star (polling config) b b' := by
  unfold handle_update at h
  split at h
  · next hcallback => exact (handler_star hcallback).trans (handler_star h)
  · exact handler_star h

/-- The tables of the loop are those of `polling`. -/
theorem run_polling (h : Reachable (run config b₀) s) : Star (polling config) b₀ s.bot := by
  apply h.invariant (P := fun s => Star (polling config) b₀ s.bot)
  · exact Star.refl b₀
  · intro s l s' _ hs hstep
    unfold System.step run at hstep
    cases l with
    | arrive update =>
      simp only [run_next] at hstep
      split at hstep <;> cases hstep
      exact hs
    | get_updates limit =>
      simp only [run_next] at hstep
      split at hstep <;> cases hstep
      exact hs
    | get_updates_raises =>
      simp only [run_next] at hstep
      split at hstep <;> cases hstep
      exact hs
    | turn callback_env message_env =>
      simp only [run_next] at hstep
      split at hstep
      · cases hstep
      · split at hstep
        · next hhandled =>
          cases hstep
          exact hs.trans (handle_update_star hhandled)
        · cases hstep

/-! ### A handler that raises -/

/-- A message of user 100. -/
def sampleIncoming (update_id : Int) (text : String) : Incoming :=
  { update_id, callback_query := none, message := some (sampleAnswer text) }

/-- What a handler sees; its first call may raise. -/
def sampleEnv (raises : Bool) : Env :=
  { jobs := fun _ => none, edit_refused := false, raises := [raises] }

/-- Three updates; the answer to the second one cannot be sent, and the third
    one is asked for again. -/
def sampleRun : List RunLabel :=
  [.arrive (sampleIncoming 7 "/status"), .arrive (sampleIncoming 8 "/volume"), .get_updates_raises,
    .get_updates 100, .arrive (sampleIncoming 11 "15"), .turn (sampleEnv false) (sampleEnv false),
    .turn (sampleEnv false) (sampleEnv true), .get_updates 100,
    .turn (sampleEnv false) (sampleEnv false)]

theorem updates_dispatched_once_sample :
    let s := (run sampleBotConfig Bot.empty).play sampleRun
    s.dispatched.map Incoming.update_id = [7, 8, 11] ∧ s.dispatched <+: s.arrived := by
  have h : Reachable (run sampleBotConfig Bot.empty) ((run sampleBotConfig Bot.empty).play sampleRun) :=
    reachable_play sampleRun
  exact ⟨by decide +kernel, (updates_dispatched_once h).1⟩

end BoVpnAgent.AudioBot

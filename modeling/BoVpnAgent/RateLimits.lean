import Mathlib.Order.ConditionallyCompleteLattice.Basic
import Mathlib.Data.Int.ConditionallyCompleteOrder
import BoVpnAgent.Lib.SlidingWindow
import BoVpnAgent.Service

/-! # The rate limiter over a whole log of calls

    `RateLimiter` keeps one queue of times for all users and one for each,
    and a user's queue is trimmed only when that user calls.  Here the queues
    are compared with the log of all calls so far.

    This file shows:
    - every queue tracks the accepted calls it stands for
    - `check` answers by what the last sixty seconds of the log hold, and no
      window of sixty seconds holds more accepted calls than a limit allows
-/

namespace BoVpnAgent.RateLimiter

/-- One call of `check`, with the reading of the clock inside it. -/
structure Call where
  telegram_user_id : Int
  now : Int

/-- The window: times from `cutoff now` on count at `now`. -/
def cutoff (now : Int) : Int := now - 60 * 1000000000

theorem cutoff_monotone : Monotone cutoff := fun _ _ h => Int.sub_le_sub_right h _

/-- `RateLimiter.__init__` -/
def init (global_limit user_limit : Int) : RateLimiter where
  global_limit := global_limit
  user_limit := user_limit
  global_events := []
  user_events := Dict.empty

/-- The queue that a call of `user` finds. -/
def user_queue (r : RateLimiter) (user : Int) : List Int := (r.user_events.get? user).getD []

/-! ### Logs -/

/-- A limiter together with the calls it has accepted. -/
structure Log where
  limiter : RateLimiter
  accepted : List Call

/-- The answer of the limiter to the call. -/
def Log.answer (log : Log) (c : Call) : Bool := (log.limiter.check c.telegram_user_id c.now).2

/-- The log after one more call. -/
def Log.serve (log : Log) (c : Call) : Log where
  limiter := (log.limiter.check c.telegram_user_id c.now).1
  accepted := log.accepted ++ if log.answer c then [c] else []

/-- The log after all calls, the earliest first. -/
def Log.replay (global_limit user_limit : Int) (calls : List Call) : Log :=
  calls.foldl Log.serve { limiter := init global_limit user_limit, accepted := [] }

/-- The times of all accepted calls. -/
def Log.times (log : Log) : List Int := log.accepted.map Call.now

/-- The times of the accepted calls of one user. -/
def Log.user_times (log : Log) (user : Int) : List Int :=
  (log.accepted.filter (·.telegram_user_id = user)).map Call.now

/-- The clock never runs backwards from one call to the next. -/
def Sorted (calls : List Call) : Prop := calls.Pairwise fun c d => c.now ≤ d.now

/-! ### One call -/

section check

variable (r : RateLimiter) (user now : Int)

/-- The two bounds that a call is held against. -/
def Room : Prop :=
  ((trim r.global_events (cutoff now)).length : Int) < r.global_limit ∧
  ((trim (r.user_queue user) (cutoff now)).length : Int) < r.user_limit

instance : Decidable (Room r user now) := inferInstanceAs (Decidable (_ ∧ _))

/-- A call adds its time to both queues when it is accepted, and otherwise
    only trims them. -/
theorem check_eq :
    r.check user now =
      ({ r with
          global_events := trim r.global_events (cutoff now) ++
            if Room r user now then [now] else []
          user_events := r.user_events.set user
            (trim (r.user_queue user) (cutoff now) ++ if Room r user now then [now] else []) },
        decide (Room r user now)) := by
  by_cases h : Room r user now
  · have hfull : ¬(r.global_limit ≤ (trim r.global_events (cutoff now)).length ∨
        r.user_limit ≤ (trim (r.user_queue user) (cutoff now)).length) :=
      not_or.mpr ⟨not_le.mpr h.1, not_le.mpr h.2⟩
    simp only [h, if_true, decide_true]
    exact if_neg hfull
  · have hfull : r.global_limit ≤ (trim r.global_events (cutoff now)).length ∨
        r.user_limit ≤ (trim (r.user_queue user) (cutoff now)).length := by
      unfold Room at h
      omega
    simp only [h, if_false, decide_false, List.append_nil]
    exact if_pos hfull

theorem check_accepts : (r.check user now).2 = true ↔ Room r user now := by
  rw [check_eq]
  exact decide_eq_true_iff

theorem user_queue_check_self :
    (r.check user now).1.user_queue user =
      trim (r.user_queue user) (cutoff now) ++ if Room r user now then [now] else [] := by
  rw [check_eq]
  simp [user_queue]

theorem user_queue_check_other {other : Int} (h : other ≠ user) :
    (r.check user now).1.user_queue other = r.user_queue other := by
  rw [check_eq]
  simp [user_queue, h.symm]

end check

/-! ### The queues and the log -/

/-- After calls up to the time `last`, every queue of the limiter tracks the
    accepted calls it stands for, and each of these found room. -/
structure Log.Exact (global_limit user_limit : Int) (last : Int) (log : Log) : Prop where
  global_limit_eq : log.limiter.global_limit = global_limit
  user_limit_eq : log.limiter.user_limit = user_limit
  past : ∀ c ∈ log.accepted, c.now ≤ last
  global : SlidingWindow.Tracks cutoff last log.limiter.global_events log.times
  user : ∀ u, SlidingWindow.Tracks cutoff last (log.limiter.user_queue u) (log.user_times u)
  global_admitted : SlidingWindow.Admitted cutoff global_limit log.times
  user_admitted : ∀ u, SlidingWindow.Admitted cutoff user_limit (log.user_times u)

section exact

variable {global_limit user_limit last : Int} {log : Log} {c : Call}

theorem Log.mem_times (h : Log.Exact global_limit user_limit last log) :
    ∀ t ∈ log.times, t ≤ last := by
  intro t ht
  obtain ⟨c, hc, rfl⟩ := List.mem_map.mp ht
  exact h.past c hc

theorem Log.mem_user_times (h : Log.Exact global_limit user_limit last log) (user : Int) :
    ∀ t ∈ log.user_times user, t ≤ last := by
  intro t ht
  obtain ⟨c, hc, rfl⟩ := List.mem_map.mp ht
  exact h.past c (List.mem_filter.mp hc).1

theorem Log.exact_later {now : Int} (h : Log.Exact global_limit user_limit last log)
    (hnow : last ≤ now) : Log.Exact global_limit user_limit now log :=
  { h with
    past := fun c hc => le_trans (h.past c hc) hnow
    global := h.global.later hnow
    user := fun u => (h.user u).later hnow }

theorem Log.serve_accepted (log : Log) (c : Call) :
    (log.serve c).accepted =
      log.accepted ++ if Room log.limiter c.telegram_user_id c.now then [c] else [] := by
  have hanswer : log.answer c = decide (Room log.limiter c.telegram_user_id c.now) := by
    unfold Log.answer
    rw [check_eq]
  unfold Log.serve
  rw [hanswer]
  simp only [decide_eq_true_eq]

/-- What the queues show of a call is what the log has in its window. -/
theorem Log.room_iff (h : Log.Exact global_limit user_limit last log) (hnow : last ≤ c.now) :
    Room log.limiter c.telegram_user_id c.now ↔
      ((log.times.filter (cutoff c.now ≤ ·)).length : Int) < global_limit ∧
      (((log.user_times c.telegram_user_id).filter (cutoff c.now ≤ ·)).length : Int) <
        user_limit := by
  have hglobal := h.global c.now hnow
  have huser := h.user c.telegram_user_id c.now hnow
  unfold Room
  rw [h.global_limit_eq, h.user_limit_eq, ← hglobal, ← huser]
  rfl

/-- The times after one more call. -/
theorem Log.serve_times (log : Log) (c : Call) :
    (log.serve c).times =
      log.times ++ if Room log.limiter c.telegram_user_id c.now then [c.now] else [] := by
  unfold Log.times
  rw [Log.serve_accepted, List.map_append, apply_ite (List.map Call.now)]
  rfl

/-- Those of the user who calls. -/
theorem Log.serve_user_times_self (log : Log) (c : Call) :
    (log.serve c).user_times c.telegram_user_id = log.user_times c.telegram_user_id ++
      if Room log.limiter c.telegram_user_id c.now then [c.now] else [] := by
  unfold Log.user_times
  rw [Log.serve_accepted, List.filter_append, List.map_append]
  by_cases hc : Room log.limiter c.telegram_user_id c.now
  · simp [hc]
  · simp [hc]

/-- Those of another user. -/
theorem Log.serve_user_times_other (log : Log) (c : Call) {u : Int} (hu : u ≠ c.telegram_user_id) :
    (log.serve c).user_times u = log.user_times u := by
  unfold Log.user_times
  rw [Log.serve_accepted, List.filter_append]
  by_cases hc : Room log.limiter c.telegram_user_id c.now
  · simp [hc, hu.symm]
  · simp [hc]

/-- One more call, no earlier than the last one. -/
theorem Log.exact_serve (h : Log.Exact global_limit user_limit last log) (hnow : last ≤ c.now) :
    Log.Exact global_limit user_limit c.now (log.serve c) := by
  have hlater := Log.exact_later h hnow
  have hroom := Log.room_iff hlater (le_refl c.now)
  -- the trims of the call show at no later time, whether it is accepted or not
  have hglobal := hlater.global.trim cutoff_monotone (le_refl c.now)
  have huser := (hlater.user c.telegram_user_id).trim cutoff_monotone (le_refl c.now)
  have hlimits : (log.serve c).limiter.global_limit = log.limiter.global_limit ∧
      (log.serve c).limiter.user_limit = log.limiter.user_limit := by
    unfold Log.serve
    rw [check_eq]
    exact ⟨rfl, rfl⟩
  refine
    { global_limit_eq := hlimits.1.trans h.global_limit_eq
      user_limit_eq := hlimits.2.trans h.user_limit_eq
      past := ?_, global := ?_, user := ?_, global_admitted := ?_, user_admitted := ?_ }
  · intro d hd
    rw [Log.serve_accepted] at hd
    rcases List.mem_append.mp hd with hd | hd
    · exact hlater.past d hd
    · split at hd
      · rw [List.mem_singleton.mp hd]
      · cases hd
  · have hqueue : (log.serve c).limiter.global_events =
        SlidingWindow.trim log.limiter.global_events (cutoff c.now) ++
          if Room log.limiter c.telegram_user_id c.now then [c.now] else [] := by
      unfold Log.serve
      rw [check_eq]
      rfl
    rw [hqueue, Log.serve_times]
    exact hglobal.offer (Log.mem_times hlater) _
  · intro u
    -- the call touches the queue of its own user and no other
    by_cases hu : u = c.telegram_user_id
    · rw [hu, Log.serve_user_times_self]
      show SlidingWindow.Tracks cutoff c.now
        ((log.limiter.check c.telegram_user_id c.now).1.user_queue c.telegram_user_id) _
      rw [user_queue_check_self]
      exact huser.offer (Log.mem_user_times hlater _) _
    · rw [Log.serve_user_times_other log c hu]
      show SlidingWindow.Tracks cutoff c.now
        ((log.limiter.check c.telegram_user_id c.now).1.user_queue u) _
      rw [user_queue_check_other _ _ _ hu]
      exact hlater.user u
  · rw [Log.serve_times]
    exact h.global_admitted.offer (Log.mem_times hlater) _ fun hc => (hroom.mp hc).1
  · intro u
    by_cases hu : u = c.telegram_user_id
    · rw [hu, Log.serve_user_times_self]
      exact (h.user_admitted _).offer (Log.mem_user_times hlater _) _ fun hc => (hroom.mp hc).2
    · rw [Log.serve_user_times_other log c hu]
      exact h.user_admitted u

/-- The log of calls whose times never go back. -/
theorem Log.exact_replay {calls : List Call} (hsorted : Sorted calls)
    (hlast : ∀ c ∈ calls, c.now ≤ last) :
    Log.Exact global_limit user_limit last (Log.replay global_limit user_limit calls) := by
  induction calls using List.reverseRecOn generalizing last with
  | nil =>
    exact
      { global_limit_eq := rfl
        user_limit_eq := rfl
        past := List.forall_mem_nil _
        global := SlidingWindow.Tracks.nil cutoff last
        user := fun _ => SlidingWindow.Tracks.nil cutoff last
        global_admitted := SlidingWindow.Admitted.nil
        user_admitted := fun _ => SlidingWindow.Admitted.nil }
  | append_singleton calls c ih =>
    obtain ⟨hcalls, -, hbefore⟩ := List.pairwise_append.mp hsorted
    have hc : ∀ d ∈ calls, d.now ≤ c.now := fun d hd => hbefore d hd c (List.mem_singleton_self c)
    have hserve := Log.exact_serve (ih hcalls hc) (le_refl c.now)
    have hreplay : Log.replay global_limit user_limit (calls ++ [c]) =
        (Log.replay global_limit user_limit calls).serve c := by
      unfold Log.replay
      rw [List.foldl_append]
      rfl
    rw [hreplay]
    exact Log.exact_later hserve (hlast c (List.mem_append_right calls (List.mem_singleton_self c)))

end exact

/-! ### The window -/

/-- The accepted calls of a closed window, sixty seconds long, that starts at
    `start`. -/
def Log.window (log : Log) (start : Int) : List Call :=
  log.accepted.filter fun d => start ≤ d.now ∧ d.now ≤ start + 60 * 1000000000

/-- Those of one user. -/
def Log.user_window (log : Log) (start user : Int) : List Call :=
  (log.window start).filter (·.telegram_user_id = user)

section window

variable {global_limit user_limit : Int} {log : Log}

theorem Log.window_length (log : Log) (start : Int) :
    (log.window start).length =
      (log.times.filter fun t => start ≤ t ∧ t ≤ start + 60 * 1000000000).length := by
  unfold Log.window Log.times
  rw [List.filter_map, List.length_map]
  rfl

theorem Log.user_window_length (log : Log) (start user : Int) :
    (log.user_window start user).length =
      ((log.user_times user).filter fun t => start ≤ t ∧ t ≤ start + 60 * 1000000000).length := by
  unfold Log.user_window Log.window Log.user_times
  rw [List.filter_map, List.length_map, List.filter_filter, List.filter_filter]
  congr 1
  apply List.filter_congr
  intro d _
  exact Bool.and_comm _ _

/-- Nothing in the log is later than the last call, so the window that ends
    there is what its start leaves. -/
theorem filter_window {times : List Int} {now : Int} (h : ∀ t ∈ times, t ≤ now) :
    (times.filter fun t => cutoff now ≤ t ∧ t ≤ cutoff now + 60 * 1000000000) =
      times.filter (cutoff now ≤ ·) := by
  apply List.filter_congr
  intro t ht
  have hnow := h t ht
  apply decide_eq_decide.mpr
  unfold cutoff
  omega

theorem exists_last (calls : List Call) : ∃ last, ∀ c ∈ calls, c.now ≤ last := by
  induction calls with
  | nil => exact ⟨0, List.forall_mem_nil _⟩
  | cons c calls ih =>
    obtain ⟨last, hlast⟩ := ih
    refine ⟨max c.now last, ?_⟩
    intro d hd
    rcases List.mem_cons.mp hd with hd | hd
    · rw [hd]
      exact le_max_left _ _
    · exact le_trans (hlast d hd) (le_max_right _ _)

/-- For calls at times that never go back, `check` answers `True` exactly when
    the accepted calls of the last sixty seconds are fewer than the global
    limit and those of the user fewer than the user's; so no window of sixty
    seconds ever holds more accepted calls than its limit. -/
theorem exact_sliding_window (global_limit user_limit : Int) (calls : List Call)
    (hsorted : Sorted calls) :
    (∀ earlier c later, calls = earlier ++ c :: later →
      let log := Log.replay global_limit user_limit earlier
      (log.answer c = true ↔
        ((log.window (cutoff c.now)).length : Int) < global_limit ∧
        ((log.user_window (cutoff c.now) c.telegram_user_id).length : Int) < user_limit)) ∧
    (∀ start,
      let log := Log.replay global_limit user_limit calls
      ((log.window start).length : Int) ≤ max 0 global_limit ∧
      ∀ user, ((log.user_window start user).length : Int) ≤ max 0 user_limit) := by
  constructor
  · intro earlier c later hcalls
    subst hcalls
    obtain ⟨hearlier, -, hbefore⟩ := List.pairwise_append.mp hsorted
    have hc : ∀ d ∈ earlier, d.now ≤ c.now := fun d hd => hbefore d hd c List.mem_cons_self
    have hexact : Log.Exact global_limit user_limit c.now
        (Log.replay global_limit user_limit earlier) := Log.exact_replay hearlier hc
    intro log
    have hglobal := filter_window (Log.mem_times hexact)
    have huser := filter_window (Log.mem_user_times hexact c.telegram_user_id)
    rw [Log.window_length, Log.user_window_length, hglobal, huser]
    rw [← Log.room_iff hexact (le_refl c.now)]
    exact check_accepts _ _ _
  · intro start log
    -- a window from `start` on is the one of a call sixty seconds later
    have hcutoff : cutoff (start + 60 * 1000000000) ≤ start := by
      unfold cutoff
      omega
    obtain ⟨last, hlast⟩ := exists_last calls
    have hexact : Log.Exact global_limit user_limit last log := Log.exact_replay hsorted hlast
    constructor
    · rw [Log.window_length]
      exact hexact.global_admitted.window cutoff_monotone hcutoff
    · intro user
      rw [Log.user_window_length]
      exact (hexact.user_admitted user).window cutoff_monotone hcutoff

end window

/-- A second call of user 7 is too early, and the next one after the first has
    left the window is not. -/
def sampleCalls : List Call :=
  [⟨7, 0⟩, ⟨7, 30 * 1000000000⟩, ⟨8, 60 * 1000000000⟩, ⟨7, 60 * 1000000000 + 1⟩]

theorem exact_sliding_window_sample :
    (Log.replay 2 1 sampleCalls).accepted =
      [⟨7, 0⟩, ⟨8, 60 * 1000000000⟩, ⟨7, 60 * 1000000000 + 1⟩] ∧
    ∀ start, (((Log.replay 2 1 sampleCalls).window start).length : Int) ≤ max 0 2 := by
  refine ⟨rfl, fun start => ?_⟩
  have hsorted : Sorted sampleCalls := by
    unfold Sorted sampleCalls
    simp
  exact ((exact_sliding_window 2 1 sampleCalls hsorted).2 start).1

end BoVpnAgent.RateLimiter

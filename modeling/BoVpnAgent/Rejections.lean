import BoVpnAgent.RateLimits
import BoVpnAgent.Worker.System

/-! # Calls of `create_task` that are rejected

    A rejected call files nothing.  The rate limiter is asked in the middle of
    the call, before the busy check and before the request is built, so what a
    rejection costs depends on where it happens.

    This file shows:
    - which user the limiter is asked about, and what it is afterwards
    - exactly when a rejected call leaves all budgets as they were
-/

namespace BoVpnAgent

namespace RateLimiter

variable (r : RateLimiter)

/-- How many more tasks may be created at the time `now`. -/
def global_budget (now : Int) : Int :=
  r.global_limit - (trim r.global_events (cutoff now)).length

/-- How many more tasks `user` may create at the time `now`. -/
def user_budget (user now : Int) : Int :=
  r.user_limit - (trim (r.user_queue user) (cutoff now)).length

variable {r} {user now t : Int}

/-- A trim shows at no later time. -/
theorem trim_later {events : List Int} (h : now ≤ t) :
    trim (trim events (cutoff now)) (cutoff t) = trim events (cutoff t) :=
  SlidingWindow.trim_trim (cutoff_monotone h) events

/-- An event counts at its own time. -/
theorem length_trim_push (events : List Int) (now : Int) :
    (trim (trim events (cutoff now) ++ [now]) (cutoff now)).length =
      (trim events (cutoff now)).length + 1 := by
  have hfirst : trim (trim events (cutoff now)) (cutoff now) = trim events (cutoff now) :=
    trim_later (le_refl now)
  have hnew : trim [now] (cutoff now) = [now] := by
    unfold trim cutoff
    rw [List.dropWhile_cons_of_neg]
    simp only [decide_eq_true_eq]
    omega
  unfold trim at hfirst hnew ⊢
  rw [List.dropWhile_append, hfirst, hnew]
  split
  · next hempty => rw [List.isEmpty_iff.mp hempty]; rfl
  · rw [List.length_append]; rfl

/-- A refused call leaves every budget as it was. -/
theorem budgets_refused (h : ¬Room r user now) (ht : now ≤ t) :
    (r.check user now).1.global_budget t = r.global_budget t ∧
    ∀ other, (r.check user now).1.user_budget other t = r.user_budget other t := by
  constructor
  · rw [check_eq]
    unfold global_budget
    simp only [if_neg h, List.append_nil, trim_later ht]
  · intro other
    have hlimit : (r.check user now).1.user_limit = r.user_limit := by rw [check_eq]
    unfold user_budget
    rw [hlimit]
    by_cases hother : other = user
    · subst hother
      rw [user_queue_check_self, if_neg h, List.append_nil, trim_later ht]
    · rw [user_queue_check_other _ _ _ hother]

/-- An accepted call takes one from the global budget. -/
theorem global_budget_accepted (h : Room r user now) :
    (r.check user now).1.global_budget now = r.global_budget now - 1 := by
  rw [check_eq]
  unfold global_budget
  simp only [if_pos h, length_trim_push]
  omega

end RateLimiter

namespace Service

variable (I : Interp) {config : WorkerConfig} {s : Service} {payload : Json.Fields}
  {env : CreateEnv}

/-- The user whose limits the call is held against: a request that is turned
    away or answered before that is about none. -/
def limited_user (s : Service) (payload : Json.Fields) : Option Int :=
  match require_str payload "request_id" with
  | .error _ => none
  | .ok request_id =>
    match Security.fingerprint_request I payload with
    | .error _ => none
    | .ok _ =>
      if (s.request? request_id).isSome then none
      else (require_int payload "telegram_user_id").toOption.map PyInt.val

/-- The limiter is asked about a user and lets the call pass. -/
def Charged (s : Service) (payload : Json.Fields) (now : Int) : Prop :=
  ∃ user, s.limited_user I payload = some user ∧ RateLimiter.Room s.rate_limiter user now

variable {I}

/-- The limiter after a call of `create_task`. -/
theorem create_task_limiter :
    (s.create_task I config payload env).1.rate_limiter =
      (s.limited_user I payload).elim s.rate_limiter
        fun user => (s.rate_limiter.check user env.monotonic).1 := by
  unfold create_task limited_user
  cases hreq : require_str payload "request_id" with
  | error e => rfl
  | ok request_id =>
    cases hfp : Security.fingerprint_request I payload with
    | error e => rfl
    | ok fingerprint =>
      cases hex : s.request? request_id with
      | some existing =>
        simp only [hex, Option.isSome_some, if_true]
        split_ifs
        · rfl
        · rfl
      | none =>
        simp only [hex, Option.isSome_none, Bool.false_eq_true, if_false]
        unfold create_new
        cases hint : require_int payload "telegram_user_id" with
        | error e => rfl
        | ok telegram_user_id =>
          simp only
          split_ifs
          · rfl
          · rfl
          · cases hbuild : build_task I config payload fingerprint env with
            | error e => rfl
            | ok built => rfl

/-- The data of the service and all budgets at `now` and later are the same. -/
structure Unchanged (before after : Service) (now : Int) : Prop where
  tasks_by_id : after.tasks_by_id = before.tasks_by_id
  tasks_by_request_id : after.tasks_by_request_id = before.tasks_by_request_id
  tasks : after.heap = before.heap
  secrets_by_task_id : after.secrets_by_task_id = before.secrets_by_task_id
  global_budget : ∀ t, now ≤ t →
    after.rate_limiter.global_budget t = before.rate_limiter.global_budget t
  user_budget : ∀ user t, now ≤ t →
    after.rate_limiter.user_budget user t = before.rate_limiter.user_budget user t

/-- A rejected call files nothing and removes nothing. -/
theorem create_task_raises {e : PyExc} (h : (s.create_task I config payload env).2 = .error e) :
    (s.create_task I config payload env).1 =
      { s with rate_limiter := (s.create_task I config payload env).1.rate_limiter } := by
  rcases create_task_cases I config s payload env with ⟨_, _, heq⟩ | ⟨_, _, _, heq⟩ |
    ⟨_, _, _, _, heq⟩
  · rw [heq]
  · rw [heq] at h
    cases h
  · rw [heq] at h
    cases h

/-- A call that raises leaves the service and all budgets as they were exactly
    when it did not get past the limiter. -/
theorem rejected_unchanged_iff {e : PyExc} (h : (s.create_task I config payload env).2 = .error e) :
    Unchanged s (s.create_task I config payload env).1 env.monotonic ↔
      ¬Charged I s payload env.monotonic := by
  have hlimiter := @create_task_limiter I config s payload env
  have hrest := create_task_raises h
  generalize (s.create_task I config payload env).1 = after at hlimiter hrest
  constructor
  · intro hsame hcharged
    obtain ⟨user, huser, hroom⟩ := hcharged
    have hbudget := hsame.global_budget env.monotonic (le_refl _)
    rw [hlimiter, huser, Option.elim_some, RateLimiter.global_budget_accepted hroom] at hbudget
    omega
  · intro hfree
    have hbudgets : ∀ t, env.monotonic ≤ t →
        after.rate_limiter.global_budget t = s.rate_limiter.global_budget t ∧
        ∀ user, after.rate_limiter.user_budget user t = s.rate_limiter.user_budget user t := by
      intro t ht
      cases huser : s.limited_user I payload with
      | none =>
        rw [hlimiter, huser, Option.elim_none]
        exact ⟨rfl, fun _ => rfl⟩
      | some user =>
        have hroom : ¬RateLimiter.Room s.rate_limiter user env.monotonic :=
          fun hroom => hfree ⟨user, huser, hroom⟩
        rw [hlimiter, huser, Option.elim_some]
        exact RateLimiter.budgets_refused hroom ht
    exact
      { tasks_by_id := by rw [hrest]
        tasks_by_request_id := by rw [hrest]
        tasks := by rw [hrest]
        secrets_by_task_id := by rw [hrest]
        global_budget := fun t ht => (hbudgets t ht).1
        user_budget := fun user t ht => (hbudgets t ht).2 user }

/-! ### A request without a vehicle -/

/-- A worker on which each user may create one task a minute. -/
def limitedConfig : WorkerConfig := { sampleConfig with user_create_limit_per_minute := 1 }

/-- A request that names no vehicle. -/
def payloadWithoutVehicle : Json.Fields :=
  [("request_id".py, .str "r-1".py), ("telegram_user_id".py, .int 7)]

set_option maxRecDepth 8000 in
/-- The first request of the worker is rejected for want of a vehicle and uses
    up the user's budget; without it the second one is accepted, and after it
    that one is answered 429. -/
theorem rejection_charged :
    let s := (Worker.worker sampleInterp limitedConfig).init.service
    let after := (s.create_task sampleInterp limitedConfig payloadWithoutVehicle (sampleEnv "t-1")).1
    (s.create_task sampleInterp limitedConfig payloadWithoutVehicle (sampleEnv "t-1")).2 =
      raiseValidation "vehicle обязателен".py ∧
    ¬Unchanged s after 0 ∧
    (s.create_task sampleInterp limitedConfig (samplePayload "r-2") (sampleEnv "t-2")).2.isOk ∧
    (after.create_task sampleInterp limitedConfig (samplePayload "r-2") (sampleEnv "t-2")).2 =
      raiseWorker 429 "rate_limited" "Превышен лимит создания задач" := by
  refine ⟨rfl, ?_, rfl, rfl⟩
  intro hsame
  have hbudget := hsame.user_budget 7 0 (le_refl 0)
  revert hbudget
  decide

/-- A request with an empty `request_id` is rejected before the limiter. -/
theorem rejected_unchanged_sample :
    let s := Service.init sampleConfig
    Unchanged s (s.create_task sampleInterp sampleConfig [("request_id".py, .str [])]
      (sampleEnv "t-1")).1 0 := by
  have hraises : ((Service.init sampleConfig).create_task sampleInterp sampleConfig
      [("request_id".py, .str [])] (sampleEnv "t-1")).2 =
        raiseValidation "request_id обязателен".py := rfl
  refine (rejected_unchanged_iff hraises).mpr ?_
  rintro ⟨user, huser, -⟩
  cases huser

end Service

end BoVpnAgent

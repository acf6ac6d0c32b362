import BoVpnAgent.Models

/-! # Runners

    A runner carries out the diagnostic.  What it does in between is not
    fixed here: it may report states, it returns a `RunnerResult` or raises.
-/

namespace BoVpnAgent

/-- `RunnerResult`.  The fields hold what the runner put there. -/
structure RunnerResult where
  summary : Json
  data : Json
  artifacts : Json := .null
  warnings : Json := .null

/-- `None` or a list whose elements all meet `p`. -/
def optionalList (p : Json → Bool) : Json → Bool
  | .null => true
  | .arr xs => xs.all p
  | _ => false

/-- The fields have the types that `RunnerResult` declares. -/
def RunnerResult.wellTyped (r : RunnerResult) : Bool :=
  r.summary.isStr && r.data.isObj && optionalList Json.isObj r.artifacts &&
    optionalList Json.isStr r.warnings

/-- `x or []` -/
def orEmptyList (x : Json) : Json := if x.truthy then x else .arr []

/-- How a call of `run` ends. -/
inductive Outcome where
  | returned (result : RunnerResult)
  | raised (exc : PyExc)

/-- A result that is returned has the declared types. -/
def Outcome.wellTyped : Outcome → Bool
  | .returned result => result.wellTyped
  | .raised _ => true

/-- The runner classes of the worker. -/
inductive VpnRunner where
  | dry_run
  | existing_container
  | job_container
  | runner_daemon
  deriving DecidableEq

/-- `create_runner` -/
def create_runner (mode : PyStr) (runner_url : Option PyStr) : Except PyExc VpnRunner :=
  if runner_url.getD [] ≠ [] then .ok .runner_daemon
  else if mode = "dry_run".py then .ok .dry_run
  else if mode = "existing_container".py then .ok .existing_container
  else if mode = "job_container".py then .ok .job_container
  else .error (.builtin .valueError ("unknown runner mode: ".py ++ mode))

/-- Without a runner daemon, the known modes are those that have a runner. -/
theorem create_runner_ok_iff {mode : PyStr} :
    (∃ runner, create_runner mode none = .ok runner) ↔
      mode = "dry_run".py ∨ mode = "existing_container".py ∨ mode = "job_container".py := by
  unfold create_runner
  rw [if_neg (by simp)]
  split_ifs with h₁ h₂ h₃ <;> simp [*]

end BoVpnAgent

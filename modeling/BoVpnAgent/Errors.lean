import BoVpnAgent.Lib.Json

/-! # Exceptions

    `WorkerError` is the exception that the HTTP handlers turn into an error
    response; `RunnerFailure` is how a runner reports a failed diagnostic.
    Everything else that Python code can raise is `builtin` or `other`.
-/

namespace BoVpnAgent

/-- `WorkerError(status, error_code, message)` -/
structure WorkerError where
  status : Nat
  error_code : PyStr
  message : PyStr
  deriving DecidableEq

/-- `WorkerError.to_response` -/
def WorkerError.to_response (e : WorkerError) : Json :=
  .obj [("ok".py, .bool false), ("error_code".py, .str e.error_code),
    ("message".py, .str e.message)]

/-- `ValidationError(message)` with its default code and status. -/
def ValidationError (message : PyStr) : WorkerError :=
  { status := 400, error_code := "invalid_request".py, message := message }

/-- An exception.  The texts that the interpreter itself puts into a
    `builtin` are not modelled. -/
inductive PyExc where
  | worker (e : WorkerError)
  | runnerFailure (error_code message : PyStr)
  | builtin (kind : Builtin) (text : PyStr)
  | other (text : PyStr)
  deriving DecidableEq

/-- `str(exc)` -/
def PyExc.str : PyExc → PyStr
  | worker e => e.message
  | runnerFailure _ message => message
  | builtin _ text => text
  | other text => text

/-- `raise WorkerError(status, error_code, message)` -/
def raiseWorker {α : Type} (status : Nat) (error_code message : String) : Except PyExc α :=
  .error (.worker { status := status, error_code := error_code.py, message := message.py })

/-- `raise ValidationError(message)` -/
def raiseValidation {α : Type} (message : PyStr) : Except PyExc α :=
  .error (.worker (ValidationError message))

/-- Raises an exception of the interpreter. -/
def raiseBuiltin {α : Type} (kind : Builtin) : Except PyExc α := .error (.builtin kind [])

/-- A computation in sequence returns exactly when both its parts do. -/
theorem bind_ok {ε α β : Type} {x : Except ε α} {f : α → Except ε β} {b : β} :
    x >>= f = .ok b ↔ ∃ a, x = .ok a ∧ f a = .ok b := by
  cases x <;> simp [bind, Except.bind]

/-- It raises when one of them does. -/
theorem bind_error {ε α β : Type} {x : Except ε α} {f : α → Except ε β} {e : ε} :
    x >>= f = .error e ↔ x = .error e ∨ ∃ a, x = .ok a ∧ f a = .error e := by
  cases x <;> simp [bind, Except.bind]

/-- A library function's result, with its exceptions as exceptions of the
    program. -/
def liftBuiltin {α : Type} : Except Builtin α → Except PyExc α
  | .ok a => .ok a
  | .error kind => raiseBuiltin kind

theorem liftBuiltin_ok {α : Type} {x : Except Builtin α} {a : α} :
    liftBuiltin x = .ok a ↔ x = .ok a := by
  cases x <;> simp [liftBuiltin, raiseBuiltin]

namespace PyExc

/-- The exception is one the HTTP handlers catch. -/
def isWorker : PyExc → Bool
  | worker _ => true
  | _ => false

/-- The exception is one the HTTP handlers catch, and its texts can be
    encoded. -/
def Answerable (exc : PyExc) : Prop :=
  ∃ e, exc = .worker e ∧ e.error_code.Scalar ∧ e.message.Scalar

end PyExc

/-! ### Exceptions that the handlers answer -/

/-- Whatever the computation raises, a handler can answer. -/
def Caught {α : Type} (x : Except PyExc α) : Prop := ∀ exc, x = .error exc → exc.Answerable

section caught

variable {α β : Type}

@[simp] theorem caught_ok (a : α) : Caught (.ok a) := nofun

@[simp] theorem caught_pure (a : α) : Caught (pure a) := nofun

@[simp] theorem caught_error {exc : PyExc} : Caught (α := α) (.error exc) ↔ exc.Answerable := by
  simp [Caught]

/-- What is raised does not depend on what would have been returned. -/
theorem caught_error_congr {exc : PyExc} :
    Caught (α := α) (.error exc) ↔ Caught (α := β) (.error exc) :=
  caught_error.trans caught_error.symm

theorem caught_bind {x : Except PyExc α} {f : α → Except PyExc β} :
    Caught (x >>= f) ↔ Caught x ∧ ∀ a, x = .ok a → Caught (f a) := by
  cases x with
  | ok a => simp [bind, Except.bind]
  | error exc => simp [bind, Except.bind]

theorem answerable_worker {e : WorkerError} :
    PyExc.Answerable (.worker e) ↔ e.error_code.Scalar ∧ e.message.Scalar := by
  simp [PyExc.Answerable]

@[simp] theorem caught_raiseWorker (status : Nat) (error_code message : String) :
    Caught (α := α) (raiseWorker status error_code message) :=
  caught_error.mpr (answerable_worker.mpr ⟨PyStr.scalar_py _, PyStr.scalar_py _⟩)

@[simp] theorem caught_raiseValidation (message : String) :
    Caught (α := α) (raiseValidation message.py) :=
  caught_error.mpr (answerable_worker.mpr ⟨PyStr.scalar_py _, PyStr.scalar_py _⟩)

@[simp] theorem not_caught_raiseBuiltin (kind : Builtin) :
    ¬ Caught (α := α) (raiseBuiltin kind) := by
  simp [raiseBuiltin, PyExc.Answerable]

theorem caught_liftBuiltin {x : Except Builtin α} :
    Caught (liftBuiltin x) ↔ ∃ a, x = .ok a := by
  cases x <;> simp [liftBuiltin]

end caught

end BoVpnAgent

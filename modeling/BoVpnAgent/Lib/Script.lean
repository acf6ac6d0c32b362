import Mathlib.Data.List.Basic

/-! # Programs that ask questions

    A `Script` is a program that asks its surroundings questions of type `C`,
    gets answers of type `R`, and ends with a value or an exception.  Two
    programs that ask different questions are compared answer by answer.

    This file defines:
    - `Script.run`, `Script.eval`: the outcome under an oracle
    - `Script.Ensures`: a postcondition, for oracles whose answers meet a
      condition
    - `Script.LockStep`: two programs that consume the same answers and end
      in related outcomes
-/

/-- A program that asks questions of type `C`. -/
inductive Script (C R ε α : Type) where
  | done (r : Except ε α)
  | call (c : C) (next : R → Script C R ε α)

namespace Script

variable {C D R ε α β γ : Type}

/-- The first program, and then the second one on its value. -/
def bind : Script C R ε α → (α → Script C R ε β) → Script C R ε β
  | done (.ok a), f => f a
  | done (.error e), _ => done (.error e)
  | call c next, f => call c fun r => (next r).bind f

instance : Monad (Script C R ε) where
  pure a := done (.ok a)
  bind := bind

/-- Raises an exception. -/
def raise (e : ε) : Script C R ε α := done (.error e)

/-- Asks one question. -/
def ask (c : C) : Script C R ε R := call c fun r => done (.ok r)

@[simp] theorem pure_eq (a : α) : (pure a : Script C R ε α) = done (.ok a) := rfl

@[simp] theorem done_ok_bind (a : α) (f : α → Script C R ε β) :
    (done (.ok a) : Script C R ε α) >>= f = f a := rfl

@[simp] theorem done_error_bind (e : ε) (f : α → Script C R ε β) :
    (done (.error e) : Script C R ε α) >>= f = done (.error e) := rfl

@[simp] theorem raise_bind (e : ε) (f : α → Script C R ε β) :
    (raise e : Script C R ε α) >>= f = raise e := rfl

@[simp] theorem call_bind (c : C) (next : R → Script C R ε α) (f : α → Script C R ε β) :
    call c next >>= f = call c fun r => next r >>= f := rfl

@[simp] theorem ask_bind (c : C) (f : R → Script C R ε β) :
    (ask c : Script C R ε R) >>= f = call c f := rfl

/-! ### Running -/

/-- The outcome when the question number `k` gets the answer `answer k`, and
    the questions with their answers; `asked` questions came before. -/
def run (answer : Nat → C → R) (asked : Nat) : Script C R ε α → Except ε α × List (C × R)
  | done r => (r, [])
  | call c next =>
    let (r, later) := (next (answer asked c)).run answer (asked + 1)
    (r, (c, answer asked c) :: later)

@[simp] theorem run_done (answer : Nat → C → R) (asked : Nat) (r : Except ε α) :
    (done r : Script C R ε α).run answer asked = (r, []) := rfl

@[simp] theorem run_call (answer : Nat → C → R) (asked : Nat) (c : C)
    (next : R → Script C R ε α) :
    (call c next).run answer asked =
      (((next (answer asked c)).run answer (asked + 1)).1,
        (c, answer asked c) :: ((next (answer asked c)).run answer (asked + 1)).2) := rfl

/-- The second program is run only after a value, and its questions come
    after those of the first. -/
theorem run_bind (answer : Nat → C → R) (asked : Nat) (s : Script C R ε α)
    (f : α → Script C R ε β) :
    (s >>= f).run answer asked =
      match s.run answer asked with
      | (.ok a, calls) =>
        (((f a).run answer (asked + calls.length)).1,
          calls ++ ((f a).run answer (asked + calls.length)).2)
      | (.error e, calls) => (.error e, calls) := by
  induction s generalizing asked with
  | done r =>
    cases r with
    | ok a => rfl
    | error e => rfl
  | call c next ih =>
    rw [call_bind, run_call, run_call, ih]
    rcases (next (answer asked c)).run answer (asked + 1) with ⟨r, calls⟩
    cases r with
    | ok a => simp only [List.length_cons, List.cons_append, Nat.add_right_comm, Nat.add_assoc]
    | error e => rfl

/-- The outcome of a sequence whose first program ends with a value. -/
theorem run_bind_ok {answer : Nat → C → R} {asked : Nat} {s : Script C R ε α} {a : α}
    {calls : List (C × R)} (h : s.run answer asked = (.ok a, calls)) (f : α → Script C R ε β) :
    ((s >>= f).run answer asked).1 = ((f a).run answer (asked + calls.length)).1 := by
  rw [run_bind, h]

/-- The outcome when the answer depends on the question alone and asking can
    raise. -/
def eval (answer : C → Except ε R) : Script C R ε α → Except ε α
  | done r => r
  | call c next =>
    match answer c with
    | .ok r => (next r).eval answer
    | .error e => .error e

/-! ### Postconditions -/

/-- Whatever is answered, as long as the answers meet `A`, the outcome meets
    `P`. -/
def Ensures (A : C → R → Prop) (P : Except ε α → Prop) : Script C R ε α → Prop
  | done r => P r
  | call c next => ∀ r, A c r → (next r).Ensures A P

variable {A : C → R → Prop}

/-- The rule for a question. -/
theorem Ensures.ask {P : Except ε α → Prop} {c : C} {f : R → Script C R ε α}
    (h : ∀ r, A c r → (f r).Ensures A P) : (Script.ask c >>= f).Ensures A P := h

/-- The rule for a sequence: the first program ends with a value that the
    second one goes on from, or with an exception that may be raised. -/
theorem Ensures.bind {Q : Except ε α → Prop} {P : Except ε β → Prop} {s : Script C R ε α}
    {f : α → Script C R ε β} (hs : s.Ensures A Q) (hok : ∀ a, Q (.ok a) → (f a).Ensures A P)
    (herror : ∀ e, Q (.error e) → P (.error e)) : (s >>= f).Ensures A P := by
  induction s with
  | done r =>
    cases r with
    | ok a => exact hok a hs
    | error e => exact herror e hs
  | call c next ih =>
    intro r hr
    exact ih r (hs r hr)

/-- The outcome under an oracle meets the postcondition. -/
theorem Ensures.run {P : Except ε α → Prop} {s : Script C R ε α} (hs : s.Ensures A P)
    {answer : Nat → C → R} (hanswer : ∀ k c, A c (answer k c)) (asked : Nat) :
    P (s.run answer asked).1 := by
  induction s generalizing asked with
  | done r => exact hs
  | call c next ih => exact ih (answer asked c) (hs _ (hanswer asked c)) (asked + 1)

/-! ### Programs in lock step -/

/-- Whatever the answers are, both programs ask equally often and their
    outcomes are related. -/
inductive LockStep (P : Except ε α → Except ε β → Prop) :
    Script C R ε α → Script D R ε β → Prop where
  | done {r : Except ε α} {r' : Except ε β} (h : P r r') : LockStep P (done r) (done r')
  | call {c : C} {d : D} {next : R → Script C R ε α} {next' : R → Script D R ε β}
      (h : ∀ r, LockStep P (next r) (next' r)) : LockStep P (call c next) (call d next')

variable {P : Except ε α → Except ε β → Prop} {s : Script C R ε α} {t : Script D R ε β}

theorem LockStep.raise {e e' : ε} (h : P (.error e) (.error e')) :
    LockStep P (raise e : Script C R ε α) (raise e' : Script D R ε β) := .done h

/-- Two programs in lock step, under oracles that answer by number and give
    both the same answers from here on. -/
theorem LockStep.run (h : LockStep P s t) (answer answer' : Nat → R) (asked asked' : Nat)
    (hsame : ∀ k, answer (asked + k) = answer' (asked' + k)) :
    P (s.run (fun k _ => answer k) asked).1 (t.run (fun k _ => answer' k) asked').1 ∧
    (s.run (fun k _ => answer k) asked).2.length =
      (t.run (fun k _ => answer' k) asked').2.length := by
  induction h generalizing asked asked' with
  | done h => exact ⟨h, rfl⟩
  | call h ih =>
    have hlater : ∀ k, answer (asked + 1 + k) = answer' (asked' + 1 + k) := by
      intro k
      have hk := hsame (1 + k)
      rwa [← Nat.add_assoc, ← Nat.add_assoc] at hk
    have hnow : answer asked = answer' asked' := hsame 0
    have hnext := ih (answer asked) (asked + 1) (asked' + 1) hlater
    simp only [run_call, List.length_cons, ← hnow]
    exact ⟨hnext.1, congrArg (· + 1) hnext.2⟩

end Script

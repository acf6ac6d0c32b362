import Mathlib.Data.List.Basic

/-! # Dialogues and what may be asked when

    A `Dialogue` is a program that puts questions to its surroundings; the
    type of an answer depends on the question.  Its history is the list of all
    questions with their answers so far, and assertions speak about histories.

    This file defines:
    - `Dialogue.run`: the outcome and the exchanges under an oracle
    - `Dialogue.Triple`: from every history with `P`, each question is asked
      only after a history that allows it, and a value `a` is returned only
      with a history that has `Q a`; the rules follow the program
    - `Dialogue.Asks`: all questions are of one kind, and the frame rule for
      such a program
    - `Dialogue.Returns`: whatever is answered, only values with a property
      are returned
-/

/-- A program that asks questions of type `Q`. -/
inductive Dialogue (Q : Type) (A : Q → Type) (ε α : Type) where
  | done (r : Except ε α)
  | ask (q : Q) (next : A q → Dialogue Q A ε α)

namespace Dialogue

variable {Q : Type} {A : Q → Type} {ε α β : Type}

/-- A question with its answer. -/
abbrev Exchange (Q : Type) (A : Q → Type) : Type := (q : Q) × A q

/-- The first program, and then the second one on its value. -/
def bind : Dialogue Q A ε α → (α → Dialogue Q A ε β) → Dialogue Q A ε β
  | done (.ok a), f => f a
  | done (.error e), _ => done (.error e)
  | ask q next, f => ask q fun a => (next a).bind f

instance : Monad (Dialogue Q A ε) where
  pure a := done (.ok a)
  bind := bind

/-- Raises an exception. -/
def raise (e : ε) : Dialogue Q A ε α := done (.error e)

/-- Asks one question. -/
def question (q : Q) : Dialogue Q A ε (A q) := ask q fun a => done (.ok a)

@[simp] theorem pure_eq (a : α) : (pure a : Dialogue Q A ε α) = done (.ok a) := rfl

@[simp] theorem done_ok_bind (a : α) (f : α → Dialogue Q A ε β) :
    (done (.ok a) : Dialogue Q A ε α) >>= f = f a := rfl

@[simp] theorem done_error_bind (e : ε) (f : α → Dialogue Q A ε β) :
    (done (.error e) : Dialogue Q A ε α) >>= f = done (.error e) := rfl

@[simp] theorem raise_bind (e : ε) (f : α → Dialogue Q A ε β) :
    (raise e : Dialogue Q A ε α) >>= f = raise e := rfl

@[simp] theorem ask_bind (q : Q) (next : A q → Dialogue Q A ε α) (f : α → Dialogue Q A ε β) :
    ask q next >>= f = ask q fun a => next a >>= f := rfl

/-! ### Running -/

/-- The outcome when the question number `k` gets the answer `answer k`, and
    the exchanges; `asked` questions came before. -/
def run (answer : Nat → (q : Q) → A q) (asked : Nat) :
    Dialogue Q A ε α → Except ε α × List (Exchange Q A)
  | done r => (r, [])
  | ask q next =>
    let (r, later) := (next (answer asked q)).run answer (asked + 1)
    (r, ⟨q, answer asked q⟩ :: later)

@[simp] theorem run_done (answer : Nat → (q : Q) → A q) (asked : Nat) (r : Except ε α) :
    (done r : Dialogue Q A ε α).run answer asked = (r, []) := rfl

@[simp] theorem run_ask (answer : Nat → (q : Q) → A q) (asked : Nat) (q : Q)
    (next : A q → Dialogue Q A ε α) :
    (ask q next).run answer asked =
      (((next (answer asked q)).run answer (asked + 1)).1,
        ⟨q, answer asked q⟩ :: ((next (answer asked q)).run answer (asked + 1)).2) := rfl

/-- The second program runs behind the first one when that returned. -/
theorem run_bind_ok {answer : Nat → (q : Q) → A q} {asked : Nat} {p : Dialogue Q A ε α} {a : α}
    {t : List (Exchange Q A)} (h : p.run answer asked = (.ok a, t)) (f : α → Dialogue Q A ε β) :
    (p >>= f).run answer asked =
      (((f a).run answer (asked + t.length)).1, t ++ ((f a).run answer (asked + t.length)).2) := by
  induction p generalizing asked t with
  | done r =>
    cases r with
    | ok b =>
      obtain ⟨hb, ht⟩ := Prod.mk.inj h
      rw [← ht, Except.ok.inj hb]
      rfl
    | error e => cases (Prod.mk.inj h).1
  | ask q next ih =>
    rw [run_ask] at h
    obtain ⟨hr, ht⟩ := Prod.mk.inj h
    rw [ask_bind, run_ask, ih _ (Prod.ext hr rfl), ← ht]
    simp only [List.length_cons, List.cons_append, Nat.add_assoc, Nat.add_comm 1]

/-- An exception of the first program is the outcome. -/
theorem run_bind_error {answer : Nat → (q : Q) → A q} {asked : Nat} {p : Dialogue Q A ε α} {e : ε}
    {t : List (Exchange Q A)} (h : p.run answer asked = (.error e, t))
    (f : α → Dialogue Q A ε β) : (p >>= f).run answer asked = (.error e, t) := by
  induction p generalizing asked t with
  | done r =>
    cases r with
    | ok b => cases (Prod.mk.inj h).1
    | error e' =>
      obtain ⟨he, ht⟩ := Prod.mk.inj h
      rw [← ht, ← Except.error.inj he]
      rfl
  | ask q next ih =>
    rw [run_ask] at h
    obtain ⟨hr, ht⟩ := Prod.mk.inj h
    rw [ask_bind, run_ask, ih _ (Prod.ext hr rfl), ← ht]

/-- The exchanges of a sequence begin with those of its first program. -/
theorem run_bind_exchanges (answer : Nat → (q : Q) → A q) (asked : Nat) (p : Dialogue Q A ε α)
    (f : α → Dialogue Q A ε β) :
    ∃ later, ((p >>= f).run answer asked).2 = (p.run answer asked).2 ++ later := by
  rcases hrun : p.run answer asked with ⟨r, t⟩
  cases r with
  | ok a => exact ⟨_, congrArg Prod.snd (run_bind_ok hrun f)⟩
  | error e => exact ⟨[], by rw [run_bind_error hrun, List.append_nil]⟩

/-- A sequence returns only when its first program does. -/
theorem run_bind_ne_ok {answer : Nat → (q : Q) → A q} {asked : Nat} {p : Dialogue Q A ε α}
    (h : ∀ a, (p.run answer asked).1 ≠ .ok a) (f : α → Dialogue Q A ε β) (b : β) :
    ((p >>= f).run answer asked).1 ≠ .ok b := by
  rcases hrun : p.run answer asked with ⟨r, t⟩
  cases r with
  | ok a => exact absurd (congrArg Prod.fst hrun) (h a)
  | error e =>
    rw [run_bind_error hrun]
    intro hb
    cases hb

/-! ### Assertions about histories -/

section triple

variable (allowed : List (Exchange Q A) → Q → Prop)

/-- From the history `h` on, every question is allowed when it is asked, and
    values are returned only with a history that has `Q`. -/
def Meets : Dialogue Q A ε α → List (Exchange Q A) → (α → List (Exchange Q A) → Prop) → Prop
  | done r, h, post => ∀ a, r = .ok a → post a h
  | ask q next, h, post => allowed h q ∧ ∀ a, Meets (next a) (h ++ [⟨q, a⟩]) post

/-- The program meets `Q` from every history with `P`. -/
def Triple (P : List (Exchange Q A) → Prop) (p : Dialogue Q A ε α)
    (post : α → List (Exchange Q A) → Prop) : Prop :=
  ∀ h, P h → Meets allowed p h post

variable {allowed} {P P' : List (Exchange Q A) → Prop} {p : Dialogue Q A ε α}
  {f : α → Dialogue Q A ε β} {post post' : α → List (Exchange Q A) → Prop}
  {R : β → List (Exchange Q A) → Prop}

theorem Meets.mono {h : List (Exchange Q A)} (hp : Meets allowed p h post)
    (hpost : ∀ a h, post a h → post' a h) : Meets allowed p h post' := by
  induction p generalizing h with
  | done r => exact fun a ha => hpost a h (hp a ha)
  | ask q next ih => exact ⟨hp.1, fun a => ih a (hp.2 a)⟩

theorem Meets.bind {h : List (Exchange Q A)} (hp : Meets allowed p h post)
    (hf : ∀ a, Triple allowed (post a) (f a) R) : Meets allowed (p >>= f) h R := by
  induction p generalizing h with
  | done r =>
    cases r with
    | ok a => exact hf a h (hp a rfl)
    | error e =>
      intro b hb
      cases hb
  | ask q next ih => exact ⟨hp.1, fun a => ih a (hp.2 a)⟩

theorem Triple.bind (hp : Triple allowed P p post) (hf : ∀ a, Triple allowed (post a) (f a) R) :
    Triple allowed P (p >>= f) R := fun h hP => (hp h hP).bind hf

theorem Triple.weaken (hp : Triple allowed P p post) (hP : ∀ h, P' h → P h)
    (hpost : ∀ a h, post a h → post' a h) : Triple allowed P' p post' :=
  fun h hP' => (hp h (hP h hP')).mono hpost

theorem Triple.raise (e : ε) : Triple allowed P (raise e : Dialogue Q A ε α) post := by
  intro h _ a ha
  cases ha

theorem Triple.pure {a : α} (ha : ∀ h, P h → post a h) :
    Triple allowed P (pure a : Dialogue Q A ε α) post := by
  intro h hP b hb
  cases hb
  exact ha h hP

theorem Triple.done {r : Except ε α} (hr : ∀ a h, r = .ok a → P h → post a h) :
    Triple allowed P (done r) post := fun h hP a ha => hr a h ha hP

theorem Triple.ask {q : Q} {next : A q → Dialogue Q A ε α} (hq : ∀ h, P h → allowed h q)
    (hnext : ∀ a, Triple allowed (fun h' => ∃ h, P h ∧ h' = h ++ [⟨q, a⟩]) (next a) post) :
    Triple allowed P (ask q next) post :=
  fun h hP => ⟨hq h hP, fun a => hnext a _ ⟨h, hP, rfl⟩⟩

theorem Triple.ite {c : Prop} [Decidable c] {p' : Dialogue Q A ε α}
    (htrue : c → Triple allowed P p post) (hfalse : ¬c → Triple allowed P p' post) :
    Triple allowed P (if c then p else p') post := by
  by_cases hc : c
  · rw [if_pos hc]
    exact htrue hc
  · rw [if_neg hc]
    exact hfalse hc

/-- On every run, what is asked was allowed after the history up to there. -/
theorem Meets.run {h : List (Exchange Q A)} (hp : Meets allowed p h post)
    (answer : Nat → (q : Q) → A q) (asked : Nat) :
    (∀ before x later, (p.run answer asked).2 = before ++ x :: later →
      allowed (h ++ before) x.1) ∧
    ∀ a, (p.run answer asked).1 = .ok a → post a (h ++ (p.run answer asked).2) := by
  induction p generalizing h asked with
  | done r =>
    constructor
    · intro before x later hsplit
      have hlength := congrArg List.length hsplit
      simp at hlength
    · intro a ha
      rw [run_done, List.append_nil]
      exact hp a ha
  | ask q next ih =>
    obtain ⟨hlater, hvalue⟩ := ih (answer asked q) (hp.2 (answer asked q)) (asked + 1)
    constructor
    · intro before x later hsplit
      rw [run_ask] at hsplit
      cases before with
      | nil =>
        obtain ⟨hx, -⟩ := List.cons.inj hsplit
        rw [← hx, List.append_nil]
        exact hp.1
      | cons y before =>
        obtain ⟨hy, hrest⟩ := List.cons.inj hsplit
        rw [← hy, List.append_cons]
        exact hlater before x later hrest
    · intro a ha
      rw [run_ask, List.append_cons]
      exact hvalue a ha

end triple

/-! ### Programs that ask one kind of question -/

/-- Every question of the program is of the kind `K`. -/
def Asks (K : Q → Prop) : Dialogue Q A ε α → Prop
  | done _ => True
  | ask q next => K q ∧ ∀ a, Asks K (next a)

section asks

variable {K K' : Q → Prop} {p : Dialogue Q A ε α} {f : α → Dialogue Q A ε β}

theorem Asks.bind (hp : Asks K p) (hf : ∀ a, Asks K (f a)) : Asks K (p >>= f) := by
  induction p with
  | done r =>
    cases r with
    | ok a => exact hf a
    | error e => trivial
  | ask q next ih => exact ⟨hp.1, fun a => ih a (hp.2 a)⟩

theorem Asks.mono (hp : Asks K p) (hK : ∀ q, K q → K' q) : Asks K' p := by
  induction p with
  | done r => trivial
  | ask q next ih => exact ⟨hK q hp.1, fun a => ih a (hp.2 a)⟩

theorem Asks.pure (a : α) : Asks K (pure a : Dialogue Q A ε α) := trivial

theorem Asks.question {q : Q} (hq : K q) : Asks K (question q : Dialogue Q A ε (A q)) :=
  ⟨hq, fun _ => trivial⟩

theorem Asks.ite {c : Prop} [Decidable c] {p' : Dialogue Q A ε α} (hp : Asks K p)
    (hp' : Asks K p') : Asks K (if c then p else p') := by
  by_cases hc : c
  · rw [if_pos hc]
    exact hp
  · rw [if_neg hc]
    exact hp'

/-- The frame rule: questions of a kind that is always allowed and keeps an
    assertion may be asked anywhere under it. -/
theorem Asks.triple {allowed : List (Exchange Q A) → Q → Prop} {P : List (Exchange Q A) → Prop}
    (hp : Asks K p) (hallowed : ∀ h q, P h → K q → allowed h q)
    (hkeeps : ∀ h q a, P h → K q → P (h ++ [⟨q, a⟩])) :
    Triple allowed P p fun _ h => P h := by
  induction p with
  | done r => exact fun h hP _ _ => hP
  | ask q next ih =>
    intro h hP
    exact ⟨hallowed h q hP hp.1, fun a => ih a (hp.2 a) _ (hkeeps h q a hP hp.1)⟩

end asks

/-! ### What is returned -/

/-- Every value that the program returns has the property, whatever it is
    answered. -/
def Returns (P : α → Prop) : Dialogue Q A ε α → Prop
  | done r => ∀ a, r = .ok a → P a
  | ask _ next => ∀ a, Returns P (next a)

section returns

variable {P : α → Prop} {R : β → Prop} {p : Dialogue Q A ε α} {f : α → Dialogue Q A ε β}

theorem returns_any (p : Dialogue Q A ε α) : Returns (fun _ => True) p := by
  induction p with
  | done r => exact fun _ _ => trivial
  | ask q next ih => exact ih

theorem Returns.bind (hp : Returns P p) (hf : ∀ a, P a → Returns R (f a)) :
    Returns R (p >>= f) := by
  induction p with
  | done r =>
    cases r with
    | ok a => exact hf a (hp a rfl)
    | error e => exact fun b hb => nomatch hb
  | ask q next ih => exact fun a => ih a (hp a)

theorem Returns.pure {a : α} (h : P a) : Returns P (pure a : Dialogue Q A ε α) := by
  intro b hb
  cases hb
  exact h

theorem Returns.ite {c : Prop} [Decidable c] {p' : Dialogue Q A ε α} (hp : Returns P p)
    (hp' : Returns P p') : Returns P (if c then p else p') := by
  by_cases hc : c
  · rw [if_pos hc]
    exact hp
  · rw [if_neg hc]
    exact hp'

end returns

end Dialogue

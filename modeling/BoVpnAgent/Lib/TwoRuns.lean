import BoVpnAgent.Lib.Transition
import Mathlib.Data.List.Forall2

/-! # Two runs of one system

    Two runs that take the same labels are compared by a relation between
    their states.  Every step keeps it, as long as the steps of both runs meet
    a condition: then it relates the states that the two runs end in.

    What the runs leave behind are lists that are related place by place; a
    function that does not see the difference gives the same for both.
-/

namespace Lts

universe u v

variable {σ : Type u} {ℓ : Type v}

/-- The state after a list of labels from `s` on; a label that is not enabled
    is skipped. -/
def System.playFrom (sys : System σ ℓ) (s : σ) (ls : List ℓ) : σ :=
  ls.foldl (fun s l => (sys.next s l).getD s) s

/-- Each label meets `C` in the state in which the run comes to it. -/
def System.Along (sys : System σ ℓ) (C : σ → ℓ → Prop) : σ → List ℓ → Prop
  | _, [] => True
  | s, l :: ls => C s l ∧ sys.Along C ((sys.next s l).getD s) ls

variable {sys : System σ ℓ} {R : σ → σ → Prop} {C C' : σ → ℓ → Prop}

/-- When every label meets `C` in every state, it does along every run. -/
theorem along_of_forall (h : ∀ s l, C s l) (s : σ) (ls : List ℓ) : sys.Along C s ls := by
  induction ls generalizing s with
  | nil => trivial
  | cons l ls ih => exact ⟨h s l, ih _⟩

theorem along_of_mem {ls : List ℓ} (h : ∀ l ∈ ls, ∀ s, C s l) (s : σ) : sys.Along C s ls := by
  induction ls generalizing s with
  | nil => trivial
  | cons l ls ih =>
    obtain ⟨hl, hls⟩ := List.forall_mem_cons.mp h
    exact ⟨hl s, ih hls _⟩

theorem along_mono (h : ∀ s l, C s l → C' s l) {s : σ} {ls : List ℓ} (hC : sys.Along C s ls) :
    sys.Along C' s ls := by
  induction ls generalizing s with
  | nil => trivial
  | cons l ls ih => exact ⟨h s l hC.1, ih hC.2⟩

theorem along_append {s : σ} {ls ls' : List ℓ} (h : sys.Along C s ls)
    (h' : sys.Along C (sys.playFrom s ls) ls') : sys.Along C s (ls ++ ls') := by
  induction ls generalizing s with
  | nil => exact h'
  | cons l ls ih => exact ⟨h.1, ih h.2 h'⟩

/-- Related states lead to related states, or both stay. -/
theorem getD_related {o o' : Option σ} {s s' : σ} (h : Option.Rel R o o') (hs : R s s') :
    R (o.getD s) (o'.getD s') := by
  cases h with
  | some h => exact h
  | none => exact hs

/-- The rule for two runs with the same labels. -/
theorem playFrom_related
    (hstep : ∀ s s' l, R s s' → C s l → C' s' l → Option.Rel R (sys.next s l) (sys.next s' l))
    {s s' : σ} {ls : List ℓ} (h : R s s') (hC : sys.Along C s ls) (hC' : sys.Along C' s' ls) :
    R (sys.playFrom s ls) (sys.playFrom s' ls) := by
  induction ls generalizing s s' with
  | nil => exact h
  | cons l ls ih =>
    obtain ⟨hl, hC⟩ := hC
    obtain ⟨hl', hC'⟩ := hC'
    apply ih _ hC hC'
    exact getD_related (hstep s s' l h hl hl') h

/-- The rule for two runs with labels that differ. -/
theorem playFrom_related₂ {L : ℓ → ℓ → Prop}
    (hstep : ∀ s s' l l', R s s' → L l l' → Option.Rel R (sys.next s l) (sys.next s' l'))
    {s s' : σ} {ls ls' : List ℓ} (h : R s s') (hls : List.Forall₂ L ls ls') :
    R (sys.playFrom s ls) (sys.playFrom s' ls') := by
  induction hls generalizing s s' with
  | nil => exact h
  | cons hl _ ih => exact ih (getD_related (hstep _ _ _ _ h hl) h)

/-! ### Lists that are related place by place -/

section lists

variable {α : Type u} {β : Type v} {R : α → α → Prop} {l l' : List α}

theorem forall₂_refl (hR : ∀ a, R a a) (l : List α) : List.Forall₂ R l l :=
  List.forall₂_same.mpr fun a _ => hR a

theorem filterMap_eq_of_forall₂ {f : α → Option β} (hf : ∀ a b, R a b → f a = f b)
    (h : List.Forall₂ R l l') : l.filterMap f = l'.filterMap f := by
  induction h with
  | nil => rfl
  | cons hab _ ih => rw [List.filterMap_cons, List.filterMap_cons, hf _ _ hab, ih]

theorem countP_eq_of_forall₂ {p : α → Bool} (hp : ∀ a b, R a b → p a = p b)
    (h : List.Forall₂ R l l') : l.countP p = l'.countP p := by
  induction h with
  | nil => rfl
  | cons hab _ ih => rw [List.countP_cons, List.countP_cons, hp _ _ hab, ih]

theorem isSome_find?_of_forall₂ {p : α → Bool} (hp : ∀ a b, R a b → p a = p b)
    (h : List.Forall₂ R l l') : (l.find? p).isSome = (l'.find? p).isSome := by
  induction h with
  | nil => rfl
  | @cons a b _ _ hab _ ih =>
    rw [List.find?_cons, List.find?_cons, hp a b hab]
    cases p b with
    | true => rfl
    | false => exact ih

theorem getElem?_of_forall₂ (h : List.Forall₂ R l l') (i : Nat) : Option.Rel R l[i]? l'[i]? := by
  induction h generalizing i with
  | nil => exact .none
  | cons hab _ ih =>
    cases i with
    | zero => exact .some hab
    | succ i => exact ih i

theorem set_of_forall₂ (h : List.Forall₂ R l l') (i : Nat) {a b : α} (hab : R a b) :
    List.Forall₂ R (l.set i a) (l'.set i b) := by
  induction h generalizing i with
  | nil => exact .nil
  | cons hcd h ih =>
    cases i with
    | zero => exact .cons hab h
    | succ i => exact .cons hcd (ih i)

theorem snoc_of_forall₂ (h : List.Forall₂ R l l') {a b : α} (hab : R a b) :
    List.Forall₂ R (l ++ [a]) (l' ++ [b]) := List.rel_append h (.cons hab .nil)

end lists

end Lts

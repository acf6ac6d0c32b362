import Mathlib.Data.List.Nodup
import Mathlib.Logic.Function.Basic

/-! # A desk with one place

    A desk takes requests.  A request has a key and a body; while one request
    is worked on, no other one is taken, and each key is taken once.  A
    request is closed with a report, which stays on file.

    This file defines:
    - `Desk`: what is on file, with at most one open request as a field
    - `Step`: what the desk does with a request, and when a request is closed
    - `Legal`: the histories that a desk can have
    - `Legal.work`: in a legal history requests are worked on one after the
      other
-/

universe u v w

/-- What is on file under a key. -/
inductive Entry (B : Type v) (R : Type w) where
  | opened (body : B)
  | closed (body : B) (report : R)

namespace Entry

variable {B : Type v} {R : Type w}

def body : Entry B R → B
  | opened b => b
  | closed b _ => b

end Entry

/-- The files of a desk. -/
@[ext]
structure Desk (K : Type u) (B : Type v) (R : Type w) where
  entries : K → Option (Entry B R)
  one_open : ∀ k k' b b', entries k = some (.opened b) → entries k' = some (.opened b') → k = k'

namespace Desk

variable {K : Type u} {B : Type v} {R : Type w}

/-- What happens at the desk. -/
inductive Event (K : Type u) (B : Type v) (R : Type w) where
  | accepted (k : K) (b : B)
  /-- the same request again -/
  | repeated (k : K) (b : B)
  /-- another request under the same key -/
  | conflict (k : K) (b : B)
  | busy (k : K) (b : B)
  | closed (k : K) (r : R)

/-- Nothing is on file. -/
def empty : Desk K B R where
  entries := fun _ => none
  one_open := fun _ _ _ _ h => by cases h

/-- No request is open. -/
def Free (d : Desk K B R) : Prop := ∀ k b, d.entries k ≠ some (.opened b)

variable [DecidableEq K]

/-- The steps of the desk. -/
inductive Step (d : Desk K B R) : Event K B R → Desk K B R → Prop where
  | accepted {k : K} {b : B} {d' : Desk K B R} (hnew : d.entries k = none) (hfree : d.Free)
      (hd' : d'.entries = Function.update d.entries k (some (.opened b))) :
      Step d (.accepted k b) d'
  | repeated {k : K} {e : Entry B R} (he : d.entries k = some e) : Step d (.repeated k e.body) d
  | conflict {k : K} {b : B} {e : Entry B R} (he : d.entries k = some e) (hne : e.body ≠ b) :
      Step d (.conflict k b) d
  | busy {k : K} {b : B} (hnew : d.entries k = none) (hopen : ¬d.Free) : Step d (.busy k b) d
  | closed {k : K} {b : B} {r : R} {d' : Desk K B R} (hopen : d.entries k = some (.opened b))
      (hd' : d'.entries = Function.update d.entries k (some (.closed b r))) :
      Step d (.closed k r) d'

/-- The histories that lead to `d`, with their events in order. -/
inductive Legal : List (Event K B R) → Desk K B R → Prop where
  | nil : Legal [] empty
  | snoc {h : List (Event K B R)} {d d' : Desk K B R} {e : Event K B R} (hh : Legal h d)
      (hstep : Step d e d') : Legal (h ++ [e]) d'

variable {d d' : Desk K B R} {h : List (Event K B R)} {k : K} {b : B} {r : R}

/-- Several events, none or one of them most of the time. -/
inductive Steps : Desk K B R → List (Event K B R) → Desk K B R → Prop where
  | nil (d : Desk K B R) : Steps d [] d
  | cons {d d' d'' : Desk K B R} {e : Event K B R} {es : List (Event K B R)} (hstep : Step d e d')
      (hsteps : Steps d' es d'') : Steps d (e :: es) d''

theorem Steps.single {e : Event K B R} (hstep : Step d e d') : Steps d [e] d' :=
  .cons hstep (.nil d')

theorem Legal.append {es : List (Event K B R)} (hh : Legal h d) (hsteps : Steps d es d') :
    Legal (h ++ es) d' := by
  induction hsteps generalizing h with
  | nil d => rwa [List.append_nil]
  | cons hstep _ ih =>
    rw [List.append_cons]
    exact ih (hh.snoc hstep)

/-! ### What stays on file -/

/-- A closed request is on file for ever. -/
theorem Step.closed_stays {e : Event K B R} (hstep : Step d e d')
    (hk : d.entries k = some (.closed b r)) : d'.entries k = some (.closed b r) := by
  cases hstep with
  | repeated | conflict | busy => exact hk
  | @accepted k' _ _ hnew _ hd' =>
    have hne : k ≠ k' := by
      rintro rfl
      rw [hk] at hnew
      cases hnew
    rw [hd', Function.update_of_ne hne, hk]
  | @closed k' _ _ _ hopen hd' =>
    have hne : k ≠ k' := by
      rintro rfl
      rw [hk] at hopen
      cases hopen
    rw [hd', Function.update_of_ne hne, hk]

/-- A request that was closed is on file with that report. -/
theorem Legal.closed_mem (hh : Legal h d) (hmem : .closed k r ∈ h) :
    ∃ b, d.entries k = some (.closed b r) := by
  induction hh with
  | nil => cases hmem
  | @snoc h d d' e hh hstep ih =>
    obtain hold | hnew := List.mem_append.mp hmem
    · obtain ⟨b, hb⟩ := ih hold
      exact ⟨b, hstep.closed_stays hb⟩
    · obtain rfl := List.mem_singleton.mp hnew
      cases hstep with
      | @closed _ b _ _ hopen hd' => exact ⟨b, by rw [hd', Function.update_self]⟩

/-! ### One after the other -/

/-- The beginning or the end of work on a request. -/
inductive Work (K : Type u) where
  | begins (k : K)
  | ends (k : K)
  deriving DecidableEq

def Event.work? : Event K B R → Option (Work K)
  | .accepted k _ => some (.begins k)
  | .closed k _ => some (.ends k)
  | _ => none

/-- The work on these requests, one after the other. -/
def whole (ks : List K) : List (Work K) := ks.flatMap fun k => [.begins k, .ends k]

omit [DecidableEq K] in
theorem whole_snoc (ks : List K) (k : K) : whole (ks ++ [k]) = whole ks ++ [.begins k, .ends k] := by
  simp [whole]

/-- The requests `ks` are closed, and `last` is open if there is one. -/
structure Worked (d : Desk K B R) (ks : List K) (last : Option K) : Prop where
  nodup : (ks ++ last.toList).Nodup
  closed : ∀ k, k ∈ ks ↔ ∃ b r, d.entries k = some (.closed b r)
  last : ∀ k, k ∈ last ↔ ∃ b, d.entries k = some (.opened b)

omit [DecidableEq K] in
theorem Worked.empty : Worked (empty : Desk K B R) [] none where
  nodup := List.nodup_nil
  closed := fun k => by simp [Desk.empty]
  last := fun k => by simp [Desk.empty]

variable {ks : List K} {last : Option K}

theorem Worked.accepted (hw : Worked d ks last) (hnew : d.entries k = none) (hfree : d.Free)
    (hd' : d'.entries = Function.update d.entries k (some (.opened b))) :
    last = none ∧ Worked d' ks (some k) := by
  have hnone : last = none := by
    refine Option.eq_none_iff_forall_not_mem.mpr fun k' hk' => ?_
    obtain ⟨b', hb'⟩ := (hw.last k').mp hk'
    exact hfree k' b' hb'
  have hfresh : k ∉ ks := by
    intro hmem
    obtain ⟨b', r', hclosed⟩ := (hw.closed k).mp hmem
    rw [hnew] at hclosed
    cases hclosed
  have hnodup := hw.nodup
  rw [hnone, Option.toList_none, List.append_nil] at hnodup
  refine ⟨hnone, ?_, fun k' => ?_, fun k' => ?_⟩
  · exact List.nodup_append.mpr ⟨hnodup, List.nodup_singleton k, fun a ha b hb hab =>
      hfresh (List.mem_singleton.mp hb ▸ hab ▸ ha)⟩
  · by_cases heq : k' = k
    · subst heq
      simp [hd', hfresh]
    · rw [hw.closed, hd', Function.update_of_ne heq]
  · by_cases heq : k' = k
    · subst heq
      simp [hd']
    · rw [hd', Function.update_of_ne heq, ← hw.last, hnone]
      simp [Ne.symm heq]

theorem Worked.close (hw : Worked d ks last) (hopen : d.entries k = some (.opened b))
    (hd' : d'.entries = Function.update d.entries k (some (.closed b r))) :
    last = some k ∧ Worked d' (ks ++ [k]) none := by
  obtain rfl : last = some k := (hw.last k).mpr ⟨b, hopen⟩
  refine ⟨rfl, by simpa using hw.nodup, fun k' => ?_, fun k' => ?_⟩
  · by_cases heq : k' = k
    · subst heq
      simp [hd']
    · rw [List.mem_append, hw.closed, hd', Function.update_of_ne heq]
      simp [heq]
  · by_cases heq : k' = k
    · subst heq
      simp [hd']
    · rw [hd', Function.update_of_ne heq, ← hw.last]
      simp [Ne.symm heq]

/-- In a legal history the requests are worked on one after the other, each of
    them once; the last one may still be open. -/
theorem Legal.work (hh : Legal h d) : ∃ ks last, Worked d ks last ∧
    h.filterMap Event.work? = whole ks ++ last.toList.map .begins := by
  induction hh with
  | nil => exact ⟨[], none, Worked.empty, rfl⟩
  | @snoc h d d' e hh hstep ih =>
    obtain ⟨ks, last, hw, hwork⟩ := ih
    rw [List.filterMap_append, hwork]
    cases hstep with
    | repeated | conflict | busy => exact ⟨ks, last, hw, by simp [Event.work?]⟩
    | @accepted k _ _ hnew hfree hd' =>
      obtain ⟨rfl, hw'⟩ := hw.accepted hnew hfree hd'
      exact ⟨ks, some k, hw', by simp [Event.work?]⟩
    | @closed k _ _ _ hopen hd' =>
      obtain ⟨rfl, hw'⟩ := hw.close hopen hd'
      exact ⟨ks ++ [k], none, hw', by simp [Event.work?, whole_snoc]⟩

end Desk

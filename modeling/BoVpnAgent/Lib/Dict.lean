import Mathlib.Data.List.Nodup
import Mathlib.Tactic.Tauto

/-! # Insertion-ordered dictionaries

    The dictionary of Python: a key occurs once, an assignment to a present
    key keeps its place, a new key goes to the end.  That no key occurs twice
    is a field of the structure.
-/

universe u v

/-- A dictionary with its entries in insertion order. -/
structure Dict (κ : Type u) (ν : Type v) where
  entries : List (κ × ν)
  nodup : (entries.map Prod.fst).Nodup

namespace Dict

variable {κ : Type u} {ν : Type v}

/-- `{}` -/
def empty : Dict κ ν := ⟨[], List.nodup_nil⟩

/-- `list(d.keys())` -/
def keys (d : Dict κ ν) : List κ := d.entries.map Prod.fst

/-- `list(d.values())` -/
def values (d : Dict κ ν) : List ν := d.entries.map Prod.snd

variable [DecidableEq κ]

/-! ### Operations on the list of entries -/

/-- The first value under `k`. -/
def lookup (k : κ) : List (κ × ν) → Option ν
  | [] => none
  | e :: es => if e.1 = k then some e.2 else lookup k es

/-- The entries after `d[k] = v`. -/
def assign (k : κ) (v : ν) : List (κ × ν) → List (κ × ν)
  | [] => [(k, v)]
  | e :: es => if e.1 = k then (k, v) :: es else e :: assign k v es

theorem mem_keys_assign {k k' : κ} {v : ν} {es : List (κ × ν)} :
    k' ∈ (assign k v es).map Prod.fst ↔ k' = k ∨ k' ∈ es.map Prod.fst := by
  induction es with
  | nil => simp [assign]
  | cons e es ih =>
    unfold assign
    split
    · next h => simp [h]
    · simp only [List.map_cons, List.mem_cons, ih]
      tauto

theorem nodup_assign {k : κ} {v : ν} {es : List (κ × ν)}
    (h : (es.map Prod.fst).Nodup) : ((assign k v es).map Prod.fst).Nodup := by
  induction es with
  | nil => simp [assign]
  | cons e es ih =>
    rw [List.map_cons, List.nodup_cons] at h
    unfold assign
    split
    · next he => simpa [← he] using h
    · next he =>
      rw [List.map_cons, List.nodup_cons, mem_keys_assign]
      exact ⟨not_or.mpr ⟨he, h.1⟩, ih h.2⟩

theorem lookup_assign (k k' : κ) (v : ν) (es : List (κ × ν)) :
    lookup k' (assign k v es) = if k = k' then some v else lookup k' es := by
  induction es with
  | nil => rfl
  | cons e es ih =>
    unfold assign
    by_cases he : e.1 = k
    · by_cases h : k = k' <;> simp [he, lookup, h]
    · by_cases h : e.1 = k'
      · subst h
        simp [he, Ne.symm he, lookup]
      · simp [he, h, lookup, ih]

theorem lookup_filter_ne (k k' : κ) (es : List (κ × ν)) :
    lookup k' (es.filter (fun e => e.1 ≠ k)) = if k = k' then none else lookup k' es := by
  induction es with
  | nil => simp [lookup]
  | cons e es ih =>
    by_cases he : e.1 = k
    · by_cases h : k = k'
      · simpa [List.filter_cons, he, h] using ih
      · simpa [List.filter_cons, he, h, lookup] using ih
    · by_cases h : e.1 = k'
      · subst h
        simp [he, Ne.symm he, lookup]
      · simpa [List.filter_cons, he, h, lookup] using ih

theorem isSome_lookup_iff (k : κ) (es : List (κ × ν)) :
    (lookup k es).isSome ↔ k ∈ es.map Prod.fst := by
  induction es with
  | nil => simp [lookup]
  | cons e es ih =>
    by_cases h : e.1 = k
    · simp [lookup, h]
    · simp only [lookup, h, if_false, ih, List.map_cons, List.mem_cons, Ne.symm h, false_or]

theorem mem_iff_lookup {k : κ} {v : ν} {es : List (κ × ν)} (hnd : (es.map Prod.fst).Nodup) :
    (k, v) ∈ es ↔ lookup k es = some v := by
  induction es with
  | nil => simp [lookup]
  | cons e es ih =>
    rw [List.map_cons, List.nodup_cons] at hnd
    by_cases h : e.1 = k
    · have hnot : (k, v) ∉ es := fun hm => hnd.1 (h ▸ List.mem_map_of_mem (f := Prod.fst) hm)
      subst h
      simp only [List.mem_cons, hnot, or_false, lookup, if_true, Option.some.injEq]
      exact ⟨fun heq => (congrArg Prod.snd heq).symm, fun heq => by rw [← heq]⟩
    · have hne : (k, v) ≠ e := fun heq => h (congrArg Prod.fst heq).symm
      simp [lookup, h, hne, ih hnd.2]

theorem assign_of_lookup {k : κ} {v : ν} {es : List (κ × ν)} (h : lookup k es = some v) :
    assign k v es = es := by
  induction es with
  | nil => cases h
  | cons e es ih =>
    unfold lookup at h
    unfold assign
    split at h
    · next he =>
      obtain rfl := Option.some.inj h
      rw [if_pos he, ← he]
    · next he => rw [if_neg he, ih h]

/-! ### Dictionary operations -/

/-- `d.get(k)` -/
def get? (d : Dict κ ν) (k : κ) : Option ν := lookup k d.entries

/-- `d[k] = v` -/
def set (d : Dict κ ν) (k : κ) (v : ν) : Dict κ ν :=
  ⟨assign k v d.entries, nodup_assign d.nodup⟩

/-- `d.pop(k, None)`, without the value it returns. -/
def pop (d : Dict κ ν) (k : κ) : Dict κ ν where
  entries := d.entries.filter (fun e => e.1 ≠ k)
  nodup := d.nodup.sublist (List.Sublist.map _ List.filter_sublist)

@[simp] theorem get?_empty (k : κ) : (empty : Dict κ ν).get? k = none := rfl

theorem get?_set (d : Dict κ ν) (k k' : κ) (v : ν) :
    (d.set k v).get? k' = if k = k' then some v else d.get? k' :=
  lookup_assign k k' v d.entries

@[simp] theorem get?_set_self (d : Dict κ ν) (k : κ) (v : ν) : (d.set k v).get? k = some v := by
  simp [get?_set]

@[simp] theorem get?_set_ne (d : Dict κ ν) {k k' : κ} (v : ν) (h : k ≠ k') :
    (d.set k v).get? k' = d.get? k' := by
  simp [get?_set, h]

/-- Assigning the value that is there changes nothing. -/
theorem set_of_get? {d : Dict κ ν} {k : κ} {v : ν} (h : d.get? k = some v) : d.set k v = d := by
  have hentries := assign_of_lookup h
  cases d
  simp only [set, hentries]

theorem get?_pop (d : Dict κ ν) (k k' : κ) :
    (d.pop k).get? k' = if k = k' then none else d.get? k' :=
  lookup_filter_ne k k' d.entries

@[simp] theorem get?_pop_self (d : Dict κ ν) (k : κ) : (d.pop k).get? k = none := by
  simp [get?_pop]

@[simp] theorem get?_pop_ne (d : Dict κ ν) {k k' : κ} (h : k ≠ k') :
    (d.pop k).get? k' = d.get? k' := by
  simp [get?_pop, h]

/-! ### One entry -/

/-- The entry of `k` alone. -/
def only (d : Dict κ ν) (k : κ) : Dict κ ν :=
  match d.get? k with
  | some v => empty.set k v
  | none => empty

@[simp] theorem get?_only_self (d : Dict κ ν) (k : κ) : (d.only k).get? k = d.get? k := by
  unfold only
  cases h : d.get? k with
  | some v => simp
  | none => simp

theorem only_congr {d d' : Dict κ ν} {k : κ} (h : d.get? k = d'.get? k) : d.only k = d'.only k := by
  unfold only
  rw [h]

@[simp] theorem set_empty_set (k : κ) (v w : ν) : ((empty.set k v).set k w : Dict κ ν) = empty.set k w := by
  simp [set, empty, assign]

@[simp] theorem pop_empty_set (k : κ) (v : ν) : ((empty.set k v).pop k : Dict κ ν) = empty := by
  simp [set, empty, assign, pop]

@[simp] theorem pop_empty (k : κ) : (empty.pop k : Dict κ ν) = empty := rfl

@[simp] theorem only_set_self (d : Dict κ ν) (k : κ) (v : ν) : (d.set k v).only k = (d.only k).set k v := by
  unfold only
  rw [get?_set_self]
  cases d.get? k with
  | some w => simp
  | none => rfl

@[simp] theorem only_pop_self (d : Dict κ ν) (k : κ) : (d.pop k).only k = (d.only k).pop k := by
  unfold only
  rw [get?_pop_self]
  cases d.get? k with
  | some w => simp
  | none => rfl

/-! ### Membership -/

theorem mem_keys_iff (d : Dict κ ν) (k : κ) : k ∈ d.keys ↔ (d.get? k).isSome :=
  (isSome_lookup_iff k d.entries).symm

theorem mem_entries_iff (d : Dict κ ν) (k : κ) (v : ν) :
    (k, v) ∈ d.entries ↔ d.get? k = some v :=
  mem_iff_lookup d.nodup

theorem mem_values_iff (d : Dict κ ν) (v : ν) : v ∈ d.values ↔ ∃ k, d.get? k = some v := by
  simp only [values, List.mem_map, Prod.exists, exists_eq_right, mem_entries_iff]

end Dict

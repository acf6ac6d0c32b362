import Mathlib.Data.List.Basic

/-! # A heap of mutable objects

    Objects that several tables point to are cells of a heap, and a
    reference is the index of a cell.  Cells are never freed.
-/

universe u

/-- A reference to a cell. -/
abbrev Ref := Nat

/-- The cells in the order of their allocation. -/
structure Heap (α : Type u) where
  cells : List α

namespace Heap

variable {α : Type u}

/-- No cell. -/
def empty : Heap α := ⟨[]⟩

/-- The reference that the next allocation returns. -/
def next (h : Heap α) : Ref := h.cells.length

/-- The object of a reference. -/
def read (h : Heap α) (r : Ref) : Option α := h.cells[r]?

/-- A new cell under the reference `h.next`. -/
def alloc (h : Heap α) (x : α) : Heap α := ⟨h.cells ++ [x]⟩

/-- Replaces an object. -/
def write (h : Heap α) (r : Ref) (x : α) : Heap α := ⟨h.cells.set r x⟩

@[simp] theorem read_empty (r : Ref) : (empty : Heap α).read r = none := rfl

@[simp] theorem read_alloc_next (h : Heap α) (x : α) : (h.alloc x).read h.next = some x := by
  simp [read, alloc, next]

theorem read_alloc_of_some {h : Heap α} {r : Ref} {y : α} (hr : h.read r = some y) (x : α) :
    (h.alloc x).read r = some y := by
  obtain ⟨hlt, _⟩ := List.getElem?_eq_some_iff.mp hr
  simpa [read, alloc, List.getElem?_append_left hlt] using hr

@[simp] theorem read_write_ne (h : Heap α) {r r' : Ref} (x : α) (hne : r ≠ r') :
    (h.write r x).read r' = h.read r' := by
  simp [read, write, List.getElem?_set_ne hne]

theorem read_write_self {h : Heap α} {r : Ref} {y : α} (hr : h.read r = some y) (x : α) :
    (h.write r x).read r = some x := by
  obtain ⟨hlt, _⟩ := List.getElem?_eq_some_iff.mp hr
  simp [read, write, hlt]

/-- An allocation adds one cell. -/
theorem read_alloc_cases {h : Heap α} {r : Ref} {x y : α} (hr : (h.alloc x).read r = some y) :
    h.read r = some y ∨ r = h.next ∧ y = x := by
  unfold read alloc at hr
  rw [List.getElem?_append] at hr
  split at hr
  · exact .inl hr
  · next hge =>
    have hzero : r - h.cells.length = 0 := by
      have hlt := (List.getElem?_eq_some_iff.mp hr).1
      exact Nat.lt_one_iff.mp hlt
    rw [hzero] at hr
    have hle : r ≤ h.cells.length := Nat.sub_eq_zero_iff_le.mp hzero
    exact .inr ⟨Nat.le_antisymm hle (Nat.le_of_not_lt hge), (Option.some.inj hr).symm⟩

/-- A replacement changes one cell. -/
theorem read_write_cases {h : Heap α} {r r' : Ref} {x y : α} (hr : (h.write r x).read r' = some y) :
    r' = r ∧ y = x ∨ r' ≠ r ∧ h.read r' = some y := by
  by_cases heq : r' = r
  · left
    rw [heq] at hr
    unfold read write at hr
    have hlt := (List.getElem?_eq_some_iff.mp hr).1
    rw [List.length_set] at hlt
    rw [List.getElem?_set_self hlt] at hr
    exact ⟨heq, (Option.some.inj hr).symm⟩
  · right
    rw [read_write_ne h x fun h => heq h.symm] at hr
    exact ⟨heq, hr⟩

end Heap

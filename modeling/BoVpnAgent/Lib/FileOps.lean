import Mathlib.Data.List.Count
import Mathlib.Logic.Function.Basic

/-! # Replacing a file

    A program that writes a temporary file and renames it over another one
    changes that other file at one point only: the rename.  A crash between
    two operations leaves the old content or the new one.

    This file defines:
    - `Op`, `Op.apply` and `run`: operations on the files of a directory
    - `Once`: a program with at most one operation that touches a file

    and shows that the rest of a program that touches a file once leaves it
    as it is or brings the final content (`Once.step`), and that this holds of
    `replaceWith` (`once_replaceWith`, `run_replaceWith`).
-/

namespace FileOps

universe u v

variable {ν : Type u} {β : Type v}

/-- The files of a directory. -/
abbrev Files (ν : Type u) (β : Type v) := ν → Option (List β)

/-- An operation on files. -/
inductive Op (ν : Type u) (β : Type v) where
  /-- a new empty file -/
  | create (file : ν)
  | append (file : ν) (chunk : List β)
  /-- `file` becomes `target` -/
  | rename (file target : ν)
  | unlink (file : ν)

variable [DecidableEq ν]

/-- The operation changes the file. -/
def Op.touches (f : ν) : Op ν β → Bool
  | create file | append file _ | unlink file => file = f
  | rename file target => file = f || target = f

/-- The files after an operation. -/
def Op.apply : Op ν β → Files ν β → Files ν β
  | create file, fs => Function.update fs file (some [])
  | append file chunk, fs => Function.update fs file (some ((fs file).getD [] ++ chunk))
  | rename file target, fs => Function.update (Function.update fs target (fs file)) file none
  | unlink file, fs => Function.update fs file none

/-- The files after a program. -/
def run (ops : List (Op ν β)) (fs : Files ν β) : Files ν β := ops.foldl (fun fs op => op.apply fs) fs

variable {f temp target : ν} {op : Op ν β} {ops : List (Op ν β)} {fs : Files ν β}

@[simp] theorem run_nil (fs : Files ν β) : run [] fs = fs := rfl

@[simp] theorem run_cons (op : Op ν β) (ops : List (Op ν β)) (fs : Files ν β) :
    run (op :: ops) fs = run ops (op.apply fs) := rfl

theorem run_append (ops ops' : List (Op ν β)) (fs : Files ν β) :
    run (ops ++ ops') fs = run ops' (run ops fs) := List.foldl_append

/-- An operation leaves the files alone that it does not touch. -/
theorem apply_untouched (h : op.touches f = false) (fs : Files ν β) : op.apply fs f = fs f := by
  cases op with
  | create file | append file | unlink file =>
    have hne : file ≠ f := of_decide_eq_false h
    exact Function.update_of_ne hne.symm _ _
  | rename file target =>
    obtain ⟨hfile, htarget⟩ := Bool.or_eq_false_iff.mp h
    have hne : file ≠ f := of_decide_eq_false hfile
    have hne' : target ≠ f := of_decide_eq_false htarget
    show Function.update (Function.update fs target (fs file)) file none f = fs f
    rw [Function.update_of_ne hne.symm, Function.update_of_ne hne'.symm]

theorem run_untouched (h : ∀ op ∈ ops, op.touches f = false) (fs : Files ν β) :
    run ops fs f = fs f := by
  induction ops generalizing fs with
  | nil => rfl
  | cons op ops ih =>
    obtain ⟨hop, hops⟩ := List.forall_mem_cons.mp h
    rw [run_cons, ih hops, apply_untouched hop]

/-! ### One operation on a file -/

/-- At most one operation of the program touches the file. -/
def Once (f : ν) (ops : List (Op ν β)) : Prop := ops.countP (Op.touches f) ≤ 1

theorem Once.tail (h : Once f (op :: ops)) : Once f ops :=
  Nat.le_trans (List.Sublist.countP_le (List.sublist_cons_self op ops)) h

/-- An operation of such a program leaves the file as it is, or gives it the
    content that it has at the end. -/
theorem Once.step (h : Once f (op :: ops)) (fs : Files ν β) :
    op.apply fs f = fs f ∨ op.apply fs f = run (op :: ops) fs f := by
  cases htouch : op.touches f with
  | false => exact .inl (apply_untouched htouch fs)
  | true =>
    -- it is the one operation: the rest leaves the file alone
    have hrest : ops.countP (Op.touches f) = 0 := by
      have hone := h
      rw [Once, List.countP_cons, htouch, if_pos rfl] at hone
      omega
    have huntouched : ∀ op ∈ ops, op.touches f = false := fun op hop => by
      simpa using List.countP_eq_zero.mp hrest op hop
    exact .inr (by rw [run_cons, run_untouched huntouched])

/-- So after any part of the program the file is the old one or the new one. -/
theorem Once.take (h : Once f ops) (n : Nat) (fs : Files ν β) :
    run (ops.take n) fs f = fs f ∨ run (ops.take n) fs f = run ops fs f := by
  induction ops generalizing n fs with
  | nil => exact .inl (by rw [List.take_nil, run_nil])
  | cons op ops ih =>
    cases n with
    | zero => exact .inl rfl
    | succ n =>
      rw [List.take_succ_cons, run_cons]
      rcases ih h.tail n (op.apply fs) with hold | hnew
      · rw [hold]
        exact h.step fs
      · exact .inr hnew

/-! ### Writing and renaming -/

/-- The chunks go into a temporary file. -/
def writes (temp : ν) (chunks : List (List β)) : List (Op ν β) :=
  .create temp :: chunks.map (.append temp)

/-- The chunks replace the content of `target`. -/
def replaceWith (temp target : ν) (chunks : List (List β)) : List (Op ν β) :=
  writes temp chunks ++ [.rename temp target, .unlink temp]

theorem writes_untouched (hne : temp ≠ target) (chunks : List (List β)) :
    ∀ op ∈ writes temp chunks, op.touches target = false := by
  have hother : decide (temp = target) = false := decide_eq_false hne
  intro op hop
  rcases List.mem_cons.mp hop with rfl | hop
  · exact hother
  · obtain ⟨chunk, -, rfl⟩ := List.mem_map.mp hop
    exact hother

theorem run_writes (temp : ν) (chunks : List (List β)) (fs : Files ν β) :
    run (writes temp chunks) fs temp = some chunks.flatten := by
  suffices happend : ∀ (chunks : List (List β)) (fs : Files ν β) (old : List β),
      fs temp = some old →
        run (chunks.map (Op.append temp)) fs temp = some (old ++ chunks.flatten) from
    happend chunks _ [] (Function.update_self temp _ fs)
  intro chunks
  induction chunks with
  | nil =>
    intro fs old hold
    rw [List.map_nil, run_nil, hold, List.flatten_nil, List.append_nil]
  | cons chunk chunks ih =>
    intro fs old hold
    have hnew : (Op.append temp chunk).apply fs temp = some (old ++ chunk) := by
      show Function.update fs temp (some ((fs temp).getD [] ++ chunk)) temp = _
      rw [Function.update_self, hold]
      rfl
    rw [List.map_cons, run_cons, ih _ _ hnew, List.flatten_cons, List.append_assoc]

/-- Without the rename the other file is left alone. -/
theorem once_writes (hne : temp ≠ target) (chunks : List (List β)) (ops : List (Op ν β))
    (hops : Once target ops) : Once target (writes temp chunks ++ ops) := by
  have hnone : (writes temp chunks).countP (Op.touches target) = 0 :=
    List.countP_eq_zero.mpr fun op hop => by simp [writes_untouched hne chunks op hop]
  rw [Once, List.countP_append, hnone, Nat.zero_add]
  exact hops

theorem once_replaceWith (hne : temp ≠ target) (chunks : List (List β)) :
    Once target (replaceWith temp target chunks) := by
  refine once_writes hne chunks _ ?_
  rw [Once, List.countP_cons, List.countP_cons, List.countP_nil]
  simp [Op.touches, hne]

/-- The file has the chunks at the end. -/
theorem run_replaceWith (hne : temp ≠ target) (chunks : List (List β)) (fs : Files ν β) :
    run (replaceWith temp target chunks) fs target = some chunks.flatten := by
  have hrename : ∀ fs : Files ν β,
      run [.rename temp target, .unlink temp] fs target = fs temp := by
    intro fs
    show Function.update (Function.update (Function.update fs target (fs temp)) temp none)
      temp none target = fs temp
    rw [Function.update_of_ne hne.symm, Function.update_of_ne hne.symm, Function.update_self]
  rw [replaceWith, run_append, hrename, run_writes]

end FileOps

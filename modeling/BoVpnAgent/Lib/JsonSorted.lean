import BoVpnAgent.Lib.JsonCanonical
import BoVpnAgent.Lib.JsonPrintable

/-! # JSON with sorted keys

    `json.dumps` with `sort_keys` writes an object as it writes the object
    with its fields in order, so this is what `json.loads` reads back.  The
    values are leaves here: there are no keys inside them.
-/

namespace Json

/-- The fields in the order of their keys. -/
def sortFields (fields : Fields) : Fields :=
  fields.insertionSort fun a b => strLE a.1 b.1

/-- The options without `sort_keys`. -/
def DumpOptions.unsorted (o : DumpOptions) : DumpOptions := { o with sort_keys := false }

/-- The value has no fields inside. -/
def isLeaf : Json → Bool
  | arr _ | obj _ => false
  | _ => true

variable {I : Interp} {o : DumpOptions} {fields : Fields}

theorem perm_sortFields (fields : Fields) : (sortFields fields).Perm fields :=
  List.perm_insertionSort _ fields

theorem distinctKeys_sortFields (h : DistinctKeys fields) : DistinctKeys (sortFields fields) :=
  ((perm_sortFields fields).map Prod.fst).nodup_iff.mpr h

theorem render_unsorted {x : Json} (h : x.isLeaf = true) : render I o.unsorted x = render I o x := by
  cases x with
  | arr | obj => cases h
  | _ => rfl

/-- What is written with sorted keys are the sorted fields. -/
theorem render_sortFields (ho : o.sort_keys = true) (hleaf : ∀ e ∈ fields, e.2.isLeaf = true) :
    render I o.unsorted (obj (sortFields fields)) = render I o (obj fields) := by
  have hmembers : renderFields I o.unsorted fields = renderFields I o fields := by
    rw [renderFields_eq_map, renderFields_eq_map]
    exact List.map_congr_left fun e he => by rw [render_unsorted (hleaf e he)]
  have horder : renderFields I o.unsorted (sortFields fields) =
      order true (renderFields I o fields) := by
    rw [← hmembers, renderFields_eq_map, renderFields_eq_map]
    exact List.map_insertionSort _ _ _ _ fun a _ b _ => Iff.rfl
  rw [render, render, horder, ho]
  rfl

/-- The same leaves. -/
theorem all_sortFields {P : PyStr → Prop} {Q : Int → Prop} (h : (obj fields).All P Q) :
    (obj (sortFields fields)).All P Q :=
  all_obj.mpr fun e he => all_obj.mp h e ((perm_sortFields fields).mem_iff.mp he)

theorem readable_sortFields (h : Readable I (obj fields)) :
    Readable I (obj (sortFields fields)) where
  clean := all_sortFields h.clean
  nodes := ⟨distinctKeys_sortFields h.nodes.1, nodesFields_iff.mpr fun e he =>
    nodesFields_iff.mp h.nodes.2 e ((perm_sortFields fields).mem_iff.mp he)⟩

theorem depth_sortFields {n : Nat} (h : (obj fields).depth ≤ n) :
    (obj (sortFields fields)).depth ≤ n := by
  have hfields : ∀ e ∈ fields, e.2.depth ≤ n - 1 := depthFields_le.mp (by rw [depth] at h; omega)
  have hsorted : depthFields (sortFields fields) ≤ n - 1 :=
    depthFields_le.mpr fun e he => hfields e ((perm_sortFields fields).mem_iff.mp he)
  rw [depth] at h ⊢
  omega

/-- `json.loads(json.dumps(d, sort_keys=True))` is `d` with its fields in
    order. -/
theorem loads_sorted (ho : o.unsorted.Plain) (hsort : o.sort_keys = true)
    (hleaf : ∀ e ∈ fields, e.2.isLeaf = true) (h : Readable I (obj fields))
    (hdepth : (obj fields).depth ≤ I.loads_depth) :
    loads I (render I o (obj fields)) = .ok (obj (sortFields fields)) := by
  rw [← render_sortFields hsort hleaf]
  exact loads_render ho (readable_sortFields h) (depth_sortFields hdepth)

end Json

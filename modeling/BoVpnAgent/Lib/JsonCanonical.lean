import BoVpnAgent.Lib.JsonRead
import BoVpnAgent.Lib.JsonWhole

/-! # The canonical text of a JSON value

    With sorted keys, the text of a value says what the value is up to the
    order of the fields of its objects.

    - `same_of_render` : equal texts come from the same tree
    - `render_of_same` : the same tree has equal texts
-/

namespace Json

/-! ### Same trees -/

section same

variable (I : Interp)

mutual

/-- The same tree: the fields of objects in any order, strings by their
    characters, everything else by its text. -/
def SameTree : Json → Json → Prop
  | str s, j => j = str s
  | arr xs, j => ∃ ys, j = arr ys ∧ SameList xs ys
  | obj fields, j =>
    ∃ fields', j = obj fields' ∧ fields'.length = fields.length ∧ SameFields fields fields'
  | null, j => leafText I j = leafText I null
  | bool b, j => leafText I j = leafText I (bool b)
  | int n, j => leafText I j = leafText I (int n)
  | float x, j => leafText I j = leafText I (float x)

/-- The same trees in the same order. -/
def SameList : List Json → List Json → Prop
  | [], ys => ys = []
  | x :: xs, ys => ∃ y ys', ys = y :: ys' ∧ SameTree x y ∧ SameList xs ys'

/-- Each of the fields has its value in the other object. -/
def SameFields : List (PyStr × Json) → Fields → Prop
  | [], _ => True
  | (k, x) :: fields, fields' =>
    (∃ y, Json.get? fields' k = some y ∧ SameTree x y) ∧ SameFields fields fields'

end

end same

/-! ### The order of keys -/

theorem strLE_total (s t : PyStr) : strLE s t = true ∨ strLE t s = true := by
  induction s generalizing t with
  | nil => exact .inl rfl
  | cons a s ih =>
    cases t with
    | nil => exact .inr rfl
    | cons b t =>
      unfold strLE
      by_cases hab : a = b
      · rw [if_pos hab, if_pos hab.symm]
        exact ih t
      · rw [if_neg hab, if_neg fun h => hab h.symm, decide_eq_true_iff, decide_eq_true_iff]
        exact lt_or_gt_of_ne hab

theorem strLE_trans {s t u : PyStr} (hst : strLE s t = true) (htu : strLE t u = true) :
    strLE s u = true := by
  induction s generalizing t u with
  | nil => rfl
  | cons a s ih =>
    cases t with
    | nil => cases hst
    | cons b t =>
      cases u with
      | nil => cases htu
      | cons c u =>
        unfold strLE at hst htu ⊢
        -- the first place where two of the three differ decides
        by_cases hab : a = b
        · rw [if_pos hab] at hst
          rw [hab]
          by_cases hbc : b = c
          · rw [if_pos hbc] at htu ⊢
            exact ih hst htu
          · rw [if_neg hbc] at htu ⊢
            exact htu
        · rw [if_neg hab, decide_eq_true_iff] at hst
          have hac : a < c := by
            by_cases hbc : b = c
            · exact hbc ▸ hst
            · rw [if_neg hbc, decide_eq_true_iff] at htu
              exact hst.trans htu
          rw [if_neg hac.ne, decide_eq_true_iff]
          exact hac

theorem strLE_antisymm {s t : PyStr} (hst : strLE s t = true) (hts : strLE t s = true) :
    s = t := by
  induction s generalizing t with
  | nil =>
    cases t with
    | nil => rfl
    | cons b t => cases hts
  | cons a s ih =>
    cases t with
    | nil => cases hst
    | cons b t =>
      unfold strLE at hst hts
      by_cases hab : a = b
      · rw [if_pos hab] at hst
        rw [if_pos hab.symm] at hts
        rw [hab, ih hst hts]
      · rw [if_neg hab, decide_eq_true_iff] at hst
        rw [if_neg fun h => hab h.symm, decide_eq_true_iff] at hts
        exact absurd hst hts.asymm

/-- Two orders of the same fields are sorted alike. -/
theorem order_of_perm {members members' : List (PyStr × PyStr)} (hperm : members.Perm members')
    (hdistinct : (members.map Prod.fst).Nodup) : order true members = order true members' := by
  have htotal : Std.Total fun a b : PyStr × PyStr => strLE a.1 b.1 = true :=
    ⟨fun a b => strLE_total a.1 b.1⟩
  have htrans : IsTrans (PyStr × PyStr) fun a b => strLE a.1 b.1 = true :=
    ⟨fun _ _ _ => strLE_trans⟩
  have hsorted : ∀ l : List (PyStr × PyStr),
      (order true l).Pairwise fun a b => strLE a.1 b.1 = true := fun l =>
    List.pairwise_insertionSort _ l
  have hsame : (order true members).Perm (order true members') :=
    ((order_perm true members).trans hperm).trans (order_perm true members').symm
  refine List.Perm.eq_of_pairwise (fun a b ha hb hab hba => ?_) (hsorted members)
    (hsorted members') hsame
  -- equal keys belong to one member
  have hkey := strLE_antisymm hab hba
  have ha' := mem_order.mp ha
  have hb' := hperm.mem_iff.mpr (mem_order.mp hb)
  exact List.inj_on_of_nodup_map hdistinct ha' hb' hkey

/-! ### Equal texts -/

section texts

variable {I : Interp} {o : DumpOptions}

/-- What kind of text a value begins. -/
def opener : Json → Option CodePoint
  | str _ => some 0x22
  | arr _ => some 0x5B
  | obj _ => some 0x7B
  | _ => none

theorem leafText_isSome_iff {j : Json} : (leafText I j).isSome ↔ j.opener = none := by
  cases j <;> simp [leafText, opener]

/-- The first character of the text says what kind of text it is. -/
theorem opener_eq_head (hnumbers : NumbersUnquoted I) (j : Json) :
    j.opener = (render I o j).head?.filter fun c => decide (Structural c) := by
  by_cases hleaf : j.opener = none
  · obtain ⟨t, ht⟩ := Option.isSome_iff_exists.mp ((leafText_isSome_iff (I := I)).mpr hleaf)
    obtain ⟨hne, hplain⟩ := leaf_plain hnumbers ht
    obtain ⟨c, t', hcons⟩ := List.exists_cons_of_ne_nil hne
    have hc := hplain c (by rw [hcons]; exact List.mem_cons_self)
    rw [hleaf, render_leaf ht, hcons, List.head?_cons, Option.filter_some, decide_eq_false hc]
    rfl
  · cases j with
    | str s => rfl
    | arr xs => rw [render]; rfl
    | obj fields => rw [render]; rfl
    | _ => exact absurd rfl hleaf

theorem opener_eq (hnumbers : NumbersUnquoted I) {j j' : Json}
    (h : render I o j = render I o j') : j.opener = j'.opener := by
  rw [opener_eq_head (o := o) hnumbers j, opener_eq_head (o := o) hnumbers j', h]

/-- The text of a string says what the string is. -/
theorem escape_inj {s s' : PyStr} (hs : s.Scalar) (hs' : s'.Scalar) {t t' : PyStr}
    (h : escape o.ensure_ascii s ++ t = escape o.ensure_ascii s' ++ t') : s = s' ∧ t = t' := by
  unfold escape at h
  rw [List.append_assoc, List.append_assoc, List.append_assoc, List.append_assoc] at h
  have hread := scanString_escape o.ensure_ascii hs t
  have hread' := scanString_escape o.ensure_ascii hs' t'
  have hbody := List.append_cancel_left h
  rw [List.singleton_append, List.singleton_append] at hbody
  rw [hbody, hread'] at hread
  exact ⟨(Prod.mk.inj (Option.some.inj hread)).1.symm, (Prod.mk.inj (Option.some.inj hread)).2.symm⟩

/-- The text of a field says what the key is and what the text of the value. -/
theorem member_inj {e e' : PyStr × PyStr} (he : e.1.Scalar) (he' : e'.1.Scalar)
    (h : member o e = member o e') : e = e' := by
  unfold member at h
  rw [List.append_assoc, List.append_assoc] at h
  obtain ⟨hkey, hrest⟩ := escape_inj he he' h
  exact Prod.ext hkey (List.append_cancel_left hrest)

theorem members_inj {members members' : List (PyStr × PyStr)}
    (hkeys : ∀ e ∈ members, e.1.Scalar) (hkeys' : ∀ e ∈ members', e.1.Scalar)
    (h : members.map (member o) = members'.map (member o)) : members = members' := by
  induction members generalizing members' with
  | nil => exact (List.map_eq_nil_iff.mp h.symm).symm
  | cons e members ih =>
    cases members' with
    | nil => cases h
    | cons e' members' =>
      obtain ⟨hhead, htail⟩ := List.cons.inj h
      obtain ⟨he, hrest⟩ := List.forall_mem_cons.mp hkeys
      obtain ⟨he', hrest'⟩ := List.forall_mem_cons.mp hkeys'
      rw [member_inj he he' hhead, ih hrest hrest' htail]

theorem renderFields_eq_map (fields : Fields) :
    renderFields I o fields = fields.map fun e => (e.1, render I o e.2) := by
  induction fields with
  | nil => rfl
  | cons e fields ih =>
    show (e.1, render I o e.2) :: renderFields I o fields = _
    rw [ih]
    rfl

theorem keys_renderFields (fields : Fields) :
    (renderFields I o fields).map Prod.fst = fields.map Prod.fst := by
  rw [renderFields_eq_map, List.map_map]
  rfl

/-- A member of the text of an object is one of its fields. -/
theorem mem_renderFields {fields : Fields} (hdistinct : DistinctKeys fields) {k t : PyStr} :
    (k, t) ∈ renderFields I o fields ↔ ∃ x, Json.get? fields k = some x ∧ render I o x = t := by
  rw [renderFields_eq_map, List.mem_map]
  constructor
  · intro ⟨e, he, heq⟩
    obtain ⟨hkey, htext⟩ := Prod.mk.inj heq
    have hmem : (k, e.2) ∈ fields := hkey ▸ he
    exact ⟨e.2, (Dict.mem_iff_lookup hdistinct).mp hmem, htext⟩
  · intro ⟨x, hx, htext⟩
    exact ⟨(k, x), mem_of_get? hx, by rw [htext]⟩

variable (I) in
/-- A tree that was read from a document and can be encoded again. -/
structure Canonical (j : Json) : Prop where
  clean : Clean I j
  nodes : Nodes PyFloat.Double DistinctKeys j

theorem Canonical.arr {xs : List Json} (h : Canonical I (arr xs)) : ∀ x ∈ xs, Canonical I x :=
  fun x hx => ⟨allList_iff.mp h.clean x hx, nodesList_iff.mp h.nodes x hx⟩

theorem Canonical.keys {fields : Fields} (h : Canonical I (obj fields)) : DistinctKeys fields :=
  h.nodes.1

theorem Canonical.fields {fields : Fields} (h : Canonical I (obj fields)) :
    ∀ e ∈ fields, e.1.Scalar ∧ Canonical I e.2 :=
  fun e he => ⟨(all_obj.mp h.clean e he).1, (all_obj.mp h.clean e he).2,
    nodesFields_iff.mp h.nodes.2 e he⟩

/-- The keys that are written are those of the object. -/
theorem Canonical.members {fields : Fields} (h : Canonical I (obj fields)) :
    ∀ e ∈ order o.sort_keys (renderFields I o fields), e.1.Scalar := by
  intro e he
  have hkey : e.1 ∈ (renderFields I o fields).map Prod.fst :=
    List.mem_map_of_mem (mem_order.mp he)
  rw [keys_renderFields] at hkey
  obtain ⟨e', he', heq⟩ := List.mem_map.mp hkey
  rw [← heq]
  exact (h.fields e' he').1

/-- Objects of equal text have the same members. -/
theorem renderFields_perm (hnumbers : NumbersUnquoted I) (ho : o.Compact) {fields fields' : Fields}
    (hfields : Canonical I (obj fields)) (hfields' : Canonical I (obj fields'))
    (h : render I o (obj fields) = render I o (obj fields')) :
    (renderFields I o fields).Perm (renderFields I o fields') := by
  have hwhole : ∀ fields : Fields,
      ∀ p ∈ (order o.sort_keys (renderFields I o fields)).map (member o), Whole p := by
    intro fields p hp
    obtain ⟨e, he, hmember⟩ := List.mem_map.mp hp
    rw [← hmember]
    exact whole_member ho e.1 (whole_renderFields hnumbers ho fields e (mem_order.mp he))
  rw [render_obj_eq ho, render_obj_eq ho, List.append_assoc, List.append_assoc] at h
  have hjoin := join_unique (hwhole fields) (hwhole fields') (.inr rfl) (List.append_cancel_left h)
  have horder := members_inj hfields.members hfields'.members hjoin
  have hperm := order_perm o.sort_keys (renderFields I o fields)
  have hperm' := order_perm o.sort_keys (renderFields I o fields')
  rw [horder] at hperm
  exact hperm.symm.trans hperm'

/-- A leaf has the text of another leaf. -/
theorem leafText_of_render (hnumbers : NumbersUnquoted I) {j j' : Json} (hleaf : j.opener = none)
    (h : render I o j = render I o j') : leafText I j' = leafText I j := by
  have hleaf' : j'.opener = none := (opener_eq hnumbers h).symm.trans hleaf
  obtain ⟨t, ht⟩ := Option.isSome_iff_exists.mp ((leafText_isSome_iff (I := I)).mpr hleaf)
  obtain ⟨t', ht'⟩ := Option.isSome_iff_exists.mp ((leafText_isSome_iff (I := I)).mpr hleaf')
  rw [render_leaf ht, render_leaf ht'] at h
  rw [ht, ht', h]

mutual

/-- Trees of equal text are the same. -/
theorem same_of_render (hnumbers : NumbersUnquoted I) (ho : o.Compact) :
    ∀ j j' : Json, Canonical I j → Canonical I j' → render I o j = render I o j' → SameTree I j j'
  | .null, _, _, _, h => leafText_of_render hnumbers rfl h
  | .bool _, _, _, _, h => leafText_of_render hnumbers rfl h
  | .int _, _, _, _, h => leafText_of_render hnumbers rfl h
  | .float _, _, _, _, h => leafText_of_render hnumbers rfl h
  | .str s, j', hj, hj', h => by
    -- the first character tells the kind of value
    have hopener := opener_eq hnumbers h
    cases j' with
    | str s' =>
      show str s' = str s
      have htext : escape o.ensure_ascii s ++ [] = escape o.ensure_ascii s' ++ [] := by
        rw [List.append_nil, List.append_nil]
        exact h
      rw [(escape_inj hj.clean hj'.clean htext).1]
    | _ => cases hopener
  | .arr xs, j', hj, hj', h => by
    have hopener := opener_eq hnumbers h
    cases j' with
    | arr ys =>
      rw [render_arr_eq ho, render_arr_eq ho, List.append_assoc, List.append_assoc] at h
      have htexts := join_unique (whole_renderList hnumbers ho xs) (whole_renderList hnumbers ho ys)
        (.inl rfl) (List.append_cancel_left h)
      exact ⟨ys, rfl, same_of_renderList hnumbers ho xs ys hj.arr hj'.arr htexts⟩
    | _ => cases hopener
  | .obj fields, j', hj, hj', h => by
    have hopener := opener_eq hnumbers h
    cases j' with
    | obj fields' =>
      have hperm := renderFields_perm hnumbers ho hj hj' h
      have hlength := hperm.length_eq
      rw [renderFields_eq_map, renderFields_eq_map, List.length_map, List.length_map] at hlength
      refine ⟨fields', rfl, hlength.symm, ?_⟩
      exact same_of_renderFields hnumbers ho fields fields' (fun e he => (hj.fields e he).2) hj'
        fun e he => hperm.mem_iff.mp he
    | _ => cases hopener

theorem same_of_renderList (hnumbers : NumbersUnquoted I) (ho : o.Compact) :
    ∀ xs ys : List Json, (∀ x ∈ xs, Canonical I x) → (∀ y ∈ ys, Canonical I y) →
      renderList I o xs = renderList I o ys → SameList I xs ys
  | [], [], _, _, _ => rfl
  | [], _ :: _, _, _, h => by cases h
  | _ :: _, [], _, _, h => by cases h
  | x :: xs, y :: ys, hxs, hys, h => by
    obtain ⟨hx, hxs⟩ := List.forall_mem_cons.mp hxs
    obtain ⟨hy, hys⟩ := List.forall_mem_cons.mp hys
    obtain ⟨hhead, htail⟩ := List.cons.inj h
    exact ⟨y, ys, rfl, same_of_render hnumbers ho x y hx hy hhead,
      same_of_renderList hnumbers ho xs ys hxs hys htail⟩

theorem same_of_renderFields (hnumbers : NumbersUnquoted I) (ho : o.Compact) :
    ∀ (fields : List (PyStr × Json)) (fields' : Fields), (∀ e ∈ fields, Canonical I e.2) →
      Canonical I (obj fields') → (∀ e ∈ renderFields I o fields, e ∈ renderFields I o fields') →
      SameFields I fields fields'
  | [], _, _, _, _ => trivial
  | (k, x) :: fields, fields', hfields, hfields', h => by
    obtain ⟨hx, hfields⟩ := List.forall_mem_cons.mp hfields
    obtain ⟨hmember, hmembers⟩ := List.forall_mem_cons.mp h
    obtain ⟨y, hy, htext⟩ := (mem_renderFields hfields'.keys).mp hmember
    have hy' := (hfields'.fields (k, y) (mem_of_get? hy)).2
    exact ⟨⟨y, hy, same_of_render hnumbers ho x y hx hy' htext.symm⟩,
      same_of_renderFields hnumbers ho fields fields' hfields hfields' hmembers⟩

end

/-! ### Texts of the same tree -/

theorem render_of_leafText {j j' : Json} {t : PyStr} (ht : leafText I j = some t)
    (h : leafText I j' = leafText I j) : render I o j = render I o j' := by
  rw [render_leaf ht, render_leaf (h.trans ht)]

/-- Objects with the same fields have the same members. -/
theorem renderFields_perm_of_same {fields fields' : Fields} (hkeys : DistinctKeys fields)
    (hlength : fields'.length = fields.length)
    (h : ∀ e ∈ renderFields I o fields, e ∈ renderFields I o fields') :
    (renderFields I o fields).Perm (renderFields I o fields') := by
  have hnodup : (renderFields I o fields).Nodup := by
    apply List.Nodup.of_map Prod.fst
    rw [keys_renderFields]
    exact hkeys
  have hle : (renderFields I o fields').length ≤ (renderFields I o fields).length := by
    rw [renderFields_eq_map, renderFields_eq_map, List.length_map, List.length_map, hlength]
  exact (List.subperm_of_subset hnodup h).perm_of_length_le hle

mutual

/-- The same tree has equal texts, when the keys are sorted. -/
theorem render_of_same (ho : o.Compact) (hsort : o.sort_keys = true) :
    ∀ j j' : Json, Canonical I j → Canonical I j' → SameTree I j j' → render I o j = render I o j'
  | .null, _, _, _, h => render_of_leafText rfl h
  | .bool _, _, _, _, h => render_of_leafText rfl h
  | .int _, _, _, _, h => render_of_leafText rfl h
  | .float _, _, _, _, h => render_of_leafText rfl h
  | .str s, j', _, _, h => by
    have hstr : j' = str s := h
    rw [hstr]
  | .arr xs, j', hj, hj', h => by
    obtain ⟨ys, harr, hsame⟩ := h
    rw [harr] at hj' ⊢
    rw [render_arr_eq ho, render_arr_eq ho,
      renderList_of_same ho hsort xs ys hj.arr hj'.arr hsame]
  | .obj fields, j', hj, hj', h => by
    obtain ⟨fields', hobj, hlength, hsame⟩ := h
    rw [hobj] at hj' ⊢
    have hmembers := renderFields_of_same ho hsort fields fields' (fun e he => (hj.fields e he).2)
      hj' hsame
    have hperm := renderFields_perm_of_same hj.keys hlength hmembers
    rw [render_obj_eq ho, render_obj_eq ho, hsort,
      order_of_perm hperm (by rw [keys_renderFields]; exact hj.keys)]

theorem renderList_of_same (ho : o.Compact) (hsort : o.sort_keys = true) :
    ∀ xs ys : List Json, (∀ x ∈ xs, Canonical I x) → (∀ y ∈ ys, Canonical I y) →
      SameList I xs ys → renderList I o xs = renderList I o ys
  | [], ys, _, _, h => by
    have hnil : ys = [] := h
    rw [hnil]
  | x :: xs, ys, hxs, hys, h => by
    obtain ⟨y, ys', hcons, hhead, htail⟩ := h
    rw [hcons] at hys ⊢
    obtain ⟨hx, hxs⟩ := List.forall_mem_cons.mp hxs
    obtain ⟨hy, hys⟩ := List.forall_mem_cons.mp hys
    show render I o x :: renderList I o xs = render I o y :: renderList I o ys'
    rw [render_of_same ho hsort x y hx hy hhead,
      renderList_of_same ho hsort xs ys' hxs hys htail]

theorem renderFields_of_same (ho : o.Compact) (hsort : o.sort_keys = true) :
    ∀ (fields : List (PyStr × Json)) (fields' : Fields), (∀ e ∈ fields, Canonical I e.2) →
      Canonical I (obj fields') → SameFields I fields fields' →
      ∀ e ∈ renderFields I o fields, e ∈ renderFields I o fields'
  | [], _, _, _, _ => List.forall_mem_nil _
  | (k, x) :: fields, fields', hfields, hfields', h => by
    obtain ⟨hx, hfields⟩ := List.forall_mem_cons.mp hfields
    obtain ⟨⟨y, hy, hsame⟩, hrest⟩ := h
    have hy' := (hfields'.fields (k, y) (mem_of_get? hy)).2
    have htext := render_of_same ho hsort x y hx hy' hsame
    exact List.forall_mem_cons.mpr ⟨(mem_renderFields hfields'.keys).mpr ⟨y, hy, htext.symm⟩,
      renderFields_of_same ho hsort fields fields' hfields hfields' hrest⟩

end

/-- With sorted keys, the text says what the tree is. -/
theorem render_eq_iff (hnumbers : NumbersUnquoted I) (ho : o.Compact) (hsort : o.sort_keys = true)
    {j j' : Json} (hj : Canonical I j) (hj' : Canonical I j') :
    render I o j = render I o j' ↔ SameTree I j j' :=
  ⟨same_of_render hnumbers ho j j' hj hj', render_of_same ho hsort j j' hj hj'⟩

end texts

end Json

import BoVpnAgent.Inventory.Resolution
import BoVpnAgent.Lib.Transition

/-! # The cache of the inventory

    `_load_records` keeps the records it has read together with the
    modification time that it saw before it read them.  Between the two the
    file may be replaced, so the time may belong to an older version than the
    records.  This file models the calls, one at a time, among replacements of
    the file, and shows that no call answers from a version that was not
    current while it ran.
-/

namespace BoVpnAgent.VehicleInventory

/-! ### The calls -/

/-- A call of one of the two entry points. -/
inductive Call where
  | resolve_query (query : PyStr)
  | resolve_vehicle (vehicle : Json.Fields)

/-- The result of the call when the file is read for it. -/
def Call.afresh (file : InventoryFile) : Call → Except WorkerError VehicleInventoryRecord
  | .resolve_query query => VehicleInventory.resolve_query file query
  | .resolve_vehicle vehicle => VehicleInventory.resolve_vehicle file vehicle

/-- What a call looks for once the records are loaded. -/
inductive Lookup where
  | query (value : PyStr)
  | by_field (field : IdentifierField) (value : PyStr)

/-- The part of `resolve_query` in front of `_load_records`. -/
def query_lookup (query : PyStr) : Except WorkerError Lookup :=
  if normalize_identifier query = [] then .error (notFound "Vehicle query is empty".py)
  else .ok (.query (normalize_identifier query))

/-- The part of a call in front of `_load_records`. -/
def Call.lookup : Call → Except WorkerError Lookup
  | .resolve_query query => query_lookup query
  | .resolve_vehicle vehicle =>
    match IdentifierField.all.findSome? fun field =>
        (text? vehicle field.name).map fun value => (field, value) with
    | some (field, value) => .ok (.by_field field (normalize_identifier value))
    | none =>
      match text? vehicle "number" with
      | some number => query_lookup number
      | none => .error (notFound "Vehicle identifier is required for inventory lookup".py)

/-- The part of a call behind `_load_records`. -/
def Lookup.answer (records : List VehicleInventoryRecord) :
    Lookup → Except WorkerError VehicleInventoryRecord
  | .query value =>
    (IdentifierField.all.findSome? fun field => unique? (matching records field value)).getD
      (.error (notFound "Vehicle IP not found in inventory".py))
  | .by_field field value =>
    (unique? (matching records field value)).getD
      (.error (notFound "Vehicle IP not found in inventory".py))

/-- With the records of a file the two parts make the whole call. -/
theorem afresh_eq {file : InventoryFile} {records : List VehicleInventoryRecord} {call : Call}
    {lookup : Lookup} (hload : load_records file = .ok records) (hlookup : call.lookup = .ok lookup) :
    call.afresh file = lookup.answer records := by
  have hquery : ∀ query lookup, query_lookup query = .ok lookup →
      VehicleInventory.resolve_query file query = lookup.answer records := by
    intro query lookup hlookup
    unfold query_lookup at hlookup
    split at hlookup
    · cases hlookup
    · rename_i hblank
      rw [← Except.ok.inj hlookup, VehicleInventory.resolve_query, if_neg hblank, hload]
      rfl
  cases call with
  | resolve_query query => exact hquery query lookup hlookup
  | resolve_vehicle vehicle =>
    rw [Call.afresh, VehicleInventory.resolve_vehicle]
    rw [Call.lookup] at hlookup
    cases hfirst : IdentifierField.all.findSome? fun field =>
        (text? vehicle field.name).map fun value => (field, value) with
    | some first =>
      simp only [hfirst] at hlookup ⊢
      rw [← Except.ok.inj hlookup, resolve_by_field, hload]
      rfl
    | none =>
      simp only [hfirst] at hlookup ⊢
      cases hnumber : text? vehicle "number" with
      | some number =>
        rw [hnumber] at hlookup
        exact hquery number lookup hlookup
      | none =>
        rw [hnumber] at hlookup
        cases hlookup

/-! ### `_load_records` among replacements of the file -/

/-- A version of the inventory file. -/
structure Version where
  mtime_ns : Int
  rows : List CsvRow

/-- `_records` and `_loaded_mtime_ns` -/
structure Cache where
  records : List VehicleInventoryRecord
  loaded_mtime_ns : Option Int

/-- Where a call stands in `_load_records`. -/
inductive Loading where
  /-- before `self.path.stat()` -/
  | stat
  /-- before the file is read, with the `st_mtime_ns` that was seen -/
  | read (mtime_ns : Int)

/-- `stat` and the comparison with the cache: the modification time, when the
    file has to be read, or the cached records. -/
def stat_file (cache : Cache) : Option Version → Except PyExc (Int ⊕ List VehicleInventoryRecord)
  | none => .error (.worker (notFound "Vehicle inventory is not configured".py))
  | some v =>
    if cache.loaded_mtime_ns = some v.mtime_ns then .ok (.inr cache.records)
    else .ok (.inl v.mtime_ns)

/-- Reading the file; `fault` is what opening, decoding or splitting it into
    rows may raise. -/
def read_file (fault : Option PyExc) (file : Option Version) :
    Except PyExc (List VehicleInventoryRecord) :=
  match fault, file with
  | some exc, _ => .error exc
  | none, none => raiseBuiltin .osError
  | none, some v => (load_records (some v.rows)).mapError .worker

/-- A call that has returned or raised: what `_load_records` gave it. -/
structure Ended where
  call : Call
  load : Except PyExc (List VehicleInventoryRecord)

/-- The result of the call. -/
def Ended.result (e : Ended) : Except PyExc VehicleInventoryRecord := do
  let lookup ← e.call.lookup.mapError .worker
  let records ← e.load
  (lookup.answer records).mapError .worker

/-- The inventory, its file and the call that is running. -/
structure State where
  /-- The current version of the file; `none` when it is missing. -/
  file : Option Version
  /-- The modification times that the file has had. -/
  mtimes : List Int
  cache : Cache
  running : Option (Call × Loading)
  ended : List Ended

/-- A step.  `stat` and the reading may fail at any time. -/
inductive Label where
  | replace (file : Option Version)
  | call (call : Call)
  | stat (fault : Bool)
  | read (fault : Option PyExc)

/-- The running call has left `_load_records`. -/
def State.finish (s : State) (call : Call) (load : Except PyExc (List VehicleInventoryRecord)) :
    State :=
  { s with running := none, ended := s.ended ++ [{ call := call, load := load }] }

/-- One step.  A replacement gives the file a new modification time; a call
    that raises in front of `_load_records` is left out. -/
def next (s : State) : Label → Option State
  | .replace file =>
    if ∃ v ∈ file, v.mtime_ns ∈ s.mtimes then none
    else some { s with file := file, mtimes := (file.map Version.mtime_ns).toList ++ s.mtimes }
  | .call call =>
    match s.running, call.lookup with
    | none, .ok _ => some { s with running := some (call, .stat) }
    | _, _ => none
  | .stat fault =>
    match s.running with
    | some (call, .stat) =>
      match stat_file s.cache (if fault then none else s.file) with
      | .error exc => some (s.finish call (.error exc))
      | .ok (.inr records) => some (s.finish call (.ok records))
      | .ok (.inl mtime_ns) => some { s with running := some (call, .read mtime_ns) }
    | _ => none
  | .read fault =>
    match s.running with
    | some (call, .read mtime_ns) =>
      match read_file fault s.file with
      | .error exc => some (s.finish call (.error exc))
      | .ok records =>
        some ({ s with cache := { records := records, loaded_mtime_ns := some mtime_ns } }.finish
          call (.ok records))
    | _ => none

/-- An inventory from its construction on. -/
def inventory : Lts.System State Label where
  init :=
    { file := none, mtimes := [], cache := { records := [], loaded_mtime_ns := none },
      running := none, ended := [] }
  next := next

/-! ### What one step does -/

theorem mapError_ok {ε ε' α : Type} {f : ε → ε'} {x : Except ε α} {a : α} :
    x.mapError f = .ok a ↔ x = .ok a := by
  cases x with
  | error e => simp [Except.mapError]
  | ok b => simp [Except.mapError]

theorem stat_file_cached {cache : Cache} {file : Option Version}
    {records : List VehicleInventoryRecord} (h : stat_file cache file = .ok (.inr records)) :
    ∃ v, file = some v ∧ cache.loaded_mtime_ns = some v.mtime_ns ∧ records = cache.records := by
  cases file with
  | none => cases h
  | some v =>
    simp only [stat_file] at h
    split at h
    · rename_i hmtime
      exact ⟨v, rfl, hmtime, (Sum.inr.inj (Except.ok.inj h)).symm⟩
    · cases h

theorem stat_file_changed {cache : Cache} {file : Option Version} {mtime_ns : Int}
    (h : stat_file cache file = .ok (.inl mtime_ns)) :
    ∃ v, file = some v ∧ mtime_ns = v.mtime_ns := by
  cases file with
  | none => cases h
  | some v =>
    simp only [stat_file] at h
    split at h
    · cases h
    · exact ⟨v, rfl, (Sum.inl.inj (Except.ok.inj h)).symm⟩

theorem read_file_ok {fault : Option PyExc} {file : Option Version}
    {records : List VehicleInventoryRecord} (h : read_file fault file = .ok records) :
    ∃ v, file = some v ∧ load_records (some v.rows) = .ok records := by
  cases fault with
  | some exc => cases h
  | none =>
    cases file with
    | none => cases h
    | some v =>
      have hparse : (load_records (some v.rows)).mapError PyExc.worker = .ok records := h
      exact ⟨v, rfl, mapError_ok.mp hparse⟩

/-- A `stat` that sees a file sees the current one. -/
theorem seen_file {fault : Bool} {file : Option Version} {v : Version}
    (h : (if fault = true then none else file) = some v) : file = some v := by
  split at h
  · cases h
  · exact h

theorem call_begins {s s' : State} {call : Call} (h : inventory.step s (.call call) s') :
    s.running = none ∧ s' = { s with running := some (call, .stat) } := by
  have hnext : next s (.call call) = some s' := h
  unfold next at hnext
  simp only at hnext
  split at hnext
  · rename_i hnone _
    exact ⟨hnone, (Option.some.inj hnext).symm⟩
  · cases hnext

/-- Every way a step can go. -/
theorem step_cases {s s' : State} {l : Label} (h : inventory.step s l s') :
    (∃ file, l = .replace file ∧ (∀ v ∈ file, v.mtime_ns ∉ s.mtimes) ∧
      s' = { s with file := file, mtimes := (file.map Version.mtime_ns).toList ++ s.mtimes }) ∨
    (∃ call, l = .call call ∧ s.running = none ∧ s' = { s with running := some (call, .stat) }) ∨
    (∃ call at_ exc, s.running = some (call, at_) ∧ s' = s.finish call (.error exc)) ∨
    (∃ call v, s.running = some (call, .stat) ∧ s.file = some v ∧
      s.cache.loaded_mtime_ns = some v.mtime_ns ∧ s' = s.finish call (.ok s.cache.records)) ∨
    (∃ call v, s.running = some (call, .stat) ∧ s.file = some v ∧
      s' = { s with running := some (call, .read v.mtime_ns) }) ∨
    (∃ call mtime_ns v records, s.running = some (call, .read mtime_ns) ∧ s.file = some v ∧
      load_records (some v.rows) = .ok records ∧
      s' = { s with cache := { records := records, loaded_mtime_ns := some mtime_ns } }.finish
        call (.ok records)) := by
  have hnext : next s l = some s' := h
  cases l with
  | replace file =>
    unfold next at hnext
    simp only at hnext
    split at hnext
    · cases hnext
    · rename_i hfresh
      refine .inl ⟨file, rfl, ?_, (Option.some.inj hnext).symm⟩
      intro v hv hmem
      exact hfresh ⟨v, hv, hmem⟩
  | call call => exact .inr (.inl ⟨call, rfl, call_begins h⟩)
  | stat fault =>
    unfold next at hnext
    simp only at hnext
    -- a fault, an unchanged time, or a changed one
    split at hnext
    · rename_i call hrunning
      split at hnext
      · exact .inr (.inr (.inl ⟨call, .stat, _, hrunning, (Option.some.inj hnext).symm⟩))
      · rename_i records hstat
        obtain ⟨v, hfile, hmtime, hrecords⟩ := stat_file_cached hstat
        refine .inr (.inr (.inr (.inl ⟨call, v, hrunning, seen_file hfile, hmtime, ?_⟩)))
        rw [← hrecords]
        exact (Option.some.inj hnext).symm
      · rename_i mtime_ns hstat
        obtain ⟨v, hfile, hmtime⟩ := stat_file_changed hstat
        refine .inr (.inr (.inr (.inr (.inl ⟨call, v, hrunning, seen_file hfile, ?_⟩))))
        rw [← hmtime]
        exact (Option.some.inj hnext).symm
    · cases hnext
  | read fault =>
    unfold next at hnext
    simp only at hnext
    split at hnext
    · rename_i call mtime_ns hrunning
      split at hnext
      · exact .inr (.inr (.inl ⟨call, .read mtime_ns, _, hrunning, (Option.some.inj hnext).symm⟩))
      · rename_i records hread
        obtain ⟨v, hfile, hload⟩ := read_file_ok hread
        exact .inr (.inr (.inr (.inr (.inr
          ⟨call, mtime_ns, v, records, hrunning, hfile, hload, (Option.some.inj hnext).symm⟩))))
    · cases hnext

/-! ### The cache fits the versions -/

/-- The cached records are the parse of any version with the cached time that
    may still be current. -/
structure Fits (s : State) : Prop where
  file : ∀ v ∈ s.file, v.mtime_ns ∈ s.mtimes
  running : ∀ call mtime_ns, s.running = some (call, .read mtime_ns) → mtime_ns ∈ s.mtimes
  seen : ∀ mtime_ns ∈ s.cache.loaded_mtime_ns, mtime_ns ∈ s.mtimes
  cached : ∀ v ∈ s.file, s.cache.loaded_mtime_ns = some v.mtime_ns →
    load_records (some v.rows) = .ok s.cache.records

theorem fits_step {s s' : State} {l : Label} (hi : Fits s) (h : inventory.step s l s') : Fits s' := by
  rcases step_cases h with ⟨file, hl, hfresh, hs'⟩ | ⟨call, hl, hnone, hs'⟩ |
    ⟨call, at_, exc, hrunning, hs'⟩ | ⟨call, v, hrunning, hfile, hmtime, hs'⟩ |
    ⟨call, v, hrunning, hfile, hs'⟩ | ⟨call, mtime_ns, v, records, hrunning, hfile, hload, hs'⟩
  · -- the new version has a time that neither the cache nor the call has seen
    rw [hs']
    constructor
    · intro v hv
      have hfile : file = some v := hv
      rw [hfile]
      exact List.mem_cons_self
    · intro call mtime_ns hrunning
      exact List.mem_append_right _ (hi.running call mtime_ns hrunning)
    · intro mtime_ns hmtime
      exact List.mem_append_right _ (hi.seen mtime_ns hmtime)
    · intro v hv hmtime
      exact absurd (hi.seen _ hmtime) (hfresh v hv)
  · rw [hs']
    refine ⟨hi.file, ?_, hi.seen, hi.cached⟩
    intro call' mtime_ns hrunning
    cases hrunning
  · rw [hs']
    refine ⟨hi.file, ?_, hi.seen, hi.cached⟩
    intro call' mtime_ns hrunning'
    cases hrunning'
  · rw [hs']
    refine ⟨hi.file, ?_, hi.seen, hi.cached⟩
    intro call' mtime_ns hrunning'
    cases hrunning'
  · rw [hs']
    refine ⟨hi.file, ?_, hi.seen, hi.cached⟩
    intro call' mtime_ns hrunning'
    cases hrunning'
    exact hi.file v hfile
  · -- the time is that of an older version, unless the file is still the same
    rw [hs']
    refine ⟨hi.file, ?_, ?_, ?_⟩
    · intro call' mtime_ns' hrunning'
      cases hrunning'
    · intro mtime_ns' hmtime
      rw [← Option.some.inj hmtime]
      exact hi.running call mtime_ns hrunning
    · intro v' hv' _
      have hsame : v' = v := Option.some.inj (hv'.symm.trans hfile)
      rw [hsame]
      exact hload

theorem reachable_fits {s : State} (h : Lts.Reachable inventory s) : Fits s := by
  apply h.invariant
  · refine ⟨?_, ?_, ?_, ?_⟩
    · intro v hv
      cases hv
    · intro call mtime_ns hrunning
      cases hrunning
    · intro mtime_ns hmtime
      cases hmtime
    · intro v hv
      cases hv
  · intro s l s' _ hi hstep
    exact fits_step hi hstep

/-! ### A call from its beginning to its end -/

/-- A step of a call either goes on, with the cache as it was, or ends the
    call: with the records of the current version, or with the cache as it
    was. -/
theorem step_ends {s s' : State} {l : Label} (hi : Fits s) (h : inventory.step s l s') :
    (s'.ended = s.ended ∧ s'.cache = s.cache ∧
      (∀ call at_, s.running = some (call, at_) → ∃ at_', s'.running = some (call, at_'))) ∨
    ∃ call at_ load, s.running = some (call, at_) ∧ s'.ended = s.ended ++ [⟨call, load⟩] ∧
      (∀ exc, load = .error exc → s'.cache = s.cache) ∧
      ∀ records, load = .ok records →
        ∃ v, s.file = some v ∧ load_records (some v.rows) = .ok records := by
  -- only the last step of a call ends it
  rcases step_cases h with ⟨file, hl, hfresh, hs'⟩ | ⟨call, hl, hnone, hs'⟩ |
    ⟨call, at_, exc, hrunning, hs'⟩ | ⟨call, v, hrunning, hfile, hmtime, hs'⟩ |
    ⟨call, v, hrunning, hfile, hs'⟩ | ⟨call, mtime_ns, v, records, hrunning, hfile, hload, hs'⟩
  · rw [hs']
    exact .inl ⟨rfl, rfl, fun call at_ hrunning => ⟨at_, hrunning⟩⟩
  · rw [hs']
    refine .inl ⟨rfl, rfl, ?_⟩
    intro call' at_ hrunning
    rw [hnone] at hrunning
    cases hrunning
  · rw [hs']
    refine .inr ⟨call, at_, .error exc, hrunning, rfl, fun _ _ => rfl, ?_⟩
    intro records hok
    cases hok
  · rw [hs']
    refine .inr ⟨call, .stat, .ok s.cache.records, hrunning, rfl, fun _ _ => rfl, ?_⟩
    intro records hok
    rw [← Except.ok.inj hok]
    exact ⟨v, hfile, hi.cached v hfile hmtime⟩
  · rw [hs']
    refine .inl ⟨rfl, rfl, ?_⟩
    intro call' at_ hrunning'
    rw [hrunning] at hrunning'
    obtain ⟨hcall, _⟩ := Prod.mk.inj (Option.some.inj hrunning')
    exact ⟨.read v.mtime_ns, by rw [hcall]⟩
  · rw [hs']
    refine .inr ⟨call, .read mtime_ns, .ok records, hrunning, rfl, ?_, ?_⟩
    · intro exc herror
      cases herror
    · intro records' hok
      rw [← Except.ok.inj hok]
      exact ⟨v, hfile, hload⟩

/-- While a call runs it is the running call, and the cache stays. -/
theorem call_keeps {s s₁ t : State} {call : Call} (hr : Lts.Reachable inventory s)
    (hcall : inventory.step s (.call call) s₁) (hrun : Lts.Star inventory s₁ t) :
    s.ended.length ≤ t.ended.length ∧
      (t.ended.length = s.ended.length → t.cache = s.cache ∧ ∃ at_, t.running = some (call, at_)) := by
  have hr₁ := hr.step hcall
  apply Lts.Star.stable _ hr₁ hrun
  · -- at the beginning
    obtain ⟨_, hs₁⟩ := call_begins hcall
    rw [hs₁]
    exact ⟨Nat.le_refl _, fun _ => ⟨rfl, .stat, rfl⟩⟩
  · intro t l t' hr ⟨hle, hkeeps⟩ hstep
    rcases step_ends (reachable_fits hr) hstep with ⟨hended, hcache, hrunning⟩ |
      ⟨call', at_, load, _, hended, _, _⟩
    · rw [hended, hcache]
      refine ⟨hle, ?_⟩
      intro hlength
      obtain ⟨hkept, at_, hat⟩ := hkeeps hlength
      exact ⟨hkept, hrunning call at_ hat⟩
    · rw [hended, List.length_append]
      refine ⟨by omega, ?_⟩
      intro hlength
      rw [List.length_singleton] at hlength
      omega

/-- A call that has begun among any replacements and that ends now returns only
    what a reading of the current version would give; when its load raises, the
    cache is as it was when the call began. -/
theorem call_never_stale {s s₁ t t' : State} {call : Call} {l : Label} {e : Ended}
    (hr : Lts.Reachable inventory s) (hcall : inventory.step s (.call call) s₁)
    (hrun : Lts.Star inventory s₁ t) (hgoing : t.ended = s.ended) (hstep : inventory.step t l t')
    (hends : t'.ended = s.ended ++ [e]) :
    e.call = call ∧
    (∀ r, e.result = .ok r → ∃ v, t.file = some v ∧ call.afresh (some v.rows) = .ok r) ∧
    ∀ exc, e.load = .error exc → t'.cache = s.cache := by
  obtain ⟨hcache, at_, hrunning⟩ := (call_keeps hr hcall hrun).2 (congrArg List.length hgoing)
  have hfits := reachable_fits ((hr.step hcall).star hrun)
  rcases step_ends hfits hstep with ⟨hended, _, _⟩ |
    ⟨call', at_', load, hrunning', hended, hraised, hloaded⟩
  · -- a step that ends no call
    rw [hended, hgoing] at hends
    have hlength := congrArg List.length hends
    simp at hlength
  · have he : e = ⟨call', load⟩ := by
      rw [hended, hgoing] at hends
      exact (List.singleton_inj.mp (List.append_cancel_left hends)).symm
    obtain ⟨hsame, _⟩ := Prod.mk.inj (Option.some.inj (hrunning.symm.trans hrunning'))
    rw [he, ← hsame, ← hcache]
    refine ⟨rfl, ?_, hraised⟩
    intro r hr
    obtain ⟨lookup, hlookup, hr⟩ := bind_ok.mp hr
    obtain ⟨records, hload, hr⟩ := bind_ok.mp hr
    obtain ⟨v, hfile, hparse⟩ := hloaded records hload
    refine ⟨v, hfile, ?_⟩
    rw [afresh_eq hparse (mapError_ok.mp hlookup)]
    exact mapError_ok.mp hr

/-! ### A replacement between `stat` and the reading -/

def firstVersion : Version := { mtime_ns := 1, rows := [csvRow [("plate", "A1"), ("ip", "10.0.0.1")]] }

def secondVersion : Version := { mtime_ns := 2, rows := [csvRow [("plate", "A1"), ("ip", "10.0.0.2")]] }

/-- The call sees the time of the first version and reads the second. -/
def overtaken : List Label :=
  [.replace (some firstVersion), .call (.resolve_query "A1".py), .stat false,
    .replace (some secondVersion)]

/-- It answers from the second version, which is current when it reads. -/
theorem call_never_stale_sample :
    let e : Ended := ⟨.resolve_query "A1".py, .ok (secondVersion.rows.map rowRecord)⟩
    e.call = .resolve_query "A1".py ∧
    (∀ r, e.result = .ok r → ∃ v, (inventory.play overtaken).file = some v ∧
      (Call.resolve_query "A1".py).afresh (some v.rows) = .ok r) ∧
    ∀ exc, e.load = .error exc → (inventory.play (overtaken ++ [.read none])).cache =
      (inventory.play (overtaken.take 1)).cache := by
  intro e
  have hcall : inventory.step (inventory.play (overtaken.take 1)) (.call (.resolve_query "A1".py))
      (inventory.play (overtaken.take 1 ++ [.call (.resolve_query "A1".py)])) := Lts.step_play rfl
  have hrun : Lts.Star inventory (inventory.play (overtaken.take 2)) (inventory.play overtaken) :=
    Lts.star_play (overtaken.take 2) (overtaken.drop 2)
  exact call_never_stale (e := e) (Lts.reachable_play _) hcall hrun rfl (Lts.step_play rfl) rfl

end BoVpnAgent.VehicleInventory

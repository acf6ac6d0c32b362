import BoVpnAgent.Doctor.PreflightCache
import BoVpnAgent.Lib.JsonPrintable
import BoVpnAgent.Lib.JsonRead
import BoVpnAgent.Lib.Threads
import Mathlib.Tactic.Linarith
import Mathlib.Data.Rat.Defs

/-! # Callers of `cached_preflight`

    Any number of processes call `cached_preflight` at the same time.  They
    meet at the lock file and at the cache file, and each inspection is a
    dialogue with its surroundings, one exchange at a time.

    This file shows that the lock keeps the inspections apart, that a report
    which has been written keeps further inspections away for the time of the
    cache, and that a report from the cache is always the last one.
-/

namespace BoVpnAgent.CachedPreflight

open VpnDoctor
open ContainerNamespaceExecutor (universalNewlines_eq)

/-! ### The callers -/

/-- The cache file. -/
structure File where
  content : Bytes
  mtime : ℚ

/-- What the callers share. -/
structure Shared where
  /-- The clock of `time.time()` and of the modification times. -/
  time : ℚ
  /-- The clock of `time.monotonic()`. -/
  monotonic : ℚ
  cache : Option File
  /-- The caller that has the lock file locked. -/
  lock : Option ℕ
  /-- The reports of the inspections that have returned, the last one first.
      No caller looks at them. -/
  inspected : List Report

/-- Where a caller of `cached_preflight` is. -/
inductive Caller where
  /-- before the lock file is opened -/
  | start
  /-- before the next attempt to lock it -/
  | locking (deadline : ℚ)
  /-- another caller has locked it -/
  | blocked (deadline : ℚ)
  /-- before `cache_path.exists()` -/
  | looking
  /-- before `time.time()` -/
  | timing
  /-- before `cache_path.stat()`, with what `time.time()` was -/
  | dating (time : ℚ)
  /-- before `cache_path.read_text()` -/
  | reading
  /-- in `doctor.preflight()`, with what is left of it -/
  | inspecting (rest : Talk Report)
  /-- before the temporary file is written and closed -/
  | writing (report : Report)
  /-- before `temporary.replace(cache_path)` -/
  | replacing (report : Report) (temporary : File)
  /-- before the lock file is closed -/
  | leaving (result : Except Exc (Report × Bool))
  | ended (result : Except Exc (Report × Bool))

/-- An exception that `cached_preflight` does not catch. -/
def raised : ReadError → Exc
  | .keyError key => .other (.other key)
  | .builtin kind => .other (.builtin kind [])

section move

-- `clean` is `VpnDoctor.clean`; nothing here depends on what it removes
variable (I : Interp) (clean : PyStr → PyStr) (ttl : ℚ)

/-- One step of a caller.  `answer` is what its surroundings answer, should
    the inspection ask something. -/
def move (i : ℕ) (answer : (q : Question) → Answer q) (caller : Caller) (s : Shared) :
    Option (Caller × Shared) :=
  match caller with
  | .start => some (.locking (s.monotonic + 15), s)
  | .locking deadline =>
    if s.lock = none then some (.looking, { s with lock := some i })
    else some (.blocked deadline, s)
  | .blocked deadline =>
    if deadline ≤ s.monotonic then
      some (.ended (.error (.doctorError "preflight cache lock timed out".py)), s)
    else some (.locking deadline, s)
  | .looking =>
    if s.cache.isSome then some (.timing, s) else some (.inspecting (preflight clean), s)
  | .timing => some (.dating s.time, s)
  | .dating time =>
    match s.cache with
    | none => some (.inspecting (preflight clean), s)
    | some file =>
      if time - file.mtime ≤ ttl then some (.reading, s)
      else some (.inspecting (preflight clean), s)
  | .reading =>
    match s.cache with
    | none => some (.inspecting (preflight clean), s)
    | some file =>
      match reuse I file.content with
      | .report report => some (.leaving (.ok (report, false)), s)
      | .inspect => some (.inspecting (preflight clean), s)
      | .raised e => some (.leaving (.error (raised e)), s)
  | .inspecting (.ask q next) => some (.inspecting (next (answer q)), s)
  | .inspecting (.done (.error e)) => some (.leaving (.error e), s)
  | .inspecting (.done (.ok report)) =>
    some (.writing report, { s with inspected := report :: s.inspected })
  | .writing report =>
    match Json.dumpsUtf8 I dumpDefaults report.as_dict with
    | .ok content => some (.replacing report { content := content, mtime := s.time }, s)
    | .error kind => some (.leaving (.error (.other (.builtin kind []))), s)
  | .replacing report temporary =>
    -- the temporary file has got its new name, and is not there to be unlinked
    some (.leaving (.ok (report, true)), { s with cache := some temporary })
  | .leaving result => some (.ended result, { s with lock := none })
  | .ended _ => none

/-- The clocks go on, each by its own measure. -/
def advance (passed : ℚ × ℚ) (s : Shared) : Option Shared :=
  if 0 ≤ passed.1 ∧ 0 ≤ passed.2 then
    some { s with time := s.time + passed.1, monotonic := s.monotonic + passed.2 }
  else none

/-- The callers, from a time when there is no cache file. -/
def callers : Lts.Threads ℕ Shared Caller ((q : Question) → Answer q) (ℚ × ℚ) where
  shared := { time := 0, monotonic := 0, cache := none, lock := none, inspected := [] }
  entry := fun _ => .start
  move := move I clean ttl
  disturb := advance

end move

abbrev State : Type := Lts.Threads.State ℕ Shared Caller

/-! ### What a move does -/

/-- The caller has the lock. -/
def Caller.inside : Caller → Bool
  | start | locking _ | blocked _ | ended _ => false
  | _ => true

/-- The caller is in `doctor.preflight()`. -/
def Caller.inspects : Caller → Bool
  | inspecting _ => true
  | _ => false

/-- The caller has written its report and not yet replaced the cache file. -/
def Caller.replaces : Caller → Bool
  | replacing _ _ => true
  | _ => false

/-- The report that the caller is about to return, if it comes from the
    cache. -/
def Caller.cached? : Caller → Option Report
  | leaving (.ok (report, false)) => some report
  | _ => none

/-- The caller reads the cache or inspects. -/
def Caller.raises : Caller → Bool
  | reading | inspecting _ => true
  | _ => false

section moves

variable (I : Interp) (clean : PyStr → PyStr) (ttl : ℚ)

/-- Nothing in the cache can be used. -/
def Due : Caller → Shared → Prop
  | .looking, s => s.cache = none
  | .dating time, s => ∀ file ∈ s.cache, ttl < time - file.mtime
  | .reading, s => ∀ file ∈ s.cache, reuse I file.content = .inspect
  | _, _ => False

/-- The moves of a caller by what they do. -/
inductive Moves (i : ℕ) : Caller → Shared → Caller → Shared → Prop
  | wait {t t' : Caller} {s : Shared} (h : t.inside = false) (h' : t'.inside = false) :
    Moves i t s t' s
  | lock {deadline : ℚ} {s : Shared} (h : s.lock = none) :
    Moves i (.locking deadline) s .looking { s with lock := some i }
  | look {s : Shared} : Moves i .looking s .timing s
  | clock {s : Shared} : Moves i .timing s (.dating s.time) s
  | young {time : ℚ} {s : Shared} : Moves i (.dating time) s .reading s
  | due {t : Caller} {s : Shared} (h : Due I ttl t s) :
    Moves i t s (.inspecting (preflight clean)) s
  | reuse {s : Shared} {file : File} {report : Report} (hfile : s.cache = some file)
    (h : reuse I file.content = .report report) :
    Moves i .reading s (.leaving (.ok (report, false))) s
  | ask {q : Question} {next : Answer q → Talk Report} {answer : Answer q} {s : Shared} :
    Moves i (.inspecting (.ask q next)) s (.inspecting (next answer)) s
  | raise {t : Caller} {s : Shared} {exc : Exc} (h : t.raises = true) :
    Moves i t s (.leaving (.error exc)) s
  | inspected {s : Shared} {report : Report} :
    Moves i (.inspecting (.done (.ok report))) s (.writing report)
      { s with inspected := report :: s.inspected }
  | write {s : Shared} {report : Report} {content : Bytes}
    (h : Json.dumpsUtf8 I dumpDefaults report.as_dict = .ok content) :
    Moves i (.writing report) s
      (.replacing report { content := content, mtime := s.time }) s
  | unwritable {s : Shared} {report : Report} {exc : Exc}
    (h : ∀ content, Json.dumpsUtf8 I dumpDefaults report.as_dict ≠ .ok content) :
    Moves i (.writing report) s (.leaving (.error exc)) s
  | replace {s : Shared} {report : Report} {temporary : File} :
    Moves i (.replacing report temporary) s (.leaving (.ok (report, true)))
      { s with cache := some temporary }
  | leave {s : Shared} {result : Except Exc (Report × Bool)} :
    Moves i (.leaving result) s (.ended result) { s with lock := none }

variable {I clean ttl}

theorem moves_of_move {i : ℕ} {answer : (q : Question) → Answer q} {t t' : Caller} {s s' : Shared}
    (h : move I clean ttl i answer t s = some (t', s')) : Moves I clean ttl i t s t' s' := by
  -- one rule for each point of the caller, and one for each branch of the code there
  cases t with
  | start =>
    cases h
    exact .wait rfl rfl
  | locking deadline =>
    rw [move] at h
    split at h
    · next hlock =>
      cases h
      exact .lock hlock
    · cases h
      exact .wait rfl rfl
  | blocked deadline =>
    rw [move] at h
    split at h
    · cases h
      exact .wait rfl rfl
    · cases h
      exact .wait rfl rfl
  | looking =>
    rw [move] at h
    split at h
    · cases h
      exact .look
    · next hcache =>
      cases h
      exact .due (Option.not_isSome_iff_eq_none.mp hcache)
  | timing =>
    cases h
    exact .clock
  | dating time =>
    rw [move] at h
    split at h
    · next hcache =>
      cases h
      exact .due fun file hfile => by simp [hcache] at hfile
    · next file hcache =>
      split at h
      · cases h
        exact .young
      · next hage =>
        cases h
        refine .due fun file' hfile => ?_
        cases hcache.symm.trans hfile
        exact lt_of_not_ge hage
  | reading =>
    rw [move] at h
    split at h
    · next hcache =>
      cases h
      exact .due fun file hfile => by simp [hcache] at hfile
    · next file hcache =>
      split at h
      · next report hreuse =>
        cases h
        exact .reuse hcache hreuse
      · next hreuse =>
        cases h
        refine .due fun file' hfile => ?_
        cases hcache.symm.trans hfile
        exact hreuse
      · cases h
        exact .raise rfl
  | inspecting rest =>
    match rest with
    | .ask q next =>
      cases h
      exact .ask
    | .done (.error e) =>
      cases h
      exact .raise rfl
    | .done (.ok report) =>
      cases h
      exact .inspected
  | writing report =>
    rw [move] at h
    split at h
    · next content hcontent =>
      cases h
      exact .write hcontent
    · next kind hkind =>
      cases h
      refine .unwritable fun content hcontent => ?_
      cases hkind.symm.trans hcontent
  | replacing report temporary =>
    cases h
    exact .replace
  | leaving result =>
    cases h
    exact .leave
  | ended result => cases h

end moves

/-! ### The reports of a preflight -/

/-- The texts of the report can be encoded. -/
structure Encodable (report : Report) : Prop where
  checks : ∀ check ∈ report.checks, check.name.Scalar ∧ check.detail.Scalar
  actions : ∀ action ∈ report.actions, action.Scalar

theorem Encodable.add {report : Report} {name detail : PyStr} (h : Encodable report) (ok : Bool)
    (hname : name.Scalar) (hdetail : detail.Scalar) : Encodable (report.add name ok detail) where
  checks := List.forall_mem_append.mpr
    ⟨h.checks, List.forall_mem_singleton.mpr ⟨hname, hdetail⟩⟩
  actions := h.actions

section preflight

open Dialogue (Returns returns_any)

variable (clean : PyStr → PyStr)

theorem vpn_health_returns : Returns (fun health => health.2.Scalar) (vpn_health clean) :=
  (returns_any _).bind fun _ _ => (returns_any _).bind fun _ _ =>
    Returns.pure (by simp only; split_ifs <;> exact PyStr.scalar_py _)

theorem host_isolated_returns : Returns (fun health => health.2.Scalar) (host_isolated clean) :=
  (returns_any _).bind fun _ _ => (returns_any _).bind fun _ _ =>
    Returns.pure (by simp only; split_ifs <;> exact PyStr.scalar_py _)

/-- Every text of the report of a preflight is one of its own. -/
theorem preflight_returns : Returns Encodable (preflight clean) := by
  have htext : ∀ (c : Prop) [Decidable c] (s t : String), (if c then s.py else t.py).Scalar := by
    intro c _ s t
    split_ifs <;> exact PyStr.scalar_py _
  refine (returns_any _).bind fun vpn_running _ => (returns_any _).bind fun runner_running _ =>
    (returns_any _).bind fun vpn_ns _ => (returns_any _).bind fun runner_ns _ => ?_
  refine Returns.bind (P := fun key => key.2.Scalar) ?_ fun key hkey =>
    Returns.bind (P := fun vpn => vpn.2.Scalar) ?_ fun vpn hvpn =>
      (host_isolated_returns clean).bind fun isolated hisolated => Returns.pure ?_
  · exact Returns.ite ((returns_any _).bind fun _ _ => Returns.pure (htext _ _ _))
      (Returns.pure (PyStr.scalar_py _))
  · exact Returns.ite (vpn_health_returns clean) (Returns.pure (PyStr.scalar_py _))
  · have hempty : Encodable {} := ⟨List.forall_mem_nil _, List.forall_mem_nil _⟩
    exact (((((hempty.add _ (PyStr.scalar_py _) (htext _ _ _)).add _ (PyStr.scalar_py _)
      (htext _ _ _)).add _ (PyStr.scalar_py _) (htext _ _ _)).add _ (PyStr.scalar_py _) hkey).add _
      (PyStr.scalar_py _) hvpn).add _ (PyStr.scalar_py _) hisolated

end preflight

/-! ### What is written is reused -/

section written

variable {I : Interp} {report : Report}

theorem nodes_as_dict {F : PyFloat → Prop} (report : Report) :
    report.as_dict.Nodes F Json.DistinctKeys := by
  have hkeys : ["ok".py, "checks".py, "actions".py].Nodup := by decide
  have hkeys' : ["name".py, "ok".py, "detail".py].Nodup := by decide
  refine ⟨hkeys, trivial, ?_, ?_, trivial⟩
  · refine Json.nodesList_iff.mpr (List.forall_mem_map.mpr fun _ _ => ?_)
    exact ⟨hkeys', trivial, trivial, trivial, trivial⟩
  · exact Json.nodesList_iff.mpr (List.forall_mem_map.mpr fun _ _ => trivial)

theorem clean_as_dict (h : Encodable report) : Json.Clean I report.as_dict := by
  have hkey : ∀ s : String, s.py.Scalar := PyStr.scalar_py
  refine ⟨hkey _, trivial, hkey _, ?_, hkey _, ?_, trivial⟩
  · refine Json.allList_iff.mpr (List.forall_mem_map.mpr fun check hcheck => ?_)
    obtain ⟨hname, hdetail⟩ := h.checks check hcheck
    exact ⟨hkey _, hname, hkey _, trivial, hkey _, hdetail, trivial⟩
  · exact Json.allList_iff.mpr (List.forall_mem_map.mpr h.actions)

theorem depth_as_dict (report : Report) : report.as_dict.depth ≤ 3 := by
  have hchecks : Json.depthList (report.checks.map Check.as_item) ≤ 1 :=
    Json.depthList_le.mpr (List.forall_mem_map.mpr fun _ _ => le_refl 1)
  have hactions : Json.depthList (report.actions.map .str) ≤ 0 :=
    Json.depthList_le.mpr (List.forall_mem_map.mpr fun _ _ => le_refl 0)
  simp only [Report.as_dict, Json.depth, Json.depthFields]
  omega

/-- The text of a report is ASCII. -/
theorem printable_as_dict (report : Report) :
    PyStr.Printable true (Json.render I dumpDefaults report.as_dict) :=
  Json.printable_render (by decide) (by decide) _ (nodes_as_dict report)

/-- A report can be written. -/
theorem dumps_as_dict (h : Encodable report) :
    ∃ content, Json.dumpsUtf8 I dumpDefaults report.as_dict = .ok content ∧
      Utf8.decode content = some (Json.render I dumpDefaults report.as_dict) := by
  have hdepth : ¬I.dumps_depth < report.as_dict.depth :=
    not_lt.mpr ((depth_as_dict report).trans (le_trans (by decide) I.dumps_min))
  have hints : report.as_dict.intsWithin I.int_max_str_digits = true :=
    ((Json.all_iff_render (I := I) (o := ⟨false, false, ",", ":"⟩) rfl _).mp (clean_as_dict h)).1
  obtain ⟨content, hcontent⟩ :=
    Option.isSome_iff_exists.mp ((Utf8.isSome_encode _).mpr (printable_as_dict (I := I) report).scalar)
  refine ⟨content, ?_, Utf8.decode_encode hcontent⟩
  rw [Json.dumpsUtf8, Json.dumps, if_neg hdepth, if_pos hints]
  simp only [bind, Except.bind, hcontent]

/-- The report that a caller writes is the one that another caller returns. -/
theorem reuse_written (h : Encodable report) {content : Bytes}
    (hcontent : Json.dumpsUtf8 I dumpDefaults report.as_dict = .ok content) :
    reuse I content = .report report := by
  have hplain : dumpDefaults.Plain :=
    { item := ⟨[0x20], rfl, rfl⟩, key := ⟨[0x20], rfl, rfl⟩, order := rfl }
  have hdepth : report.as_dict.depth ≤ I.loads_depth :=
    (depth_as_dict report).trans (le_trans (by decide) I.loads_min)
  have hloads := Json.loads_render hplain ⟨clean_as_dict h, nodes_as_dict report⟩ hdepth
  have hcr : 0x0D ∉ Json.render I dumpDefaults report.as_dict :=
    fun hmem => absurd (printable_as_dict report _ hmem).1 (by decide)
  obtain ⟨content', hcontent', hdecode⟩ := dumps_as_dict (I := I) h
  cases hcontent.symm.trans hcontent'
  have hreads : Reads I content report.as_dict :=
    ⟨_, hdecode, by rw [universalNewlines_eq hcr, hloads]⟩
  exact reuse_eq_report.mpr ⟨report.as_dict, hreads, report.dict_as_dict.isReport⟩

end written

/-! ### The lock -/

section outline

variable (I : Interp) (clean : PyStr → PyStr) (ttl : ℚ)

/-- What is in the cache is the last report. -/
def Current (s : Shared) : Prop :=
  ∀ file ∈ s.cache, ∃ report, s.inspected.head? = some report ∧
    reuse I file.content = .report report

/-- What a caller knows that has the lock. -/
def Knows : Caller → Shared → Prop
  | .dating time, s => Current I s ∧ time ≤ s.time
  | .inspecting rest, s => Current I s ∧ rest.Returns Encodable
  | .writing report, s => s.inspected.head? = some report ∧ Encodable report
  | .replacing report temporary, s =>
    s.inspected.head? = some report ∧ reuse I temporary.content = .report report
  | .leaving result, s =>
    Current I s ∧ ∀ report fresh, result = .ok (report, fresh) → s.inspected.head? = some report
  | _, s => Current I s

/-- The assertion at each place of `cached_preflight`. -/
def At (i : ℕ) (t : Caller) (s : Shared) : Prop :=
  t.inside = true → s.lock = some i ∧ Knows I t s

variable {I clean ttl} {i : ℕ} {t t' : Caller} {s s' : Shared}

/-- The caller reads the cache or inspects, and stores nothing. -/
def Caller.settled : Caller → Bool
  | looking | timing | dating _ | reading | inspecting _ => true
  | _ => false

theorem Due.settled (h : Due I ttl t s) : t.settled = true := by
  cases t with
  | looking => rfl
  | dating time => rfl
  | reading => rfl
  | _ => cases h

theorem settled_of_raises (h : t.raises = true) : t.settled = true := by
  cases t with
  | reading => rfl
  | inspecting rest => rfl
  | _ => cases h

theorem inside_of_settled (h : t.settled = true) : t.inside = true := by
  cases t <;> first | rfl | cases h

theorem At.settled (hat : At I i t s) (h : t.settled = true) : s.lock = some i ∧ Current I s := by
  cases t with
  | looking => exact hat rfl
  | timing => exact hat rfl
  | dating time => exact (hat rfl).imp_right And.left
  | reading => exact hat rfl
  | inspecting rest => exact (hat rfl).imp_right And.left
  | _ => cases h

/-- The caller that moves finds its next assertion true. -/
theorem at_move (hfree : s.lock = none → Current I s) (hat : At I i t s)
    (h : Moves I clean ttl i t s t' s') : (s'.lock = none → Current I s') ∧ At I i t' s' := by
  -- only the caller that holds the lock can change the file, so the others keep what they know
  cases h with
  | wait h h' => exact ⟨hfree, fun ht' => by rw [h'] at ht'; cases ht'⟩
  | lock h =>
    have hcurrent := hfree h
    exact ⟨fun hlock => (nomatch hlock), fun _ => ⟨rfl, hcurrent⟩⟩
  | look => exact ⟨hfree, hat⟩
  | clock =>
    obtain ⟨hlock, hcurrent⟩ := hat rfl
    exact ⟨hfree, fun _ => ⟨hlock, hcurrent, le_refl s.time⟩⟩
  | young =>
    obtain ⟨hlock, hcurrent, -⟩ := hat rfl
    exact ⟨hfree, fun _ => ⟨hlock, hcurrent⟩⟩
  | due h =>
    obtain ⟨hlock, hcurrent⟩ := hat.settled h.settled
    exact ⟨hfree, fun _ => ⟨hlock, hcurrent, preflight_returns clean⟩⟩
  | reuse hfile h =>
    obtain ⟨hlock, hcurrent⟩ := hat rfl
    refine ⟨hfree, fun _ => ⟨hlock, hcurrent, ?_⟩⟩
    intro report fresh hresult
    obtain ⟨report', hlast, hreuse⟩ := hcurrent _ hfile
    cases h.symm.trans hreuse
    cases hresult
    exact hlast
  | ask =>
    obtain ⟨hlock, hcurrent, hreturns⟩ := hat rfl
    exact ⟨hfree, fun _ => ⟨hlock, hcurrent, hreturns _⟩⟩
  | raise h =>
    obtain ⟨hlock, hcurrent⟩ := hat.settled (settled_of_raises h)
    refine ⟨hfree, fun _ => ⟨hlock, hcurrent, ?_⟩⟩
    intro report fresh hresult
    cases hresult
  | inspected =>
    obtain ⟨hlock, -, hreturns⟩ := hat rfl
    refine ⟨fun hnone => ?_, fun _ => ⟨hlock, rfl, hreturns _ rfl⟩⟩
    cases hlock.symm.trans hnone
  | write h =>
    obtain ⟨hlock, hlast, hencodable⟩ := hat rfl
    exact ⟨hfree, fun _ => ⟨hlock, hlast, reuse_written hencodable h⟩⟩
  | unwritable h =>
    obtain ⟨-, -, hencodable⟩ := hat rfl
    obtain ⟨content, hcontent, -⟩ := dumps_as_dict (I := I) hencodable
    exact absurd hcontent (h content)
  -- from here on the file shows the report of this caller
  | replace =>
    obtain ⟨hlock, hlast, hreuse⟩ := hat rfl
    refine ⟨fun hnone => ?_, fun _ => ⟨hlock, ?_, ?_⟩⟩
    · cases hlock.symm.trans hnone
    · intro file hfile
      cases hfile
      exact ⟨_, hlast, hreuse⟩
    · intro report fresh hresult
      cases hresult
      exact hlast
  | leave =>
    obtain ⟨-, hcurrent, -⟩ := hat rfl
    exact ⟨fun _ => hcurrent, fun h => nomatch h⟩

/-- A caller that has the lock is not disturbed by the others. -/
theorem at_others {j : ℕ} {u : Caller} (hne : j ≠ i) (hi : At I i t s) (hj : At I j u s)
    (h : Moves I clean ttl i t s t' s') : At I j u s' := by
  intro hu
  obtain ⟨hlock, hknows⟩ := hj hu
  -- the one that moves is outside, and finds the lock taken
  have houtside : t.inside ≠ true := by
    intro ht
    exact hne (Option.some.inj (hlock.symm.trans (hi ht).1))
  cases h with
  | wait => exact ⟨hlock, hknows⟩
  | lock hnone => cases hlock.symm.trans hnone
  | due h => exact absurd (inside_of_settled h.settled) houtside
  | raise h => exact absurd (inside_of_settled (settled_of_raises h)) houtside
  | _ => exact absurd rfl houtside

/-- What a caller knows stays true as time passes. -/
theorem Knows.advance {passed : ℚ × ℚ} (h : Knows I t s) (hs : advance passed s = some s') :
    Knows I t s' := by
  unfold CachedPreflight.advance at hs
  split at hs
  · next hpassed =>
    cases hs
    cases t with
    | dating time =>
      have hle : s.time ≤ s.time + passed.1 := le_add_of_nonneg_right hpassed.1
      exact ⟨h.1, h.2.trans hle⟩
    | _ => exact h
  · cases hs

theorem advance_eq {passed : ℚ × ℚ} (h : advance passed s = some s') :
    s'.lock = s.lock ∧ s'.cache = s.cache ∧ s'.inspected = s.inspected ∧ s.time ≤ s'.time := by
  unfold advance at h
  split at h
  · next hpassed =>
    cases h
    exact ⟨rfl, rfl, rfl, le_add_of_nonneg_right hpassed.1⟩
  · cases h

/-- Time does not pass in a move. -/
theorem moves_time (h : Moves I clean ttl i t s t' s') : s'.time = s.time := by
  cases h <;> rfl

/-- Only a replacement changes the cache. -/
theorem moves_cache (h : Moves I clean ttl i t s t' s') :
    s'.cache = s.cache ∨
      ∃ report temporary, t = .replacing report temporary ∧ s'.cache = some temporary := by
  cases h with
  | replace => exact .inr ⟨_, _, rfl, rfl⟩
  | _ => exact .inl rfl

/-- A report that is about to be replaced has just been written. -/
theorem moves_to_replacing {report : Report} {temporary : File}
    (h : Moves I clean ttl i t s (.replacing report temporary) s') : temporary.mtime = s.time := by
  cases h with
  | wait _ h' => cases h'
  | write => rfl

theorem moves_from_replacing {report : Report} {temporary : File}
    (h : Moves I clean ttl i (.replacing report temporary) s t' s') :
    s'.cache = some temporary := by
  cases h with
  | wait h => cases h
  | due h => cases h
  | raise h => cases h
  | replace => rfl

/-- An inspection starts where nothing can be used. -/
theorem moves_to_inspecting (h : Moves I clean ttl i t s t' s') (ht : t.inspects = false)
    (ht' : t'.inspects = true) : Due I ttl t s := by
  cases h with
  | due h => exact h
  | ask => cases ht
  | wait _ h' =>
    cases t' with
    | inspecting rest => cases h'
    | _ => cases ht'
  | _ => cases ht'

variable (I clean ttl)

def outline : (callers I clean ttl).Outline where
  Shared := fun s => s.lock = none → Current I s
  At := At I
  shared := fun _ _ hfile => nomatch hfile
  entry := fun _ h => nomatch h
  move := fun _ _ _ _ _ _ hfree hat hmove => at_move hfree hat (moves_of_move hmove)
  others := fun _ _ _ _ _ _ _ _ hne _ hi hj hmove => at_others hne hi hj (moves_of_move hmove)
  disturb := by
    intro passed s s' hfree hs
    obtain ⟨hlock, hcache, hinspected, -⟩ := advance_eq hs
    refine ⟨?_, fun i t hat ht => ?_⟩
    · rw [hlock]
      intro hnone file hfile
      rw [hcache] at hfile
      rw [hinspected]
      exact hfree hnone file hfile
    · rw [hlock]
      exact ⟨(hat ht).1, (hat ht).2.advance hs⟩

end outline

/-! ### The time of the cache -/

section runs

open Lts (Reachable Star)

variable (I : Interp) (clean : PyStr → PyStr) (ttl : ℚ)

/-- The runs of the callers. -/
abbrev system : Lts.System State (Lts.Threads.Label ℕ ((q : Question) → Answer q) (ℚ × ℚ)) :=
  (callers I clean ttl).system

variable {I clean ttl} {s s' : State} {l : Lts.Threads.Label ℕ ((q : Question) → Answer q) (ℚ × ℚ)}
  {i j : ℕ}

theorem at_reachable (h : Reachable (system I clean ttl) s) (i : ℕ) :
    At I i (s.threads i) s.shared := ((outline I clean ttl).holds h).2 i

/-- Only one caller is inside. -/
theorem inside_unique (h : Reachable (system I clean ttl) s) (hi : (s.threads i).inside = true)
    (hj : (s.threads j).inside = true) : i = j :=
  Option.some.inj ((at_reachable h i hi).1.symm.trans (at_reachable h j hj).1)

/-- A caller that is somewhere else behind a step has made this move. -/
theorem moves_of_step (h : (system I clean ttl).step s l s')
    (hne : s'.threads i ≠ s.threads i) :
    Moves I clean ttl i (s.threads i) s.shared (s'.threads i) s'.shared := by
  obtain ⟨answer, hmove⟩ := Lts.Threads.moved h hne
  exact moves_of_move hmove

/-- A report that was written at the time `w`, or a later one, is in the
    cache or on its way there. -/
structure Stored (w : ℚ) (s : State) : Prop where
  time : w ≤ s.shared.time
  replacing : ∀ j report temporary, s.threads j = .replacing report temporary →
    w ≤ temporary.mtime
  stored : (∃ file ∈ s.shared.cache, w ≤ file.mtime) ∨
    ∃ j report temporary, s.threads j = .replacing report temporary

theorem stored_step {w : ℚ} (h : Stored w s) (hstep : (system I clean ttl).step s l s') :
    Stored w s' := by
  obtain ⟨i, answer, t, hmove, hthreads⟩ | ⟨passed, hpassed, hthreads⟩ := Lts.Threads.step_cases hstep
  · have hmoves := moves_of_move hmove
    have hother : ∀ j, j ≠ i → s'.threads j = s.threads j := by
      intro j hj
      rw [hthreads, Function.update_of_ne hj]
    refine ⟨(moves_time hmoves).symm ▸ h.time, ?_, ?_⟩
    · intro j report temporary hj
      by_cases hji : j = i
      · rw [hthreads, hji, Function.update_self] at hj
        rw [moves_to_replacing (hj ▸ hmoves)]
        exact h.time
      · exact h.replacing j report temporary ((hother j hji).symm.trans hj)
    · obtain ⟨file, hfile, hw⟩ | ⟨j, report, temporary, hj⟩ := h.stored
      · obtain hcache | ⟨report, temporary, ht, hcache⟩ := moves_cache hmoves
        · exact .inl ⟨file, hcache ▸ hfile, hw⟩
        · exact .inl ⟨temporary, hcache, h.replacing i report temporary ht⟩
      · by_cases hji : j = i
        · rw [hji] at hj
          exact .inl ⟨temporary, moves_from_replacing (hj ▸ hmoves),
            h.replacing i report temporary hj⟩
        · exact .inr ⟨j, report, temporary, (hother j hji).trans hj⟩
  · obtain ⟨-, hcache, -, htime⟩ := advance_eq hpassed
    refine ⟨h.time.trans htime, ?_, ?_⟩
    · rw [hthreads]
      exact h.replacing
    · rw [hthreads, hcache]
      exact h.stored

/-- The caller writes its report, at the time of the state. -/
def WritesReport (i : ℕ) (s s' : State) : Prop :=
  (s.threads i).replaces = false ∧ (s'.threads i).replaces = true

/-- The caller puts its report in the place of the cache file. -/
def ReplacesCache (i : ℕ) (s s' : State) : Prop :=
  (s.threads i).replaces = true ∧ (s'.threads i).replaces = false

/-- The caller calls `doctor.preflight()`. -/
def StartsInspection (i : ℕ) (s s' : State) : Prop :=
  (s.threads i).inspects = false ∧ (s'.threads i).inspects = true

/-- The caller returns a report that it has not inspected. -/
def ReturnsCached (i : ℕ) (report : Report) (s s' : State) : Prop :=
  (s.threads i).cached? = some report ∧ (s'.threads i).inside = false

theorem replaces_iff {t : Caller} :
    t.replaces = true ↔ ∃ report temporary, t = .replacing report temporary := by
  cases t <;> simp [Caller.replaces]

theorem cached?_eq_some {t : Caller} {report : Report} (h : t.cached? = some report) :
    t = .leaving (.ok (report, false)) := by
  unfold Caller.cached? at h
  split at h
  · cases h
    rfl
  · cases h

theorem stored_of_writes (hr : Reachable (system I clean ttl) s)
    (hstep : (system I clean ttl).step s l s') (h : WritesReport i s s') :
    Stored s.shared.time s' := by
  have hne : s'.threads i ≠ s.threads i := by
    intro heq
    have hreplaces := h.2
    rw [heq, h.1] at hreplaces
    cases hreplaces
  have hmoves := moves_of_step hstep hne
  obtain ⟨report, temporary, hi⟩ := replaces_iff.mp h.2
  rw [hi] at hmoves
  refine ⟨(moves_time hmoves).symm.le, ?_, .inr ⟨i, report, temporary, hi⟩⟩
  intro j report' temporary' hj
  obtain rfl : j = i := inside_unique (hr.step hstep) (by rw [hj]; rfl) (by rw [hi]; rfl)
  cases hi.symm.trans hj
  exact (moves_to_replacing hmoves).symm.le

/-- An inspection starts only when what was written is too old. -/
theorem late_of_starts {w : ℚ} (hr : Reachable (system I clean ttl) s) (hstored : Stored w s)
    (hstep : (system I clean ttl).step s l s') (h : StartsInspection i s s') :
    w + ttl < s.shared.time := by
  have hne : s'.threads i ≠ s.threads i := by
    intro heq
    have hinspects := h.2
    rw [heq, h.1] at hinspects
    cases hinspects
  have hdue : Due I ttl (s.threads i) s.shared :=
    moves_to_inspecting (moves_of_step hstep hne) h.1 h.2
  have hat := at_reachable hr i
  obtain ⟨-, hcurrent⟩ := hat.settled hdue.settled
  obtain ⟨file, hfile, hw⟩ | ⟨j, report, temporary, hj⟩ := hstored.stored
  · cases ht : s.threads i with
    | looking =>
      rw [ht] at hdue
      cases hdue.symm.trans hfile
    | dating time =>
      rw [ht] at hdue hat
      have hage : ttl < time - file.mtime := hdue file hfile
      have htime : time ≤ s.shared.time := (hat rfl).2.2
      linarith
    | reading =>
      rw [ht] at hdue
      obtain ⟨report, -, hreport⟩ := hcurrent file hfile
      cases (hdue file hfile).symm.trans hreport
    | _ =>
      rw [ht] at hdue
      cases hdue
  · -- the caller that is storing is another one, and has the lock as well
    obtain rfl : j = i :=
      inside_unique hr (by rw [hj]; rfl) (inside_of_settled hdue.settled)
    rw [hj] at hdue
    cases hdue

theorem stored_star {w : ℚ} (h : Star (system I clean ttl) s s') (hstored : Stored w s) :
    Stored w s' :=
  h.preserves (fun _ _ _ hs hstep => stored_step hs hstep) hstored

end runs

open Lts (Reachable Star) in
/-- The inspections of all callers are apart; once a report is written, none
    starts before more than `ttl` seconds have passed; and who returns a report
    from the cache returns that of the last inspection. -/
theorem one_inspection_per_period (I : Interp) (clean : PyStr → PyStr) (ttl : ℚ) :
    (∀ s, Reachable (system I clean ttl) s → ∀ i j, (s.threads i).inspects = true →
      (s.threads j).inspects = true → i = j) ∧
    (∀ s l t u l' v i j, Reachable (system I clean ttl) s → (system I clean ttl).step s l t →
      WritesReport i s t → Star (system I clean ttl) t u → (system I clean ttl).step u l' v →
      StartsInspection j u v → s.shared.time + ttl < u.shared.time) ∧
    ∀ s l t i report, Reachable (system I clean ttl) s → (system I clean ttl).step s l t →
      ReturnsCached i report s t → s.shared.inspected.head? = some report := by
  have hinside : ∀ {t : Caller}, t.inspects = true → t.inside = true := by
    intro t ht
    cases t with
    | inspecting rest => rfl
    | _ => cases ht
  refine ⟨?_, ?_, ?_⟩
  · intro s hr i j hi hj
    exact inside_unique hr (hinside hi) (hinside hj)
  · intro s l t u l' v i j hr hstep hwrites hstar hstep' hstarts
    have hstored := stored_star hstar (stored_of_writes hr hstep hwrites)
    exact late_of_starts ((hr.step hstep).star hstar) hstored hstep' hstarts
  · intro s l t i report hr _ hreturns
    have hat := at_reachable hr i
    rw [cached?_eq_some hreturns.1] at hat
    exact (hat rfl).2.2 report false rfl

/-! ### Two callers -/

/-- Nothing is running. -/
def stopped : (q : Question) → Answer q
  | .command _ => .ok { returncode := 1, stdout := [], stderr := [] }
  | .compose_exists => true
  | .worker _ => .failed "ConnectionRefusedError".py
  | .log _ _ _ => .ok ()
  | .monotonic => (0 : Int)
  | .uuid4 => []

abbrev SampleLabel : Type := Lts.Threads.Label ℕ ((q : Question) → Answer q) (ℚ × ℚ)

/-- A caller makes some moves. -/
def moves (i n : ℕ) : List SampleLabel := List.replicate n (.move i stopped)

/-- Seconds pass. -/
def pause (seconds : ℚ) : SampleLabel := .disturb (seconds, seconds)

/-- The callers of a cache of five seconds. -/
abbrev sampleSystem : Lts.System State SampleLabel := system sampleInterp id 5

/-- Caller 0 inspects and is about to write its report; when it has left, a
    second caller comes after six seconds. -/
def secondInspection : List SampleLabel :=
  moves 0 8 ++ [.move 0 stopped] ++ (moves 0 2 ++ [pause 6] ++ moves 1 4)

/-- The second caller comes after three seconds. -/
def secondReturn : List SampleLabel := moves 0 11 ++ [pause 3] ++ moves 1 6

open Lts (Reachable Star star_play step_play reachable_play) in
theorem one_inspection_per_period_sample :
    (sampleSystem.play (moves 0 8)).shared.time + 5 <
      (sampleSystem.play secondInspection).shared.time ∧
    ∃ report,
      (sampleSystem.play secondReturn).shared.inspected.head? = some report := by
  obtain ⟨hwrite, hreplaces⟩ :
      (sampleSystem.next (sampleSystem.play (moves 0 8)) (.move 0 stopped)).isSome = true ∧
      ((sampleSystem.play (moves 0 8)).threads 0).replaces = false ∧
      ((sampleSystem.play (moves 0 8 ++ [.move 0 stopped])).threads 0).replaces = true := by
    decide +kernel
  obtain ⟨hstart, hinspects⟩ :
      (sampleSystem.next (sampleSystem.play secondInspection) (.move 1 stopped)).isSome = true ∧
      ((sampleSystem.play secondInspection).threads 1).inspects = false ∧
      ((sampleSystem.play (secondInspection ++ [.move 1 stopped])).threads 1).inspects = true := by
    decide +kernel
  obtain ⟨hsome, hleave, hended⟩ :
      ((sampleSystem.play secondReturn).threads 1).cached?.isSome = true ∧
      (sampleSystem.next (sampleSystem.play secondReturn) (.move 1 stopped)).isSome = true ∧
      ((sampleSystem.play (secondReturn ++ [.move 1 stopped])).threads 1).inside = false := by
    decide +kernel
  obtain ⟨report, hreport⟩ := Option.isSome_iff_exists.mp hsome
  have hwrites : WritesReport 0 (sampleSystem.play (moves 0 8))
      (sampleSystem.play (moves 0 8 ++ [.move 0 stopped])) := hreplaces
  have hstarts : StartsInspection 1 (sampleSystem.play secondInspection)
      (sampleSystem.play (secondInspection ++ [.move 1 stopped])) := hinspects
  have hreturns : ReturnsCached 1 report (sampleSystem.play secondReturn)
      (sampleSystem.play (secondReturn ++ [.move 1 stopped])) := ⟨hreport, hended⟩
  have hlater : Star sampleSystem (sampleSystem.play (moves 0 8 ++ [.move 0 stopped]))
      (sampleSystem.play secondInspection) := star_play _ _
  obtain ⟨-, hperiod, hlast⟩ := one_inspection_per_period sampleInterp id 5
  exact ⟨hperiod _ _ _ _ _ _ 0 1 (reachable_play _) (step_play hwrite) hwrites hlater
    (step_play hstart) hstarts, report,
    hlast _ _ _ 1 report (reachable_play _) (step_play hleave) hreturns⟩

open Lts (Reachable Star star_play step_play reachable_play) in
/-- Between the writing of a report and the replacement of the cache file three
    seconds pass, and an inspection starts three seconds after the
    replacement. -/
theorem replaced_late :
    ∃ s l t u l' v, Reachable sampleSystem s ∧ sampleSystem.step s l t ∧ ReplacesCache 0 s t ∧
      Star sampleSystem t u ∧ sampleSystem.step u l' v ∧ StartsInspection 1 u v ∧
      u.shared.time ≤ t.shared.time + 5 := by
  let written := moves 0 9 ++ [pause 3]
  let later := moves 0 1 ++ [pause 3] ++ moves 1 4
  obtain ⟨hreplace, hreplaces⟩ :
      (sampleSystem.next (sampleSystem.play written) (.move 0 stopped)).isSome = true ∧
      ((sampleSystem.play written).threads 0).replaces = true ∧
      ((sampleSystem.play (written ++ [.move 0 stopped])).threads 0).replaces = false := by
    decide +kernel
  obtain ⟨hstart, hinspects, htime⟩ :
      (sampleSystem.next (sampleSystem.play (written ++ [.move 0 stopped] ++ later))
        (.move 1 stopped)).isSome = true ∧
      (((sampleSystem.play (written ++ [.move 0 stopped] ++ later)).threads 1).inspects = false ∧
        ((sampleSystem.play (written ++ [.move 0 stopped] ++ later ++
          [.move 1 stopped])).threads 1).inspects = true) ∧
      (sampleSystem.play (written ++ [.move 0 stopped] ++ later)).shared.time ≤
        (sampleSystem.play (written ++ [.move 0 stopped])).shared.time + 5 := by
    decide +kernel
  exact ⟨_, _, _, _, _, _, reachable_play written, step_play hreplace, hreplaces,
    star_play _ later, step_play hstart, hinspects, htime⟩

end BoVpnAgent.CachedPreflight

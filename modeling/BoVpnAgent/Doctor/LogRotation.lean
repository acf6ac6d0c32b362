import BoVpnAgent.Doctor.Redaction
import BoVpnAgent.Lib.Decimal
import BoVpnAgent.Lib.Dict
import BoVpnAgent.Lib.Rotation
import BoVpnAgent.Lib.Utf8

/-! # The log of the doctor

    `VpnDoctor.log` appends a line to a file, which `rotate` renames to a
    numbered backup when it has grown too large.

    This file shows that the files hold the segments of a rotated log, for
    every size and every number of backups.
-/

namespace BoVpnAgent.DoctorLog

open VpnDoctor

/-! ### Files -/

/-- `log_path` and its limits. -/
structure LogConfig where
  /-- `log_path.name` -/
  name : PyStr
  max_log_bytes : Int
  log_backups : Nat
  backups_pos : 1 ≤ log_backups

/-- The files of the directory, by name. -/
abbrev Directory := Dict PyStr Bytes

variable (config : LogConfig)

/-- `log_path.with_name(log_path.name + f".{index}")` -/
def LogConfig.backup (index : Nat) : PyStr := config.name ++ ".".py ++ Json.intRepr index

/-- `source.replace(target)` of a file that exists. -/
def replace (d : Directory) (source target : PyStr) : Directory :=
  match d.get? source with
  | some content => (d.pop source).set target content
  | none => d

/-- The loop of `rotate`, from the index down to 1. -/
def shift : Nat → Directory → Directory
  | 0, d => d
  | index + 1, d =>
    let source := config.backup (index + 1)
    shift index (if (d.get? source).isSome then replace d source (config.backup (index + 2)) else d)

/-- `VpnDoctor.rotate` -/
def rotate (d : Directory) : Directory :=
  match d.get? config.name with
  | none => d
  | some content =>
    if (content.length : Int) < config.max_log_bytes then d
    else
      let d := d.pop (config.backup config.log_backups)
      replace (shift config (config.log_backups - 1) d) config.name (config.backup 1)

/-- The arguments of `VpnDoctor.log`, with the time. -/
structure Entry where
  timestamp : PyStr
  level : PyStr
  event : PyStr
  detail : PyStr
  deriving DecidableEq

def Entry.line (e : Entry) : PyStr :=
  e.timestamp ++ " level=".py ++ e.level ++ " event=".py ++ e.event ++
    (if e.detail = [] then [] else " detail=".py ++ clean e.detail)

/-- What one call writes; `none` when it cannot be encoded, and the write
    fails. -/
def Entry.bytes (e : Entry) : Option Bytes := Utf8.encode (e.line ++ "\n".py)

/-- `VpnDoctor.log` -/
def log (d : Directory) (e : Entry) : Option Directory := do
  let bytes ← e.bytes
  let d := rotate config d
  some (d.set config.name ((d.get? config.name).getD [] ++ bytes))

/-! ### Names -/

/-- The log and its backups. -/
def LogConfig.file (i : Nat) : PyStr := if i = 0 then config.name else config.backup i

variable {config : LogConfig}

theorem backup_injective {i j : Nat} (h : config.backup i = config.backup j) : i = j :=
  Int.ofNat.inj (Decimal.intRepr_injective (List.append_cancel_left h))

theorem backup_ne_name (i : Nat) : config.backup i ≠ config.name := by
  intro h
  have hlength := congrArg List.length h
  have hdot : (".".py : PyStr).length = 1 := rfl
  simp only [LogConfig.backup, List.length_append, hdot] at hlength
  omega

theorem file_injective {i j : Nat} (h : config.file i = config.file j) : i = j := by
  unfold LogConfig.file at h
  split at h
  · next hi =>
    split at h
    · next hj => rw [hi, hj]
    · exact absurd h.symm (backup_ne_name j)
  · split at h
    · exact absurd h (backup_ne_name i)
    · exact backup_injective h

/-! ### Renaming -/

theorem get?_replace {d : Directory} (source : PyStr) {target : PyStr} (htarget : d.get? target = none)
    (name : PyStr) :
    (replace d source target).get? name =
      if name = target then d.get? source else if name = source then none else d.get? name := by
  unfold replace
  cases hsource : d.get? source with
  | none =>
    by_cases htarget' : name = target
    · rw [if_pos htarget', htarget', htarget]
    · by_cases hname : name = source
      · rw [if_neg htarget', if_pos hname, hname, hsource]
      · rw [if_neg htarget', if_neg hname]
  | some content =>
    simp only [Dict.get?_set, Dict.get?_pop]
    by_cases htarget' : name = target
    · rw [if_pos htarget', if_pos htarget'.symm]
    · rw [if_neg htarget', if_neg fun h => htarget' h.symm]
      simp only [eq_comm]

/-- What the loop does to a directory without the last backup. -/
structure Shifted (config : LogConfig) (n : Nat) (d d' : Directory) : Prop where
  moved : ∀ i, 1 ≤ i → i ≤ n → d'.get? (config.backup (i + 1)) = d.get? (config.backup i)
  freed : d'.get? (config.backup 1) = none
  other : ∀ name, (∀ i, 1 ≤ i → i ≤ n + 1 → name ≠ config.backup i) → d'.get? name = d.get? name

theorem shifted (n : Nat) (d : Directory) (hfree : d.get? (config.backup (n + 1)) = none) :
    Shifted config n d (shift config n d) := by
  induction n generalizing d with
  | zero => exact ⟨fun i h h' => absurd (Nat.le_trans h h') (by decide), hfree, fun _ _ => rfl⟩
  | succ n ih =>
    have hne : config.backup (n + 1) ≠ config.backup (n + 2) := fun h =>
      absurd (backup_injective h) (by omega)
    have hstep : (if (d.get? (config.backup (n + 1))).isSome then
        replace d (config.backup (n + 1)) (config.backup (n + 2)) else d) =
          replace d (config.backup (n + 1)) (config.backup (n + 2)) := by
      split
      · rfl
      · next hnone =>
        rw [Bool.not_eq_true, Option.isSome_eq_false_iff, Option.isNone_iff_eq_none] at hnone
        rw [replace, hnone]
    have hget := get?_replace (config.backup (n + 1)) hfree
    have hsource : (replace d (config.backup (n + 1)) (config.backup (n + 2))).get?
        (config.backup (n + 1)) = none := by
      rw [hget, if_neg hne, if_pos rfl]
    obtain ⟨hmoved, hfreed, hother⟩ := ih _ hsource
    unfold shift
    simp only [hstep]
    refine ⟨fun i hi hin => ?_, hfreed, fun name hname => ?_⟩
    · by_cases hlast : i = n + 1
      · -- the file that was moved first is not touched again
        rw [hlast, hother _ fun j _ hj h => absurd (backup_injective h) (by omega), hget, if_pos rfl]
      · rw [hmoved i hi (by omega), hget, if_neg fun h => absurd (backup_injective h) (by omega),
          if_neg fun h => absurd (backup_injective h) hlast]
    · rw [hother name fun j hj hjn => hname j hj (by omega), hget, if_neg (hname (n + 2) (by omega) (by omega)),
        if_neg (hname (n + 1) (by omega) (by omega))]

/-- A rotation moves every file to the next name, the last one away. -/
structure Rotated (config : LogConfig) (d d' : Directory) : Prop where
  freed : d'.get? config.name = none
  moved : ∀ i, i < config.log_backups → d'.get? (config.file (i + 1)) = d.get? (config.file i)
  other : ∀ name, (∀ i, i ≤ config.log_backups → name ≠ config.file i) → d'.get? name = d.get? name

theorem rotated {d : Directory} {content : Bytes} (hlog : d.get? config.name = some content)
    (hfull : config.max_log_bytes ≤ content.length) : Rotated config d (rotate config d) := by
  have hpos := config.backups_pos
  have hn : config.log_backups - 1 + 1 = config.log_backups := by omega
  have hdrop : (d.pop (config.backup config.log_backups)).get?
      (config.backup (config.log_backups - 1 + 1)) = none := by
    rw [hn, Dict.get?_pop_self]
  obtain ⟨hmoved, hfreed, hother⟩ := shifted _ _ hdrop
  have hrotate : rotate config d = replace
      (shift config (config.log_backups - 1) (d.pop (config.backup config.log_backups)))
      config.name (config.backup 1) := by
    rw [rotate, hlog]
    exact if_neg (by omega)
  have hget := get?_replace config.name hfreed
  have hname : ∀ i, config.name ≠ config.backup i := fun i => (backup_ne_name i).symm
  rw [hrotate]
  refine ⟨?_, fun i hi => ?_, fun name hfile => ?_⟩
  · rw [hget, if_neg (hname 1), if_pos rfl]
  · cases i with
    | zero =>
      show (replace _ _ _).get? (config.backup 1) = d.get? config.name
      rw [hget, if_pos rfl, hother _ fun j _ _ => hname j, Dict.get?_pop_ne _ (hname _).symm]
    | succ i =>
      show (replace _ _ _).get? (config.backup (i + 1 + 1)) = d.get? (config.backup (i + 1))
      rw [hget, if_neg fun h => absurd (backup_injective h) (by omega), if_neg (backup_ne_name _),
        hmoved (i + 1) (by omega) (by omega), Dict.get?_pop_ne]
      exact fun h => absurd (backup_injective h) (by omega)
  · have hbackup : ∀ i, 1 ≤ i → i ≤ config.log_backups → name ≠ config.backup i := by
      intro i hi hin
      have hfile := hfile i hin
      rwa [LogConfig.file, if_neg (by omega)] at hfile
    have hlogname : name ≠ config.name := hfile 0 (by omega)
    rw [hget, if_neg (hbackup 1 (by omega) hpos), if_neg hlogname,
      hother name fun i hi hin => hbackup i hi (by omega),
      Dict.get?_pop_ne _ (hbackup _ hpos (Nat.le_refl _)).symm]

/-! ### The files as segments -/

/-- The files hold these segments, the newest in the log. -/
def Stores (config : LogConfig) (d : Directory) (segments : List (List Bytes)) : Prop :=
  ∀ i, i ≤ config.log_backups → d.get? (config.file i) = segments[i]?.map List.flatten

def LogConfig.push (config : LogConfig) : List (List Bytes) → Bytes → List (List Bytes) :=
  Rotation.push List.length config.max_log_bytes config.log_backups

theorem length_flatten_eq_weight (segment : List Bytes) :
    segment.flatten.length = Rotation.weight List.length segment := by
  rw [List.length_flatten]
  rfl

/-- A file that is not full stays where it is. -/
theorem rotate_of_lt {d : Directory}
    (h : ∀ content, d.get? config.name = some content → (content.length : Int) < config.max_log_bytes) :
    rotate config d = d := by
  unfold rotate
  cases hlog : d.get? config.name with
  | none => rfl
  | some content => exact if_pos (h content hlog)

theorem get?_log {d d' : Directory} {e : Entry} {bytes : Bytes} (hbytes : e.bytes = some bytes)
    (hlog : log config d e = some d') (name : PyStr) : d'.get? name =
      if name = config.name then some (((rotate config d).get? config.name).getD [] ++ bytes)
      else (rotate config d).get? name := by
  obtain ⟨bytes', hbytes', h⟩ := Option.bind_eq_some_iff.mp hlog
  rw [hbytes] at hbytes'
  cases hbytes'
  cases h
  rw [Dict.get?_set]
  simp only [eq_comm]

theorem file_succ_ne_name (i : Nat) : config.file (i + 1) ≠ config.name := fun h =>
  absurd (file_injective (j := 0) h) (Nat.succ_ne_zero i)

/-- One call is one record. -/
theorem log_stores {d d' : Directory} {segments : List (List Bytes)} (h : Stores config d segments)
    {e : Entry} {bytes : Bytes} (hbytes : e.bytes = some bytes) (hlog : log config d e = some d') :
    Stores config d' (config.push segments bytes) := by
  have hget := get?_log hbytes hlog
  have hcontent : d.get? config.name = segments[0]?.map List.flatten := h 0 (Nat.zero_le _)
  have hzero : config.file 0 = config.name := rfl
  intro i hi
  unfold LogConfig.push Rotation.push
  -- no file yet, a file that is full, or one with room for the line
  cases segments with
  | nil =>
    have hsame : rotate config d = d := rotate_of_lt fun content hlog => by rw [hcontent] at hlog; cases hlog
    rw [hget, hsame]
    cases i with
    | zero => rw [if_pos hzero, hcontent]; simp
    | succ i => rw [if_neg (file_succ_ne_name i), h _ hi]; rfl
  | cons segment older =>
    have hweight := length_flatten_eq_weight segment
    by_cases hfull : config.max_log_bytes ≤ Rotation.weight List.length segment
    · -- the files move on, and the line starts a new one
      have hrotated := rotated hcontent (by rw [hweight]; exact hfull)
      simp only [if_pos hfull]
      rw [hget, hrotated.freed]
      cases i with
      | zero => rw [if_pos hzero]; simp
      | succ i =>
        rw [if_neg (file_succ_ne_name i), hrotated.moved i hi, h i (Nat.le_of_lt hi), List.getElem?_cons_succ,
          List.getElem?_take_of_lt hi]
    · have hsame : rotate config d = d := rotate_of_lt fun content hlog => by
        rw [hcontent] at hlog
        cases hlog
        omega
      simp only [if_neg hfull]
      rw [hget, hsame]
      cases i with
      | zero => rw [if_pos hzero, hcontent]; simp
      | succ i => rw [if_neg (file_succ_ne_name i), h _ hi]; rfl

theorem rotate_other (d : Directory) {name : PyStr}
    (hname : ∀ i, i ≤ config.log_backups → name ≠ config.file i) :
    (rotate config d).get? name = d.get? name := by
  cases hlog : d.get? config.name with
  | none => rw [rotate, hlog]
  | some content =>
    by_cases hfull : config.max_log_bytes ≤ content.length
    · exact (rotated hlog hfull).other name hname
    · rw [rotate, hlog]
      simp only [if_pos (lt_of_not_ge hfull)]

theorem log_other {d d' : Directory} {e : Entry} (hlog : log config d e = some d') {name : PyStr}
    (hname : ∀ i, i ≤ config.log_backups → name ≠ config.file i) : d'.get? name = d.get? name := by
  obtain ⟨bytes, hbytes, _⟩ := Option.bind_eq_some_iff.mp hlog
  have hzero : name ≠ config.name := hname 0 (Nat.zero_le _)
  rw [get?_log hbytes hlog, if_neg hzero, rotate_other d hname]

/-! ### All calls -/

/-- The calls one after the other; `none` when one of them fails. -/
def log_all (config : LogConfig) (d : Directory) (entries : List Entry) : Option Directory :=
  entries.foldlM (log config) d

/-- The backup with this number, the newer ones, and the log. -/
def read_back (config : LogConfig) (d : Directory) : Nat → Bytes
  | 0 => (d.get? config.name).getD []
  | k + 1 => (d.get? (config.backup (k + 1))).getD [] ++ read_back config d k

theorem read_back_stores {d : Directory} {segments : List (List Bytes)} (h : Stores config d segments)
    {k : Nat} (hk : k ≤ config.log_backups) :
    read_back config d k = (Rotation.records (segments.take (k + 1))).flatten := by
  have hfile : ∀ i, i ≤ config.log_backups →
      (d.get? (config.file i)).getD [] = (Rotation.records segments[i]?.toList).flatten := by
    intro i hi
    rw [h i hi]
    cases segments[i]? <;> simp [Rotation.records]
  induction k with
  | zero => exact (hfile 0 (Nat.zero_le _)).trans (by simp [List.take_add_one])
  | succ k ih =>
    have hbackup : config.backup (k + 1) = config.file (k + 1) := rfl
    have hrecords : ∀ a b : List (List Bytes), Rotation.records (a ++ b) =
        Rotation.records b ++ Rotation.records a := by simp [Rotation.records]
    rw [read_back, ih (Nat.le_of_succ_le hk), hbackup, hfile _ hk, ← List.flatten_append, ← hrecords,
      ← List.take_add_one]

/-- The calls write the records of a rotated log. -/
theorem log_all_stores {entries : List Entry} {d₀ d : Directory} {segments : List (List Bytes)}
    (hstores : Stores config d₀ segments) (h : log_all config d₀ entries = some d) :
    ∃ lines : List Bytes, entries.map Entry.bytes = lines.map some ∧
      Stores config d (lines.foldl config.push segments) ∧
      ∀ name, (∀ i, i ≤ config.log_backups → name ≠ config.file i) → d.get? name = d₀.get? name := by
  induction entries generalizing d₀ segments with
  | nil =>
    cases h
    exact ⟨[], rfl, hstores, fun _ _ => rfl⟩
  | cons e entries ih =>
    obtain ⟨d₁, hlog, hrest⟩ := Option.bind_eq_some_iff.mp h
    obtain ⟨bytes, hbytes, _⟩ := Option.bind_eq_some_iff.mp hlog
    obtain ⟨lines, hlines, hstores', hother⟩ := ih (log_stores hstores hbytes hlog) hrest
    refine ⟨bytes :: lines, ?_, hstores', fun name hname => ?_⟩
    · rw [List.map_cons, List.map_cons, hbytes, hlines]
    · rw [hother name hname, log_other hlog hname]

/-- Rotation loses only the oldest lines.  No file of the log is there at
    first, and no call fails: the files are the log and its backups; read from
    the last backup on they are the latest lines, the newest one among them;
    and none is larger than the limit and one line. -/
theorem log_rotates {d₀ d : Directory} (hnone : ∀ i, i ≤ config.log_backups → d₀.get? (config.file i) = none)
    {entries : List Entry} (h : log_all config d₀ entries = some d) :
    ∃ lines : List Bytes, entries.map Entry.bytes = lines.map some ∧
      (∀ name, (∀ i, i ≤ config.log_backups → name ≠ config.file i) → d.get? name = d₀.get? name) ∧
      (∃ kept, kept <:+ lines ∧ (lines ≠ [] → kept ≠ []) ∧
        read_back config d config.log_backups = kept.flatten) ∧
      ∀ i, i ≤ config.log_backups → ∀ content, d.get? (config.file i) = some content →
        ∃ line ∈ lines, (content.length : Int) ≤ max config.max_log_bytes 0 + line.length := by
  have hempty : Stores config d₀ [] := fun i hi => hnone i hi
  obtain ⟨lines, hlines, hstores, hother⟩ := log_all_stores hempty h
  have hholds : Rotation.Holds List.length config.max_log_bytes config.log_backups lines
      (lines.foldl config.push []) := Rotation.holds_foldl lines
  refine ⟨lines, hlines, hother, ⟨_, hholds.suffix, hholds.newest, ?_⟩, fun i hi content hcontent => ?_⟩
  · rw [read_back_stores hstores (Nat.le_refl _), List.take_of_length_le hholds.count]
  · rw [hstores i hi] at hcontent
    obtain ⟨segment, hsegment, rfl⟩ := Option.map_eq_some_iff.mp hcontent
    have hmem := List.mem_of_getElem? hsegment
    obtain ⟨front, line, rfl, hfront⟩ := hholds.bounded segment hmem
    refine ⟨line, ?_, ?_⟩
    · -- the line is one of those that are kept
      apply hholds.suffix.subset
      exact List.mem_flatten.mpr ⟨_, List.mem_reverse.mpr hmem, by simp⟩
    · rw [List.flatten_append, List.length_append, length_flatten_eq_weight, List.flatten_singleton]
      omega

/-! ### A log with two backups -/

def sampleLog : LogConfig := ⟨"doctor.log".py, 50, 2, by decide⟩

/-- Seven lines, of which two fit into a file. -/
def sampleEntries : List Entry :=
  ["1", "2", "3", "4", "5", "6", "7"].map fun second =>
    ⟨second.py, "INFO".py, "state-change".py, "healthy".py⟩

def sampleDirectory : Directory := (log_all sampleLog Dict.empty sampleEntries).getD Dict.empty

theorem log_rotates_sample : ∃ lines : List Bytes, sampleEntries.map Entry.bytes = lines.map some ∧
    (∃ kept, kept <:+ lines ∧ (lines ≠ [] → kept ≠ []) ∧
      read_back sampleLog sampleDirectory 2 = kept.flatten) ∧
    (sampleDirectory.get? "doctor.log.2".py).isSome ∧ sampleDirectory.get? "doctor.log.3".py = none := by
  have hsome : (log_all sampleLog Dict.empty sampleEntries).isSome = true := by decide +kernel
  have hrun : log_all sampleLog Dict.empty sampleEntries = some sampleDirectory := by
    obtain ⟨d, hd⟩ := Option.isSome_iff_exists.mp hsome
    rw [sampleDirectory, hd]
    rfl
  obtain ⟨lines, hlines, _, hkept, _⟩ := log_rotates (fun _ _ => rfl) hrun
  exact ⟨lines, hlines, hkept, by decide +kernel, by decide +kernel⟩

end BoVpnAgent.DoctorLog

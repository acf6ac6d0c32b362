import BoVpnAgent.ContainerNamespaceExecutor
import BoVpnAgent.Lib.Utf8Cut

/-! # Running commands

    `SubprocessCommandExecutor.run` and the limit on the output of a command.
    The limit is in bytes: the text is encoded, cut and decoded again, and
    what a cut leaves of a code point is dropped.

    What `subprocess.run` does is a parameter.  It decodes the output of a
    process that ends; the output that a `TimeoutExpired` carries is bytes,
    whatever `text` says, and there may be none.
-/

namespace BoVpnAgent.CommandExec

/-- The fields of `CommandResult` that are set here besides the ones that the
    executors read. -/
structure CommandResult extends BoVpnAgent.CommandResult where
  args : List PyStr
  output_truncated : Bool := false

/-! ### The limit -/

/-- `value.encode("utf-8")` -/
def encode (value : PyStr) : Except PyExc Bytes :=
  match Utf8.encode value with
  | some encoded => .ok encoded
  | none => raiseBuiltin .unicodeEncodeError

/-- `encoded[:stop]`; a negative `stop` counts from the end. -/
def sliceTo (encoded : Bytes) (stop : Int) : Bytes :=
  if 0 ≤ stop then encoded.take stop.toNat else encoded.take (encoded.length + stop).toNat

def limit_text (value : PyStr) (max_bytes : Int) : Except PyExc PyStr := do
  let encoded ← encode value
  if encoded.length ≤ max_bytes then return value
  else return Utf8.decodeIgnore (sliceTo encoded max_bytes)

def is_truncated (value : PyStr) (max_bytes : Int) : Except PyExc Bool := do
  let encoded ← encode value
  return max_bytes < encoded.length

/-- `_is_truncated(stdout, n) or _is_truncated(stderr, n)` -/
def either_truncated (stdout stderr : PyStr) (max_bytes : Int) : Except PyExc Bool := do
  if ← is_truncated stdout max_bytes then return true
  else is_truncated stderr max_bytes

/-! ### The command -/

/-- `exc.stdout` or `exc.stderr` of a `TimeoutExpired`. -/
inductive Captured where
  | text (value : PyStr)
  | bytes (value : Bytes)
  | nothing

/-- `value if isinstance(value, str) else ""` -/
def Captured.str : Captured → PyStr
  | text value => value
  | bytes _ | nothing => []

/-- How `subprocess.run` ends. -/
inductive Completed where
  | process (returncode : Int) (stdout stderr : PyStr)
  | timeoutExpired (stdout stderr : Captured)
  | raised (exc : PyExc)

/-- The text that is limited to give `stdout`. -/
def Completed.stdout : Completed → PyStr
  | process _ stdout _ => stdout
  | timeoutExpired stdout _ => stdout.str
  | raised _ => []

/-- The text that is limited to give `stderr`. -/
def Completed.stderr : Completed → PyStr
  | process _ _ stderr => stderr
  | timeoutExpired _ stderr => stderr.str
  | raised _ => []

section run

variable (max_output_bytes : Int) (subprocess_run : List PyStr → Int → Completed)

/-- `SubprocessCommandExecutor.run` -/
def run (args : List PyStr) (timeout_sec : Int) : Except PyExc CommandResult :=
  match subprocess_run args timeout_sec with
  | .process returncode completed_stdout completed_stderr => do
    let stdout ← limit_text completed_stdout max_output_bytes
    let stderr ← limit_text completed_stderr max_output_bytes
    let output_truncated ← either_truncated completed_stdout completed_stderr max_output_bytes
    return { args, returncode, stdout, stderr, output_truncated }
  | .timeoutExpired exc_stdout exc_stderr => do
    let stdout ← limit_text exc_stdout.str max_output_bytes
    let stderr ← limit_text exc_stderr.str max_output_bytes
    let output_truncated ← either_truncated exc_stdout.str exc_stderr.str max_output_bytes
    return { args, returncode := 124, stdout, stderr, timed_out := true, output_truncated }
  | .raised exc => .error exc

end run

/-! ### What the limit keeps -/

/-- `kept` is the longest prefix of `text`, in characters, with at most
    `max_bytes` bytes. -/
structure LongestPrefix (text : PyStr) (max_bytes : Int) (kept : PyStr) : Prop where
  starts : kept <+: text
  fits : ∃ bytes, Utf8.encode kept = some bytes ∧ (bytes.length : Int) ≤ max_bytes
  longest : ∀ other, other <+: text →
    (∃ bytes, Utf8.encode other = some bytes ∧ (bytes.length : Int) ≤ max_bytes) →
    other.length ≤ kept.length

section limit

variable {max_bytes : Int} {text kept : PyStr}

theorem fits_iff (hmax : 0 ≤ max_bytes) :
    (∃ bytes, Utf8.encode text = some bytes ∧ (bytes.length : Int) ≤ max_bytes) ↔
      Utf8.Fits max_bytes.toNat text := by
  simp only [Utf8.Fits, Int.le_toNat hmax]

theorem longestPrefix_fitting (hmax : 0 ≤ max_bytes) (text : PyStr) :
    LongestPrefix text max_bytes (Utf8.fitting max_bytes.toNat text) where
  starts := Utf8.fitting_starts _ text
  fits := (fits_iff hmax).mpr (Utf8.fits_fitting _ text)
  longest := fun _ hother hfits => Utf8.length_le_fitting hother ((fits_iff hmax).mp hfits)

/-- Characters are lost exactly when the prefix is not the whole text. -/
theorem LongestPrefix.lost_iff (h : LongestPrefix text max_bytes kept) :
    kept.length < text.length ↔ kept ≠ text := by
  constructor
  · rintro hlt rfl
    exact Nat.lt_irrefl _ hlt
  · intro hne
    have hle := h.starts.length_le
    have hlength : kept.length ≠ text.length := fun heq => hne (h.starts.eq_of_length heq)
    omega

theorem encode_eq_ok {encoded : Bytes} :
    encode text = .ok encoded ↔ Utf8.encode text = some encoded := by
  unfold encode
  cases Utf8.encode text <;> simp [raiseBuiltin]

/-- A text with a surrogate has no encoding. -/
theorem encode_error (h : ¬ text.Scalar) : encode text = raiseBuiltin .unicodeEncodeError := by
  have hnone : Utf8.encode text = none := by
    rwa [← Utf8.isSome_encode, Bool.not_eq_true, Option.isSome_eq_false_iff, Option.isNone_iff_eq_none]
      at h
  simp only [encode, hnone]

theorem encode_ok (h : text.Scalar) : ∃ encoded, encode text = .ok encoded := by
  obtain ⟨encoded, hencoded⟩ := Option.isSome_iff_exists.mp ((Utf8.isSome_encode text).mpr h)
  exact ⟨encoded, encode_eq_ok.mpr hencoded⟩

theorem limit_text_of_encode (hmax : 0 ≤ max_bytes) {encoded : Bytes}
    (h : encode text = .ok encoded) :
    limit_text text max_bytes = .ok (Utf8.fitting max_bytes.toNat text) := by
  have hencode := encode_eq_ok.mp h
  refine bind_ok.mpr ⟨encoded, h, ?_⟩
  simp only [sliceTo, if_pos hmax]
  split_ifs with hle
  · have hfits := (fits_iff hmax).mp ⟨encoded, hencode, hle⟩
    rw [Utf8.fitting_eq_self.mpr hfits]
    rfl
  · rw [Utf8.decodeIgnore_take hencode]
    rfl

theorem is_truncated_of_encode (hmax : 0 ≤ max_bytes) {encoded : Bytes}
    (h : encode text = .ok encoded) :
    is_truncated text max_bytes = .ok (decide (Utf8.fitting max_bytes.toNat text ≠ text)) := by
  have hfits : Utf8.Fits max_bytes.toNat text ↔ (encoded.length : Int) ≤ max_bytes := by
    rw [← fits_iff hmax, encode_eq_ok.mp h]
    simp
  refine bind_ok.mpr ⟨encoded, h, congrArg Except.ok (decide_eq_decide.mpr ?_)⟩
  rw [ne_eq, Utf8.fitting_eq_self, hfits, Int.not_le]

/-- What `limit_text` and `is_truncated` return where they return. -/
theorem limit_text_ok (hmax : 0 ≤ max_bytes) (h : limit_text text max_bytes = .ok kept) :
    LongestPrefix text max_bytes kept ∧ is_truncated text max_bytes = .ok (decide (kept ≠ text)) := by
  obtain ⟨encoded, hencoded, -⟩ := bind_ok.mp h
  have hkept := limit_text_of_encode hmax hencoded
  rw [h] at hkept
  obtain rfl := Except.ok.inj hkept
  exact ⟨longestPrefix_fitting hmax text, is_truncated_of_encode hmax hencoded⟩

end limit

/-! ### What a command's result says -/

/-- Two limited texts and the flag beside them. -/
theorem limited_pair {max_bytes : Int} (hmax : 0 ≤ max_bytes) {stdout stderr out err : PyStr}
    {flag : Bool} (hout : limit_text stdout max_bytes = .ok out)
    (herr : limit_text stderr max_bytes = .ok err)
    (hflag : either_truncated stdout stderr max_bytes = .ok flag) :
    LongestPrefix stdout max_bytes out ∧ LongestPrefix stderr max_bytes err ∧
    (flag = true ↔ out.length < stdout.length ∨ err.length < stderr.length) := by
  obtain ⟨hlongest, htruncated⟩ := limit_text_ok hmax hout
  obtain ⟨hlongest', htruncated'⟩ := limit_text_ok hmax herr
  refine ⟨hlongest, hlongest', ?_⟩
  rw [hlongest.lost_iff, hlongest'.lost_iff]
  obtain ⟨truncated, heq, hflag⟩ := bind_ok.mp hflag
  obtain rfl := Except.ok.inj (htruncated.symm.trans heq)
  split_ifs at hflag with hlost
  · obtain rfl := Except.ok.inj hflag
    simp [of_decide_eq_true hlost]
  · have hkept : ¬ out ≠ stdout := fun h => hlost (decide_eq_true h)
    rw [htruncated'] at hflag
    obtain rfl := Except.ok.inj hflag
    simp [hkept]

theorem run_ok {max_output_bytes : Int} (hmax : 0 ≤ max_output_bytes)
    {subprocess_run : List PyStr → Int → Completed} {args : List PyStr} {timeout_sec : Int}
    {result : CommandResult}
    (h : run max_output_bytes subprocess_run args timeout_sec = .ok result) :
    LongestPrefix (subprocess_run args timeout_sec).stdout max_output_bytes result.stdout ∧
    LongestPrefix (subprocess_run args timeout_sec).stderr max_output_bytes result.stderr ∧
    (result.output_truncated = true ↔
      result.stdout.length < (subprocess_run args timeout_sec).stdout.length ∨
      result.stderr.length < (subprocess_run args timeout_sec).stderr.length) := by
  unfold run at h
  split at h
  · next hended =>
    obtain ⟨stdout, hstdout, h⟩ := bind_ok.mp h
    obtain ⟨stderr, hstderr, h⟩ := bind_ok.mp h
    obtain ⟨flag, hflag, h⟩ := bind_ok.mp h
    obtain rfl := Except.ok.inj h
    rw [hended]
    exact limited_pair hmax hstdout hstderr hflag
  · next hended =>
    obtain ⟨stdout, hstdout, h⟩ := bind_ok.mp h
    obtain ⟨stderr, hstderr, h⟩ := bind_ok.mp h
    obtain ⟨flag, hflag, h⟩ := bind_ok.mp h
    obtain rfl := Except.ok.inj h
    rw [hended]
    exact limited_pair hmax hstdout hstderr hflag
  · cases h

/-- The limit keeps the longest prefix that fits, the flag of a result says
    whether one of its texts lost characters, and a text with no encoding is
    refused by both functions. -/
theorem output_limited (max_bytes : Int) (hmax : 0 ≤ max_bytes) :
    (∀ text : PyStr, text.Scalar → ∃ kept, limit_text text max_bytes = .ok kept ∧
      LongestPrefix text max_bytes kept ∧
      is_truncated text max_bytes = .ok (decide (kept ≠ text))) ∧
    (∀ text : PyStr, ¬ text.Scalar →
      limit_text text max_bytes = raiseBuiltin .unicodeEncodeError ∧
      is_truncated text max_bytes = raiseBuiltin .unicodeEncodeError) ∧
    (∀ (subprocess_run : List PyStr → Int → Completed) (args : List PyStr) (timeout_sec : Int)
        (result : CommandResult), run max_bytes subprocess_run args timeout_sec = .ok result →
      LongestPrefix (subprocess_run args timeout_sec).stdout max_bytes result.stdout ∧
      LongestPrefix (subprocess_run args timeout_sec).stderr max_bytes result.stderr ∧
      (result.output_truncated = true ↔
        result.stdout.length < (subprocess_run args timeout_sec).stdout.length ∨
        result.stderr.length < (subprocess_run args timeout_sec).stderr.length)) := by
  refine ⟨?_, ?_, fun _ _ _ _ h => run_ok hmax h⟩
  · intro text hscalar
    obtain ⟨encoded, hencoded⟩ := encode_ok hscalar
    have hkept := limit_text_of_encode hmax hencoded
    exact ⟨_, hkept, limit_text_ok hmax hkept⟩
  · intro text hscalar
    have hencode := encode_error hscalar
    simp only [limit_text, is_truncated, hencode]
    exact ⟨rfl, rfl⟩

/-- A text of two-byte characters, cut in the middle of one. -/
theorem output_limited_sample :
    (∃ kept, limit_text "\u0436\u0436".py 3 = .ok kept ∧ LongestPrefix "\u0436\u0436".py 3 kept) ∧
    limit_text "\u0436\u0436".py 3 = .ok "\u0436".py := by
  obtain ⟨kept, hkept, hlongest, -⟩ :=
    (output_limited 3 (by decide)).1 "\u0436\u0436".py (by decide)
  exact ⟨⟨kept, hkept, hlongest⟩, by decide⟩

/-- The output of a command that ran out of time is dropped and not
    reported, and a surrogate has no longest prefix at all. -/
theorem timed_out_output_dropped :
    (∃ result, run 65536 (fun _ _ => .timeoutExpired (.bytes [0x78, 0x0A]) .nothing)
        ["ip".py, "addr".py] 5 = .ok result ∧
      result.timed_out = true ∧ result.stdout = [] ∧ result.output_truncated = false ∧
      Utf8.decode [0x78, 0x0A] = some "x\n".py) ∧
    limit_text [0xD800] 8 = raiseBuiltin .unicodeEncodeError := by
  refine ⟨⟨_, rfl, rfl, rfl, rfl, by decide⟩, by decide⟩

end BoVpnAgent.CommandExec

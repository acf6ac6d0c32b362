import BoVpnAgent.Lib.IpAddress
import BoVpnAgent.Lib.Utf8

/-! # URLs

    `urlparse` and `parse_qs` of `urllib.parse`, for texts whose characters
    are Latin-1, such as a request line: no such character turns into a
    delimiter under NFKC, so the check for that never raises here.

    The one way to fail is a network location with brackets that do not hold
    an IPv6 address.
-/

namespace Url

open CodePoint

/-! ### Splitting at a character -/

/-- `s.partition(c)[0]` -/
def upTo (c : CodePoint) (s : PyStr) : PyStr := s.takeWhile (· ≠ c)

/-- `s.partition(c)[2]` -/
def behind (c : CodePoint) (s : PyStr) : PyStr := (s.dropWhile (· ≠ c)).drop 1

/-- `s.split(c)`, with the part being read in front of the rest. -/
def splitAtFrom (c : CodePoint) (part : PyStr) : PyStr → List PyStr
  | [] => [part]
  | d :: s => if d = c then part :: splitAtFrom c [] s else splitAtFrom c (part ++ [d]) s

theorem upTo_sublist (c : CodePoint) (s : PyStr) : (upTo c s).Sublist s :=
  (List.takeWhile_prefix _).sublist

theorem behind_sublist (c : CodePoint) (s : PyStr) : (behind c s).Sublist s :=
  (List.drop_sublist _ _).trans (List.dropWhile_suffix _).sublist

theorem scalar_splitAtFrom {c : CodePoint} {part s : PyStr} (hpart : part.Scalar)
    (hs : s.Scalar) : ∀ w ∈ splitAtFrom c part s, PyStr.Scalar w := by
  induction s generalizing part with
  | nil => simpa [splitAtFrom] using hpart
  | cons d s ih =>
    obtain ⟨hd, hs⟩ := PyStr.scalar_cons.mp hs
    unfold splitAtFrom
    split_ifs
    · exact List.forall_mem_cons.mpr ⟨hpart, ih PyStr.scalar_nil hs⟩
    · exact ih (PyStr.scalar_append.mpr ⟨hpart, PyStr.scalar_cons.mpr ⟨hd, PyStr.scalar_nil⟩⟩) hs

/-! ### `urlsplit` -/

/-- An ASCII letter. -/
def isLetter (c : CodePoint) : Bool :=
  (0x41 ≤ c.val && c.val ≤ 0x5A) || (0x61 ≤ c.val && c.val ≤ 0x7A)

/-- `c in scheme_chars` -/
def isSchemeChar (c : CodePoint) : Bool :=
  isLetter c || (0x30 ≤ c.val && c.val ≤ 0x39) || c.val == 0x2B || c.val == 0x2D || c.val == 0x2E

/-- `s.lower()` of ASCII text -/
def lower (s : PyStr) : PyStr :=
  s.map fun c => if 0x41 ≤ c.val && c.val ≤ 0x5A then Fin.ofNat 0x110000 (c.val + 0x20) else c

/-- The leading `_WHATWG_C0_CONTROL_OR_SPACE` and all
    `_UNSAFE_URL_BYTES_TO_REMOVE` are dropped. -/
def clean (url : PyStr) : PyStr :=
  (url.dropWhile fun c => c.val ≤ 0x20).filter fun c =>
    !(c.val == 0x09 || c.val == 0x0D || c.val == 0x0A)

/-- The scheme, and the rest of the URL. -/
def splitScheme (url : PyStr) : PyStr × PyStr :=
  let head := upTo 0x3A url
  if url.contains 0x3A && head.head?.any isLetter && head.all isSchemeChar then
    (lower head, behind 0x3A url)
  else ([], url)

/-- The characters that end a network location. -/
def endsNetloc (c : CodePoint) : Bool := c.val == 0x2F || c.val == 0x3F || c.val == 0x23

/-- `_splitnetloc` behind two slashes, and no network location otherwise. -/
def splitNetloc (url : PyStr) : PyStr × PyStr :=
  if url.startsWith "//".py then
    ((url.drop 2).takeWhile (!endsNetloc ·), (url.drop 2).dropWhile (!endsNetloc ·))
  else ([], url)

/-- `_check_bracketed_host` does not raise. -/
def isBracketedHost (hostname : PyStr) : Bool :=
  if hostname.startsWith "v".py then
    let version := (hostname.drop 1).takeWhile IpAddress.isHex
    let rest := (hostname.drop 1).dropWhile IpAddress.isHex
    version ≠ [] && PyStr.startsWith rest ".".py && rest.drop 1 ≠ [] && !rest.contains 0x0A
  else IpAddress.ipv4? hostname = none && IpAddress.isIpv6 hostname

/-- `_check_bracketed_netloc` does not raise. -/
def isBracketedNetloc (netloc : PyStr) : Bool :=
  let hostname_and_port := netloc.rtakeWhile (· ≠ 0x40)
  if hostname_and_port.contains 0x5B then
    let bracketed := behind 0x5B hostname_and_port
    let port := behind 0x5D bracketed
    upTo 0x5B hostname_and_port = [] && (port = [] || port.startsWith ":".py) &&
      isBracketedHost (upTo 0x5D bracketed)
  else isBracketedHost (upTo 0x3A hostname_and_port)

/-- The brackets of a network location are in order. -/
def netlocOk (netloc : PyStr) : Bool :=
  if netloc.contains 0x5B != netloc.contains 0x5D then false
  else if netloc.contains 0x5B then isBracketedNetloc netloc
  else true

/-- `uses_params` -/
def usesParams : List PyStr :=
  ["", "ftp", "hdl", "prospero", "http", "imap", "https", "shttp", "rtsp", "rtsps", "rtspu",
    "sip", "sips", "mms", "sftp", "tel"].map String.py

/-- `_splitparams`: the path and the parameters of its last segment. -/
def splitParams (url : PyStr) : PyStr × PyStr :=
  let front := url.rdropWhile (· ≠ 0x2F)
  let last := url.rtakeWhile (· ≠ 0x2F)
  (front ++ upTo 0x3B last, behind 0x3B last)

/-- `ParseResult` -/
structure ParseResult where
  scheme : PyStr
  netloc : PyStr
  path : PyStr
  params : PyStr
  query : PyStr
  fragment : PyStr

/-- The network location of a URL, which `urlparse` checks. -/
def netlocOf (url : PyStr) : PyStr := (splitNetloc (splitScheme (clean url)).2).1

/-- `urlparse`; `none` when it raises `ValueError`. -/
def urlparse (url : PyStr) : Option ParseResult :=
  if netlocOk (netlocOf url) then
    let scheme := (splitScheme (clean url)).1
    let rest := (splitNetloc (splitScheme (clean url)).2).2
    let hier := upTo 0x3F (upTo 0x23 rest)
    let path := if scheme ∈ usesParams then splitParams hier else (hier, [])
    some { scheme := scheme, netloc := netlocOf url, path := path.1, params := path.2,
           query := behind 0x3F (upTo 0x23 rest), fragment := behind 0x23 rest }
  else none

example : (urlparse "/tasks/a;b?query=1#x".py).map (fun r => (r.path, r.query)) =
    some ("/tasks/a".py, "query=1".py) := by decide
example : (urlparse "http://h/tasks".py).map ParseResult.path = some "/tasks".py := by decide
example : (urlparse "http://[".py).isNone = true := by decide

/-! ### `parse_qs` -/

/-- The value of a hexadecimal digit. -/
def hexVal? (c : CodePoint) : Option Nat :=
  if 0x30 ≤ c.val ∧ c.val ≤ 0x39 then some (c.val - 0x30)
  else if 0x41 ≤ c.val ∧ c.val ≤ 0x46 then some (c.val - 0x37)
  else if 0x61 ≤ c.val ∧ c.val ≤ 0x66 then some (c.val - 0x57)
  else none

/-- `_unquote_impl` of ASCII text -/
def unquoteToBytes : PyStr → Bytes
  | [] => []
  | [c] => [c.val.toUInt8]
  | [c, a] => [c.val.toUInt8, a.val.toUInt8]
  | c :: a :: b :: s =>
    match hexVal? a, hexVal? b with
    | some x, some y =>
      if c = 0x25 then (16 * x + y).toUInt8 :: unquoteToBytes s
      else c.val.toUInt8 :: unquoteToBytes (a :: b :: s)
    | _, _ => c.val.toUInt8 :: unquoteToBytes (a :: b :: s)

/-- The parts of `_generate_unquoted_parts`, joined; `run` is the run of
    ASCII characters being read. -/
def unquoteFrom (run : PyStr) : PyStr → PyStr
  | [] => Utf8.decodeReplace (unquoteToBytes run)
  | c :: s =>
    if c.val < 0x80 then unquoteFrom (run ++ [c]) s
    else Utf8.decodeReplace (unquoteToBytes run) ++ c :: unquoteFrom [] s

/-- `unquote` -/
def unquote (s : PyStr) : PyStr := if s.contains 0x25 then unquoteFrom [] s else s

/-- `unquote_plus` -/
def unquotePlus (s : PyStr) : PyStr := unquote (s.map fun c => if c = 0x2B then 0x20 else c)

/-- `parse_qsl` -/
def parseQsl (qs : PyStr) : List (PyStr × PyStr) :=
  (splitAtFrom 0x26 [] qs).filterMap fun field =>
    if behind 0x3D field = [] then none
    else some (unquotePlus (upTo 0x3D field), unquotePlus (behind 0x3D field))

/-- `parse_qs(qs).get(name, [default])[0]` -/
def queryValue (qs name default : PyStr) : PyStr :=
  (((parseQsl qs).find? fun e => e.1 = name).map Prod.snd).getD default

example : queryValue "query=a%20b+%D0%B6&query=2".py "query".py [] = "a b ж".py := by decide

/-! ### The texts of a parsed URL -/

theorem scalar_unquoteFrom {run s : PyStr} (h : s.Scalar) : (unquoteFrom run s).Scalar := by
  induction s generalizing run with
  | nil => exact Utf8.decodeReplace_scalar _
  | cons c s ih =>
    obtain ⟨hc, hs⟩ := PyStr.scalar_cons.mp h
    unfold unquoteFrom
    split_ifs
    · exact ih hs
    · exact PyStr.scalar_append.mpr
        ⟨Utf8.decodeReplace_scalar _, PyStr.scalar_cons.mpr ⟨hc, ih hs⟩⟩

theorem scalar_unquotePlus {s : PyStr} (h : s.Scalar) : (unquotePlus s).Scalar := by
  have hplus : PyStr.Scalar (s.map fun c => if c = 0x2B then 0x20 else c) := by
    intro c hc
    obtain ⟨d, hd, rfl⟩ := List.mem_map.mp hc
    split_ifs
    · rfl
    · exact h d hd
  unfold unquotePlus unquote
  split
  · exact scalar_unquoteFrom hplus
  · exact hplus

theorem scalar_queryValue {qs name default : PyStr} (hqs : qs.Scalar) (hdefault : default.Scalar) :
    (queryValue qs name default).Scalar := by
  unfold queryValue
  cases hfind : (parseQsl qs).find? fun e => e.1 = name with
  | none => exact hdefault
  | some e =>
    obtain ⟨field, hfield, he⟩ := List.mem_filterMap.mp (List.mem_of_find?_eq_some hfind)
    split_ifs at he
    obtain rfl := Option.some.inj he
    exact scalar_unquotePlus
      ((scalar_splitAtFrom PyStr.scalar_nil hqs field hfield).sublist (behind_sublist _ _))

theorem clean_sublist (url : PyStr) : (clean url).Sublist url :=
  List.filter_sublist.trans (List.dropWhile_suffix _).sublist

theorem splitScheme_sublist (url : PyStr) : (splitScheme url).2.Sublist url := by
  simp only [splitScheme]
  split
  · exact behind_sublist _ _
  · exact List.Sublist.refl _

theorem splitNetloc_sublist (url : PyStr) : (splitNetloc url).2.Sublist url := by
  unfold splitNetloc
  split
  · exact (List.dropWhile_suffix _).sublist.trans (List.drop_sublist _ _)
  · exact List.Sublist.refl _

theorem splitParams_sublist (url : PyStr) : (splitParams url).1.Sublist url := by
  have hsplit : url.rdropWhile (· ≠ 0x2F) ++ url.rtakeWhile (· ≠ 0x2F) = url :=
    List.rdropWhile_append_rtakeWhile
  conv_rhs => rw [← hsplit]
  exact (List.Sublist.refl _).append (upTo_sublist _ _)

/-- The path and the query of a URL are made of its characters. -/
theorem urlparse_sublist {url : PyStr} {r : ParseResult} (h : urlparse url = some r) :
    r.path.Sublist url ∧ r.query.Sublist url := by
  have hrest := (splitNetloc_sublist _).trans ((splitScheme_sublist _).trans (clean_sublist url))
  have hfragment := (upTo_sublist 0x23 _).trans hrest
  have hhier := (upTo_sublist 0x3F _).trans hfragment
  unfold urlparse at h
  split at h
  · obtain rfl := Option.some.inj h
    refine ⟨?_, (behind_sublist 0x3F _).trans hfragment⟩
    simp only
    split
    · exact (splitParams_sublist _).trans hhier
    · exact hhier
  · cases h

end Url

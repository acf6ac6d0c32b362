import BoVpnAgent.Executors.Operations
import BoVpnAgent.Lib.JsonSurrogates
import BoVpnAgent.Lib.PyLiteral
import BoVpnAgent.Proxy.TcpProxy

/-! # The text of the probe script

    `_tcp_probe_script` puts the address that a client has sent into the text
    of a program: as JSON, and that as a Python literal.

    This file shows that the literal stays one, whatever the address is: the
    compiler reads it up to the quote that the code wrote and gets the JSON
    text, and `json.loads` gets the payload from it.
-/

namespace BoVpnAgent

variable (I : Interp)

/-- The payload of `_vehicle_reachability`. -/
def probe_payload (host : PyStr) (ports : List Nat) (timeout : Int) : Json :=
  .obj [("host".py, .str host), ("ports".py, .arr (ports.map fun port => .int port)),
    ("timeout".py, .int timeout)]

/-- The program up to the literal. -/
def script_head : PyStr := "import json, socket; payload=json.loads(".py

/-- The program behind the literal. -/
def script_tail : PyStr :=
  ("); out=\x7b\x7d; " ++
   "host=payload['host']; " ++
   "timeout=float(payload['timeout']); " ++
   "\nfor port in payload['ports']:\n" ++
   "    sock=socket.socket(socket.AF_INET, socket.SOCK_STREAM)\n" ++
   "    sock.settimeout(timeout)\n" ++
   "    try:\n" ++
   "        sock.connect((host, int(port)))\n" ++
   "        out[str(port)]='open'\n" ++
   "    except OSError:\n" ++
   "        out[str(port)]='closed'\n" ++
   "    finally:\n" ++
   "        sock.close()\n" ++
   "print(json.dumps(out, sort_keys=True))\n").py

/-- `_tcp_probe_script(payload)` -/
def probe_program (payload : Json) : Except Builtin PyStr := do
  let encoded_payload ← Json.dumps I probeOptions payload
  return script_head ++ TcpProxy.repr encoded_payload ++ script_tail

variable {I}

/-- The command for the probe is issued when its program can be built. -/
theorem tcp_probe_script_iff (host : PyStr) (ports : List Nat) (timeout : Int) :
    tcp_probe_script I host ports timeout = .ok (.tcp_probe host ports timeout) ↔
      ∃ program, probe_program I (probe_payload host ports timeout) = .ok program := by
  unfold tcp_probe_script probe_program probe_payload
  cases Json.dumps I probeOptions (.obj [("host".py, .str host),
      ("ports".py, .arr (ports.map fun port => .int port)), ("timeout".py, .int timeout)]) with
  | ok text => exact iff_of_true rfl ⟨_, rfl⟩
  | error kind =>
    apply iff_of_false
    · intro h
      cases h
    · intro h
      obtain ⟨program, h⟩ := h
      cases h

/-! ### The literal -/

theorem hexEscape_two {n : Nat} (hn : n < 256) (r : PyStr) :
    PyLiteral.hexEscape 2 (Json.hexDigit (n / 16) :: Json.hexDigit (n % 16) :: r) =
      some ([Fin.ofNat 0x110000 n], r) := by
  have hdigits : (Json.hexDigit (n / 16) :: Json.hexDigit (n % 16) :: r).take 2 =
      [Json.hexDigit (n / 16), Json.hexDigit (n % 16)] := rfl
  unfold PyLiteral.hexEscape
  rw [hdigits]
  simp only [List.mapM_cons, List.mapM_nil, Json.hexVal?_hexDigit (show n / 16 < 16 by omega),
    Json.hexVal?_hexDigit (show n % 16 < 16 by omega), Option.pure_def, Option.bind_eq_bind,
    Option.bind_some]
  have hvalue : PyLiteral.digitsIn 16 [n / 16, n % 16] = n := by
    show 16 * (16 * 0 + n / 16) + n % 16 = n
    omega
  have hfits : [n / 16, n % 16].length = 2 ∧ PyLiteral.digitsIn 16 [n / 16, n % 16] < 0x110000 := by
    rw [hvalue]
    exact ⟨rfl, by omega⟩
  have hself : (⟨PyLiteral.digitsIn 16 [n / 16, n % 16], hfits.2⟩ : CodePoint) =
      Fin.ofNat 0x110000 n := by
    apply Fin.ext
    show PyLiteral.digitsIn 16 [n / 16, n % 16] = n % 0x110000
    omega
  rw [dif_pos hfits, hself]
  rfl

/-- `repr` writes every character so that the compiler reads it back. -/
theorem writes_reprChar {quote : CodePoint} (hquote : quote.val = 0x27 ∨ quote.val = 0x22)
    (c : CodePoint) : PyLiteral.Writes quote (TcpProxy.reprChar quote) c := by
  have hback : quote.val ≠ 0x5C := by omega
  have hcode : ∀ {n : Nat} (c' : CodePoint), c.val = n → c'.val = n → c' = c :=
    fun _ hn hn' => Fin.ext (hn'.trans hn.symm)
  intro r
  unfold TcpProxy.reprChar
  split
  · next hc =>
    -- the quote itself or a backslash
    have hescape : PyLiteral.escape? (c :: r) = some ([c], r) := by
      rcases hc with rfl | rfl
      · rcases hquote with h | h
        · rw [← hcode 0x27 h rfl]
          rfl
        · rw [← hcode 0x22 h rfl]
          rfl
      · rfl
    exact PyLiteral.scan_escape hback [c] hescape
  split
  · next hc => exact PyLiteral.scan_escape hback [c] (by rw [hc]; rfl)
  split
  · next hc => exact PyLiteral.scan_escape hback [c] (by rw [hc]; rfl)
  split
  · next hc => exact PyLiteral.scan_escape hback [c] (by rw [hc]; rfl)
  split
  · next hc =>
    -- a control character, written with two hexadecimal digits
    have hlt : c.val < 256 := by
      rcases hc with h | h
      · omega
      · rw [h]
        decide
    have hself : (Fin.ofNat 0x110000 c.val : CodePoint) = c := Fin.ext (Nat.mod_eq_of_lt c.isLt)
    have hhex := hexEscape_two hlt r
    rw [hself] at hhex
    exact PyLiteral.scan_escape hback [c] hhex
  · next hspecial htab hfeed hreturn hcontrol =>
    rw [not_or] at hspecial
    have hval : ∀ {n : Nat} (c' : CodePoint), c ≠ c' → c'.val = n → c.val ≠ n :=
      fun c' hne hn heq => hne (Fin.ext (heq.trans hn.symm))
    exact PyLiteral.scan_plain hspecial.1 ⟨hval 0x0A hfeed rfl, hval 0x0D hreturn rfl⟩
      (hval 0x5C hspecial.2 rfl) r

/-- No character is written with the quote in front. -/
theorem head_reprChar {quote : CodePoint} (hquote : quote.val = 0x27 ∨ quote.val = 0x22)
    (c : CodePoint) : ∃ d w, TcpProxy.reprChar quote c = d :: w ∧ d ≠ quote := by
  have hback : (0x5C : CodePoint) ≠ quote := by
    rintro rfl
    exact absurd hquote (by decide)
  unfold TcpProxy.reprChar
  split
  · exact ⟨_, _, rfl, hback⟩
  split
  · exact ⟨0x5C, _, rfl, hback⟩
  split
  · exact ⟨0x5C, _, rfl, hback⟩
  split
  · exact ⟨0x5C, _, rfl, hback⟩
  split
  · exact ⟨_, _, rfl, hback⟩
  · next hspecial _ _ _ _ =>
    rw [not_or] at hspecial
    exact ⟨_, _, rfl, hspecial.1⟩

/-- The literal of a text that is not empty is read back, whatever stands
    behind it. -/
theorem read_repr {s : PyStr} (hs : s ≠ []) (rest : PyStr) :
    PyLiteral.read (TcpProxy.repr s ++ rest) = some (s, rest) := by
  unfold TcpProxy.repr
  generalize hq : (if s.contains 0x27 && !s.contains 0x22 then (0x22 : CodePoint) else 0x27) = quote
  have hquote : quote.val = 0x27 ∨ quote.val = 0x22 := by
    rw [← hq]
    split
    · exact .inr rfl
    · exact .inl rfl
  cases s with
  | nil => exact absurd rfl hs
  | cons c s =>
    obtain ⟨d, w, htext, hd⟩ := head_reprChar hquote c
    have hall : (c :: s).flatMap (TcpProxy.reprChar quote) =
        d :: (w ++ s.flatMap (TcpProxy.reprChar quote)) := by
      rw [List.flatMap_cons, htext]
      rfl
    apply PyLiteral.read_quoted hquote fun c _ => writes_reprChar hquote c
    · rw [hall]
      intro h
      exact hd (Option.some.inj h)
    · rw [hall]
      exact List.cons_ne_nil _ _

/-! ### The payload -/

/-- The payload is rendered unless its timeout has too many digits. -/
theorem dumps_payload (host : PyStr) (timeout : Int) :
    Json.dumps I probeOptions (probe_payload host TCP_PORTS timeout) =
      if Json.DigitsWithin I.int_max_str_digits timeout then
        .ok (Json.render I probeOptions (probe_payload host TCP_PORTS timeout))
      else .error .valueError := by
  have hdepth : (probe_payload host TCP_PORTS timeout).depth = 2 := rfl
  have hints : (probe_payload host TCP_PORTS timeout).intsWithin I.int_max_str_digits = true ↔
      Json.DigitsWithin I.int_max_str_digits timeout := by
    have h22 : Json.DigitsWithin I.int_max_str_digits 22 :=
      digitsWithin_port I (show 22 ∈ TCP_PORTS by decide)
    have h443 : Json.DigitsWithin I.int_max_str_digits 443 :=
      digitsWithin_port I (show 443 ∈ TCP_PORTS by decide)
    have h80 : Json.DigitsWithin I.int_max_str_digits 80 :=
      digitsWithin_port I (show 80 ∈ TCP_PORTS by decide)
    simp [probe_payload, TCP_PORTS, Json.intsWithin, Json.intsWithinFields, Json.intsWithinList,
      h22, h443, h80]
  unfold Json.dumps
  rw [hdepth, if_neg (not_lt.mpr (le_trans (by decide) I.dumps_min))]
  simp only [hints]

theorem readsTree_payload {host : PyStr} (hhost : Json.Joined host) {timeout : Int}
    (htimeout : Json.DigitsWithin I.int_max_str_digits timeout) :
    probeOptions.ReadsTree I (probe_payload host TCP_PORTS timeout) := by
  have hkey : ∀ s : String, probeOptions.Reads s.py :=
    fun s t => Json.scanString_escape true (PyStr.scalar_py s) t
  have hport : ∀ {port : Nat}, port ∈ TCP_PORTS → Json.DigitsWithin I.int_max_str_digits port :=
    digitsWithin_port I
  have hdistinct : ["host".py, "ports".py, "timeout".py].Nodup := by decide
  constructor
  · exact ⟨hkey "host", Json.scanString_joined hhost, hkey "ports",
      ⟨hport (show 22 ∈ TCP_PORTS by decide), hport (show 443 ∈ TCP_PORTS by decide),
        hport (show 80 ∈ TCP_PORTS by decide), trivial⟩, hkey "timeout", htimeout, trivial⟩
  · exact ⟨hdistinct, trivial, ⟨trivial, trivial, trivial, trivial⟩, trivial, trivial⟩

/-- What `json.loads` makes of the text of the payload: the payload, with the
    surrogate pairs of the address as characters. -/
theorem loads_payload (host : PyStr) {timeout : Int}
    (htimeout : Json.DigitsWithin I.int_max_str_digits timeout) :
    Json.loads I (Json.render I probeOptions (probe_payload host TCP_PORTS timeout)) =
      .ok (probe_payload (Json.joinPairs host) TCP_PORTS timeout) := by
  have hplain : probeOptions.Plain := ⟨⟨_, rfl, rfl⟩, ⟨_, rfl, rfl⟩, rfl⟩
  have hsame : Json.render I probeOptions (probe_payload host TCP_PORTS timeout) =
      Json.render I probeOptions (probe_payload (Json.joinPairs host) TCP_PORTS timeout) := by
    have hescape : Json.escape probeOptions.ensure_ascii (Json.joinPairs host) =
        Json.escape probeOptions.ensure_ascii host := Json.escape_joinPairs host
    unfold probe_payload
    simp only [Json.render, Json.renderFields, hescape]
  rw [hsame]
  apply Json.loads_rendered hplain (readsTree_payload (Json.joined_joinPairs host) htimeout)
  exact le_trans (show 2 ≤ 8 by decide) I.loads_min

/-- For every address and every timeout, there is no program, because the
    timeout has too many digits, or the program is a fixed text around one
    string literal.  The literal ends where the code ends it, whatever stands
    behind it, and the string that the compiler gets from it is JSON text.
    That gives back the payload for every address without a surrogate pair in
    two halves: no other address comes from Unicode characters. -/
theorem probe_program_literal (I : Interp) (host : PyStr) (timeout : Int) :
    (¬Json.DigitsWithin I.int_max_str_digits timeout →
      probe_program I (probe_payload host TCP_PORTS timeout) = .error .valueError) ∧
    (Json.DigitsWithin I.int_max_str_digits timeout →
      ∃ encoded_payload,
        probe_program I (probe_payload host TCP_PORTS timeout) =
          .ok (script_head ++ TcpProxy.repr encoded_payload ++ script_tail) ∧
        (∀ rest, PyLiteral.read (TcpProxy.repr encoded_payload ++ rest) =
          some (encoded_payload, rest)) ∧
        (Json.loads I encoded_payload = .ok (probe_payload host TCP_PORTS timeout) ↔
          Json.Joined host) ∧
        (host.Scalar → Json.Joined host)) := by
  constructor
  · intro htimeout
    unfold probe_program
    rw [dumps_payload, if_neg htimeout]
    rfl
  intro htimeout
  refine ⟨Json.render I probeOptions (probe_payload host TCP_PORTS timeout), ?_, ?_, ?_,
    Json.joined_of_scalar⟩
  · unfold probe_program
    rw [dumps_payload, if_pos htimeout]
    rfl
  · intro rest
    apply read_repr
    unfold probe_payload
    rw [Json.render]
    exact List.cons_ne_nil _ _
  · rw [loads_payload host htimeout, ← Json.joinPairs_eq_iff]
    constructor
    · intro h
      have hfields := Json.obj.inj (Except.ok.inj h)
      exact Json.str.inj (Prod.mk.inj (List.cons.inj hfields).1).2
    · intro h
      rw [h]

/-- An address with both quotes, a backslash, a line feed and a character
    outside the BMP. -/
theorem probe_program_literal_sample :
    ∃ encoded_payload,
      probe_program sampleInterp (probe_payload "'\"\\\n😀".py TCP_PORTS 5) =
        .ok (script_head ++ TcpProxy.repr encoded_payload ++ script_tail) ∧
      Json.loads sampleInterp encoded_payload = .ok (probe_payload "'\"\\\n😀".py TCP_PORTS 5) := by
  have hdigits : Json.DigitsWithin sampleInterp.int_max_str_digits 5 := by decide
  obtain ⟨encoded_payload, hprogram, -, hloads, hjoined⟩ :=
    (probe_program_literal sampleInterp "'\"\\\n😀".py 5).2 hdigits
  exact ⟨encoded_payload, hprogram, hloads.mpr (hjoined (PyStr.scalar_py _))⟩

end BoVpnAgent

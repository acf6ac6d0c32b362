import BoVpnAgent.Lib.Records
import BoVpnAgent.Proxy.TcpProxy
import BoVpnAgent.Service

/-! # What the client of the proxy receives

    One `except` clause of `handle` serves the handshake and the tunnel.  An
    exception in `relay` therefore writes its error line into a stream that
    has already begun with `OK`.

    What brings the clause about is written down as the run goes on: how each
    `sendall` ends, and each `recv` that raises.  This file shows that the
    tunnel is transparent along every record in which nothing raises once the
    client is being sent something, except that the client's own socket may
    fail for good.
-/

namespace BoVpnAgent.TcpProxy

variable {I : Interp} {stream : Bytes} {s s' : State} {l : Label}

/-! ### Error texts are single lines -/

theorem newline_notMem_intRepr (n : Int) : 0x0A ∉ Json.intRepr n := by
  have hdigit : ∀ ch : Char, ch.isDigit → ch.codePoint ≠ 0x0A := by
    intro ch hch heq
    have hval : ch.codePoint.val = 0x0A := congrArg Fin.val heq
    have hlt : ch.toNat < 0x110000 := by
      rcases ch.valid with h | h <;> · simp only [Char.toNat, UInt32.toNat] at *; omega
    simp only [Char.codePoint, Fin.ofNat, Nat.mod_eq_of_lt hlt] at hval
    have hch' : 48 ≤ ch.toNat := by
      have h := (Char.isDigit_iff_toNat.mp hch).1
      simpa using h
    omega
  intro hmem
  rcases List.mem_append.mp hmem with hsign | hdigits
  · split at hsign
    · exact absurd (List.mem_singleton.mp hsign) (by decide)
    · cases hsign
  · obtain ⟨ch, hch, heq⟩ := List.mem_map.mp hdigits
    exact hdigit ch (Nat.isDigit_of_mem_toDigits (by decide) (by decide) hch) heq

theorem newline_ne_hexDigit {n : Nat} (hn : n < 16) : 0x0A ≠ Json.hexDigit n := by
  have h : ∀ n, n < 16 → 0x0A ≠ Json.hexDigit n := by decide
  exact h n hn

theorem newline_notMem_reprChar {quote c : CodePoint} (hquote : quote ≠ 0x0A) :
    0x0A ∉ reprChar quote c := by
  have hslash : (0x0A : CodePoint) ≠ 0x5C := by decide
  unfold reprChar
  split_ifs with h₁ h₂ h₃ h₄ h₅
  · have hc : 0x0A ≠ c := by
      rintro rfl
      exact h₁.elim hquote.symm hslash
    simp only [List.mem_cons, List.not_mem_nil, or_false, not_or]
    exact ⟨hslash, hc⟩
  · decide
  · decide
  · decide
  · have hlt : c.val < 0x80 := by
      rcases h₅ with h | h
      · omega
      · rw [h]; decide
    simp only [List.mem_cons, List.not_mem_nil, or_false, not_or]
    exact ⟨hslash, by decide, newline_ne_hexDigit (by omega), newline_ne_hexDigit (by omega)⟩
  · simpa using Ne.symm h₃

theorem newline_notMem_repr (t : PyStr) : 0x0A ∉ repr t := by
  intro hmem
  simp only [repr] at hmem
  generalize hq : (if t.contains 0x27 && !t.contains 0x22 then (0x22 : CodePoint) else 0x27) =
    quote at hmem
  have hquote : quote ≠ 0x0A := by
    rw [← hq]
    split <;> decide
  simp only [List.mem_append, List.mem_singleton, List.mem_flatMap] at hmem
  rcases hmem with (h | ⟨c, -, hc⟩) | h
  · exact hquote h.symm
  · exact newline_notMem_reprChar hquote hc
  · exact hquote h.symm

theorem newline_notMem_decode_error {line : Bytes} {text : PyStr}
    (h : decode_ascii line = .error text) : 0x0A ∉ text := by
  unfold decode_ascii at h
  split at h
  · next i hi =>
    have hbyte : (line.getD i 0).toNat < 256 := UInt8.toNat_lt _
    generalize (line.getD i 0).toNat = byte at h hbyte
    cases h
    simp only [List.mem_append, List.mem_cons, List.not_mem_nil, or_false, not_or]
    exact ⟨⟨⟨⟨by decide, newline_ne_hexDigit (by omega), newline_ne_hexDigit (by omega)⟩,
      by decide⟩, newline_notMem_intRepr _⟩, by decide⟩
  · cases h

theorem newline_notMem_parse_error {line : Bytes} {text : PyStr}
    (h : parse_request I line = .error text) : 0x0A ∉ text := by
  have hexpected : 0x0A ∉ "expected CONNECT <ip> <port>".py := by decide
  have houtside : 0x0A ∉ "destination is outside 172.26.0.0/15".py := by decide
  unfold parse_request at h
  cases hdecode : decode_ascii line with
  | error t =>
    rw [hdecode] at h
    cases h
    exact newline_notMem_decode_error hdecode
  | ok t =>
    rw [hdecode] at h
    simp only [bind, Except.bind] at h
    split at h
    · next command ip port _ =>
      split at h
      · cases h; exact hexpected
      · split at h
        · split at h
          · split at h
            · cases h
            · cases h
              refine List.mem_append.not.mpr (not_or.mpr ⟨by decide, fun hmem => ?_⟩)
              exact newline_notMem_repr port (List.mem_of_mem_take hmem)
          · cases h; exact houtside
        · split at h
          · cases h; exact houtside
          · cases h
            exact List.mem_append.not.mpr (not_or.mpr ⟨newline_notMem_repr ip, by decide⟩)
    · cases h; exact hexpected

/-! ### The tunnel -/

/-- The client has received part of one error line, or part of `OK` and the
    bytes of the upstream. -/
def Transparent (s : State) : Prop :=
  (∃ text line, 0x0A ∉ text ∧ errLine text = some line ∧ s.to_client <+: line) ∨
    s.to_client <+: okLine ++ s.from_upstream

/-- How a call on one of the two sockets ends.  A `recv` that returns is not
    written down. -/
inductive SocketEvent where
  /-- a `sendall` to the client -/
  | client_sent (sent : Sent)
  /-- a `sendall` to the upstream -/
  | upstream_sent (sent : Sent)
  /-- a `recv` or `create_connection` raises -/
  | raised

/-- The `sendall` raises at once. -/
def Sent.refused : Sent → Bool
  | part 0 _ => true
  | _ => false

/-- What a step writes down. -/
def socket_events (s _s' : State) : Label → List SocketEvent
  | .send sent =>
    match s.point with
    | .greeting _ => [.client_sent sent]
    | .forwarding _ => [.upstream_sent sent]
    | .failing text => if (errLine text).isSome then [.client_sent sent] else []
    | _ => []
  -- an end is passed on by `shutdown`, which is caught where it raises
  | .upload n sent => if n = 0 then [] else [.upstream_sent sent]
  | .download data sent => if data = [] then [] else [.client_sent sent]
  | .raise _ => [.raised]
  | _ => []

/-- The event may stand behind another one: behind a `sendall` to the client,
    no `recv` and no `sendall` to the upstream raises, and behind one that
    raises, the client's socket takes no byte any more. -/
def SocketEvent.tolerates : SocketEvent → SocketEvent → Bool
  | .client_sent _, .raised => false
  | .client_sent _, .upstream_sent later => later.complete
  | .client_sent sent, .client_sent later => sent.complete || later.refused
  | _, _ => true

/-- Each event may stand behind all that precede it. -/
def Steady (events : List SocketEvent) : Prop :=
  events.Pairwise fun event later => event.tolerates later = true

instance (events : List SocketEvent) : Decidable (Steady events) :=
  inferInstanceAs (Decidable (events.Pairwise fun event later => event.tolerates later = true))

/-- What the client has received, by the point of `handle`. -/
def Inside (s : State) : Prop :=
  match s.point with
  | .reading | .connecting _ | .greeting _ => s.to_client = [] ∧ s.from_upstream = []
  | .forwarding _ | .relaying _ _ => s.to_client = okLine ++ s.from_upstream
  | .failing text => 0x0A ∉ text ∧ s.to_client <+: okLine ++ s.from_upstream
  | .closed => Transparent s

theorem Sent.taken_prefix (data : Bytes) (sent : Sent) : sent.taken data <+: data := by
  cases sent with
  | all => exact List.prefix_refl data
  | part n error => exact List.take_prefix n data

theorem inside_parsed {request : Bytes} (h : s.to_client = [] ∧ s.from_upstream = []) :
    Inside (parsed I s request) := by
  unfold parsed
  split
  · exact h
  · next text htext =>
    refine ⟨newline_notMem_parse_error htext, ?_⟩
    show s.to_client <+: _
    rw [h.1]
    exact List.nil_prefix

/-- After a `sendall` that leads to the tunnel, or raises. -/
theorem inside_sent {point : Point} {sent : Sent} (hs' : s'.point = sent.point point)
    (hpoint : (∃ remainder, point = .forwarding remainder) ∨ ∃ c u, point = .relaying c u)
    (hall : sent = .all → s'.to_client = okLine ++ s'.from_upstream)
    (hpart : s'.to_client <+: okLine ++ s'.from_upstream) : Inside s' := by
  unfold Inside
  cases sent with
  | all =>
    rcases hpoint with ⟨remainder, rfl⟩ | ⟨c, u, rfl⟩
    · rw [hs']
      exact hall rfl
    · rw [hs']
      exact hall rfl
  | part n error =>
    rw [hs']
    exact ⟨error.property, hpart⟩

theorem inside_relayPoint {client upstream : Bool} (h : s.to_client = okLine ++ s.from_upstream) :
    Inside { s with point := relayPoint client upstream } := by
  unfold relayPoint
  split
  · exact h
  · refine .inr ?_
    show s.to_client <+: okLine ++ s.from_upstream
    rw [h]

/-- The error line that a step sends goes to a client that has been sent
    nothing, or nothing of it is taken. -/
def Unheard (s : State) (l : Label) : Prop :=
  ∀ text line sent, s.point = .failing text → errLine text = some line → l = .send sent →
    s.to_client = [] ∨ sent.refused = true

theorem Sent.taken_refused {sent : Sent} (h : sent.refused = true) (data : Bytes) :
    sent.taken data = [] := by
  unfold Sent.refused at h
  split at h
  · rfl
  · cases h

theorem inside_step (hs : Inside s) (hunheard : Unheard s l)
    (hstep : (handle I stream).step s l s') : Inside s' := by
  have hcases := step_cases hstep
  unfold Inside at hs
  -- `OK` and the bytes of the upstream are all that the client gets, except for a reported error
  cases hcases with
  | eof hpoint =>
    rw [hpoint] at hs
    refine .inr ?_
    show s.to_client <+: _
    rw [hs.1]
    exact List.nil_prefix
  | chunk n hpoint =>
    rw [hpoint] at hs
    show Inside { s with received := _ }
    simpa only [Inside, hpoint] using hs
  | request n hpoint =>
    rw [hpoint] at hs
    exact inside_parsed hs
  | connected remainder hpoint =>
    rw [hpoint] at hs
    exact hs
  | greeted remainder sent hpoint =>
    rw [hpoint] at hs
    refine inside_sent rfl ?_ ?_ ?_
    · by_cases hremainder : remainder = []
      · exact .inr ⟨true, true, if_pos hremainder⟩
      · exact .inl ⟨remainder, if_neg hremainder⟩
    · rintro rfl
      show s.to_client ++ okLine = okLine ++ s.from_upstream
      rw [hs.1, hs.2, List.nil_append, List.append_nil]
    · show s.to_client ++ sent.taken okLine <+: okLine ++ s.from_upstream
      rw [hs.1, List.nil_append]
      exact (sent.taken_prefix okLine).trans (List.prefix_append _ _)
  | forwarded remainder sent hpoint =>
    rw [hpoint] at hs
    refine inside_sent rfl (.inr ⟨true, true, rfl⟩) (fun _ => hs) ?_
    show s.to_client <+: okLine ++ s.from_upstream
    rw [hs]
  | reported text line sent hpoint hline =>
    rw [hpoint] at hs
    -- here alone the proxy writes bytes that are not the upstream's
    rcases hunheard text line sent hpoint hline rfl with hempty | hrefused
    · refine .inl ⟨text, line, hs.1, hline, ?_⟩
      show s.to_client ++ sent.taken line <+: line
      rw [hempty]
      exact sent.taken_prefix line
    · refine .inr ?_
      show s.to_client ++ sent.taken line <+: okLine ++ s.from_upstream
      rw [Sent.taken_refused hrefused, List.append_nil]
      exact hs.2
  | unreported text sent hpoint hline =>
    rw [hpoint] at hs
    exact .inr hs.2
  | client_eof upstream sent hpoint =>
    rw [hpoint] at hs
    exact inside_relayPoint hs
  | uploaded n upstream sent hpoint =>
    rw [hpoint] at hs
    refine inside_sent rfl (.inr ⟨true, upstream, rfl⟩) (fun _ => hs) ?_
    show s.to_client <+: okLine ++ s.from_upstream
    rw [hs]
  | upstream_eof client sent hpoint =>
    rw [hpoint] at hs
    exact inside_relayPoint hs
  | downloaded client data sent hpoint =>
    rw [hpoint] at hs
    refine inside_sent rfl (.inr ⟨client, true, rfl⟩) ?_ ?_
    · rintro rfl
      show s.to_client ++ data = okLine ++ (s.from_upstream ++ data)
      rw [hs, List.append_assoc]
    · show s.to_client ++ sent.taken data <+: okLine ++ (s.from_upstream ++ data)
      rw [hs, List.append_assoc, List.prefix_append_right_inj, List.prefix_append_right_inj]
      exact sent.taken_prefix data
  -- an exception is raised between two sends, so nothing is added
  | raised error hpoint =>
    refine ⟨error.property, ?_⟩
    show s.to_client <+: okLine ++ s.from_upstream
    rcases hpoint with hpoint | ⟨remainder, hpoint⟩ | ⟨client, upstream, hpoint⟩
    · rw [hpoint] at hs
      rw [hs.1]
      exact List.nil_prefix
    · rw [hpoint] at hs
      rw [hs.1]
      exact List.nil_prefix
    · rw [hpoint] at hs
      rw [hs]

theorem Inside.transparent (hs : Inside s) : Transparent s := by
  unfold Inside at hs
  split at hs
  · exact .inr (by rw [hs.1]; exact List.nil_prefix)
  · exact .inr (by rw [hs.1]; exact List.nil_prefix)
  · exact .inr (by rw [hs.1]; exact List.nil_prefix)
  · exact .inr (by rw [hs])
  · exact .inr (by rw [hs])
  · exact .inr hs.2
  · exact hs

/-- What the record says of the client, by the point of `handle`: in the tunnel
    it has been sent something, and an error that follows is one of its own
    socket. -/
def Told (events : List SocketEvent) (s : State) : Prop :=
  match s.point with
  | .forwarding _ | .relaying _ _ => ∃ sent, .client_sent sent ∈ events
  | .failing _ => s.to_client = [] ∨ ∃ n error, .client_sent (.part n error) ∈ events
  | _ => True

variable {events : List SocketEvent}

/-- A step writes nothing down that may not stand behind the record. -/
theorem Steady.tolerates (h : Steady (events ++ socket_events s s' l)) {event later : SocketEvent}
    (hevent : event ∈ events) (hlater : later ∈ socket_events s s' l) :
    event.tolerates later = true :=
  (List.pairwise_append.mp h).2.2 event hevent later hlater

theorem Told.unheard (h : Told events s) (hsteady : Steady (events ++ socket_events s s' l)) :
    Unheard s l := by
  intro text line sent hpoint hline hl
  subst hl
  unfold Told at h
  rw [hpoint] at h
  -- where the client has been sent something, its socket has failed before
  refine h.imp_right fun hfailed => ?_
  obtain ⟨n, error, hfailed⟩ := hfailed
  have hlater : .client_sent sent ∈ socket_events s s' (.send sent) := by
    simp [socket_events, hpoint, hline]
  exact hsteady.tolerates hfailed hlater

/-- After a `sendall` to the client. -/
theorem told_client_sent {point : Point} {sent : Sent} (hs' : s'.point = sent.point point)
    (hpoint : (∃ remainder, point = .forwarding remainder) ∨ ∃ c u, point = .relaying c u) :
    Told (events ++ [.client_sent sent]) s' := by
  have hmem : .client_sent sent ∈ events ++ [.client_sent sent] :=
    List.mem_append_right _ (List.mem_singleton.mpr rfl)
  unfold Told
  cases sent with
  | all =>
    rcases hpoint with ⟨remainder, rfl⟩ | ⟨c, u, rfl⟩
    · rw [hs']
      exact ⟨_, hmem⟩
    · rw [hs']
      exact ⟨_, hmem⟩
  | part n error =>
    rw [hs']
    exact .inr ⟨n, error, hmem⟩

/-- After a `sendall` to the upstream, which does not raise. -/
theorem told_upstream_sent {sent : Sent} {client upstream : Bool}
    (hs' : s'.point = sent.point (.relaying client upstream))
    (hclient : ∃ sent, .client_sent sent ∈ events)
    (hsteady : Steady (events ++ [.upstream_sent sent])) :
    Told (events ++ [.upstream_sent sent]) s' := by
  obtain ⟨earlier, hearlier⟩ := hclient
  unfold Told
  cases sent with
  | all =>
    rw [hs']
    exact ⟨earlier, List.mem_append_left _ hearlier⟩
  | part n error =>
    -- excluded: the client has been sent something before
    have htolerated := (List.pairwise_append.mp hsteady).2.2 _ hearlier _ (List.mem_singleton.mpr rfl)
    cases htolerated

theorem told_parsed {request : Bytes} (hempty : s.to_client = []) :
    Told events (parsed I s request) := by
  unfold parsed
  split
  · trivial
  · exact .inl hempty

theorem told_relayPoint {client upstream : Bool} (h : ∃ sent, .client_sent sent ∈ events) :
    Told events { s with point := relayPoint client upstream } := by
  unfold relayPoint
  split
  · exact h
  · trivial

theorem told_step (hs : Inside s) (h : Told events s)
    (hsteady : Steady (events ++ socket_events s s' l)) (hstep : (handle I stream).step s l s') :
    Told (events ++ socket_events s s' l) s' := by
  have hcases := step_cases hstep
  unfold Inside at hs
  unfold Told at h
  cases hcases with
  | eof hpoint => trivial
  | chunk n hpoint =>
    unfold Told
    rw [hpoint]
    trivial
  | request n hpoint =>
    rw [hpoint] at hs
    exact told_parsed hs.1
  | connected remainder hpoint => trivial
  | greeted remainder sent hpoint =>
    simp only [socket_events, hpoint]
    refine told_client_sent rfl ?_
    by_cases hremainder : remainder = []
    · exact .inr ⟨true, true, if_pos hremainder⟩
    · exact .inl ⟨remainder, if_neg hremainder⟩
  | forwarded remainder sent hpoint =>
    rw [hpoint] at h
    simp only [socket_events, hpoint] at hsteady ⊢
    exact told_upstream_sent rfl h hsteady
  | reported text line sent hpoint hline => trivial
  | unreported text sent hpoint hline => trivial
  | client_eof upstream sent hpoint =>
    rw [hpoint] at h
    rw [socket_events, if_pos rfl, List.append_nil]
    exact told_relayPoint h
  | uploaded n upstream sent hpoint hlen hpos =>
    rw [hpoint] at h
    rw [socket_events, if_neg (by omega)] at hsteady ⊢
    exact told_upstream_sent rfl h hsteady
  | upstream_eof client sent hpoint =>
    rw [hpoint] at h
    rw [socket_events, if_pos rfl, List.append_nil]
    exact told_relayPoint h
  | downloaded client data sent hpoint hdata =>
    rw [socket_events, if_neg hdata]
    exact told_client_sent rfl (.inr ⟨client, true, rfl⟩)
  | raised error hpoint =>
    rcases hpoint with hpoint | ⟨remainder, hpoint⟩ | ⟨client, upstream, hpoint⟩
    -- in the handshake the client has been sent nothing
    · rw [hpoint] at hs
      exact .inl hs.1
    · rw [hpoint] at hs
      exact .inl hs.1
    · -- in the tunnel no `recv` raises
      rw [hpoint] at h
      obtain ⟨sent, hsent⟩ := h
      have htolerated := hsteady.tolerates hsent (List.mem_singleton.mpr rfl)
      cases htolerated

/-- Both go on along a steady record. -/
theorem inside_told_step (h : Inside s ∧ Told events s)
    (hsteady : Steady (events ++ socket_events s s' l)) (hstep : (handle I stream).step s l s') :
    Inside s' ∧ Told (events ++ socket_events s s' l) s' :=
  ⟨inside_step h.1 (h.2.unheard hsteady) hstep, told_step h.1 h.2 hsteady hstep⟩

/-- Along a steady record, the client receives one error line or the bytes of
    the upstream behind `OK`. -/
theorem tunnel_transparent {ls : List Label}
    (h : Steady ((handle I stream).record socket_events (handle I stream).init ls)) :
    Transparent ((handle I stream).play ls) := by
  have hinit : Inside (handle I stream).init ∧ Told [] (handle I stream).init :=
    ⟨⟨rfl, rfl⟩, trivial⟩
  refine Inside.transparent (And.left (Lts.record_rule (f := socket_events)
    (C := fun _ _ => True) (P := fun events s => Steady events → Inside s ∧ Told events s) ?_
    (fun _ => hinit) (Lts.along_of_forall (fun _ _ => trivial) _ ls) h))
  intro events s l s' hs _ hstep hsteady
  exact inside_told_step (hs (List.pairwise_append.mp hsteady).1) hsteady hstep

/-! ### A connection that breaks -/

/-- `CONNECT 172.26.0.1 22` -/
def sampleRequestLine : Bytes :=
  (Utf8.encode "CONNECT 172.26.0.1 22\n".py).getD []

/-- The client takes one of two bytes of the upstream and then hangs up. -/
def hung_up : List Label :=
  [.read 22, .connected, .send .all, .download [0x68, 0x69] (.part 1 ⟨"broken pipe".py, by decide⟩),
    .send (.part 0 ⟨"broken pipe".py, by decide⟩)]

theorem tunnel_transparent_sample :
    Transparent ((handle sampleInterp sampleRequestLine).play hung_up) :=
  tunnel_transparent (by decide +kernel)

/-- The upstream sends two bytes and then resets the connection. -/
def broken : List Label :=
  [.read 22, .connected, .send .all, .download [0x68, 0x69] .all,
    .raise ⟨"reset".py, by decide⟩, .send .all]

/-- An error line begins with `E`. -/
theorem head_errLine {text : PyStr} {line : Bytes} (h : errLine text = some line) :
    ∃ rest, line = 0x45 :: rest := by
  have hcons : "ERR ".py ++ text ++ "\n".py = 0x45 :: ("RR ".py ++ text ++ "\n".py) := rfl
  rw [errLine, hcons, Utf8.encode] at h
  cases hrest : Utf8.encode ("RR ".py ++ text ++ "\n".py) with
  | none =>
    rw [hrest] at h
    cases h
  | some rest =>
    rw [hrest] at h
    exact ⟨rest, (Option.some.inj h).symm⟩

/-- The error line follows the two bytes of the upstream. -/
theorem tunnel_not_transparent :
    ∃ s, Lts.Reachable (handle sampleInterp sampleRequestLine) s ∧ ¬ Transparent s := by
  refine ⟨(handle sampleInterp sampleRequestLine).play broken, Lts.reachable_play _, ?_⟩
  have hclient : ((handle sampleInterp sampleRequestLine).play broken).to_client =
      okLine ++ [0x68, 0x69] ++ (errLine "reset".py).getD [] := by decide +kernel
  have hupstream : ((handle sampleInterp sampleRequestLine).play broken).from_upstream =
      [0x68, 0x69] := by decide +kernel
  rintro (⟨text, line, -, hline, hprefix⟩ | hprefix)
  · obtain ⟨rest, rfl⟩ := head_errLine hline
    rw [hclient] at hprefix
    exact absurd (List.cons_prefix_cons.mp hprefix).1 (by decide)
  · rw [hclient, hupstream] at hprefix
    exact absurd hprefix.length_le (by decide)

end BoVpnAgent.TcpProxy

import BoVpnAgent.Lib.Records
import BoVpnAgent.Proxy.Framing
import BoVpnAgent.Proxy.ProxyConnect
import BoVpnAgent.Proxy.Tunnel

/-! # From stdin to the vehicle and back

    `proxy_connect.py` and a connection of the proxy together, with the socket
    between them.  The bytes that are on their way are those that one side has
    written and the other has not read yet; there may be any number of them,
    and either side may lose the connection at any time.

    This file shows that the two are one pipe: the proxy connects only to what
    the request line asks for, the vehicle is sent what has come in at stdin,
    in order and from the first byte on, and stdout gets what the vehicle has
    sent, unless an error line of the proxy falls into it.  While both are in
    their loops, what is missing at the far end is on its way.

    The proxy reads a stream that grows.  A step that does not see its end is
    the same for every longer stream (`next_extend`), so what holds of a
    connection with a fixed stream holds here as well.
-/

namespace BoVpnAgent

/-! ### A longer stream -/

namespace TcpProxy

variable {I : Interp} {stream longer : Bytes} {s s' : State} {l : Label}

/-- The client has shut down its side. -/
def Label.eof : Label → Bool
  | .read n | .upload n _ => n = 0
  | _ => false

theorem read_extend {n : Nat} (hextends : stream <+: longer) (hn : n ≠ 0)
    (h : read I stream s n = some s') : read I longer s n = some s' := by
  obtain ⟨rest, rfl⟩ := hextends
  unfold read at h ⊢
  rw [if_neg hn] at h ⊢
  simp only at h ⊢
  split at h
  · cases h
  · next hlimit =>
    have hlimit' : ¬(512 < s.received.length + n ∨
        (stream ++ rest).length < s.received.length + n) := by
      rw [List.length_append]
      omega
    have htake : (stream ++ rest).take (s.received.length + n) =
        stream.take (s.received.length + n) := List.take_append_of_le_length (by omega)
    rw [if_neg hlimit', htake]
    exact h

theorem upload_extend {n : Nat} {upstream : Bool} {sent : Sent} (hextends : stream <+: longer)
    (hn : n ≠ 0) (h : upload stream s upstream n sent = some s') :
    upload longer s upstream n sent = some s' := by
  obtain ⟨rest, rfl⟩ := hextends
  unfold upload at h ⊢
  rw [if_neg hn] at h ⊢
  split at h
  · cases h
  · next hlimit =>
    have hlimit' : ¬(65536 < n ∨ (stream ++ rest).length < s.received.length + n) := by
      rw [List.length_append]
      omega
    have hdata : ((stream ++ rest).drop s.received.length).take n =
        (stream.drop s.received.length).take n := by
      rw [List.drop_append_of_le_length (by omega), List.take_append_of_le_length]
      rw [List.length_drop]
      omega
    rw [if_neg hlimit', hdata]
    exact h

/-- A step that does not see the end of the stream. -/
theorem next_extend (hextends : stream <+: longer) (heof : l.eof = true → longer = stream)
    (h : next I stream s l = some s') : next I longer s l = some s' := by
  by_cases hend : l.eof = true
  · rw [heof hend]
    exact h
  cases l with
  | read n =>
    simp only [next] at h ⊢
    split at h
    · exact read_extend hextends (by simpa [Label.eof] using hend) h
    · cases h
  | upload n sent =>
    simp only [next] at h ⊢
    split at h
    · exact upload_extend hextends (by simpa [Label.eof] using hend) h
    · cases h
  | connected | send | download | raise => exact h

/-- The client's socket takes more and more. -/
theorem to_client_step (h : (handle I stream).step s l s') : s.to_client <+: s'.to_client := by
  cases step_cases h with
  | request =>
    unfold parsed
    split
    · exact List.prefix_refl _
    · exact List.prefix_refl _
  | greeted | reported | downloaded => exact List.prefix_append _ _
  | _ => exact List.prefix_refl _

end TcpProxy

/-! ### The client's side -/

namespace ProxyConnect

open TcpProxy (okLine)

variable {stdin taken : Bytes} {s s' : State} {l : Label}

/-- `main` has shut down its side of the socket, or has closed it. -/
def Point.shut : Point → Bool
  | .relaying false | .refused | .ended => true
  | _ => false

/-- The bytes that a step reads from the socket. -/
def Label.heard : Label → Bytes
  | .answer (some byte) => [byte]
  | .socket (.data bytes _) => bytes
  | _ => []

/-- What was sent has come in at stdin. -/
def Point.Sends (stdin read sent : Bytes) : Point → Prop
  | .requesting | .answering _ | .refused => read = [] ∧ sent = []
  | .relaying _ => sent = read ∧ read <+: stdin
  | .ended => sent <+: read ∧ read <+: stdin

/-- What was read from the socket, `taken`, is the answer and what stdout was
    given. -/
def Point.Hears (taken received written : Bytes) : Point → Prop
  | .requesting => taken = [] ∧ received = [] ∧ written = []
  | .answering result => taken = result ∧ received = [] ∧ written = []
  | .refused => written = []
  | .relaying _ => taken = okLine ++ received ∧ written = received
  | .ended => taken = okLine ++ received ∧ written <+: received

theorem sends_step (hs : s.point.Sends stdin s.read s.sent) (h : (main stdin).step s l s') :
    s'.point.Sends stdin s'.read s'.sent ∧ s.sent <+: s'.sent := by
  have hcases := step_cases h
  cases hcases with
  | hangup | nothing => exact ⟨hs, List.prefix_refl _⟩
  | handshake l point hpoint hnext =>
    have hnone : s.read = [] ∧ s.sent = [] := by
      rcases hpoint with hpoint | ⟨result, hpoint⟩
      · rw [hpoint] at hs
        exact hs
      · rw [hpoint] at hs
        exact hs
    refine ⟨?_, List.prefix_refl _⟩
    cases point with
    | requesting | answering | refused => exact hnone
    | relaying registered =>
      refine ⟨hnone.2.trans hnone.1.symm, ?_⟩
      rw [hnone.1]
      exact List.nil_prefix
    | ended => exact absurd rfl hnext.1
  | stdin_eof free hpoint hall =>
    rw [hpoint] at hs
    exact ⟨hs, List.prefix_refl _⟩
  | shutdown n hpoint hclosed =>
    rw [hpoint] at hs
    exact ⟨⟨hs.1 ▸ List.prefix_refl _, hs.2⟩, List.prefix_refl _⟩
  | copied n free hpoint hlen hroom =>
    rw [hpoint] at hs
    simp only [hpoint]
    exact ⟨⟨by rw [hs.1], prefix_read hs.2 n⟩, List.prefix_append _ _⟩
  -- what is cut off here was read, but is not sent any more
  | blocked n free hpoint hlen hroom =>
    rw [hpoint] at hs
    refine ⟨⟨?_, prefix_read hs.2 n⟩, List.prefix_append _ _⟩
    rw [hs.1]
    exact (List.prefix_append_right_inj _).mpr (List.take_prefix free _)
  | lost n k hpoint hclosed =>
    rw [hpoint] at hs
    refine ⟨⟨?_, prefix_read hs.2 n⟩, List.prefix_append _ _⟩
    rw [hs.1]
    exact (List.prefix_append_right_inj _).mpr (List.take_prefix k _)
  | download registered bytes hpoint =>
    exact ⟨hs, List.prefix_refl _⟩
  | unwritten registered bytes n hpoint =>
    rw [hpoint] at hs
    exact ⟨⟨hs.1 ▸ List.prefix_refl _, hs.2⟩, List.prefix_refl _⟩
  | closed recv registered hpoint hclosed =>
    rw [hpoint] at hs
    exact ⟨⟨hs.1 ▸ List.prefix_refl _, hs.2⟩, List.prefix_refl _⟩

/-- Nothing is sent behind the end. -/
theorem shut_step (hshut : s.point.shut = true) (h : (main stdin).step s l s') :
    s'.point.shut = true ∧ s'.sent = s.sent := by
  have hcases := step_cases h
  cases hcases with
  | hangup => exact ⟨hshut, rfl⟩
  | nothing => exact ⟨hshut, rfl⟩
  | handshake l point hpoint =>
    rcases hpoint with hpoint | ⟨result, hpoint⟩
    · rw [hpoint] at hshut
      cases hshut
    · rw [hpoint] at hshut
      cases hshut
  | stdin_eof _ hpoint | shutdown _ hpoint | copied _ _ hpoint | blocked _ _ hpoint
  | lost _ _ hpoint =>
    rw [hpoint] at hshut
    cases hshut
  | download => exact ⟨hshut, rfl⟩
  | unwritten | closed => exact ⟨rfl, rfl⟩

theorem hears_answered {result : Bytes} (hreceived : s.received = []) (hwritten : s.written = []) :
    (answered s result).point.Hears result (answered s result).received
      (answered s result).written := by
  simp only [answered, hreceived, hwritten]
  split
  · next hok => exact ⟨by rw [hok, List.append_nil], rfl⟩
  · rfl

/-- The branch of the loop for stdin reads nothing from the socket. -/
theorem hears_stdin {n : Nat} {send : Send} (hpoint : s.point = .relaying true)
    (hs : s.point.Hears taken s.received s.written) (h : copyStdin stdin s n send = some s') :
    s'.point.Hears taken s'.received s'.written := by
  rw [hpoint] at hs
  cases copyStdin_cases hpoint h with
  | stdin_eof => exact hs
  | copied =>
    simp only [hpoint]
    exact hs
  | shutdown | blocked | lost => exact ⟨hs.1, hs.2 ▸ List.prefix_refl _⟩
  | handshake _ _ hother =>
    rcases hother with hother | ⟨_, hother⟩
    · rw [hpoint] at hother
      cases hother
    · rw [hpoint] at hother
      cases hother

theorem hears_socket {registered : Bool} {recv : Recv} (hpoint : s.point = .relaying registered)
    (hs : s.point.Hears taken s.received s.written) (h : copySocket s recv = some s') :
    s'.point.Hears (taken ++ (Label.socket recv).heard) s'.received s'.written := by
  rw [hpoint] at hs
  obtain ⟨htaken, hwritten⟩ := hs
  have hended : s.written <+: s.received := hwritten ▸ List.prefix_refl _
  cases recv with
  | data bytes write =>
    rw [show taken ++ (Label.socket (.data bytes write)).heard = taken ++ bytes from rfl, htaken,
      List.append_assoc]
    simp only [copySocket] at h
    split at h
    · cases h
    cases write with
    | all =>
      obtain rfl := Option.some.inj h
      simp only [hpoint]
      exact ⟨rfl, by rw [hwritten]⟩
    | part n =>
      obtain rfl := Option.some.inj h
      refine ⟨rfl, ?_⟩
      show s.written ++ bytes.take n <+: s.received ++ bytes
      rw [hwritten]
      exact (List.prefix_append_right_inj _).mpr (List.take_prefix n bytes)
  | blocked =>
    obtain rfl := Option.some.inj h
    rw [show taken ++ (Label.socket .blocked).heard = taken from List.append_nil _, hpoint]
    exact ⟨htaken, hwritten⟩
  | eof =>
    rw [show taken ++ (Label.socket .eof).heard = taken from List.append_nil _]
    simp only [copySocket] at h
    split at h
    · obtain rfl := Option.some.inj h
      exact ⟨htaken, hended⟩
    · cases h
  | lost =>
    rw [show taken ++ (Label.socket .lost).heard = taken from List.append_nil _]
    simp only [copySocket] at h
    split at h
    · obtain rfl := Option.some.inj h
      exact ⟨htaken, hended⟩
    · cases h

theorem hears_step (hs : s.point.Hears taken s.received s.written)
    (h : (main stdin).step s l s') :
    s'.point.Hears (taken ++ l.heard) s'.received s'.written := by
  simp only [Lts.System.step, main] at h
  cases l with
  | hangup =>
    obtain rfl := Option.some.inj h
    rw [show taken ++ Label.hangup.heard = taken from List.append_nil _]
    exact hs
  | request raises =>
    rw [show taken ++ (Label.request raises).heard = taken from List.append_nil _]
    simp only [next] at h
    split at h
    · next hpoint =>
      obtain rfl := Option.some.inj h
      rw [hpoint] at hs
      cases raises with
      | true => exact hs.2.2
      | false => exact hs
    · cases h
  | answer byte =>
    simp only [next] at h
    split at h
    · next result byte hpoint =>
      rw [hpoint] at hs
      obtain ⟨rfl, hreceived, hwritten⟩ := hs
      split at h
      · obtain rfl := Option.some.inj h
        exact hears_answered hreceived hwritten
      · obtain rfl := Option.some.inj h
        exact ⟨rfl, hreceived, hwritten⟩
    · next result hpoint =>
      rw [hpoint] at hs
      obtain ⟨rfl, hreceived, hwritten⟩ := hs
      rw [show taken ++ (Label.answer none).heard = taken from List.append_nil _]
      split at h
      · obtain rfl := Option.some.inj h
        exact hears_answered hreceived hwritten
      · cases h
    · cases h
  | raise =>
    rw [show taken ++ Label.raise.heard = taken from List.append_nil _]
    simp only [next] at h
    split at h
    · next result hpoint =>
      obtain rfl := Option.some.inj h
      rw [hpoint] at hs
      exact hs.2.2
    · cases h
  | stdin n send =>
    rw [show taken ++ (Label.stdin n send).heard = taken from List.append_nil _]
    simp only [next] at h
    split at h
    · next hpoint => exact hears_stdin hpoint hs h
    · cases h
  | socket recv =>
    simp only [next] at h
    split at h
    · next registered hpoint => exact hears_socket hpoint hs h
    · cases h

end ProxyConnect

/-! ### The two together -/

namespace EndToEnd

open TcpProxy (newline okLine)

structure State where
  client : ProxyConnect.State
  proxy : TcpProxy.State
  /-- read by the client from the socket -/
  taken : Bytes

inductive Label where
  | client (l : ProxyConnect.Label)
  | proxy (l : TcpProxy.Label)

/-- What the client has written to the socket; while it is in `sendall` of the
    request line, the proxy may read it already. -/
def State.stream (line : Bytes) (s : State) : Bytes := line ++ newline :: s.client.sent

/-- On the way to the proxy. -/
def State.uplink (line : Bytes) (s : State) : Bytes := (s.stream line).drop s.proxy.received.length

/-- On the way to the client. -/
def State.downlink (s : State) : Bytes := s.proxy.to_client.drop s.taken.length

/-- The proxy has shut down its side of the client's socket, or has closed
    it. -/
def proxy_shut (p : TcpProxy.State) : Bool :=
  match p.point with
  | .relaying _ false | .closed => true
  | _ => false

/-- The client reads what the proxy has written, and its end behind all of
    it. -/
def State.offers (s : State) : ProxyConnect.Label → Bool
  | .answer none | .socket .eof => proxy_shut s.proxy && s.taken = s.proxy.to_client
  | l => (s.taken ++ l.heard).isPrefixOf s.proxy.to_client

section system

variable (I : Interp) (line stdin : Bytes)

def next (s : State) : Label → Option State
  | .client l =>
    if s.offers l then
      (ProxyConnect.next stdin s.client l).map fun c =>
        { s with client := c, taken := s.taken ++ l.heard }
    else none
  | .proxy l =>
    -- the proxy sees an end when the client has made one
    if l.eof && !s.client.point.shut then none
    else (TcpProxy.next I (s.stream line) s.proxy l).map fun p => { s with proxy := p }

/-- `proxy_connect.py` with `stdin`, the request line `line` and a
    connection of the proxy. -/
def system : Lts.System State Label where
  init :=
    { client := (ProxyConnect.main stdin).init
      proxy := (TcpProxy.handle I []).init
      taken := [] }
  next := next I line stdin

end system

variable {I : Interp} {line stdin : Bytes} {s s' : State}

/-- What holds of every state of a run. -/
structure Invariant (I : Interp) (line stdin : Bytes) (s : State) : Prop where
  sends : s.client.point.Sends stdin s.client.read s.client.sent
  hears : s.client.point.Hears s.taken s.client.received s.client.written
  taken : s.taken <+: s.proxy.to_client
  proxy : ∀ stream, s.stream line <+: stream →
    (s.client.point.shut = true → stream = s.stream line) →
    Lts.Reachable (TcpProxy.handle I stream) s.proxy

theorem Invariant.init : Invariant I line stdin (system I line stdin).init where
  sends := ⟨rfl, rfl⟩
  hears := ⟨rfl, rfl, rfl⟩
  taken := List.prefix_refl _
  proxy := fun _ _ _ => .init

/-- What is heard has been offered. -/
theorem heard_prefix {l : ProxyConnect.Label} (htaken : s.taken <+: s.proxy.to_client)
    (h : s.offers l = true) : s.taken ++ l.heard <+: s.proxy.to_client := by
  unfold State.offers at h
  split at h
  · rw [show s.taken ++ (ProxyConnect.Label.answer none).heard = s.taken from List.append_nil _]
    exact htaken
  · rw [show s.taken ++ (ProxyConnect.Label.socket .eof).heard = s.taken from List.append_nil _]
    exact htaken
  · exact List.isPrefixOf_iff_prefix.mp h

theorem Invariant.client_step (h : Invariant I line stdin s) {l : ProxyConnect.Label}
    {c : ProxyConnect.State} (hoffers : s.offers l = true)
    (hstep : (ProxyConnect.main stdin).step s.client l c) :
    Invariant I line stdin { s with client := c, taken := s.taken ++ l.heard } where
  sends := (ProxyConnect.sends_step h.sends hstep).1
  hears := ProxyConnect.hears_step h.hears hstep
  taken := heard_prefix h.taken hoffers
  proxy := by
    intro stream hextends hfinal
    have hsent := (ProxyConnect.sends_step h.sends hstep).2
    refine h.proxy stream (List.IsPrefix.trans ?_ hextends) fun hshut => ?_
    · exact (List.prefix_append_right_inj _).mpr ((List.prefix_cons_inj newline).mpr hsent)
    · obtain ⟨hshut', hsame⟩ := ProxyConnect.shut_step hshut hstep
      rw [hfinal hshut']
      show line ++ newline :: c.sent = line ++ newline :: s.client.sent
      rw [hsame]

theorem Invariant.proxy_step (h : Invariant I line stdin s) {l : TcpProxy.Label}
    {p : TcpProxy.State} (heof : l.eof = true → s.client.point.shut = true)
    (hstep : (TcpProxy.handle I (s.stream line)).step s.proxy l p) :
    Invariant I line stdin { s with proxy := p } where
  sends := h.sends
  hears := h.hears
  taken := h.taken.trans (TcpProxy.to_client_step hstep)
  proxy := by
    intro stream hextends hfinal
    have hlonger : (TcpProxy.handle I stream).step s.proxy l p :=
      TcpProxy.next_extend hextends (fun hend => hfinal (heof hend)) hstep
    exact (h.proxy stream hextends hfinal).step hlonger

theorem Invariant.step (h : Invariant I line stdin s) {l : Label}
    (hstep : (system I line stdin).step s l s') : Invariant I line stdin s' := by
  cases l with
  | client l =>
    simp only [Lts.System.step, system, next] at hstep
    split at hstep
    · next hoffers =>
      obtain ⟨c, hc, rfl⟩ := Option.map_eq_some_iff.mp hstep
      exact h.client_step hoffers hc
    · cases hstep
  | proxy l =>
    simp only [Lts.System.step, system, next] at hstep
    split at hstep
    · cases hstep
    · next hguard =>
      obtain ⟨p, hp, rfl⟩ := Option.map_eq_some_iff.mp hstep
      refine h.proxy_step (fun hend => ?_) hp
      simpa [hend] using hguard

/-! ### The upload -/

/-- What the proxy does is what the request line asks for. -/
theorem Invariant.framed (h : Invariant I line stdin s) (hshort : line.length < 512) :
    TcpProxy.Framed I (s.stream line) s.proxy := by
  refine TcpProxy.framed ?_ (h.proxy _ (List.prefix_refl _) fun _ => rfl)
  rintro ⟨-, hnone, -⟩
  refine hnone ?_
  rw [State.stream, List.take_append, List.mem_append]
  obtain ⟨n, hn⟩ : ∃ n, 512 - line.length = n + 1 := ⟨512 - line.length - 1, by omega⟩
  rw [hn, List.take_succ_cons]
  exact .inr (List.mem_cons_self)

/-- The client's payload is what it has sent behind the request line. -/
theorem attempted_stream (hline : newline ∉ line) (hframed : TcpProxy.Framed I (s.stream line) s.proxy)
    {target : Nat × Int} (hattempted : s.proxy.attempted = some target) :
    TcpProxy.Requests I line target ∧
      TcpProxy.Attempted line s.client.sent target s.proxy := by
  rcases hframed with hnone | ⟨line', payload, target', hstream, hline', -, hrequests, hs⟩
  · rw [hnone.attempted] at hattempted
    cases hattempted
  · obtain rfl := Option.some.inj (hs.attempted.symm.trans hattempted)
    have hsame : line = line' := by
      have h := congrArg TcpProxy.line_of hstream
      rwa [State.stream, TcpProxy.line_of_append hline, TcpProxy.line_of_append hline'] at h
    have hpayload : s.client.sent = payload := by
      have h := congrArg TcpProxy.remainder_of hstream
      rwa [State.stream, TcpProxy.remainder_of_append hline, TcpProxy.remainder_of_append hline']
        at h
    rw [hsame, hpayload]
    exact ⟨hrequests, hs⟩

theorem Invariant.sent (h : Invariant I line stdin s) :
    s.client.sent <+: s.client.read ∧ s.client.read <+: stdin := by
  have hsends := h.sends
  unfold ProxyConnect.Point.Sends at hsends
  split at hsends
  · rw [hsends.1, hsends.2]
    exact ⟨List.prefix_refl _, List.nil_prefix⟩
  · rw [hsends.1, hsends.2]
    exact ⟨List.prefix_refl _, List.nil_prefix⟩
  · rw [hsends.1, hsends.2]
    exact ⟨List.prefix_refl _, List.nil_prefix⟩
  · rw [hsends.1]
    exact ⟨List.prefix_refl _, hsends.2⟩
  · exact hsends

/-- The vehicle is sent a part of stdin. -/
theorem Invariant.uploaded (h : Invariant I line stdin s) (hline : newline ∉ line)
    (hshort : line.length < 512) : s.proxy.to_upstream <+: s.client.read := by
  have hframed := h.framed hshort
  cases hattempted : s.proxy.attempted with
  | none =>
    rcases hframed with hnone | ⟨_, _, _, -, -, -, -, hs⟩
    · rw [hnone.to_upstream]
      exact List.nil_prefix
    · rw [hs.attempted] at hattempted
      cases hattempted
  | some target =>
    obtain ⟨-, hs⟩ := attempted_stream hline hframed hattempted
    exact hs.sent_prefix.trans h.sent.1

/-- In both loops, what the vehicle has not been sent is on its way. -/
theorem Invariant.uplink (h : Invariant I line stdin s) (hline : newline ∉ line)
    (hshort : line.length < 512) {registered client upstream : Bool}
    (hclient : s.client.point = .relaying registered)
    (hproxy : s.proxy.point = .relaying client upstream) :
    s.client.read = s.proxy.to_upstream ++ s.uplink line := by
  have hframed := h.framed hshort
  obtain ⟨target, hattempted⟩ : ∃ target, s.proxy.attempted = some target := by
    rcases hframed with hnone | ⟨_, _, target, -, -, -, -, hs⟩
    · have hpoint := hnone.point
      rw [hproxy] at hpoint
      cases hpoint
    · exact ⟨target, hs.attempted⟩
  obtain ⟨-, hs⟩ := attempted_stream hline hframed hattempted
  have hpoint := hs.point
  rw [hproxy] at hpoint
  obtain ⟨hreceived, ⟨rest, hrest⟩, -⟩ := hpoint
  have hsends := h.sends
  rw [hclient] at hsends
  have hstream : s.stream line = s.proxy.received ++ rest := by
    rw [State.stream, hreceived, ← hrest, List.append_assoc, List.cons_append]
  rw [← hsends.1, ← hrest, State.uplink, hstream, List.drop_left]

/-! ### The download -/

/-- What the proxy writes down about its sockets. -/
def proxy_events (s s' : State) : Label → List TcpProxy.SocketEvent
  | .client _ => []
  | .proxy l => TcpProxy.socket_events s.proxy s'.proxy l

theorem inside_told_system_step {events : List TcpProxy.SocketEvent}
    (h : TcpProxy.Inside s.proxy ∧ TcpProxy.Told events s.proxy) {l : Label}
    (hsteady : TcpProxy.Steady (events ++ proxy_events s s' l))
    (hstep : (system I line stdin).step s l s') :
    TcpProxy.Inside s'.proxy ∧ TcpProxy.Told (events ++ proxy_events s s' l) s'.proxy := by
  cases l with
  | client l =>
    simp only [Lts.System.step, system, next] at hstep
    split at hstep
    · obtain ⟨c, -, rfl⟩ := Option.map_eq_some_iff.mp hstep
      rw [proxy_events, List.append_nil]
      exact h
    · cases hstep
  | proxy l =>
    simp only [Lts.System.step, system, next] at hstep
    split at hstep
    · cases hstep
    · obtain ⟨p, hp, rfl⟩ := Option.map_eq_some_iff.mp hstep
      exact TcpProxy.inside_told_step h hsteady hp

/-- An error line is not the answer of a connection. -/
theorem not_okLine_errLine {text : PyStr} {errors rest : Bytes}
    (herrors : TcpProxy.errLine text = some errors) : ¬ okLine ++ rest <+: errors := by
  obtain ⟨tail, rfl⟩ := TcpProxy.head_errLine herrors
  intro h
  exact absurd (List.cons_prefix_cons.mp h).1 (by decide)

/-- Stdout gets a part of what the vehicle has sent. -/
theorem Invariant.downloaded (h : Invariant I line stdin s) (hinside : TcpProxy.Inside s.proxy) :
    s.client.written <+: s.proxy.from_upstream := by
  have hopen : ∀ received, s.taken = okLine ++ received →
      received <+: s.proxy.from_upstream := by
    intro received htaken
    have hextends := htaken ▸ h.taken
    rcases hinside.transparent with ⟨text, errors, -, herrors, hshown⟩ | hshown
    · exact absurd (hextends.trans hshown) (not_okLine_errLine herrors)
    · exact (List.prefix_append_right_inj _).mp (hextends.trans hshown)
  have hhears := h.hears
  unfold ProxyConnect.Point.Hears at hhears
  split at hhears
  · rw [hhears.2.2]
    exact List.nil_prefix
  · rw [hhears.2.2]
    exact List.nil_prefix
  · rw [hhears]
    exact List.nil_prefix
  · rw [hhears.2]
    exact hopen _ hhears.1
  · exact hhears.2.trans (hopen _ hhears.1)

/-- In both loops, what stdout has not been given is on its way. -/
theorem Invariant.downlink (h : Invariant I line stdin s) (hinside : TcpProxy.Inside s.proxy)
    {registered client upstream : Bool} (hclient : s.client.point = .relaying registered)
    (hproxy : s.proxy.point = .relaying client upstream) :
    s.proxy.from_upstream = s.client.written ++ s.downlink := by
  have hhears := h.hears
  rw [hclient] at hhears
  obtain ⟨htaken, hwritten⟩ := hhears
  unfold TcpProxy.Inside at hinside
  rw [hproxy] at hinside
  have hrest := (List.prefix_append_right_inj _).mp (hinside ▸ htaken ▸ h.taken)
  obtain ⟨rest, hrest⟩ := hrest
  have hsent : s.proxy.to_client = s.taken ++ rest := by
    rw [hinside, htaken, ← hrest, List.append_assoc]
  rw [State.downlink, hsent, List.drop_left, hwritten, hrest]

/-- `proxy_connect.py` and the proxy are a pipe between ssh and the vehicle.
    The connection is one that the request line asks for; the vehicle is sent
    what has come in at stdin, from the first byte on, and stdout is given what
    the vehicle has sent, as long as nothing makes the proxy write an error line
    into the open stream.  While both are in their loops, nothing is lost: what
    is missing at the far end is on its way. -/
theorem tunnel_end_to_end (hline : newline ∉ line) (hshort : line.length < 512) {ls : List Label}
    (hsteady : TcpProxy.Steady
      ((system I line stdin).record proxy_events (system I line stdin).init ls)) :
    let s := (system I line stdin).play ls
    (∀ target, s.proxy.attempted = some target → TcpProxy.Requests I line target) ∧
      s.proxy.to_upstream <+: s.client.read ∧ s.client.read <+: stdin ∧
      s.client.written <+: s.proxy.from_upstream ∧
      ∀ registered client upstream, s.client.point = .relaying registered →
        s.proxy.point = .relaying client upstream →
          s.client.read = s.proxy.to_upstream ++ s.uplink line ∧
            s.proxy.from_upstream = s.client.written ++ s.downlink := by
  have hinit : TcpProxy.Inside (system I line stdin).init.proxy ∧
      TcpProxy.Told [] (system I line stdin).init.proxy := ⟨⟨rfl, rfl⟩, trivial⟩
  have h : Invariant I line stdin ((system I line stdin).play ls) :=
    Lts.Reachable.invariant .init (fun _ _ _ _ h hstep => h.step hstep) (Lts.reachable_play ls)
  have hinside := And.left (Lts.record_rule (f := proxy_events) (C := fun _ _ => True)
    (P := fun events s => TcpProxy.Steady events →
      TcpProxy.Inside s.proxy ∧ TcpProxy.Told events s.proxy)
    (fun _ _ _ _ h _ hstep hsteady =>
      inside_told_system_step (h (List.pairwise_append.mp hsteady).1) hsteady hstep)
    (fun _ => hinit) (Lts.along_of_forall (fun _ _ => trivial) _ ls) hsteady)
  refine ⟨fun target hattempted => ?_, h.uploaded hline hshort, h.sent.2, h.downloaded hinside,
    fun registered client upstream hclient hproxy => ?_⟩
  · exact (attempted_stream hline (h.framed hshort) hattempted).1
  · exact ⟨h.uplink hline hshort hclient hproxy, h.downlink hinside hclient hproxy⟩

/-- `CONNECT 172.26.0.1 22` -/
def sampleLine : Bytes := (Utf8.encode "CONNECT 172.26.0.1 22".py).getD []

/-- Three bytes go to the vehicle; of two that it sends, one has come back. -/
def sampleSession : List Label :=
  [.client (.request false), .proxy (.read 22), .proxy .connected, .proxy (.send .all),
    .client (.answer (some 0x4F)), .client (.answer (some 0x4B)), .client (.answer (some 0x0A)),
    .client (.stdin 3 (.room 3)), .proxy (.upload 3 .all), .proxy (.download [0x68, 0x69] .all),
    .client (.socket (.data [0x68] .all))]

theorem tunnel_end_to_end_sample :
    let s := (system sampleInterp sampleLine [1, 2, 3]).play sampleSession
    s.client.read = s.proxy.to_upstream ++ s.uplink sampleLine ∧
      s.proxy.from_upstream = s.client.written ++ s.downlink := by
  have hsteady : TcpProxy.Steady ((system sampleInterp sampleLine [1, 2, 3]).record proxy_events
      (system sampleInterp sampleLine [1, 2, 3]).init sampleSession) := by decide +kernel
  obtain ⟨-, -, -, -, hboth⟩ := tunnel_end_to_end (by decide) (by decide) hsteady
  exact hboth true true true (by decide +kernel) (by decide +kernel)

end EndToEnd

end BoVpnAgent

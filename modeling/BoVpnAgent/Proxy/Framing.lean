import BoVpnAgent.Proxy.TcpProxy
import BoVpnAgent.Service

/-! # How the proxy frames a request

    The loop of `handle` reads until a newline or 512 bytes have come in, in
    chunks of any size.  What is left of the last chunk behind the newline is
    sent to the upstream by hand, the rest of the stream by `relay`.

    This file defines:
    - `Asks`: the stream asks for a connection, stated on the stream alone
    - `Framing`: what `handle` does is what the stream asks for
    - `LongLine`: the streams for which it is not, a request of 512 bytes
      without a newline
-/

namespace BoVpnAgent.TcpProxy

variable {I : Interp} {stream : Bytes} {s s' : State} {l : Label}

/-! ### Requests -/

/-- A line of ASCII bytes as text. -/
def asciiText (line : Bytes) : PyStr := line.map fun b => Fin.ofNat 0x110000 b.toNat

variable (I) in
/-- The line is `CONNECT`, an address inside 172.26.0.0/15 and an integer,
    separated by whitespace. -/
structure Requests (line : Bytes) (target : Nat × Int) : Prop where
  ascii : ∀ b ∈ line, b.toNat < 0x80
  words : ∃ ip port, PyStr.split (PyStr.strip (asciiText line)) = ["CONNECT".py, ip, port] ∧
    IpAddress.ipv4? ip = some target.1 ∧ PyStr.toInt I.int_max_str_digits port = some target.2
  network : 0xAC1A0000 ≤ target.1 ∧ target.1 ≤ 0xAC1BFFFF

theorem in_network_iff {address : Nat} :
    in_network address = true ↔ 0xAC1A0000 ≤ address ∧ address ≤ 0xAC1BFFFF := by
  rw [in_network, IpAddress.inNetwork, beq_iff_eq]
  omega

theorem decode_ascii_ok {line : Bytes} {text : PyStr} :
    decode_ascii line = .ok text ↔ (∀ b ∈ line, b.toNat < 0x80) ∧ text = asciiText line := by
  unfold decode_ascii
  cases hfind : line.findIdx? (0x80 ≤ ·.toNat) with
  | some i =>
    have hnot : ¬ ∀ b ∈ line, b.toNat < 0x80 := by
      intro hall
      obtain ⟨hi, hbyte, -⟩ := List.findIdx?_eq_some_iff_getElem.mp hfind
      have hlt := hall _ (List.getElem_mem hi)
      have hge := of_decide_eq_true hbyte
      omega
    simp [hnot]
  | none =>
    have hall : ∀ b ∈ line, b.toNat < 0x80 := by
      intro b hb
      have h := List.findIdx?_eq_none_iff.mp hfind b hb
      simpa using h
    simp only [Except.ok.injEq]
    exact ⟨fun h => ⟨hall, h.symm⟩, fun h => h.2.symm⟩

/-- The checks of `handle` accept exactly the request lines. -/
theorem parse_request_ok {line : Bytes} {target : Nat × Int} :
    parse_request I line = .ok target ↔ Requests I line target := by
  constructor
  · intro h
    unfold parse_request at h
    cases hdecode : decode_ascii line with
    | error text => rw [hdecode] at h; cases h
    | ok text =>
      rw [hdecode] at h
      obtain ⟨hascii, rfl⟩ := decode_ascii_ok.mp hdecode
      simp only [bind, Except.bind] at h
      split at h
      · next command ip port hwords =>
        split at h
        · cases h
        · next hcommand =>
          split at h
          · next address haddress =>
            split at h
            · next hnetwork =>
              split at h
              · next n hn =>
                cases h
                rw [not_not.mp hcommand] at hwords
                exact ⟨hascii, ⟨ip, port, hwords, haddress, hn⟩, in_network_iff.mp hnetwork⟩
              · cases h
            · cases h
          · split at h <;> cases h
      · cases h
  · rintro ⟨hascii, ⟨ip, port, hwords, haddress, hn⟩, hnetwork⟩
    have hdecode : decode_ascii line = .ok (asciiText line) := decode_ascii_ok.mpr ⟨hascii, rfl⟩
    have hnetwork' : in_network target.1 = true := in_network_iff.mpr hnetwork
    simp [parse_request, hdecode, bind, Except.bind, hwords, haddress, hn, hnetwork']

variable (I) in
/-- The stream asks for a connection to `target`: its first newline is among
    the first 512 bytes and ends a request line, and the payload follows. -/
def Asks (stream : Bytes) (target : Nat × Int) (payload : Bytes) : Prop :=
  ∃ line, stream = line ++ newline :: payload ∧ newline ∉ line ∧ line.length < 512 ∧
    Requests I line target

/-! ### Lines -/

theorem line_of_append {line rest : Bytes} (hline : newline ∉ line) :
    line_of (line ++ newline :: rest) = line := by
  have hall : ∀ b ∈ line, decide (b ≠ newline) = true := by
    intro b hb
    exact decide_eq_true fun h => hline (h ▸ hb)
  unfold line_of
  rw [List.takeWhile_append_of_pos hall]
  simp

theorem remainder_of_append {line rest : Bytes} (hline : newline ∉ line) :
    remainder_of (line ++ newline :: rest) = rest := by
  have hall : ∀ b ∈ line, decide (b ≠ newline) = true := by
    intro b hb
    exact decide_eq_true fun h => hline (h ▸ hb)
  unfold remainder_of
  rw [List.dropWhile_append_of_pos hall]
  simp

theorem newline_notMem_line_of (request : Bytes) : newline ∉ line_of request := by
  intro hmem
  have h := List.mem_takeWhile_imp hmem
  simp at h

theorem split_at_newline {request : Bytes} (h : newline ∈ request) :
    request = line_of request ++ newline :: remainder_of request := by
  have htake := List.takeWhile_append_dropWhile (p := (· ≠ newline)) (l := request)
  have hdrop : request.dropWhile (· ≠ newline) = newline :: remainder_of request := by
    unfold remainder_of
    cases hd : request.dropWhile (· ≠ newline) with
    | nil =>
      have hall := List.dropWhile_eq_nil_iff.mp hd newline h
      simp at hall
    | cons b bs =>
      have hb : b = newline := by
        have hhead := List.head?_dropWhile_not (· ≠ newline) request
        rw [hd] at hhead
        simpa using hhead
      rw [hb]
      rfl
  rw [hdrop] at htake
  exact htake.symm

theorem line_of_eq_self {request : Bytes} (h : newline ∉ request) : line_of request = request := by
  unfold line_of
  rw [List.takeWhile_eq_self_iff]
  intro b hb
  exact decide_eq_true fun heq => h (heq ▸ hb)

variable (I) in
/-- A request line that fills the 512 bytes and has no newline. -/
def LongLine (stream : Bytes) : Prop :=
  512 ≤ stream.length ∧ newline ∉ stream.take 512 ∧ ∃ target, Requests I (stream.take 512) target

theorem Asks.unique {target target' : Nat × Int} {payload payload' : Bytes}
    (h : Asks I stream target payload) (h' : Asks I stream target' payload') :
    target = target' ∧ payload = payload' := by
  obtain ⟨line, rfl, hline, -, hrequests⟩ := h
  obtain ⟨line', heq, hline', -, hrequests'⟩ := h'
  have h₁ : line = line' := by
    have h := congrArg line_of heq
    rwa [line_of_append hline, line_of_append hline'] at h
  have h₂ : payload = payload' := by
    have h := congrArg remainder_of heq
    rwa [remainder_of_append hline, remainder_of_append hline'] at h
  subst h₁
  have hok := parse_request_ok.mpr hrequests
  rw [parse_request_ok.mpr hrequests'] at hok
  exact ⟨(Except.ok.inj hok).symm, h₂⟩

/-! ### Where the bytes are -/

/-- No connection has been attempted. -/
structure Unattempted (stream : Bytes) (s : State) : Prop where
  attempted : s.attempted = none
  to_upstream : s.to_upstream = []
  point : match s.point with
    | .reading => s.received <+: stream ∧ newline ∉ s.received ∧ s.received.length < 512
    | .failing _ | .closed => True
    | _ => False

/-- A connection to `target` has been attempted, with `line` in front of the
    payload. -/
structure Attempted (line payload : Bytes) (target : Nat × Int) (s : State) : Prop where
  attempted : s.attempted = some target
  point : match s.point with
    | .reading => False
    | .connecting rest | .greeting rest | .forwarding rest =>
      s.received = line ++ newline :: rest ∧ rest <+: payload ∧ s.to_upstream = []
    | .relaying client _ =>
      s.received = line ++ newline :: s.to_upstream ∧ s.to_upstream <+: payload ∧
        (client = false → s.to_upstream = payload)
    | .failing _ | .closed => s.to_upstream <+: payload

variable (I) in
/-- What `handle` has done so far is what the stream asks for. -/
def Framed (stream : Bytes) (s : State) : Prop :=
  Unattempted stream s ∨
    ∃ line payload target, stream = line ++ newline :: payload ∧ newline ∉ line ∧
      line.length < 512 ∧ Requests I line target ∧ Attempted line payload target s

/-- The next chunk of the stream continues what has been read. -/
theorem chunk_prefix {read payload : Bytes} (h : read <+: payload) (n : Nat) :
    read ++ (payload.drop read.length).take n <+: payload := by
  obtain ⟨rest, rfl⟩ := h
  rw [List.drop_left, List.prefix_append_right_inj]
  exact List.take_prefix n rest

theorem drop_payload (line payload : Bytes) {sent : Bytes} :
    (line ++ newline :: payload).drop (line ++ newline :: sent).length =
      payload.drop sent.length := by
  have hlen : (line ++ newline :: sent).length = (line ++ [newline]).length + sent.length := by
    simp only [List.length_append, List.length_cons, List.length_nil]
    omega
  have heq : line ++ newline :: payload = (line ++ [newline]) ++ payload := by simp
  rw [hlen, heq, List.drop_length_add_append]

/-- The request has been read and is a request line. -/
theorem framed_parsed {request : Bytes} (hlong : ¬ LongLine I stream)
    (hs : s.attempted = none ∧ s.to_upstream = []) (hpart : request <+: stream)
    (hlength : request.length ≤ 512) (hend : newline ∈ request ∨ request.length = 512) :
    Framed I stream (parsed I s request) := by
  unfold parsed
  split
  · next target htarget =>
    have hrequests := parse_request_ok.mp htarget
    by_cases hnewline : newline ∈ request
    · have hsplit := split_at_newline hnewline
      obtain ⟨rest, hrest⟩ := hpart
      have hshort : (line_of request).length < 512 := by
        have h := congrArg List.length hsplit
        simp only [List.length_append, List.length_cons] at h
        omega
      have hstream : stream = line_of request ++ newline :: (remainder_of request ++ rest) := by
        rw [← hrest]
        conv_lhs => rw [hsplit]
        simp
      exact .inr ⟨_, _, target, hstream, newline_notMem_line_of request, hshort, hrequests,
        ⟨rfl, hsplit, List.prefix_append _ _, hs.2⟩⟩
    · -- 512 bytes without a newline
      have hfull := hend.resolve_left hnewline
      have htake : stream.take 512 = request := by
        rw [List.prefix_iff_eq_take.mp hpart, hfull]
      rw [line_of_eq_self hnewline] at hrequests
      refine absurd ⟨?_, ?_, target, ?_⟩ hlong
      · rw [← hfull]
        exact hpart.length_le
      · rw [htake]
        exact hnewline
      · rw [htake]
        exact hrequests
  · exact .inl ⟨hs.1, hs.2, trivial⟩

theorem unattempted_step (hlong : ¬ LongLine I stream) (hs : Unattempted stream s)
    (hstep : (handle I stream).step s l s') : Framed I stream s' := by
  have hcases := step_cases hstep
  have hpoint' := hs.point
  cases hcases with
  | eof hpoint => exact .inl ⟨hs.attempted, hs.to_upstream, trivial⟩
  | chunk n hpoint hpos hlen hroom hline =>
    refine .inl ⟨hs.attempted, hs.to_upstream, ?_⟩
    rw [hpoint]
    refine ⟨List.take_prefix _ _, hline, ?_⟩
    rw [List.length_take]
    omega
  | request n hpoint hpos hlen hroom hend =>
    have hlength : (stream.take (s.received.length + n)).length = s.received.length + n := by
      rw [List.length_take]
      omega
    refine framed_parsed hlong ⟨hs.attempted, hs.to_upstream⟩ (List.take_prefix _ _) ?_ ?_
    · omega
    · exact hend.imp_right fun h => hlength.trans h
  | connected remainder hpoint => rw [hpoint] at hpoint'; cases hpoint'
  | greeted remainder sent hpoint => rw [hpoint] at hpoint'; cases hpoint'
  | forwarded remainder sent hpoint => rw [hpoint] at hpoint'; cases hpoint'
  | reported text line sent hpoint => exact .inl ⟨hs.attempted, hs.to_upstream, trivial⟩
  | unreported text sent hpoint => exact .inl ⟨hs.attempted, hs.to_upstream, trivial⟩
  | client_eof upstream sent hpoint => rw [hpoint] at hpoint'; cases hpoint'
  | uploaded n upstream sent hpoint => rw [hpoint] at hpoint'; cases hpoint'
  | upstream_eof client sent hpoint => rw [hpoint] at hpoint'; cases hpoint'
  | downloaded client data sent hpoint => rw [hpoint] at hpoint'; cases hpoint'
  | raised error hpoint => exact .inl ⟨hs.attempted, hs.to_upstream, trivial⟩

variable {line payload : Bytes} {target : Nat × Int}

theorem Attempted.all_sent {upstream : Bool} (hs : Attempted line payload target s)
    (hpoint : s.point = .relaying true upstream) (hall : s.received = line ++ newline :: payload) :
    s.to_upstream = payload := by
  have hpoint' := hs.point
  rw [hpoint] at hpoint'
  have h := hpoint'.1.symm.trans hall
  exact (List.cons.inj (List.append_cancel_left h)).2

/-- `relay` drops a source, and the client's only at its end. -/
theorem attempted_relayPoint {client upstream : Bool} (hattempted : s.attempted = some target)
    (hreceived : s.received = line ++ newline :: s.to_upstream)
    (hpart : s.to_upstream <+: payload) (hall : client = false → s.to_upstream = payload) :
    Attempted line payload target { s with point := relayPoint client upstream } := by
  by_cases hany : (client || upstream) = true
  · have hpoint : relayPoint client upstream = .relaying client upstream := if_pos hany
    rw [hpoint]
    exact ⟨hattempted, hreceived, hpart, hall⟩
  · have hpoint : relayPoint client upstream = .closed := if_neg hany
    rw [hpoint]
    exact ⟨hattempted, hpart⟩

theorem attempted_step (hs : Attempted line payload target s)
    (hstep : (handle I (line ++ newline :: payload)).step s l s') :
    Attempted line payload target s' := by
  have hcases := step_cases hstep
  have hpoint' := hs.point
  -- the target is known, so the line has been read: what is left of the stream is the payload
  cases hcases with
  | eof hpoint => rw [hpoint] at hpoint'; cases hpoint'
  | chunk n hpoint => rw [hpoint] at hpoint'; cases hpoint'
  | request n hpoint => rw [hpoint] at hpoint'; cases hpoint'
  | connected remainder hpoint =>
    rw [hpoint] at hpoint'
    exact ⟨hs.attempted, hpoint'⟩
  | greeted remainder sent hpoint =>
    rw [hpoint] at hpoint'
    obtain ⟨hreceived, hpart, hnone⟩ := hpoint'
    -- the rest of the first chunk is forwarded before the relay starts
    cases sent with
    | all =>
      by_cases hremainder : remainder = []
      · subst hremainder
        refine ⟨hs.attempted, ?_, ?_, ?_⟩
        · show s.received = line ++ newline :: s.to_upstream
          rw [hreceived, hnone]
        · show s.to_upstream <+: payload
          rw [hnone]
          exact List.nil_prefix
        · exact fun h => nomatch h
      · have hforward : (if remainder = [] then Point.relaying true true else .forwarding remainder) =
            .forwarding remainder := if_neg hremainder
        simp only [Sent.point, hforward]
        exact ⟨hs.attempted, hreceived, hpart, hnone⟩
    | part n error =>
      refine ⟨hs.attempted, ?_⟩
      show s.to_upstream <+: payload
      rw [hnone]
      exact List.nil_prefix
  | forwarded remainder sent hpoint =>
    rw [hpoint] at hpoint'
    obtain ⟨hreceived, hpart, hnone⟩ := hpoint'
    cases sent with
    | all =>
      refine ⟨hs.attempted, ?_, ?_, ?_⟩
      · show s.received = line ++ newline :: (s.to_upstream ++ remainder)
        rw [hreceived, hnone, List.nil_append]
      · show s.to_upstream ++ remainder <+: payload
        rw [hnone, List.nil_append]
        exact hpart
      · exact fun h => nomatch h
    | part n error =>
      refine ⟨hs.attempted, ?_⟩
      show s.to_upstream ++ remainder.take n <+: payload
      rw [hnone, List.nil_append]
      exact (List.take_prefix n remainder).trans hpart
  | reported text line sent hpoint =>
    rw [hpoint] at hpoint'
    exact ⟨hs.attempted, hpoint'⟩
  | unreported text sent hpoint =>
    rw [hpoint] at hpoint'
    exact ⟨hs.attempted, hpoint'⟩
  | client_eof upstream sent hpoint hall =>
    rw [hpoint] at hpoint'
    obtain ⟨hreceived, hpart, -⟩ := hpoint'
    exact attempted_relayPoint hs.attempted hreceived hpart fun _ => hs.all_sent hpoint hall
  | uploaded n upstream sent hpoint =>
    rw [hpoint] at hpoint'
    obtain ⟨hreceived, hpart, -⟩ := hpoint'
    have hdata : ((line ++ newline :: payload).drop s.received.length).take n =
        (payload.drop s.to_upstream.length).take n := by
      rw [hreceived, drop_payload]
    rw [hdata]
    have hchunk := chunk_prefix hpart n
    cases sent with
    | all =>
      refine ⟨hs.attempted, ?_, hchunk, fun h => nomatch h⟩
      show s.received ++ _ = line ++ newline :: (s.to_upstream ++ _)
      rw [hreceived, List.append_assoc, List.cons_append]
      rfl
    | part m error =>
      refine ⟨hs.attempted, ?_⟩
      refine List.IsPrefix.trans ?_ hchunk
      exact (List.prefix_append_right_inj _).mpr (List.take_prefix m _)
  | upstream_eof client sent hpoint =>
    rw [hpoint] at hpoint'
    obtain ⟨hreceived, hpart, hdone⟩ := hpoint'
    exact attempted_relayPoint hs.attempted hreceived hpart hdone
  | downloaded client data sent hpoint =>
    rw [hpoint] at hpoint'
    cases sent with
    | all => exact ⟨hs.attempted, hpoint'⟩
    | part n error => exact ⟨hs.attempted, hpoint'.2.1⟩
  -- what was sent before the exception stays a part of the payload
  | raised error hpoint =>
    refine ⟨hs.attempted, ?_⟩
    rcases hpoint with hpoint | ⟨remainder, hpoint⟩ | ⟨client, upstream, hpoint⟩
    · rw [hpoint] at hpoint'
      cases hpoint'
    · rw [hpoint] at hpoint'
      show s.to_upstream <+: payload
      rw [hpoint'.2.2]
      exact List.nil_prefix
    · rw [hpoint] at hpoint'
      exact hpoint'.2.1

theorem framed (hlong : ¬ LongLine I stream) (h : Lts.Reachable (handle I stream) s) :
    Framed I stream s := by
  have hinit : Framed I stream (handle I stream).init :=
    .inl ⟨rfl, rfl, List.nil_prefix, List.not_mem_nil, Nat.zero_lt_succ 511⟩
  refine h.invariant hinit ?_
  intro s l s' _ hs hstep
  rcases hs with hs | ⟨line, payload, target, rfl, hline, hshort, hrequests, hs⟩
  · exact unattempted_step hlong hs hstep
  · exact .inr ⟨line, payload, target, rfl, hline, hshort, hrequests, attempted_step hs hstep⟩

/-! ### Runs without socket errors -/

/-- No operation on a socket raises. -/
def undisturbed : Label → Bool
  | .read _ | .connected => true
  | .send sent | .upload _ sent | .download _ sent => sent.complete
  | .raise _ => false

variable (I) in
/-- `handle` when only the chunks and the order of events vary. -/
def smooth (stream : Bytes) : Lts.System State Label :=
  (handle I stream).restrict fun _ l => undisturbed l

variable (I) in
/-- `handle` fails for a stream that asks for nothing only, and closes when
    all the payload is sent. -/
def Smooth (stream : Bytes) (s : State) : Prop :=
  match s.point with
  | .failing _ => ¬ ∃ target payload, Asks I stream target payload
  | .closed => ∀ target payload, Asks I stream target payload →
      s.attempted = some target ∧ s.to_upstream = payload
  | _ => True

theorem not_asks_of_notMem {k : Nat} (h : newline ∉ stream.take k)
    (hk : 512 ≤ k ∨ stream.length ≤ k) : ¬ ∃ target payload, Asks I stream target payload := by
  rintro ⟨target, payload, line, rfl, -, hshort, -⟩
  refine h ?_
  have hk' : line.length < k := by
    rcases hk with hk | hk
    · omega
    · simp only [List.length_append, List.length_cons] at hk
      omega
  have hsplit : k = line.length + (k - line.length - 1 + 1) := by omega
  rw [hsplit, List.take_length_add_append, List.take_succ_cons]
  simp

/-- A request that is not accepted comes from a stream that asks for
    nothing. -/
theorem not_asks_of_error {k : Nat} {text : PyStr} (hk : k ≤ stream.length)
    (hend : newline ∈ stream.take k ∨ k = 512)
    (h : parse_request I (line_of (stream.take k)) = .error text) :
    ¬ ∃ target payload, Asks I stream target payload := by
  by_cases hnewline : newline ∈ stream.take k
  · rintro ⟨target, payload, line, rfl, hline, -, hrequests⟩
    have hpart := List.take_prefix k (line ++ newline :: payload)
    obtain ⟨rest, hrest⟩ := hpart
    have hstream := congrArg line_of hrest
    rw [split_at_newline hnewline, List.append_assoc, List.cons_append,
      line_of_append (newline_notMem_line_of _), line_of_append hline] at hstream
    rw [hstream, parse_request_ok.mpr hrequests] at h
    cases h
  · have hk' := hend.resolve_left hnewline
    exact not_asks_of_notMem hnewline (.inl hk'.ge)

/-- The end of `relay` with the client at its end. -/
theorem smooth_relayPoint {upstream : Bool} (hs : Framed I stream s)
    (hdone : ∀ line payload target, stream = line ++ newline :: payload →
      Attempted line payload target s → s.to_upstream = payload)
    (hpoint : ∃ client upstream, s.point = .relaying client upstream) :
    Smooth I stream { s with point := relayPoint false upstream } := by
  cases upstream with
  | true => exact trivial
  | false =>
    intro target payload hasks
    obtain ⟨client, upstream, hpoint⟩ := hpoint
    rcases hs with hs | ⟨line, payload', target', hstream, hline, hshort, hrequests, hs⟩
    · have hpoint' := hs.point
      rw [hpoint] at hpoint'
      cases hpoint'
    · obtain ⟨rfl, rfl⟩ := hasks.unique ⟨line, hstream, hline, hshort, hrequests⟩
      exact ⟨hs.attempted, hdone line payload target hstream hs⟩

theorem smooth_step (hframed : Framed I stream s) (hs : Smooth I stream s)
    (hl : undisturbed l = true) (hstep : (handle I stream).step s l s') : Smooth I stream s' := by
  have hcases := step_cases hstep
  -- undisturbed, every send is whole, and the proxy fails only on what the line asks
  cases hcases with
  | eof hpoint hall =>
    intro target payload hasks
    rcases hframed with hframed | ⟨line, payload', target', -, -, -, -, hframed⟩
    · have hpoint' := hframed.point
      rw [hpoint] at hpoint'
      -- the stream has ended inside the line
      have hnone : newline ∉ stream.take stream.length := by
        rw [List.take_length, ← hall]
        exact hpoint'.2.1
      exact absurd ⟨target, payload, hasks⟩ (not_asks_of_notMem hnone (.inr le_rfl))
    · have hpoint' := hframed.point
      rw [hpoint] at hpoint'
      cases hpoint'
  | chunk n hpoint =>
    unfold Smooth
    rw [hpoint]
    trivial
  | request n hpoint hpos hlen hroom hend =>
    unfold parsed
    split
    · trivial
    · next text htext => exact not_asks_of_error hlen hend htext
  | connected remainder hpoint => exact trivial
  | greeted remainder sent hpoint =>
    rw [Sent.eq_all hl]
    by_cases hremainder : remainder = []
    · subst hremainder
      exact trivial
    · have hforward : (if remainder = [] then Point.relaying true true else .forwarding remainder) =
          .forwarding remainder := if_neg hremainder
      simp only [Sent.point, hforward]
      trivial
  | forwarded remainder sent hpoint => rw [Sent.eq_all hl]; trivial
  | reported text line sent hpoint =>
    unfold Smooth at hs
    rw [hpoint] at hs
    exact fun target payload hasks => absurd ⟨target, payload, hasks⟩ hs
  | unreported text sent hpoint =>
    unfold Smooth at hs
    rw [hpoint] at hs
    exact fun target payload hasks => absurd ⟨target, payload, hasks⟩ hs
  | client_eof upstream sent hpoint hall =>
    refine smooth_relayPoint hframed ?_ ⟨_, _, hpoint⟩
    rintro line payload target rfl hatt
    exact hatt.all_sent hpoint hall
  | uploaded n upstream sent hpoint => rw [Sent.eq_all hl]; trivial
  | upstream_eof client sent hpoint =>
    cases client with
    | true => exact trivial
    | false =>
      refine smooth_relayPoint hframed ?_ ⟨_, _, hpoint⟩
      intro line payload target _ hatt
      have hpoint' := hatt.point
      rw [hpoint] at hpoint'
      exact hpoint'.2.2 rfl
  | downloaded client data sent hpoint => rw [Sent.eq_all hl]; trivial
  | raised error hpoint => cases hl

theorem reachable_handle (h : Lts.Reachable (smooth I stream) s) :
    Lts.Reachable (handle I stream) s := h.of_restrict

theorem smooth_reachable (hlong : ¬ LongLine I stream) (h : Lts.Reachable (smooth I stream) s) :
    Smooth I stream s := by
  have hinit : Smooth I stream (smooth I stream).init := trivial
  refine h.invariant hinit ?_
  intro s l s' hr hs hstep
  obtain ⟨hl, hstep⟩ := Lts.restrict_step.mp hstep
  exact smooth_step (framed hlong (reachable_handle hr)) hs hl hstep

/-! ### Framing -/

variable (I) in
/-- However `stream` is cut into chunks, `handle` connects to what it asks
    for and sends its payload there. -/
structure Framing (stream : Bytes) : Prop where
  /-- with any socket errors, only what is asked for is connected to -/
  attempted_asks : ∀ s target, Lts.Reachable (handle I stream) s → s.attempted = some target →
    ∃ payload, Asks I stream target payload
  /-- and nothing but the payload goes to the upstream, from its first byte on -/
  sent_prefix : ∀ s target payload, Lts.Reachable (handle I stream) s →
    s.attempted = some target → Asks I stream target payload → s.to_upstream <+: payload
  sent_none : ∀ s, Lts.Reachable (handle I stream) s → s.attempted = none → s.to_upstream = []
  /-- the reading loop is never stuck and comes to an end -/
  reads : ∀ s, Lts.Reachable (handle I stream) s → s.point = .reading →
    s.received.length < 512 ∧ (∃ n s', (handle I stream).step s (.read n) s') ∧
      ∀ l s', (handle I stream).step s l s' → s'.point = .reading →
        s.received.length < s'.received.length
  /-- without socket errors, what is asked for is connected to -/
  asks_attempted : ∀ s target payload, Lts.Reachable (smooth I stream) s → s.point ≠ .reading →
    Asks I stream target payload → s.attempted = some target
  /-- and the upstream has all that the client has been read to send -/
  sent_read : ∀ s client upstream, Lts.Reachable (smooth I stream) s →
    s.point = .relaying client upstream → ∀ target payload, Asks I stream target payload →
    payload = s.to_upstream ++ stream.drop s.received.length
  sent_all : ∀ s, Lts.Reachable (smooth I stream) s →
    s.point = .closed ∨ (∃ upstream, s.point = .relaying false upstream) →
    ∀ target payload, Asks I stream target payload → s.to_upstream = payload

theorem Framed.attempted (hs : Framed I stream s) {target : Nat × Int}
    (h : s.attempted = some target) :
    ∃ line payload, stream = line ++ newline :: payload ∧ Asks I stream target payload ∧
      Attempted line payload target s := by
  rcases hs with hs | ⟨line, payload, target', hstream, hline, hshort, hrequests, hs⟩
  · rw [hs.attempted] at h
    cases h
  · have htarget : target' = target := Option.some.inj (hs.attempted.symm.trans h)
    subst htarget
    exact ⟨line, payload, hstream, ⟨line, hstream, hline, hshort, hrequests⟩, hs⟩

theorem Framed.relaying (hs : Framed I stream s) {client upstream : Bool}
    (hpoint : s.point = .relaying client upstream) {target : Nat × Int} {payload : Bytes}
    (hasks : Asks I stream target payload) :
    ∃ line, stream = line ++ newline :: payload ∧ Attempted line payload target s := by
  rcases hs with hs | ⟨line, payload', target', hstream, hline, hshort, hrequests, hs⟩
  · have hpoint' := hs.point
    rw [hpoint] at hpoint'
    cases hpoint'
  · obtain ⟨rfl, rfl⟩ := hasks.unique ⟨line, hstream, hline, hshort, hrequests⟩
    exact ⟨line, hstream, hs⟩

theorem Attempted.sent_prefix (hs : Attempted line payload target s) :
    s.to_upstream <+: payload := by
  have hpoint := hs.point
  split at hpoint
  · cases hpoint
  · rw [hpoint.2.2]; exact List.nil_prefix
  · rw [hpoint.2.2]; exact List.nil_prefix
  · rw [hpoint.2.2]; exact List.nil_prefix
  · exact hpoint.2.1
  · exact hpoint
  · exact hpoint

/-- While the request is read a `recv` of one byte, or of none at the end, is
    possible. -/
theorem can_read (hpoint : s.point = .reading) (hpart : s.received <+: stream)
    (hroom : s.received.length < 512) : ∃ n s', (handle I stream).step s (.read n) s' := by
  unfold Lts.System.step handle
  by_cases hall : s.received = stream
  · refine ⟨0, { s with point := .closed }, ?_⟩
    simp [next, hpoint, read, hall]
  · have hlt : s.received.length < stream.length := by
      refine lt_of_le_of_ne hpart.length_le fun h => hall ?_
      exact hpart.eq_of_length h
    have hlimit : ¬ (512 < s.received.length + 1 ∨ stream.length < s.received.length + 1) := by
      omega
    refine ⟨1, ?_⟩
    simp only [next, hpoint, read, hlimit, Nat.one_ne_zero, if_false]
    split
    · exact ⟨_, rfl⟩
    · exact ⟨_, rfl⟩

/-- A step that stays in the reading loop has read something. -/
theorem reading_grows (hpoint : s.point = .reading) (hstep : (handle I stream).step s l s')
    (hpoint' : s'.point = .reading) : s.received.length < s'.received.length := by
  have hcases := step_cases hstep
  cases hcases with
  | chunk n _ hpos hlen =>
    show _ < (stream.take (s.received.length + n)).length
    rw [List.length_take]
    omega
  | request n _ hpos hlen hroom hend =>
    unfold parsed at hpoint'
    split at hpoint'
    · cases hpoint'
    · cases hpoint'
  | eof | raised => cases hpoint'
  | connected _ h | greeted _ _ h | forwarded _ _ h | reported _ _ _ h | unreported _ _ h
  | client_eof _ _ h | uploaded _ _ _ h | upstream_eof _ _ h | downloaded _ _ _ h =>
    rw [hpoint] at h
    cases h

theorem framing_of_not_longLine (hlong : ¬ LongLine I stream) : Framing I stream where
  attempted_asks s target hr h := by
    obtain ⟨line, payload, -, hasks, -⟩ := (framed hlong hr).attempted h
    exact ⟨payload, hasks⟩
  sent_prefix s target payload hr h hasks := by
    obtain ⟨line, payload', -, hasks', hs⟩ := (framed hlong hr).attempted h
    rw [(hasks.unique hasks').2]
    exact hs.sent_prefix
  sent_none s hr h := by
    rcases framed hlong hr with hs | ⟨line, payload, target, -, -, -, -, hs⟩
    · exact hs.to_upstream
    · rw [hs.attempted] at h
      cases h
  reads s hr hpoint := by
    rcases framed hlong hr with hs | ⟨line, payload, target, -, -, -, -, hs⟩
    · have hpoint' := hs.point
      rw [hpoint] at hpoint'
      exact ⟨hpoint'.2.2, can_read hpoint hpoint'.1 hpoint'.2.2,
        fun l s' hstep => reading_grows hpoint hstep⟩
    · have hpoint' := hs.point
      rw [hpoint] at hpoint'
      cases hpoint'
  -- a proxy that has left the reading without a target has failed on the line
  asks_attempted s target payload hr hpoint hasks := by
    have hsmooth := smooth_reachable hlong hr
    rcases framed hlong (reachable_handle hr) with
      hs | ⟨line, payload', target', hstream, hline, hshort, hrequests, hs⟩
    · have hpoint' := hs.point
      unfold Smooth at hsmooth
      split at hpoint'
      · exact absurd ‹_› hpoint
      · next text hfailing =>
        rw [hfailing] at hsmooth
        exact absurd ⟨target, payload, hasks⟩ hsmooth
      · next hclosed =>
        rw [hclosed] at hsmooth
        exact (hsmooth target payload hasks).1
      · cases hpoint'
    · rw [hs.attempted, (hasks.unique ⟨line, hstream, hline, hshort, hrequests⟩).1]
  sent_read s client upstream hr hpoint target payload hasks := by
    obtain ⟨line, rfl, hs⟩ := (framed hlong (reachable_handle hr)).relaying hpoint hasks
    have hpoint' := hs.point
    rw [hpoint] at hpoint'
    obtain ⟨hreceived, hpart, -⟩ := hpoint'
    rw [hreceived, drop_payload]
    exact List.prefix_append_drop hpart
  sent_all s hr hpoint target payload hasks := by
    rcases hpoint with hpoint | ⟨upstream, hpoint⟩
    · have hsmooth := smooth_reachable hlong hr
      unfold Smooth at hsmooth
      rw [hpoint] at hsmooth
      exact (hsmooth target payload hasks).2
    · obtain ⟨line, -, hs⟩ := (framed hlong (reachable_handle hr)).relaying hpoint hasks
      have hpoint' := hs.point
      rw [hpoint] at hpoint'
      exact hpoint'.2.2 rfl

/-- The `recv` that ends the reading loop. -/
theorem read_request {n k : Nat} (hpoint : s.point = .reading) (hpos : 0 < n)
    (hk : s.received.length + n = k) (hlen : k ≤ stream.length) (hroom : k ≤ 512)
    (hend : newline ∈ stream.take k ∨ k = 512) :
    (handle I stream).step s (.read n) (parsed I s (stream.take k)) := by
  subst hk
  have hn : ¬ n = 0 := by omega
  have hlimit : ¬ (512 < s.received.length + n ∨ stream.length < s.received.length + n) := by omega
  have hlength : (stream.take (s.received.length + n)).length = s.received.length + n := by
    rw [List.length_take]
    omega
  have hend' : newline ∈ stream.take (s.received.length + n) ∨
      512 ≤ (stream.take (s.received.length + n)).length :=
    hend.imp_right fun h => by omega
  show next I stream s (.read n) = _
  simp only [next, hpoint, read, if_neg hn, if_neg hlimit, if_pos hend']

/-- The first `recv` returns a request line of 512 bytes. -/
theorem not_framing_of_longLine (hlong : LongLine I stream) : ¬ Framing I stream := by
  obtain ⟨hlength, hnewline, target, hrequests⟩ := hlong
  intro hframing
  have hstep : (handle I stream).step (handle I stream).init (.read 512)
      (parsed I (handle I stream).init (stream.take 512)) :=
    read_request rfl (by omega) (Nat.zero_add 512) hlength le_rfl (.inr rfl)
  have hattempted : (parsed I (handle I stream).init (stream.take 512)).attempted = some target := by
    simp only [parsed, line_of_eq_self hnewline, parse_request_ok.mpr hrequests]
  obtain ⟨payload, hasks⟩ :=
    hframing.attempted_asks _ target (Lts.Reachable.init.step hstep) hattempted
  exact not_asks_of_notMem hnewline (.inl le_rfl) ⟨target, payload, hasks⟩

/-- Every stream is framed as it asks for, in all chunks, exactly if it does
    not begin with a request line of 512 bytes. -/
theorem framing_iff (I : Interp) (stream : Bytes) : Framing I stream ↔ ¬ LongLine I stream :=
  ⟨fun h hlong => not_framing_of_longLine hlong h, framing_of_not_longLine⟩

/-- `CONNECT 172.26.0.1 22` and blanks up to 512 bytes -/
def blankRequest : Bytes :=
  (Utf8.encode "CONNECT 172.26.0.1 22".py).getD [] ++ List.replicate 491 0x20

theorem blankRequest_not_framed : ¬ Framing sampleInterp blankRequest := by
  refine not_framing_of_longLine ⟨by decide +kernel, by decide +kernel, (0xAC1A0001, 22), ?_⟩
  exact parse_request_ok.mp (by decide +kernel)

end BoVpnAgent.TcpProxy

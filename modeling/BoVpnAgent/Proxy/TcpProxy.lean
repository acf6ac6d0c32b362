import BoVpnAgent.Lib.IpAddress
import BoVpnAgent.Lib.Json
import BoVpnAgent.Lib.Transition

/-! # The TCP proxy

    `handle` of `tcp_proxy.py` as a labelled transition system.  One
    connection is served by one thread, so the only choices are those of the
    sockets: how many bytes a `recv` returns, how many bytes a `sendall` gets
    rid of before it raises, and which side is ready next.

    The system is parameterized by `stream`, all bytes that the client sends
    before it closes its side.
-/

namespace BoVpnAgent.TcpProxy

variable (I : Interp)

/-! ### The request line -/

/-- `line.decode("ascii")` -/
def decode_ascii (line : Bytes) : Except PyStr PyStr :=
  match line.findIdx? (0x80 ≤ ·.toNat) with
  | some i =>
    let byte := (line.getD i 0).toNat
    .error ("'ascii' codec can't decode byte 0x".py ++
      [Json.hexDigit (byte / 16), Json.hexDigit (byte % 16)] ++ " in position ".py ++
      Json.intRepr i ++ ": ordinal not in range(128)".py)
  | none => .ok (line.map fun b => Fin.ofNat 0x110000 b.toNat)

/-- One character of `repr(s)` between quotes `quote`, for ASCII text. -/
def reprChar (quote c : CodePoint) : PyStr :=
  if c = quote ∨ c = 0x5C then [0x5C, c]
  else if c = 0x09 then "\\t".py
  else if c = 0x0A then "\\n".py
  else if c = 0x0D then "\\r".py
  else if c.val < 0x20 ∨ c = 0x7F then
    [0x5C, 0x78, Json.hexDigit (c.val / 16), Json.hexDigit (c.val % 16)]
  else [c]

/-- `repr(s)` of ASCII text -/
def repr (s : PyStr) : PyStr :=
  let quote : CodePoint := if s.contains 0x27 && !s.contains 0x22 then 0x22 else 0x27
  [quote] ++ s.flatMap (reprChar quote) ++ [quote]

/-- `address in ip_network("172.26.0.0/15")` -/
def in_network (address : Nat) : Bool := IpAddress.inNetwork 0xAC1A0000 15 address

/-- The request line up to the call of `create_connection`: the address and
    the port, or the text of the exception. -/
def parse_request (line : Bytes) : Except PyStr (Nat × Int) := do
  let text ← decode_ascii line
  match PyStr.split (PyStr.strip text) with
  | [command, ip, port] =>
    if command ≠ "CONNECT".py then .error "expected CONNECT <ip> <port>".py
    else
      match IpAddress.ipv4? ip with
      | some address =>
        if in_network address then
          match PyStr.toInt I.int_max_str_digits port with
          | some n => .ok (address, n)
          | none => .error ("invalid literal for int() with base 10: ".py ++ (repr port).take 200)
        else .error "destination is outside 172.26.0.0/15".py
      | none =>
        -- an IPv6 address is in no IPv4 network
        if IpAddress.isIpv6 ip then .error "destination is outside 172.26.0.0/15".py
        else .error (repr ip ++ " does not appear to be an IPv4 or IPv6 address".py)
  | _ => .error "expected CONNECT <ip> <port>".py

/-- The line feed of the protocol. -/
def newline : UInt8 := 10

/-- `request.partition(b"\n")[0]` -/
def line_of (request : Bytes) : Bytes := request.takeWhile (· ≠ newline)

/-- `request.partition(b"\n")[2]` -/
def remainder_of (request : Bytes) : Bytes := (request.dropWhile (· ≠ newline)).drop 1

/-- `b"OK\n"` -/
def okLine : Bytes := [0x4F, 0x4B, 0x0A]

/-- `f"ERR {exc}\n".encode("utf-8")`; `none` when it raises. -/
def errLine (text : PyStr) : Option Bytes := Utf8.encode ("ERR ".py ++ text ++ "\n".py)

/-! ### States -/

/-- The text of an exception of a socket, which is one line. -/
abbrev ErrorText := {s : PyStr // 0x0A ∉ s}

/-- Where `handle` stands. -/
inductive Point where
  /-- in the loop that reads the request -/
  | reading
  /-- in `socket.create_connection` -/
  | connecting (remainder : Bytes)
  /-- in `client.sendall(b"OK\n")` -/
  | greeting (remainder : Bytes)
  /-- in `upstream.sendall(remainder)` -/
  | forwarding (remainder : Bytes)
  /-- in `relay`, with the sockets that are still registered -/
  | relaying (client upstream : Bool)
  /-- in the `except` clause -/
  | failing (text : PyStr)
  /-- both sockets are closed -/
  | closed
  deriving DecidableEq

/-- A state of `handle`, with all that went over the two sockets. -/
structure State where
  point : Point
  /-- read from the client -/
  received : Bytes
  /-- taken by the client's socket -/
  to_client : Bytes
  /-- read from the upstream -/
  from_upstream : Bytes
  /-- taken by the upstream's socket -/
  to_upstream : Bytes
  /-- the arguments of `create_connection` -/
  attempted : Option (Nat × Int)

/-- How a `sendall` ends. -/
inductive Sent where
  | all
  /-- an exception after so many bytes -/
  | part (n : Nat) (error : ErrorText)

/-- The bytes that the socket takes. -/
def Sent.taken (data : Bytes) : Sent → Bytes
  | all => data
  | part n _ => data.take n

/-- Where `handle` goes on from a `sendall`. -/
def Sent.point (next : Point) : Sent → Point
  | all => next
  | part _ error => .failing error.val

/-- The `sendall` does not raise. -/
def Sent.complete : Sent → Bool
  | all => true
  | part _ _ => false

theorem Sent.eq_all {sent : Sent} (h : sent.complete = true) : sent = .all := by
  cases sent with
  | all => rfl
  | part n error => cases h

/-- What a socket does. -/
inductive Label where
  /-- a `recv` in the reading loop returns so many bytes; none at the end -/
  | read (n : Nat)
  | connected
  /-- `sendall` of `OK`, of the remainder or of the error line -/
  | send (sent : Sent)
  /-- `relay` reads from the client, none at the end, and sends it on -/
  | upload (n : Nat) (sent : Sent)
  /-- `relay` reads from the upstream, none at the end, and sends it on -/
  | download (data : Bytes) (sent : Sent)
  /-- a `recv` or `create_connection` raises -/
  | raise (error : ErrorText)

/-! ### Steps -/

/-- The state after the loop, when `request` has been read. -/
def parsed (s : State) (request : Bytes) : State :=
  match parse_request I (line_of request) with
  | .ok target =>
    { s with point := .connecting (remainder_of request), received := request,
             attempted := some target }
  | .error text => { s with point := .failing text, received := request }

/-- `recv` in the reading loop. -/
def read (stream : Bytes) (s : State) (n : Nat) : Option State :=
  if n = 0 then
    -- `recv` returns no bytes at the end of the stream only
    if s.received = stream then some { s with point := .closed } else none
  else
    let request := stream.take (s.received.length + n)
    if 512 < s.received.length + n ∨ stream.length < s.received.length + n then none
    else if newline ∈ request ∨ 512 ≤ request.length then some (parsed I s request)
    else some { s with received := request }

/-- The sources that are registered with the selector, or the end of
    `relay`. -/
def relayPoint (client upstream : Bool) : Point :=
  if client || upstream then .relaying client upstream else .closed

/-- `relay` when the client's socket is ready. -/
def upload (stream : Bytes) (s : State) (upstream : Bool) (n : Nat) (sent : Sent) : Option State :=
  if n = 0 then
    if s.received = stream then some { s with point := relayPoint false upstream } else none
  else if 65536 < n ∨ stream.length < s.received.length + n then none
  else
    let data := (stream.drop s.received.length).take n
    some { s with point := sent.point (.relaying true upstream)
                  received := s.received ++ data
                  to_upstream := s.to_upstream ++ sent.taken data }

/-- `relay` when the upstream's socket is ready. -/
def download (s : State) (client : Bool) (data : Bytes) (sent : Sent) : Option State :=
  if data = [] then some { s with point := relayPoint client false }
  else if 65536 < data.length then none
  else
    some { s with point := sent.point (.relaying client true)
                  from_upstream := s.from_upstream ++ data
                  to_client := s.to_client ++ sent.taken data }

/-- One step of `handle` for a client that sends `stream`. -/
def next (stream : Bytes) (s : State) : Label → Option State
  | .read n =>
    match s.point with
    | .reading => read I stream s n
    | _ => none
  | .connected =>
    match s.point with
    | .connecting remainder => some { s with point := .greeting remainder }
    | _ => none
  | .send sent =>
    match s.point with
    | .greeting remainder =>
      let after := if remainder = [] then .relaying true true else .forwarding remainder
      some { s with point := sent.point after, to_client := s.to_client ++ sent.taken okLine }
    | .forwarding remainder =>
      some { s with point := sent.point (.relaying true true)
                    to_upstream := s.to_upstream ++ sent.taken remainder }
    | .failing text =>
      -- what is raised here is ignored or leaves `handle`
      match errLine text with
      | some line => some { s with point := .closed, to_client := s.to_client ++ sent.taken line }
      | none => some { s with point := .closed }
    | _ => none
  | .upload n sent =>
    match s.point with
    | .relaying true upstream => upload stream s upstream n sent
    | _ => none
  | .download data sent =>
    match s.point with
    | .relaying client true => download s client data sent
    | _ => none
  | .raise error =>
    match s.point with
    | .reading | .connecting _ | .relaying _ _ => some { s with point := .failing error.val }
    | _ => none

/-- A connection from the call of `handle` on. -/
def handle (stream : Bytes) : Lts.System State Label where
  init := { point := .reading, received := [], to_client := [], from_upstream := [],
            to_upstream := [], attempted := none }
  next := next I stream

/-! ### The cases of a step -/

/-- All that a step of `handle` can do. -/
inductive Step (stream : Bytes) (s : State) : Label → State → Prop where
  | eof (hpoint : s.point = .reading) (hall : s.received = stream) :
      Step stream s (.read 0) { s with point := .closed }
  | chunk (n : Nat) (hpoint : s.point = .reading) (hpos : 0 < n)
      (hlen : s.received.length + n ≤ stream.length) (hroom : s.received.length + n < 512)
      (hline : newline ∉ stream.take (s.received.length + n)) :
      Step stream s (.read n) { s with received := stream.take (s.received.length + n) }
  | request (n : Nat) (hpoint : s.point = .reading) (hpos : 0 < n)
      (hlen : s.received.length + n ≤ stream.length) (hroom : s.received.length + n ≤ 512)
      (hend : newline ∈ stream.take (s.received.length + n) ∨ s.received.length + n = 512) :
      Step stream s (.read n) (parsed I s (stream.take (s.received.length + n)))
  | connected (remainder : Bytes) (hpoint : s.point = .connecting remainder) :
      Step stream s .connected { s with point := .greeting remainder }
  | greeted (remainder : Bytes) (sent : Sent) (hpoint : s.point = .greeting remainder) :
      Step stream s (.send sent)
        { s with
          point := sent.point (if remainder = [] then .relaying true true else .forwarding remainder)
          to_client := s.to_client ++ sent.taken okLine }
  | forwarded (remainder : Bytes) (sent : Sent) (hpoint : s.point = .forwarding remainder) :
      Step stream s (.send sent)
        { s with point := sent.point (.relaying true true)
                 to_upstream := s.to_upstream ++ sent.taken remainder }
  | reported (text : PyStr) (line : Bytes) (sent : Sent) (hpoint : s.point = .failing text)
      (hline : errLine text = some line) :
      Step stream s (.send sent)
        { s with point := .closed, to_client := s.to_client ++ sent.taken line }
  | unreported (text : PyStr) (sent : Sent) (hpoint : s.point = .failing text)
      (hline : errLine text = none) :
      Step stream s (.send sent) { s with point := .closed }
  | client_eof (upstream : Bool) (sent : Sent) (hpoint : s.point = .relaying true upstream)
      (hall : s.received = stream) :
      Step stream s (.upload 0 sent) { s with point := relayPoint false upstream }
  | uploaded (n : Nat) (upstream : Bool) (sent : Sent) (hpoint : s.point = .relaying true upstream)
      (hlen : s.received.length + n ≤ stream.length) (hpos : 0 < n) :
      Step stream s (.upload n sent)
        { s with
          point := sent.point (.relaying true upstream)
          received := s.received ++ (stream.drop s.received.length).take n
          to_upstream := s.to_upstream ++ sent.taken ((stream.drop s.received.length).take n) }
  | upstream_eof (client : Bool) (sent : Sent) (hpoint : s.point = .relaying client true) :
      Step stream s (.download [] sent) { s with point := relayPoint client false }
  | downloaded (client : Bool) (data : Bytes) (sent : Sent)
      (hpoint : s.point = .relaying client true) (hdata : data ≠ []) :
      Step stream s (.download data sent)
        { s with point := sent.point (.relaying client true)
                 from_upstream := s.from_upstream ++ data
                 to_client := s.to_client ++ sent.taken data }
  | raised (error : ErrorText)
      (hpoint : s.point = .reading ∨ (∃ remainder, s.point = .connecting remainder) ∨
        ∃ client upstream, s.point = .relaying client upstream) :
      Step stream s (.raise error) { s with point := .failing error.val }

variable {I}

theorem read_cases {stream : Bytes} {s s' : State} {n : Nat} (hpoint : s.point = .reading)
    (h : read I stream s n = some s') : Step I stream s (.read n) s' := by
  unfold read at h
  by_cases hn : n = 0
  · subst hn
    rw [if_pos rfl] at h
    split at h
    · next hall => cases h; exact .eof hpoint hall
    · cases h
  · rw [if_neg hn] at h
    by_cases hlimit : 512 < s.received.length + n ∨ stream.length < s.received.length + n
    · simp only [if_pos hlimit] at h
      cases h
    · simp only [if_neg hlimit] at h
      have hlength : (stream.take (s.received.length + n)).length = s.received.length + n := by
        rw [List.length_take]
        omega
      split at h
      · next hend =>
        cases h
        refine .request n hpoint (by omega) (by omega) (by omega) (hend.imp_right fun h512 => ?_)
        omega
      · next hend =>
        cases h
        rw [not_or, hlength] at hend
        exact .chunk n hpoint (by omega) (by omega) (by omega) hend.1

theorem upload_cases {stream : Bytes} {s s' : State} {upstream : Bool} {n : Nat} {sent : Sent}
    (hpoint : s.point = .relaying true upstream) (h : upload stream s upstream n sent = some s') :
    Step I stream s (.upload n sent) s' := by
  unfold upload at h
  by_cases hn : n = 0
  · subst hn
    rw [if_pos rfl] at h
    split at h
    · next hall => cases h; exact .client_eof upstream sent hpoint hall
    · cases h
  · rw [if_neg hn] at h
    split at h
    · cases h
    · next hlimit => cases h; exact .uploaded n upstream sent hpoint (by omega) (by omega)

theorem download_cases {stream : Bytes} {s s' : State} {client : Bool} {data : Bytes} {sent : Sent}
    (hpoint : s.point = .relaying client true) (h : download s client data sent = some s') :
    Step I stream s (.download data sent) s' := by
  unfold download at h
  split at h
  · next hdata => cases h; subst hdata; exact .upstream_eof client sent hpoint
  · next hdata =>
    split at h
    · cases h
    · cases h; exact .downloaded client data sent hpoint hdata

theorem step_cases {stream : Bytes} {s s' : State} {l : Label}
    (h : (handle I stream).step s l s') : Step I stream s l s' := by
  unfold Lts.System.step handle at h
  cases l with
  | read n =>
    simp only [next] at h
    split at h
    · next hpoint => exact read_cases hpoint h
    · cases h
  | connected =>
    simp only [next] at h
    split at h
    · next hpoint => cases h; exact .connected _ hpoint
    · cases h
  | send sent =>
    simp only [next] at h
    split at h
    · next hpoint => cases h; exact .greeted _ sent hpoint
    · next hpoint => cases h; exact .forwarded _ sent hpoint
    · next text hpoint =>
      split at h
      · next line hline => cases h; exact .reported text line sent hpoint hline
      · next hline => cases h; exact .unreported text sent hpoint hline
    · cases h
  | upload n sent =>
    simp only [next] at h
    split at h
    · next hpoint => exact upload_cases hpoint h
    · cases h
  | download data sent =>
    simp only [next] at h
    split at h
    · next hpoint => exact download_cases hpoint h
    · cases h
  | raise error =>
    simp only [next] at h
    split at h
    · next hpoint => cases h; exact .raised error (.inl hpoint)
    · next hpoint => cases h; exact .raised error (.inr (.inl ⟨_, hpoint⟩))
    · next hpoint => cases h; exact .raised error (.inr (.inr ⟨_, _, hpoint⟩))
    · cases h

end BoVpnAgent.TcpProxy

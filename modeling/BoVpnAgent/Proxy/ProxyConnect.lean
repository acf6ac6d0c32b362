import BoVpnAgent.Proxy.TcpProxy

/-! # The client of the proxy

    `main` of `scripts/proxy_connect.py` from the connection to the proxy on,
    as a labelled transition system.  It sends the request line, reads the
    answer byte by byte and then copies stdin to the socket and the socket to
    stdout.  The socket is non-blocking by then, for both directions.

    The system is parameterized by `stdin`, all bytes that come in there.
-/

namespace BoVpnAgent.ProxyConnect

open TcpProxy (newline okLine)

/-! ### States -/

/-- Where `main` stands. -/
inductive Point where
  /-- in `sock.sendall` of the request line -/
  | requesting
  /-- in `read_line` -/
  | answering (result : Bytes)
  /-- in the loop, with stdin registered or not -/
  | relaying (stdin : Bool)
  /-- out of the handshake, by an exception -/
  | refused
  /-- out of the loop, by `return` or by an exception -/
  | ended
  deriving DecidableEq

/-- A state of `main`, with all that went through it. -/
structure State where
  point : Point
  /-- read from stdin -/
  read : Bytes
  /-- taken by the socket behind the request line -/
  sent : Bytes
  /-- read from the socket behind the answer -/
  received : Bytes
  /-- taken by stdout -/
  written : Bytes
  /-- the proxy has closed or reset the connection -/
  remote_closed : Bool

/-- What a `sendall` on the socket meets. -/
inductive Send where
  /-- room for so many bytes in the send buffer -/
  | room (free : Nat)
  /-- a connection that is lost after so many bytes -/
  | lost (n : Nat)

/-- What the loop around `os.write` meets. -/
inductive Write where
  | all
  /-- an exception after so many bytes -/
  | part (n : Nat)

/-- What `sock.recv` meets. -/
inductive Recv where
  | data (bytes : Bytes) (write : Write)
  | eof
  /-- `BlockingIOError` -/
  | blocked
  /-- a connection that is lost -/
  | lost

/-- What the outside does. -/
inductive Label where
  /-- the proxy closes or resets the connection -/
  | hangup
  /-- `sendall` of the request line, and whether it raises -/
  | request (raises : Bool)
  /-- one byte of the answer, or its end -/
  | answer (byte : Option UInt8)
  /-- a `recv` of `read_line` raises -/
  | raise
  /-- stdin is ready with so many bytes, none at its end -/
  | stdin (n : Nat) (send : Send)
  /-- the socket is ready -/
  | socket (recv : Recv)

/-! ### Steps -/

/-- `read_line` is done with `result`. -/
def answered (s : State) (result : Bytes) : State :=
  { s with point := if result = okLine then .relaying true else .refused }

/-- `sock.sendall(data)` on the non-blocking socket: what fits is sent, and
    `BlockingIOError` is raised for the rest. -/
def sendall (s : State) (data : Bytes) : Send → Option State
  | .room free =>
    some { s with point := if data.length ≤ free then s.point else .ended
                  sent := s.sent ++ data.take free }
  | .lost n =>
    if s.remote_closed then some { s with point := .ended, sent := s.sent ++ data.take n } else none

/-- The branch of the loop for stdin. -/
def copyStdin (stdin : Bytes) (s : State) (n : Nat) (send : Send) : Option State :=
  if n = 0 then
    if s.read = stdin then
      match send with
      | .room _ => some { s with point := .relaying false }
      -- `sock.shutdown` raises
      | .lost _ => if s.remote_closed then some { s with point := .ended } else none
    else none
  else if 65536 < n ∨ stdin.length < s.read.length + n then none
  else
    let data := (stdin.drop s.read.length).take n
    sendall { s with read := s.read ++ data } data send

/-- The branch of the loop for the socket. -/
def copySocket (s : State) : Recv → Option State
  | .data bytes write =>
    if bytes = [] ∨ 65536 < bytes.length then none
    else
      match write with
      | .all => some { s with received := s.received ++ bytes, written := s.written ++ bytes }
      | .part n => some { s with point := .ended, received := s.received ++ bytes,
                                 written := s.written ++ bytes.take n }
  | .eof | .lost => if s.remote_closed then some { s with point := .ended } else none
  | .blocked => some s

/-- One step of `main`, or of the proxy's side of the connection. -/
def next (stdin : Bytes) (s : State) : Label → Option State
  | .hangup => some { s with remote_closed := true }
  | .request raises =>
    match s.point with
    | .requesting => some { s with point := if raises then .refused else .answering [] }
    | _ => none
  | .answer byte =>
    match s.point, byte with
    | .answering result, some byte =>
      let result := result ++ [byte]
      if byte = newline ∨ 1024 ≤ result.length then some (answered s result)
      else some { s with point := .answering result }
    | .answering result, none => if s.remote_closed then some (answered s result) else none
    | _, _ => none
  | .raise =>
    match s.point with
    | .answering _ => some { s with point := .refused }
    | _ => none
  | .stdin n send =>
    match s.point with
    | .relaying true => copyStdin stdin s n send
    | _ => none
  | .socket recv =>
    match s.point with
    | .relaying _ => copySocket s recv
    | _ => none

/-- `main` from the connection to the proxy on. -/
def main (stdin : Bytes) : Lts.System State Label where
  init := { point := .requesting, read := [], sent := [], received := [], written := [],
            remote_closed := false }
  next := next stdin

/-! ### The cases of a step -/

/-- All that a step of `main` can do to the upload. -/
inductive Step (stdin : Bytes) (s : State) : Label → State → Prop where
  | hangup : Step stdin s .hangup { s with remote_closed := true }
  | handshake (l : Label) (point : Point)
      (hpoint : s.point = .requesting ∨ ∃ result, s.point = .answering result)
      (hnext : point ≠ .ended ∧ point ≠ .relaying false) :
      Step stdin s l { s with point }
  | stdin_eof (free : Nat) (hpoint : s.point = .relaying true) (hall : s.read = stdin) :
      Step stdin s (.stdin 0 (.room free)) { s with point := .relaying false }
  | shutdown (n : Nat) (hpoint : s.point = .relaying true) (hclosed : s.remote_closed = true) :
      Step stdin s (.stdin 0 (.lost n)) { s with point := .ended }
  | copied (n free : Nat) (hpoint : s.point = .relaying true)
      (hlen : s.read.length + n ≤ stdin.length) (hroom : n ≤ free) :
      Step stdin s (.stdin n (.room free))
        { s with read := s.read ++ (stdin.drop s.read.length).take n
                 sent := s.sent ++ (stdin.drop s.read.length).take n }
  | blocked (n free : Nat) (hpoint : s.point = .relaying true)
      (hlen : s.read.length + n ≤ stdin.length) (hroom : free < n) :
      Step stdin s (.stdin n (.room free))
        { s with point := .ended
                 read := s.read ++ (stdin.drop s.read.length).take n
                 sent := s.sent ++ ((stdin.drop s.read.length).take n).take free }
  | lost (n k : Nat) (hpoint : s.point = .relaying true) (hclosed : s.remote_closed = true) :
      Step stdin s (.stdin n (.lost k))
        { s with point := .ended
                 read := s.read ++ (stdin.drop s.read.length).take n
                 sent := s.sent ++ ((stdin.drop s.read.length).take n).take k }
  | download (registered : Bool) (bytes : Bytes) (hpoint : s.point = .relaying registered) :
      Step stdin s (.socket (.data bytes .all))
        { s with received := s.received ++ bytes, written := s.written ++ bytes }
  | unwritten (registered : Bool) (bytes : Bytes) (n : Nat) (hpoint : s.point = .relaying registered) :
      Step stdin s (.socket (.data bytes (.part n)))
        { s with point := .ended, received := s.received ++ bytes,
                 written := s.written ++ bytes.take n }
  | closed (recv : Recv) (registered : Bool) (hpoint : s.point = .relaying registered)
      (hclosed : s.remote_closed = true) :
      Step stdin s (.socket recv) { s with point := .ended }
  | nothing (hpoint : ∃ registered, s.point = .relaying registered) : Step stdin s (.socket .blocked) s

variable {stdin : Bytes} {s s' : State} {l : Label}

theorem copyStdin_cases {n : Nat} {send : Send} (hpoint : s.point = .relaying true)
    (h : copyStdin stdin s n send = some s') : Step stdin s (.stdin n send) s' := by
  unfold copyStdin at h
  by_cases hn : n = 0
  · subst hn
    rw [if_pos rfl] at h
    split at h
    · next hall =>
      cases send with
      | room free => cases h; exact .stdin_eof free hpoint hall
      | lost k =>
        simp only at h
        split at h
        · next hclosed => cases h; exact .shutdown k hpoint hclosed
        · cases h
    · cases h
  · rw [if_neg hn] at h
    split at h
    · cases h
    · next hlimit =>
      have hlength : ((stdin.drop s.read.length).take n).length = n := by
        rw [List.length_take, List.length_drop]
        omega
      cases send with
      | room free =>
        simp only [sendall, hlength] at h
        by_cases hroom : n ≤ free
        · have hfits : ((stdin.drop s.read.length).take n).take free =
              (stdin.drop s.read.length).take n :=
            List.take_of_length_le (by rw [hlength]; exact hroom)
          rw [if_pos hroom, hfits] at h
          cases h
          exact .copied n free hpoint (by omega) hroom
        · rw [if_neg hroom] at h
          cases h
          exact .blocked n free hpoint (by omega) (by omega)
      | lost k =>
        simp only [sendall] at h
        split at h
        · next hclosed => cases h; exact .lost n k hpoint hclosed
        · cases h

theorem copySocket_cases {recv : Recv} {registered : Bool} (hpoint : s.point = .relaying registered)
    (h : copySocket s recv = some s') : Step stdin s (.socket recv) s' := by
  unfold copySocket at h
  split at h
  · split at h
    · cases h
    · split at h
      · cases h; exact .download registered _ hpoint
      · cases h; exact .unwritten registered _ _ hpoint
  · split at h
    · next hclosed => cases h; exact .closed .eof registered hpoint hclosed
    · cases h
  · split at h
    · next hclosed => cases h; exact .closed .lost registered hpoint hclosed
    · cases h
  · cases h; exact .nothing ⟨registered, hpoint⟩

theorem step_cases (h : (main stdin).step s l s') : Step stdin s l s' := by
  have hanswered : ∀ result : Bytes,
      (if result = okLine then Point.relaying true else .refused) ≠ .ended ∧
      (if result = okLine then Point.relaying true else .refused) ≠ .relaying false := by
    intro result
    split <;> simp
  unfold Lts.System.step main at h
  cases l with
  | hangup => cases h; exact .hangup
  | request raises =>
    simp only [next] at h
    split at h
    · next hpoint =>
      cases h
      exact .handshake _ _ (.inl hpoint) (by cases raises <;> simp)
    · cases h
  | answer byte =>
    simp only [next] at h
    split at h
    · next hpoint =>
      split at h
      · cases h; exact .handshake _ _ (.inr ⟨_, hpoint⟩) (hanswered _)
      · cases h; exact .handshake _ _ (.inr ⟨_, hpoint⟩) (by simp)
    · next hpoint =>
      split at h
      · cases h; exact .handshake _ _ (.inr ⟨_, hpoint⟩) (hanswered _)
      · cases h
    · cases h
  | raise =>
    simp only [next] at h
    split at h
    · next hpoint => cases h; exact .handshake _ _ (.inr ⟨_, hpoint⟩) (by simp)
    · cases h
  | stdin n send =>
    simp only [next] at h
    split at h
    · next hpoint => exact copyStdin_cases hpoint h
    · cases h
  | socket recv =>
    simp only [next] at h
    split at h
    · next hpoint => exact copySocket_cases hpoint h
    · cases h

/-! ### The upload -/

/-- What the proxy has been sent is a prefix of stdin, and all of it when the
    loop has ended while the proxy's side was still open. -/
structure Lossless (stdin : Bytes) (s : State) : Prop where
  sent_prefix : s.sent <+: stdin
  sent_all : s.point = .ended → s.remote_closed = true ∨ s.sent = stdin

/-- A `sendall` on an open connection finds room for all its data, and
    stdout takes what is written to it. -/
def roomy (s : State) : Label → Bool
  | .stdin n (.room free) => s.remote_closed || n ≤ free
  | .socket (.data _ (.part _)) => false
  | _ => true

/-- All that was read from stdin was sent. -/
def Uploaded (stdin : Bytes) (s : State) : Prop :=
  match s.point with
  | .requesting | .answering _ | .refused => s.read = [] ∧ s.sent = []
  | .relaying registered => s.sent = s.read ∧ s.read <+: stdin ∧ (registered = false → s.read = stdin)
  | .ended => s.sent <+: stdin ∧ (s.remote_closed = true ∨ s.sent = stdin)

/-- The next chunk of stdin continues what has been read. -/
theorem prefix_read {read : Bytes} (h : read <+: stdin) (n : Nat) :
    read ++ (stdin.drop read.length).take n <+: stdin := by
  obtain ⟨rest, rfl⟩ := h
  rw [List.drop_left, List.prefix_append_right_inj]
  exact List.take_prefix n rest

theorem uploaded_step (hs : Uploaded stdin s) (hroomy : roomy s l = true)
    (hstep : (main stdin).step s l s') : Uploaded stdin s' := by
  have hcases := step_cases hstep
  unfold Uploaded at hs
  cases hcases with
  | hangup =>
    unfold Uploaded
    split at hs
    · next hpoint => rw [hpoint]; exact hs
    · next hpoint => rw [hpoint]; exact hs
    · next hpoint => rw [hpoint]; exact hs
    · next hpoint => rw [hpoint]; exact hs
    · next hpoint => rw [hpoint]; exact ⟨hs.1, .inl rfl⟩
  -- before the relay nothing is read from the standard input
  | handshake l point hpoint hnext =>
    have hnone : s.read = [] ∧ s.sent = [] := by
      rcases hpoint with hpoint | ⟨result, hpoint⟩
      · rw [hpoint] at hs
        exact hs
      · rw [hpoint] at hs
        exact hs
    cases point with
    | requesting => exact hnone
    | answering result => exact hnone
    | refused => exact hnone
    | relaying registered =>
      cases registered with
      | true =>
        refine ⟨hnone.2.trans hnone.1.symm, ?_, fun h => nomatch h⟩
        show s.read <+: stdin
        rw [hnone.1]
        exact List.nil_prefix
      | false => exact absurd rfl hnext.2
    | ended => exact absurd rfl hnext.1
  | stdin_eof free hpoint hall =>
    rw [hpoint] at hs
    exact ⟨hs.1, hs.2.1, fun _ => hall⟩
  | shutdown n hpoint hclosed =>
    rw [hpoint] at hs
    refine ⟨?_, .inl hclosed⟩
    show s.sent <+: stdin
    rw [hs.1]
    exact hs.2.1
  | copied n free hpoint hlen hroom =>
    rw [hpoint] at hs
    unfold Uploaded
    rw [hpoint]
    refine ⟨?_, prefix_read hs.2.1 n, fun h => nomatch h⟩
    show s.sent ++ _ = s.read ++ _
    rw [hs.1]
  -- a write that does not fit waits for ever, unless the peer has gone away
  | blocked n free hpoint hlen hroom =>
    rw [hpoint] at hs
    have hclosed : s.remote_closed = true := by
      have hfit : ¬ n ≤ free := by omega
      simpa [roomy, hfit] using hroomy
    refine ⟨?_, .inl hclosed⟩
    show s.sent ++ _ <+: stdin
    rw [hs.1]
    refine List.IsPrefix.trans ?_ (prefix_read hs.2.1 n)
    exact (List.prefix_append_right_inj _).mpr (List.take_prefix free _)
  -- a part of the chunk got out before the peer closed
  | lost n k hpoint hclosed =>
    rw [hpoint] at hs
    refine ⟨?_, .inl hclosed⟩
    show s.sent ++ _ <+: stdin
    rw [hs.1]
    refine List.IsPrefix.trans ?_ (prefix_read hs.2.1 n)
    exact (List.prefix_append_right_inj _).mpr (List.take_prefix k _)
  | download registered bytes hpoint => exact hs
  | unwritten registered bytes n hpoint => cases hroomy
  | closed recv registered hpoint hclosed =>
    rw [hpoint] at hs
    refine ⟨?_, .inl hclosed⟩
    show s.sent <+: stdin
    rw [hs.1]
    exact hs.2.1
  | nothing hpoint => exact hs

theorem Uploaded.lossless (hs : Uploaded stdin s) : Lossless stdin s := by
  unfold Uploaded at hs
  constructor
  · split at hs
    · rw [hs.2]; exact List.nil_prefix
    · rw [hs.2]; exact List.nil_prefix
    · rw [hs.2]; exact List.nil_prefix
    · rw [hs.1]; exact hs.2.1
    · exact hs.1
  · intro hended
    rw [hended] at hs
    exact hs.2

/-- In every run in which each `sendall` finds room for its data, nothing of
    stdin is lost. -/
theorem upload_lossless
    (h : Lts.Reachable ((main stdin).restrict fun s l => roomy s l) s) : Lossless stdin s := by
  have hinit : Uploaded stdin ((main stdin).restrict fun s l => roomy s l).init := ⟨rfl, rfl⟩
  refine Uploaded.lossless (h.invariant hinit ?_)
  intro s l s' _ hs hstep
  obtain ⟨hroomy, hstep⟩ := Lts.restrict_step.mp hstep
  exact uploaded_step hs hroomy hstep

/-- The proxy answers `OK`, and a chunk of three bytes meets a send buffer
    with so much room. -/
def threeBytes (free : Nat) : List Label :=
  [.request false, .answer (some 0x4F), .answer (some 0x4B), .answer (some 0x0A),
    .stdin 3 (.room free)]

theorem upload_lossless_sample :
    Lossless [1, 2, 3] (((main [1, 2, 3]).restrict fun s l => roomy s l).play (threeBytes 3)) :=
  upload_lossless (Lts.reachable_play _)

/-- With room for two bytes `BlockingIOError` ends the loop and the third is
    lost, although the proxy is still there. -/
theorem upload_not_lossless :
    ∃ s, Lts.Reachable (main [1, 2, 3]) s ∧ ¬ Lossless [1, 2, 3] s := by
  refine ⟨(main [1, 2, 3]).play (threeBytes 2), Lts.reachable_play _, ?_⟩
  intro h
  have hended : ((main [1, 2, 3]).play (threeBytes 2)).point = .ended := by decide +kernel
  have hopen : ((main [1, 2, 3]).play (threeBytes 2)).remote_closed = false := by decide +kernel
  have hsent : ((main [1, 2, 3]).play (threeBytes 2)).sent = [1, 2] := by decide +kernel
  rcases h.sent_all hended with hclosed | hall
  · rw [hopen] at hclosed
    cases hclosed
  · rw [hsent] at hall
    exact absurd hall (by decide)

end BoVpnAgent.ProxyConnect

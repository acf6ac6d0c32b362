import BoVpnAgent.Proxy.TcpProxy

/-! # The selector loop of `relay`

    `handle` sees of `relay` only one chunk after the other.  This file has
    the loop itself, for sockets that do not fail: `select` returns a batch of
    ready sources, the loop serves them one by one, and a source at its end is
    unregistered while the rest of the batch is still to come.  The loop is
    shown to lose nothing, and to be a run of what `handle` does.
-/

namespace BoVpnAgent.TcpProxy

/-- One of the two sockets. -/
inductive Side where
  | client
  | upstream
  deriving DecidableEq

/-- The socket that `relay` registers as the destination. -/
def Side.other : Side → Side
  | client => upstream
  | upstream => client

@[simp] theorem Side.other_other (side : Side) : side.other.other = side := by
  cases side with
  | client => rfl
  | upstream => rfl

theorem Side.other_ne_other {side side' : Side} (h : side ≠ side') : side.other ≠ side'.other := by
  intro hother
  apply h
  rw [← Side.other_other side, hother, Side.other_other]

namespace Relay

/-- A call on a socket that writes to it. -/
inductive Write where
  | sendall (data : Bytes)
  /-- `shutdown(socket.SHUT_WR)` -/
  | shutdown
  deriving DecidableEq

/-- Where `relay` stands. -/
inductive Point where
  | looping
  | returned
  /-- `unregister` has raised `KeyError` -/
  | raised
  deriving DecidableEq

/-- A state of `relay`, with all that went over the two sockets. -/
structure State where
  point : Point
  /-- `selector.get_map()` -/
  registered : List Side
  /-- the sources of the batch that are still to be served -/
  batch : List Side
  /-- what `recv` has returned for a side, its end apart -/
  chunks : Side → List Bytes
  /-- `recv` has returned no bytes for a side -/
  eof : Side → Bool
  /-- the writes to a side -/
  writes : Side → List Write

/-- What the sockets do. -/
inductive Label where
  /-- `select` returns these sources; none when it times out -/
  | select (ready : List Side)
  /-- `recv` for the next source of the batch returns these bytes -/
  | recv (data : Bytes)

/-- `while selector.get_map()`, once the batch is served. -/
def loopPoint (registered batch : List Side) : Point :=
  if batch = [] ∧ registered = [] then .returned else .looping

/-- The source is at its end: it is unregistered, and writing towards its
    destination is shut down. -/
def finish (s : State) (source : Side) (batch : List Side) : State :=
  if source ∈ s.registered then
    { s with
      point := loopPoint (s.registered.erase source) batch
      registered := s.registered.erase source
      batch := batch
      eof := Function.update s.eof source true
      writes := Function.update s.writes source.other (s.writes source.other ++ [.shutdown]) }
  else { s with point := .raised }

/-- The source has sent a chunk, which is sent on. -/
def forward (s : State) (source : Side) (batch : List Side) (data : Bytes) : State :=
  { s with
    point := loopPoint s.registered batch
    batch := batch
    chunks := Function.update s.chunks source (s.chunks source ++ [data])
    writes := Function.update s.writes source.other (s.writes source.other ++ [.sendall data]) }

/-- One step of `relay`. -/
def next (s : State) : Label → Option State
  | .select ready =>
    if s.point = .looping ∧ s.batch = [] ∧ ready.Nodup ∧ (∀ source ∈ ready, source ∈ s.registered) then
      some { s with batch := ready }
    else none
  | .recv data =>
    match s.point, s.batch with
    | .looping, source :: batch =>
      if 65536 < data.length then none
      else if data = [] then some (finish s source batch)
      else some (forward s source batch data)
    | _, _ => none

/-- `relay` from its call on. -/
def relay : Lts.System State Label where
  init :=
    { point := .looping, registered := [.client, .upstream], batch := [], chunks := fun _ => [],
      eof := fun _ => false, writes := fun _ => [] }
  next := next

/-! ### The cases of a step -/

theorem step_cases {s s' : State} {l : Label} (h : relay.step s l s') :
    s.point = .looping ∧
    ((∃ ready, l = .select ready ∧ s.batch = [] ∧ ready.Nodup ∧
      (∀ source ∈ ready, source ∈ s.registered) ∧ s' = { s with batch := ready }) ∨
    ∃ source batch, s.batch = source :: batch ∧
      ((l = .recv [] ∧ s' = finish s source batch) ∨
      ∃ data, l = .recv data ∧ data ≠ [] ∧ data.length ≤ 65536 ∧ s' = forward s source batch data)) := by
  have hnext : next s l = some s' := h
  cases l with
  | select ready =>
    unfold next at hnext
    simp only at hnext
    split at hnext
    · rename_i hready
      obtain ⟨hpoint, hbatch, hnodup, hregistered⟩ := hready
      exact ⟨hpoint, .inl ⟨ready, rfl, hbatch, hnodup, hregistered, (Option.some.inj hnext).symm⟩⟩
    · cases hnext
  | recv data =>
    unfold next at hnext
    simp only at hnext
    split at hnext
    · rename_i source batch hpoint hbatch
      split at hnext
      · cases hnext
      · rename_i hlength
        refine ⟨hpoint, .inr ⟨source, batch, hbatch, ?_⟩⟩
        split at hnext
        · rename_i hdata
          exact .inl ⟨by rw [hdata], (Option.some.inj hnext).symm⟩
        · rename_i hdata
          exact .inr ⟨data, rfl, hdata, Nat.not_lt.mp hlength, (Option.some.inj hnext).symm⟩
    · cases hnext

/-! ### The loop invariant -/

/-- What holds in front of every `select` and every `recv`: the registered
    sides are those that have not ended, the rest of the batch is among them,
    and each side was written what the other sent. -/
structure Balanced (s : State) : Prop where
  open_sides : ∀ side, side ∈ s.registered ↔ s.eof side = false
  distinct : s.registered.Nodup
  batch : s.batch.Nodup ∧ ∀ source ∈ s.batch, source ∈ s.registered
  writes : ∀ side, s.writes side.other =
    (s.chunks side).map .sendall ++ if s.eof side then [.shutdown] else []
  no_empty : ∀ side, [] ∉ s.chunks side
  point : s.point = loopPoint s.registered s.batch

/-- The next source of the batch is open, and the sources behind it are other
    ones that are registered too. -/
theorem Balanced.head {s : State} (hs : Balanced s) {source : Side} {batch : List Side}
    (hbatch : s.batch = source :: batch) :
    source ∈ s.registered ∧ s.eof source = false ∧ source ∉ batch ∧ batch.Nodup ∧
      ∀ other ∈ batch, other ∈ s.registered := by
  obtain ⟨hnodup, hmem⟩ := hs.batch
  rw [hbatch] at hnodup hmem
  obtain ⟨hnotin, hnodup⟩ := List.nodup_cons.mp hnodup
  have hsource := hmem source List.mem_cons_self
  refine ⟨hsource, (hs.open_sides source).mp hsource, hnotin, hnodup, ?_⟩
  intro other hother
  exact hmem other (List.mem_cons_of_mem source hother)

theorem balanced_forward {s : State} (hs : Balanced s) {source : Side} {batch : List Side}
    (hbatch : s.batch = source :: batch) {data : Bytes} (hdata : data ≠ []) :
    Balanced (forward s source batch data) := by
  obtain ⟨-, hopen, -, hnodup, hmem⟩ := hs.head hbatch
  refine ⟨hs.open_sides, hs.distinct, ⟨hnodup, hmem⟩, ?_, ?_, rfl⟩
  · intro side
    have hwrites := hs.writes side
    show Function.update s.writes source.other (s.writes source.other ++ [.sendall data]) side.other =
      ((Function.update s.chunks source (s.chunks source ++ [data])) side).map .sendall ++
        if s.eof side then [.shutdown] else []
    by_cases hside : side = source
    · rw [hside, Function.update_self, Function.update_self, List.map_append, hopen, ← hside, hwrites,
        hside, hopen]
      simp
    · rw [Function.update_of_ne (Side.other_ne_other hside), Function.update_of_ne hside, hwrites]
  · intro side
    show [] ∉ Function.update s.chunks source (s.chunks source ++ [data]) side
    by_cases hside : side = source
    · rw [hside, Function.update_self, List.mem_append, List.mem_singleton, not_or]
      exact ⟨hs.no_empty source, fun h => hdata h.symm⟩
    · rw [Function.update_of_ne hside]
      exact hs.no_empty side

theorem balanced_finish {s : State} (hs : Balanced s) {source : Side} {batch : List Side}
    (hbatch : s.batch = source :: batch) : Balanced (finish s source batch) := by
  obtain ⟨hsource, hopen, hnotin, hnodup, hmem⟩ := hs.head hbatch
  unfold finish
  rw [if_pos hsource]
  refine ⟨?_, hs.distinct.erase source, ⟨hnodup, ?_⟩, ?_, hs.no_empty, rfl⟩
  · intro side
    show side ∈ s.registered.erase source ↔ Function.update s.eof source true side = false
    rw [hs.distinct.mem_erase_iff]
    by_cases hside : side = source
    · rw [hside, Function.update_self]
      simp
    · rw [Function.update_of_ne hside, hs.open_sides]
      simp [hside]
  · -- the sources that are still to be served are other ones
    intro other hother
    apply hs.distinct.mem_erase_iff.mpr
    refine ⟨?_, hmem other hother⟩
    intro h
    rw [h] at hother
    exact hnotin hother
  · intro side
    have hwrites := hs.writes side
    show Function.update s.writes source.other (s.writes source.other ++ [.shutdown]) side.other =
      (s.chunks side).map .sendall ++
        if Function.update s.eof source true side then [.shutdown] else []
    by_cases hside : side = source
    · rw [hside, Function.update_self, Function.update_self, ← hside, hwrites, hside, hopen]
      simp
    · rw [Function.update_of_ne (Side.other_ne_other hside), Function.update_of_ne hside, hwrites]

theorem balanced_step {s s' : State} {l : Label} (hs : Balanced s) (h : relay.step s l s') :
    Balanced s' := by
  obtain ⟨hpoint, hcases⟩ := step_cases h
  rcases hcases with ⟨ready, _, hbatch, hnodup, hregistered, hs'⟩ | ⟨source, batch, hbatch, hrecv⟩
  · rw [hs']
    refine ⟨hs.open_sides, hs.distinct, ⟨hnodup, hregistered⟩, hs.writes, hs.no_empty, ?_⟩
    -- some side is registered, or the loop would have ended
    have hopen : s.registered ≠ [] := by
      intro hnone
      have hreturned := hs.point
      rw [hpoint, loopPoint, if_pos ⟨hbatch, hnone⟩] at hreturned
      cases hreturned
    show s.point = loopPoint s.registered ready
    rw [hpoint, loopPoint, if_neg fun hboth => hopen hboth.2]
  · rcases hrecv with ⟨_, hs'⟩ | ⟨data, _, hdata, _, hs'⟩
    · rw [hs']
      exact balanced_finish hs hbatch
    · rw [hs']
      exact balanced_forward hs hbatch hdata

theorem reachable_balanced {s : State} (h : Lts.Reachable relay s) : Balanced s := by
  apply h.invariant
  · refine ⟨?_, by decide, ⟨List.nodup_nil, List.forall_mem_nil _⟩, fun _ => rfl,
      fun _ => List.not_mem_nil, rfl⟩
    intro side
    cases side <;> decide
  · intro s l s' _ hs hstep
    exact balanced_step hs hstep

/-! ### Nothing is lost -/

/-- The bytes of a write. -/
def Write.data : Write → Bytes
  | sendall data => data
  | shutdown => []

/-- The bytes delivered to a side. -/
def delivered (s : State) (side : Side) : Bytes := (s.writes side).flatMap Write.data

theorem flatMap_sendall (chunks : List Bytes) :
    (chunks.map Write.sendall).flatMap Write.data = chunks.flatten := by
  induction chunks with
  | nil => rfl
  | cons chunk chunks ih => rw [List.map_cons, List.flatMap_cons, ih, List.flatten_cons]; rfl

theorem Balanced.delivered {s : State} (hs : Balanced s) (side : Side) :
    delivered s side.other = (s.chunks side).flatten := by
  unfold Relay.delivered
  rw [hs.writes side, List.flatMap_append, flatMap_sendall]
  cases s.eof side with
  | false => exact List.append_nil _
  | true => exact List.append_nil _

theorem Balanced.returned_iff {s : State} (hs : Balanced s) :
    s.point = .returned ↔ ∀ side, s.eof side = true := by
  rw [hs.point, loopPoint]
  constructor
  · intro h
    split at h
    · rename_i hdone
      intro side
      cases hside : s.eof side with
      | true => rfl
      | false =>
        have hmem := (hs.open_sides side).mpr hside
        rw [hdone.2] at hmem
        cases hmem
    · cases h
  · intro h
    have hnone : s.registered = [] := by
      apply List.eq_nil_iff_forall_not_mem.mpr
      intro side hmem
      have hopen := (hs.open_sides side).mp hmem
      rw [h side] at hopen
      cases hopen
    have hbatch : s.batch = [] := by
      apply List.eq_nil_iff_forall_not_mem.mpr
      intro side hmem
      have hregistered := hs.batch.2 side hmem
      rw [hnone] at hregistered
      cases hregistered
    rw [if_pos ⟨hbatch, hnone⟩]

theorem Balanced.looping {s : State} (hs : Balanced s) {side : Side} (hopen : s.eof side = false) :
    s.point = .looping := by
  rw [hs.point, loopPoint, if_neg]
  intro ⟨_, hnone⟩
  have hmem := (hs.open_sides side).mpr hopen
  rw [hnone] at hmem
  cases hmem

/-- The sides that are still open can be selected, in any order. -/
theorem Balanced.select {s : State} (hs : Balanced s) {side : Side} (hopen : s.eof side = false)
    (hbatch : s.batch = []) {ready : List Side} (hnodup : ready.Nodup)
    (hready : ∀ source ∈ ready, s.eof source = false) :
    ∃ s', relay.step s (.select ready) s' ∧ s'.batch = ready := by
  refine ⟨{ s with batch := ready }, ?_, rfl⟩
  refine if_pos ⟨hs.looping hopen, hbatch, hnodup, ?_⟩
  intro source hsource
  exact (hs.open_sides source).mpr (hready source hsource)

/-- What the next source of the batch sends is written to the other side. -/
theorem Balanced.recv {s : State} (hs : Balanced s) {source : Side} {batch : List Side}
    (hbatch : s.batch = source :: batch) {data : Bytes} (hlength : data.length ≤ 65536) :
    ∃ s', relay.step s (.recv data) s' ∧ s'.writes source.other =
      s.writes source.other ++ [if data = [] then .shutdown else .sendall data] := by
  have hsource : source ∈ s.registered := hs.batch.2 source (by rw [hbatch]; exact List.mem_cons_self)
  have hpoint := hs.looping ((hs.open_sides source).mp hsource)
  by_cases hdata : data = []
  · refine ⟨finish s source batch, ?_, ?_⟩
    · show next s (.recv data) = _
      simp only [next, hpoint, hbatch]
      rw [if_neg (by omega), if_pos hdata]
    · unfold finish
      rw [if_pos hsource, if_pos hdata]
      exact Function.update_self ..
  · refine ⟨forward s source batch data, ?_, ?_⟩
    · show next s (.recv data) = _
      simp only [next, hpoint, hbatch]
      rw [if_neg (by omega), if_neg hdata]
    · unfold forward
      rw [if_neg hdata]
      exact Function.update_self ..

/-- Whatever the batches, the chunks and the ends: each side is sent the bytes
    of the other, then one `shutdown` once the other has ended; `relay` returns
    exactly when both have, never fails, and serves the side that is open. -/
theorem relay_complete {s : State} (h : Lts.Reachable relay s) :
    (∀ side, delivered s side.other = (s.chunks side).flatten ∧
      s.writes side.other =
        (s.chunks side).map .sendall ++ if s.eof side then [.shutdown] else []) ∧
    (s.point = .returned ↔ ∀ side, s.eof side = true) ∧ s.point ≠ .raised ∧
    (∀ side, s.eof side = false → s.batch = [] → ∀ ready : List Side, ready.Nodup →
      (∀ source ∈ ready, s.eof source = false) →
        ∃ s', relay.step s (.select ready) s' ∧ s'.batch = ready) ∧
    ∀ source batch, s.batch = source :: batch → ∀ data : Bytes, data.length ≤ 65536 →
      ∃ s', relay.step s (.recv data) s' ∧ s'.writes source.other =
        s.writes source.other ++ [if data = [] then .shutdown else .sendall data] := by
  have hs := reachable_balanced h
  refine ⟨fun side => ⟨hs.delivered side, hs.writes side⟩, hs.returned_iff, ?_, ?_, ?_⟩
  · rw [hs.point, loopPoint]
    split
    · intro hraised
      cases hraised
    · intro hraised
      cases hraised
  · intro side hopen hbatch ready
    exact hs.select hopen hbatch
  · intro source batch hbatch data
    exact hs.recv hbatch

/-- Both sides are ready, and the first ends. -/
theorem relay_complete_sample :
    let s := relay.play [.select [.upstream, .client], .recv [], .recv [1, 2], .select [.client],
      .recv []]
    (∀ side, delivered s side.other = (s.chunks side).flatten ∧
      s.writes side.other =
        (s.chunks side).map .sendall ++ if s.eof side then [.shutdown] else []) ∧
    s.writes .upstream = [.sendall [1, 2], .shutdown] ∧ s.point = .returned := by
  intro s
  have hreach : Lts.Reachable relay s := Lts.reachable_play _
  exact ⟨(relay_complete hreach).1, by decide, by decide⟩

/-! ### The loop within `handle` -/

section refinement

variable {I : Interp} {stream : Bytes} {b : TcpProxy.State}

/-- The state of `handle` that called `relay` in the state `b`. -/
def toHandle (b : TcpProxy.State) (s : State) : TcpProxy.State :=
  { b with
    point := relayPoint (!s.eof .client) (!s.eof .upstream)
    received := b.received ++ (s.chunks .client).flatten
    to_upstream := b.to_upstream ++ delivered s .upstream
    from_upstream := b.from_upstream ++ (s.chunks .upstream).flatten
    to_client := b.to_client ++ delivered s .client }

/-- The client's socket gives the bytes of its stream, and ends with it. -/
def Feeds (stream : Bytes) (b : TcpProxy.State) (s : State) : Label → Prop
  | .recv data => s.batch.head? = some .client →
      (toHandle b s).received ++ data <+: stream ∧ (data = [] → (toHandle b s).received = stream)
  | .select _ => True

instance (stream : Bytes) (b : TcpProxy.State) (s : State) (l : Label) :
    Decidable (Feeds stream b s l) :=
  match l with
  | .recv _ => inferInstanceAs (Decidable (_ → _))
  | .select _ => inferInstanceAs (Decidable True)

/-- While a side is open, `handle` is in `relay` and copies from it. -/
theorem point_client (b : TcpProxy.State) {s : State} (hopen : s.eof .client = false) :
    (toHandle b s).point = .relaying true (!s.eof .upstream) := by
  show relayPoint (!s.eof .client) _ = _
  rw [hopen]
  rfl

theorem point_upstream (b : TcpProxy.State) {s : State} (hopen : s.eof .upstream = false) :
    (toHandle b s).point = .relaying (!s.eof .client) true := by
  show relayPoint _ (!s.eof .upstream) = _
  rw [hopen, relayPoint, if_pos (by simp)]
  rfl

/-- The client sends a chunk: `upload`. -/
theorem handle_upload {s : State} (hs : Balanced s) {batch : List Side}
    (hbatch : s.batch = .client :: batch) {data : Bytes} (hdata : data ≠ [])
    (hlength : data.length ≤ 65536) (hfeeds : (toHandle b s).received ++ data <+: stream) :
    (handle I stream).step (toHandle b s) (.upload data.length .all)
      (toHandle b (forward s .client batch data)) := by
  obtain ⟨-, hopen, -⟩ := hs.head hbatch
  have hpoint := point_client b hopen
  have htake : (stream.drop (toHandle b s).received.length).take data.length = data := by
    obtain ⟨rest, hrest⟩ := hfeeds
    rw [← hrest, List.append_assoc, List.drop_left, List.take_left]
  have hlimit : ¬ (65536 < data.length ∨
      stream.length < (toHandle b s).received.length + data.length) := by
    have hle := hfeeds.length_le
    rw [List.length_append] at hle
    omega
  have hne : ¬ data.length = 0 := fun h => hdata (List.eq_nil_of_length_eq_zero h)
  show TcpProxy.next I stream (toHandle b s) (.upload data.length .all) = some _
  simp only [TcpProxy.next, hpoint]
  rw [upload, if_neg hne, if_neg hlimit]
  simp only [htake]
  -- the bytes go to the upstream in the order in which they came
  unfold toHandle forward delivered
  simp [Function.update, Sent.point, Sent.taken, Side.other, relayPoint, hopen, Write.data]

/-- The client has ended: `upload` of nothing. -/
theorem handle_client_eof {s : State} (hs : Balanced s) {batch : List Side}
    (hbatch : s.batch = .client :: batch) (hall : (toHandle b s).received = stream) :
    (handle I stream).step (toHandle b s) (.upload 0 .all) (toHandle b (finish s .client batch)) := by
  obtain ⟨hsource, hopen, -⟩ := hs.head hbatch
  have hpoint := point_client b hopen
  show TcpProxy.next I stream (toHandle b s) (.upload 0 .all) = some _
  simp only [TcpProxy.next, hpoint]
  rw [upload, if_pos rfl, if_pos hall]
  unfold toHandle finish delivered
  rw [if_pos hsource]
  simp [Function.update, Side.other, Write.data]

/-- The upstream sends a chunk: `download`. -/
theorem handle_download {s : State} (hs : Balanced s) {batch : List Side}
    (hbatch : s.batch = .upstream :: batch) {data : Bytes} (hdata : data ≠ [])
    (hlength : data.length ≤ 65536) :
    (handle I stream).step (toHandle b s) (.download data .all)
      (toHandle b (forward s .upstream batch data)) := by
  obtain ⟨-, hopen, -⟩ := hs.head hbatch
  have hpoint := point_upstream b hopen
  show TcpProxy.next I stream (toHandle b s) (.download data .all) = some _
  simp only [TcpProxy.next, hpoint]
  rw [download, if_neg hdata, if_neg (by omega)]
  unfold toHandle forward delivered
  simp [Function.update, Sent.point, Sent.taken, Side.other, relayPoint, hopen, Write.data]

/-- The upstream has ended: `download` of nothing. -/
theorem handle_upstream_eof {s : State} (hs : Balanced s) {batch : List Side}
    (hbatch : s.batch = .upstream :: batch) :
    (handle I stream).step (toHandle b s) (.download [] .all)
      (toHandle b (finish s .upstream batch)) := by
  obtain ⟨hsource, hopen, -⟩ := hs.head hbatch
  have hpoint := point_upstream b hopen
  show TcpProxy.next I stream (toHandle b s) (.download [] .all) = some _
  simp only [TcpProxy.next, hpoint]
  rw [download, if_pos rfl]
  unfold toHandle finish delivered
  rw [if_pos hsource]
  simp [Function.update, Side.other, Write.data]

/-- Every run of the loop on the client's stream is a run of `handle`: a
    `select` is no step of it, and a `recv` is one `upload` or `download`. -/
theorem relay_refines_handle (hb : Lts.Reachable (handle I stream) b)
    (hcall : b.point = .relaying true true) {s : State}
    (h : Lts.Reachable (relay.restrict (Feeds stream b)) s) :
    Lts.Reachable (handle I stream) (toHandle b s) := by
  apply h.invariant
  · have hinit : toHandle b relay.init = b := by
      unfold toHandle delivered
      show { b with point := .relaying true true
                    received := b.received ++ []
                    to_upstream := b.to_upstream ++ []
                    from_upstream := b.from_upstream ++ []
                    to_client := b.to_client ++ [] } = b
      simp only [List.append_nil]
      rw [← hcall]
    show Lts.Reachable (handle I stream) (toHandle b relay.init)
    rw [hinit]
    exact hb
  · intro s l s' hr hreach hstep
    have hs := reachable_balanced hr.of_restrict
    obtain ⟨hfeeds, hstep⟩ := Lts.restrict_step.mp hstep
    obtain ⟨_, hcases⟩ := step_cases hstep
    -- `select` changes nothing that `handle` shows; a `recv` is one of its steps
    rcases hcases with ⟨ready, _, _, _, _, hs'⟩ | ⟨source, batch, hbatch, hrecv⟩
    · rw [hs']
      exact hreach
    · rcases hrecv with ⟨hl, hs'⟩ | ⟨data, hl, hdata, hlength, hs'⟩
      · rw [hs']
        cases source with
        | client =>
          rw [hl] at hfeeds
          exact hreach.step (handle_client_eof hs hbatch ((hfeeds (by rw [hbatch]; rfl)).2 rfl))
        | upstream => exact hreach.step (handle_upstream_eof hs hbatch)
      · rw [hs']
        cases source with
        | client =>
          rw [hl] at hfeeds
          exact hreach.step
            (handle_upload hs hbatch hdata hlength (hfeeds (by rw [hbatch]; rfl)).1)
        | upstream => exact hreach.step (handle_download hs hbatch hdata hlength)

end refinement

end Relay

end BoVpnAgent.TcpProxy

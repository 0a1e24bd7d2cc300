import RemoteDisk.Proofs.Moves
import RemoteDisk.Proofs.Submit

/-!
# Segments carried over as a whole

Pieces that follow one another without a gap are carried over as if they
were one. The chunks of a segment follow one another, so a read puts into
each of its buffers the one range that starts at the segment's first sector
(`Route.contents`). Segments follow one another where each but the last has
whole sectors, and a write of such segments is one write of their bytes.

No byte of a bounce buffer takes part in these statements: whatever it held
is overwritten before it is used.
-/

namespace RemoteDisk

/-- Byte strings, one after another. -/
def Bytes.join (bs : List ByteArray) : ByteArray := bs.foldr (· ++ ·) ByteArray.empty

theorem Bytes.size_join_cons (b : ByteArray) (bs : List ByteArray) :
    (join (b :: bs)).size = b.size + (join bs).size := ByteArray.size_append

theorem Chunk.Tiles.le {start stop : Nat} {cs : List Chunk} (h : Tiles start cs stop) :
    start ≤ stop := by
  induction cs generalizing start with
  | nil => exact Nat.le_of_eq h
  | cons c cs ih =>
    have rest := ih h.2
    omega

namespace Bytes

theorem size_overlayAt (offset : Nat) (piece buffer : ByteArray) :
    (overlayAt offset piece buffer).size = buffer.size := by
  unfold overlayAt overlay
  simp only [ByteArray.size_append, ByteArray.size_extract]
  omega

/-- **Bytes laid over a buffer that has room for them** are found where they were
laid, behind what was there before. -/
theorem extract_overlayAt {offset : Nat} {piece buffer : ByteArray}
    (inside : offset + piece.size ≤ buffer.size) :
    (overlayAt offset piece buffer).extract 0 (offset + piece.size)
      = buffer.extract 0 offset ++ piece := by
  have before : (buffer.extract 0 offset).size = offset := by
    rw [ByteArray.size_extract]
    omega
  have room : piece.size ≤ (buffer.extract offset buffer.size).size := by
    rw [ByteArray.size_extract]
    omega
  have whole := ByteArray.extract_zero_max_size (a := piece)
    (i := (buffer.extract offset buffer.size).size)
  rw [Nat.max_eq_left room] at whole
  unfold overlayAt overlay
  rw [whole, ← ByteArray.append_assoc, ByteArray.extract_append_eq_left]
  rw [ByteArray.size_append, before]

end Bytes

namespace Delivery

/-- A buffer after deliveries that are all for it. -/
def fill (ds : List Delivery) (b : ByteArray) : ByteArray := ds.foldl (fun b d => d.onto b) b

/-- **What a chunk of a buffer delivers** out of remote memory, where the segment
starts at some place. -/
def ofChunk (buffer : Nat) (remote : Memory) (place : Nat) (c : Chunk) : Delivery :=
  ⟨buffer, c.offset, remote.read (place + c.offset) c.len⟩

/-- Deliveries made one after another leave what the later ones make of the earlier. -/
theorem putAll_append (ds es : List Delivery) (bs : List ByteArray) :
    putAll (ds ++ es) bs = putAll es (putAll ds bs) :=
  List.foldl_append

/-- **Deliveries to one buffer** leave the others alone. -/
theorem putAll_own {ds : List Delivery} {done : List ByteArray}
    (own : ∀ d ∈ ds, d.buffer = done.length) (b : ByteArray) (rest : List ByteArray) :
    putAll ds (done ++ b :: rest) = done ++ fill ds b :: rest := by
  induction ds generalizing b with
  | nil => rfl
  | cons d ds ih =>
    have here : (done ++ b :: rest).modify d.buffer d.onto = done ++ d.onto b :: rest := by
      rw [own d List.mem_cons_self, List.modify_eq_take_cons_drop (by simp)]
      simp
    show putAll ds ((done ++ b :: rest).modify d.buffer d.onto) = _
    rw [here, ih (fun e he => own e (List.mem_cons_of_mem d he))]
    rfl

/-- **Chunks that follow one another fill a buffer** with one range, from where it
is filled already. -/
theorem extract_fill {remote : Memory} {buffer place start stop : Nat} {cs : List Chunk}
    (tiles : Chunk.Tiles start cs stop) {b : ByteArray} (inside : stop ≤ b.size)
    (filled : b.extract 0 start = remote.read place start) :
    let b' := fill (cs.map (ofChunk buffer remote place)) b
    b'.size = b.size ∧ b'.extract 0 stop = remote.read place stop := by
  induction cs generalizing start b with
  | nil =>
    obtain rfl : start = stop := tiles
    exact ⟨rfl, filled⟩
  | cons c cs ih =>
    obtain ⟨rfl, rest⟩ := tiles
    have le := rest.le
    have len : (remote.read (place + c.offset) c.len).size = c.len := remote.size_read _ _
    have size := Bytes.size_overlayAt c.offset (remote.read (place + c.offset) c.len) b
    have room : c.offset + (remote.read (place + c.offset) c.len).size ≤ b.size := by omega
    have here := Bytes.extract_overlayAt room
    rw [len, filled, Memory.read_append] at here
    obtain ⟨size', filled'⟩ := ih rest (Nat.le_trans inside (Nat.le_of_eq size.symm)) here
    exact ⟨size'.trans size, filled'⟩

/-- **Chunks that tile a buffer** leave one range in it, and nothing of what it
held. -/
theorem fill_tiles {remote : Memory} {buffer place : Nat} {b : ByteArray} {cs : List Chunk}
    (tiles : Chunk.Tiles 0 cs b.size) :
    fill (cs.map (ofChunk buffer remote place)) b = remote.read place b.size := by
  have nothing : b.extract 0 0 = remote.read place 0 := by
    rw [ByteArray.extract_same]
    exact (ByteArray.size_eq_zero_iff.mp (remote.size_read place 0)).symm
  obtain ⟨size, filled⟩ := extract_fill tiles (Nat.le_refl _) nothing
  rw [← size, ByteArray.extract_zero_size, size] at filled
  exact filled

end Delivery

namespace Store

variable {bounce : Buffer} {base : UInt64} {place start stop : Nat} {cs : List Chunk}

/-- The store after one list of pieces and then another. -/
theorem carryAll_append (s : Store) (ps qs : List Piece) :
    s.carryAll bounce base (ps ++ qs) = (s.carryAll bounce base ps).carryAll bounce base qs :=
  List.foldl_append

/-- **Chunks that tile some bytes are one write** of these bytes. -/
theorem carryAll_source_chunks (bounce : Buffer) {data : ByteArray}
    (tiles : Chunk.Tiles start cs stop) (inside : stop ≤ data.size)
    (above : base.toNat ≤ place) (s : Store) (b : Nat) :
    (s.carryAll bounce base
        (cs.map (fun c =>
          ⟨place + c.offset, c.offset, (Segment.source data).part c⟩))).remote.byte b
      = (s.remote.write (place - base.toNat + start) (data.extract start stop)).byte b := by
  induction cs generalizing start s with
  | nil =>
    obtain rfl : start = stop := tiles
    rw [ByteArray.extract_same, Memory.byte_write_empty]
    rfl
  | cons c cs ih =>
    obtain ⟨rfl, rest⟩ := tiles
    have le := rest.le
    have size : (data.extract c.offset (c.offset + c.len)).size = c.len := by
      rw [ByteArray.size_extract, Nat.min_eq_left (by omega), Nat.add_sub_cancel_left]
    -- the first chunk's bytes, and those that the other chunks tile
    have parts : data.extract c.offset stop
        = data.extract c.offset (c.offset + c.len) ++ data.extract (c.offset + c.len) stop :=
      ByteArray.extract_eq_extract_append_extract _ (Nat.le_add_right _ _) le
    have next := ih rest (Piece.carry bounce base
      ⟨place + c.offset, c.offset, (Segment.source data).part c⟩ s)
    rw [parts, ← Memory.byte_write_append, size, Nat.add_assoc]
    refine next.trans ?_
    show ((s.remote.write (place + c.offset - base.toNat) _).write _ _).byte b = _
    rw [Nat.sub_add_comm above]

/-- **Chunks of a buffer are delivered where they lie in it**, and leave remote
memory alone. -/
theorem carryAll_sink_chunks (bounce : Buffer) (buffer size : Nat) (cs : List Chunk)
    (above : base.toNat ≤ place) (s : Store) :
    let s' := s.carryAll bounce base
      (cs.map (fun c => ⟨place + c.offset, c.offset, (Segment.sink buffer size).part c⟩))
    s'.remote = s.remote
      ∧ s'.delivered
        = s.delivered ++ cs.map (Delivery.ofChunk buffer s.remote (place - base.toNat)) := by
  intro s'
  induction cs generalizing s with
  | nil => exact ⟨rfl, (List.append_nil _).symm⟩
  | cons c cs ih =>
    obtain ⟨remote, delivered⟩ := ih (Piece.carry bounce base
      ⟨place + c.offset, c.offset, (Segment.sink buffer size).part c⟩ s)
    refine ⟨remote, delivered.trans ?_⟩
    rw [List.map_cons, List.append_cons, Delivery.ofChunk, ← Nat.sub_add_comm above]
    rfl

end Store

namespace Route

variable {route : Route} {base : UInt64} {cursor : Nat}

/-- A segment that a write brings is one write. -/
theorem carryAll_source (data : ByteArray) (above : base.toNat ≤ route.address cursor) (s : Store)
    (b : Nat) :
    (s.carryAll route.bounce base (route.segmentPieces cursor (.source data))).remote.byte b
      = (s.remote.write (route.address cursor - base.toNat) data).byte b := by
  have tiles := Chunk.Plan.tiles_start data.size route.bounce.size
  have one := Store.carryAll_source_chunks route.bounce tiles (Nat.le_refl _) above s b
  rw [ByteArray.extract_zero_size] at one
  exact one

/-- **A buffer that a read fills** is given the range at its place, and no other
buffer is touched. -/
theorem carryAll_sink (done rest : List ByteArray) (b : ByteArray)
    (above : base.toNat ≤ route.address cursor) (s : Store) :
    let s' := s.carryAll route.bounce base
      (route.segmentPieces cursor (.sink done.length b.size))
    s'.remote = s.remote
      ∧ ∃ ds, s'.delivered = s.delivered ++ ds ∧ Delivery.putAll ds (done ++ b :: rest)
        = done ++ s.remote.read (route.address cursor - base.toNat) b.size :: rest := by
  obtain ⟨remote, delivered⟩ := Store.carryAll_sink_chunks route.bounce done.length b.size
    (Chunk.Plan.start b.size route.bounce.size).chunks above s
  refine ⟨remote, _, delivered, ?_⟩
  rw [Delivery.putAll_own (fun d hd => ?_), Delivery.fill_tiles
    (Chunk.Plan.tiles_start b.size route.bounce.size)]
  obtain ⟨c, -, rfl⟩ := List.mem_map.mp hd
  rfl

/-- **A segment of whole sectors** ends where the next one starts. -/
theorem address_aligned (route : Route) (cursor : Nat) {size : Nat}
    (whole : Geometry.sectorSize ∣ size) :
    route.address (cursor + size / Geometry.sectorSize) = route.address cursor + size := by
  unfold address
  rw [Nat.add_mul, Nat.div_mul_cancel whole, Nat.add_assoc]

/-- **Segments that a write brings are one write**, where each but the last
has whole sectors. -/
theorem carryAll_sources {bs : List ByteArray}
    (aligned : ∀ x ∈ bs.dropLast, Geometry.sectorSize ∣ x.size)
    (above : base.toNat ≤ route.address cursor) (s : Store) (b : Nat) :
    (s.carryAll route.bounce base (route.pieces cursor (bs.map .source))).remote.byte b
      = (s.remote.write (route.address cursor - base.toNat) (Bytes.join bs)).byte b := by
  induction bs generalizing cursor s with
  | nil => exact (Memory.byte_write_empty _ _ _).symm
  | cons x bs ih =>
    rw [List.map_cons, pieces, Store.carryAll_append]
    -- the last segment need not end with a sector: nothing follows it
    rcases bs with _ | ⟨y, bs⟩
    · rw [show Bytes.join [x] = x from ByteArray.append_empty]
      exact carryAll_source x above s b
    · have whole : Geometry.sectorSize ∣ x.size := aligned x List.mem_cons_self
      have next := route.address_aligned cursor whole
      have rest := ih (fun z hz => aligned z (List.mem_cons_of_mem x hz)) (by
        rw [next]
        omega) (s.carryAll route.bounce base (route.segmentPieces cursor (.source x)))
      rw [next, Nat.sub_add_comm above] at rest
      refine rest.trans ?_
      rw [Memory.byte_write_congr (carryAll_source x above s b)]
      exact Memory.byte_write_append _ _ _ _ _

/-- **What buffers are filled with** from a sector on: each with the range from
its first sector on. -/
def contents (route : Route) (base : UInt64) (remote : Memory) :
    (cursor : Nat) → List ByteArray → List ByteArray
  | _, [] => []
  | cursor, b :: bs =>
    remote.read (route.address cursor - base.toNat) b.size
      :: route.contents base remote (cursor + b.size / Geometry.sectorSize) bs

/-- **Segments that a read fills are given their contents**, whatever their
lengths. -/
theorem carryAll_sinks (done bs : List ByteArray)
    (above : base.toNat ≤ route.address cursor) (s : Store) :
    let s' := s.carryAll route.bounce base
      (route.pieces cursor ((bs.zipIdx done.length).map (fun b => .sink b.2 b.1.size)))
    s'.remote = s.remote
      ∧ ∃ ds, s'.delivered = s.delivered ++ ds
        ∧ Delivery.putAll ds (done ++ bs) = done ++ route.contents base s.remote cursor bs := by
  intro s'
  induction bs generalizing cursor s done with
  | nil => exact ⟨rfl, [], (List.append_nil _).symm, rfl⟩
  | cons b bs ih =>
    unfold s'
    rw [List.zipIdx_cons, List.map_cons, pieces, Store.carryAll_append]
    obtain ⟨remote, ds, delivered, put⟩ := carryAll_sink done bs b above s
    have onward := (route.address_next cursor b.size).1
    obtain ⟨remote', ds', delivered', put'⟩ := ih
      (done ++ [s.remote.read (route.address cursor - base.toNat) b.size])
      (Nat.le_trans above onward) (s.carryAll route.bounce base
        (route.segmentPieces cursor (.sink done.length b.size)))
    rw [List.length_append, List.length_singleton] at remote' delivered'
    refine ⟨remote'.trans remote, ds ++ ds', ?_, ?_⟩
    · rw [← List.append_assoc, ← delivered]
      exact delivered'
    · rw [Delivery.putAll_append, put, List.append_cons, put', remote, List.append_assoc]
      rfl

end Route

end RemoteDisk

import RemoteDisk.Proofs.Acts

/-!
# A request as a list of pieces

Serving walks segments, cuts each into chunks and computes for every chunk
where it lies on the disk. All of that can be known before anything is
moved: a request comes down to a list of `Piece`s, each a run of bytes and
the bus address of its first one.

`serveSegments_eq` says that serving is moving these pieces one after
another, as long as no address leaves its word (`Route.Fits`). What is
proved about moving a list of pieces is then proved about the two nested
loops.
-/

namespace RemoteDisk

namespace Chunk

/-- **Chunks that follow one another without a gap** from one offset to
another. -/
def Tiles : (start : Nat) → List Chunk → (stop : Nat) → Prop
  | start, [], stop => start = stop
  | start, c :: rest, stop => c.offset = start ∧ Tiles (start + c.len) rest stop

/-- **The part of a segment that a chunk covers can be taken** exactly where the
chunk ends within the segment, and within a word. -/
theorem stopWithin_eq_ok {c : Chunk} {size stop : Nat} : c.stopWithin size = .ok stop
    ↔ stop = c.offset + c.len ∧ stop ≤ size ∧ stop < Geometry.wordLimit := by
  unfold stopWithin Chunk.stop
  by_cases word : c.offset + c.len < Geometry.wordLimit
  · rw [if_pos word]
    show (if c.offset + c.len ≤ size then .ok (c.offset + c.len) else .error Fault.outOfBounds)
      = Except.ok stop ↔ _
    by_cases inside : c.offset + c.len ≤ size
    · rw [if_pos inside, Except.ok.injEq]
      exact ⟨fun same => same ▸ ⟨rfl, inside, word⟩, fun h => h.1.symm⟩
    · rw [if_neg inside]
      exact iff_of_false nofun fun ⟨same, inside', _⟩ => inside (same ▸ inside')
  · rw [if_neg word]
    exact iff_of_false nofun fun ⟨same, _, word'⟩ => word (same ▸ word')

namespace Plan

/-- What the next chunk is, and what it leaves. -/
theorem next?_eq_some {p rest : Plan} {c : Chunk} (h : p.next? = some (c, rest)) :
    p.offset < p.total ∧ c = ⟨p.offset, p.nextLen⟩
      ∧ rest = { p with offset := p.offset + p.nextLen } := by
  unfold next? at h
  split at h
  · next left =>
    obtain ⟨rfl, rfl⟩ := Prod.mk.inj (Option.some.inj h)
    exact ⟨left, rfl, rfl⟩
  · cases h

/-- A plan without a next chunk is at its end. -/
theorem le_of_next?_eq_none {p : Plan} (h : p.next? = none) : p.total ≤ p.offset := by
  unfold next? at h
  split at h
  · cases h
  · omega

/-- **Chunks lie within what is cut**, have at least one byte and are no
longer than the longest. -/
theorem mem_chunks {p : Plan} {c : Chunk} (h : c ∈ p.chunks) :
    0 < c.len ∧ c.len ≤ p.longest ∧ p.offset ≤ c.offset ∧ c.offset + c.len ≤ p.total := by
  fun_induction chunks p with
  | case1 => cases h
  | case2 p chunk rest next ih =>
    obtain ⟨left, rfl, rfl⟩ := next?_eq_some next
    have pos := p.longest_pos
    rcases List.mem_cons.mp h with rfl | later
    · simp only [nextLen]
      omega
    · obtain ⟨some, most, start, stop⟩ := ih later
      dsimp only at most start stop
      exact ⟨some, most, by omega, stop⟩

/-- **No chunk of a segment leaves it**: its part can be taken. -/
theorem stopWithin_start {total longest : Nat} {c : Chunk} (word : total < Geometry.wordLimit)
    (h : c ∈ (start total longest).chunks) : c.stopWithin total = .ok (c.offset + c.len) := by
  obtain ⟨-, -, -, inside⟩ := mem_chunks h
  exact stopWithin_eq_ok.mpr ⟨rfl, inside, Nat.lt_of_le_of_lt inside word⟩

/-- **The chunks of a plan tile what is left of it.** -/
theorem tiles_chunks (p : Plan) (h : p.offset ≤ p.total) : Tiles p.offset p.chunks p.total := by
  fun_induction chunks p with
  | case1 p none =>
    have := le_of_next?_eq_none none
    exact Nat.le_antisymm h this
  | case2 p chunk rest next ih =>
    obtain ⟨left, rfl, rfl⟩ := next?_eq_some next
    refine ⟨rfl, ih ?_⟩
    simp only [nextLen]
    omega

/-- The chunks of a segment tile it. -/
theorem tiles_start (total longest : Nat) : Tiles 0 (start total longest).chunks total :=
  tiles_chunks (start total longest) (Nat.zero_le total)

/-- Nothing is cut off a segment that was cut to its end. -/
theorem chunks_of_total_le {p : Plan} (h : p.total ≤ p.offset) : p.chunks = [] := by
  unfold chunks
  split
  · rfl
  · next next =>
    obtain ⟨left, -, -⟩ := next?_eq_some next
    omega

/-- **What is no longer than the longest chunk** is one chunk. -/
theorem chunks_start {total longest : Nat} (pos : 0 < total) (h : total ≤ longest) :
    (start total longest).chunks = [⟨0, total⟩] := by
  have len : (start total longest).nextLen = total := by
    unfold nextLen start
    dsimp only
    omega
  unfold chunks
  split
  · next none =>
    have := le_of_next?_eq_none none
    exact absurd pos (Nat.not_lt.mpr this)
  · next next =>
    obtain ⟨-, rfl, rfl⟩ := next?_eq_some next
    rw [len, chunks_of_total_le (Nat.le_add_left _ _)]
    rfl

end Plan

end Chunk

namespace Segment

/-- **The part of a segment that a chunk covers.** -/
def part (s : Segment) (c : Chunk) : Segment :=
  match s with
  | sink buffer _ => sink buffer c.len
  | source data => source (data.extract c.offset (c.offset + c.len))

@[simp] theorem direction_part (s : Segment) (c : Chunk) : (s.part c).direction = s.direction := by
  cases s <;> rfl

/-- A part has the size of its chunk. -/
theorem size_part {s : Segment} {c : Chunk} (h : c.offset + c.len ≤ s.size) :
    (s.part c).size = c.len := by
  cases s with
  | sink => rfl
  | source data =>
    simp only [part, size, ByteArray.size_extract] at h ⊢
    omega

end Segment

/-- **One chunk of a request**, with its place on the bus. -/
structure Piece where
  /-- The bus address of its first byte on the disk. -/
  remote : Nat
  /-- Where in its segment it starts. -/
  offset : Nat
  /-- The bytes to be written, or the room to be filled. -/
  body : Segment

namespace Piece

/-- How many bytes there are. -/
def size (p : Piece) : Nat := p.body.size

/-- **The transfer that moves a piece** through a bounce buffer. -/
def descriptor (bounce : Buffer) (p : Piece) : Descriptor :=
  ⟨p.body.direction, bounce.base, UInt64.ofNat p.remote, UInt64.ofNat p.size⟩

end Piece

namespace Route

variable (route : Route)

/-- The bus address of a sector. -/
def address (sector : Nat) : Nat := route.remoteBase.toNat + sector * Geometry.sectorSize

/-- The pieces of a segment whose first byte lies in a sector. -/
def segmentPieces (cursor : Nat) (s : Segment) : List Piece :=
  (Chunk.Plan.start s.size route.bounce.size).chunks.map
    (fun c => ⟨route.address cursor + c.offset, c.offset, s.part c⟩)

/-- **The pieces of segments that lie one after another**, the first of them
from the sector `cursor` on. A segment that ends within a sector leaves the
rest of that sector to the next. -/
def pieces : (cursor : Nat) → List Segment → List Piece
  | _, [] => []
  | cursor, s :: rest =>
    route.segmentPieces cursor s ++ pieces (cursor + s.size / Geometry.sectorSize) rest

/-- **No address of these segments leaves its word.** -/
def Fits : (cursor : Nat) → List Segment → Prop
  | _, [] => True
  | cursor, s :: rest =>
    route.address cursor + s.size < Geometry.wordLimit
      ∧ Fits (cursor + s.size / Geometry.sectorSize) rest

/-- **Moves one piece.** -/
def movePiece (p : Piece) : Attempt Unit := do
  match p.body with
  | .source data =>
    Attempt.enter .staging
    Attempt.ofAct (route.bounce.stage data)
    route.move (p.descriptor route.bounce)
  | .sink buffer size =>
    route.move (p.descriptor route.bounce)
    let data ← Attempt.ofAct (route.bounce.unstage size)
    Attempt.ofServe (Serve.deliver ⟨buffer, p.offset, data⟩)

/-- Moves pieces in order. -/
def moveAll : List Piece → Attempt Unit
  | [] => pure ()
  | p :: rest => do
    route.movePiece p
    moveAll rest

theorem moveAll_append (ps qs : List Piece) :
    route.moveAll (ps ++ qs) = (do route.moveAll ps; route.moveAll qs) := by
  induction ps with
  | nil => exact (pure_bind () (fun _ => route.moveAll qs)).symm
  | cons p ps ih => simp only [List.cons_append, moveAll, ih, bind_assoc]

end Route

/-- A number that fits a word. -/
theorem Attempt.ofAct_word {n : Nat} (h : n < Geometry.wordLimit) :
    Attempt.ofAct (Act.word n) = pure (UInt64.ofNat n) := by
  unfold Act.word
  rw [if_pos h]
  rfl

/-- A number that does not fit a word ends in overflow. -/
theorem Attempt.ofAct_word_overflow {n : Nat} (h : Geometry.wordLimit ≤ n) (s : Service) :
    Attempt.ofAct (Act.word n) s = (.error .overflow, s) := by
  unfold Act.word
  rw [if_neg (Nat.not_lt.mpr h)]
  rfl

namespace Route

variable {route : Route}

/-- **A segment that fits the bounce buffer** is moved as one piece. -/
theorem pieces_single {cursor : Nat} {segment : Segment} (pos : 0 < segment.size)
    (held : segment.size ≤ route.bounce.size) :
    route.pieces cursor [segment] = [⟨route.address cursor, 0, segment⟩] := by
  have whole : segment.part ⟨0, segment.size⟩ = segment := by
    cases segment with
    | sink => rfl
    | source data =>
      unfold Segment.part
      dsimp only [Segment.size]
      rw [Nat.zero_add, ByteArray.extract_zero_size]
  unfold pieces segmentPieces
  rw [Chunk.Plan.chunks_start pos held, List.map_singleton, whole]
  rfl

/-- A chunk that starts at an address can be described. -/
theorem ofAct_descriptor {start : UInt64} {c : Chunk}
    (fits : start.toNat + c.offset < Geometry.wordLimit) (direction : Direction) :
    Attempt.ofAct (route.descriptor direction start c)
      = pure ⟨direction, route.bounce.base, UInt64.ofNat (start.toNat + c.offset),
          UInt64.ofNat c.len⟩ := by
  unfold descriptor Act.word
  rw [if_pos fits]
  rfl

/-- A chunk that starts beyond the top of the address space cannot be described. -/
theorem ofAct_descriptor_overflow {start : UInt64} {c : Chunk}
    (h : Geometry.wordLimit ≤ start.toNat + c.offset) (direction : Direction) (s : Service) :
    Attempt.ofAct (route.descriptor direction start c) s = (.error .overflow, s) := by
  unfold descriptor Act.word
  rw [if_neg (Nat.not_lt.mpr h)]
  rfl

/-- **Serving a chunk is moving its piece.** -/
theorem serveChunk_eq {s : Segment} {c : Chunk} {start : UInt64}
    (taken : c.stopWithin s.size = .ok (c.offset + c.len))
    (fits : start.toNat + s.size < Geometry.wordLimit) :
    route.serveChunk s start c
      = route.movePiece ⟨start.toNat + c.offset, c.offset, s.part c⟩ := by
  obtain ⟨-, inside, -⟩ := Chunk.stopWithin_eq_ok.mp taken
  have stop : Attempt.ofExcept (c.stopWithin s.size) = pure (c.offset + c.len) := by
    rw [taken]
    rfl
  have place (direction : Direction) : Attempt.ofAct (route.descriptor direction start c) = _ :=
    ofAct_descriptor (by omega) direction
  have size := Segment.size_part inside
  cases s with
  | sink buffer n =>
    simp only [Segment.size] at stop
    simp only [serveChunk, movePiece, Piece.descriptor, Piece.size, Segment.part,
      Segment.direction, stop, place, pure_bind, Segment.size, Nat.add_sub_cancel_left]
  | source data =>
    simp only [Segment.part] at size
    simp only [Segment.size] at stop
    simp only [serveChunk, movePiece, Piece.descriptor, Piece.size, Segment.part,
      Segment.direction, stop, place, pure_bind, size]

/-- Serving the chunks of a segment is moving their pieces. -/
theorem serveChunks_eq {s : Segment} {start : UInt64} (cs : List Chunk)
    (taken : ∀ c ∈ cs, c.stopWithin s.size = .ok (c.offset + c.len))
    (fits : start.toNat + s.size < Geometry.wordLimit) :
    route.serveChunks s start cs
      = route.moveAll (cs.map (fun c => ⟨start.toNat + c.offset, c.offset, s.part c⟩)) := by
  induction cs with
  | nil => rfl
  | cons c cs ih =>
    rw [serveChunks, List.map_cons, moveAll, serveChunk_eq (taken c List.mem_cons_self) fits,
      ih (fun c hc => taken c (List.mem_cons_of_mem _ hc))]

/-- Serving a segment is moving its pieces. -/
theorem serveSegment_eq {cursor : Nat} {s : Segment}
    (fits : route.address cursor + s.size < Geometry.wordLimit) :
    route.serveSegment cursor s = route.moveAll (route.segmentPieces cursor s) := by
  have start : (UInt64.ofNat (route.address cursor)).toNat = route.address cursor :=
    UInt64.toNat_ofNat_of_lt' (Nat.lt_of_le_of_lt (Nat.le_add_right _ _) fits)
  have word : s.size < Geometry.wordLimit := by omega
  unfold serveSegment
  rw [show route.remoteBase.toNat + cursor * Geometry.sectorSize = route.address cursor from rfl,
    Attempt.ofAct_word (by omega), pure_bind,
    serveChunks_eq _ (fun c hc => Chunk.Plan.stopWithin_start word hc) (by rw [start]; exact fits),
    start]
  rfl

/-- **Serving segments is moving their pieces**, as long as every address
fits its word. -/
theorem serveSegments_eq {cursor : Nat} {ss : List Segment} (fits : route.Fits cursor ss) :
    route.serveSegments cursor ss = route.moveAll (route.pieces cursor ss) := by
  induction ss generalizing cursor with
  | nil => rfl
  | cons s ss ih =>
    obtain ⟨here, later⟩ := fits
    -- the cursor is a word as well, being no larger than the address it stands for
    have next : cursor + s.size / Geometry.sectorSize < Geometry.wordLimit := by
      unfold address Geometry.sectorSize at here
      unfold Geometry.sectorSize
      omega
    have value : (UInt64.ofNat (cursor + s.size / Geometry.sectorSize)).toNat
        = cursor + s.size / Geometry.sectorSize := UInt64.toNat_ofNat_of_lt' next
    rw [serveSegments, serveSegment_eq here, pieces, moveAll_append, Attempt.ofAct_word next,
      pure_bind, value, ih later]

end Route

end RemoteDisk

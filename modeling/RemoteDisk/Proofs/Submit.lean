import RemoteDisk.Proofs.Course
import RemoteDisk.Proofs.Probe

/-!
# Accepted requests

A request is accepted by its whole length: the bytes of all segments, rounded
up to sectors once, have to end within the disk. The cursor that walks the
segments rounds down after each of them. So no segment starts later than its
bytes would lie, and what the check promises for the whole request holds of
every piece of it (`Route.mem_pieces`): for segments of any lengths, the
pieces stay inside the disk and no address leaves its word.
-/

namespace RemoteDisk

namespace Route

variable {route : Route} {cursor : Nat} {p : Piece}

/-- **The cursor never overtakes the bytes**: the next segment starts no
earlier than this one and no later than its end. -/
theorem address_next (route : Route) (cursor size : Nat) :
    route.address cursor ≤ route.address (cursor + size / Geometry.sectorSize)
      ∧ route.address (cursor + size / Geometry.sectorSize) ≤ route.address cursor + size := by
  have whole := Nat.div_mul_le_self size Geometry.sectorSize
  unfold address
  rw [Nat.add_mul]
  omega

/-- A piece of a segment is a chunk of it, and lies where the chunk does. -/
theorem mem_segmentPieces {s : Segment} (sized : 0 < route.bounce.size)
    (h : p ∈ route.segmentPieces cursor s) :
    p.body.direction = s.direction ∧ 0 < p.size ∧ p.size ≤ route.bounce.size
      ∧ route.address cursor ≤ p.remote ∧ p.remote + p.size ≤ route.address cursor + s.size := by
  obtain ⟨c, hc, rfl⟩ := List.mem_map.mp h
  obtain ⟨pos, short, -, inside⟩ := Chunk.Plan.mem_chunks hc
  have size : Piece.size ⟨route.address cursor + c.offset, c.offset, s.part c⟩ = c.len :=
    Segment.size_part inside
  have longest : (Chunk.Plan.start s.size route.bounce.size).longest = route.bounce.size :=
    Nat.max_eq_left sized
  have total : (Chunk.Plan.start s.size route.bounce.size).total = s.size := rfl
  rw [longest] at short
  rw [total] at inside
  rw [size]
  refine ⟨s.direction_part c, pos, short, Nat.le_add_right _ _, ?_⟩
  show route.address cursor + c.offset + c.len ≤ _
  omega

/-- **The pieces of segments lie among their bytes**: between the place of
the first segment and as many bytes further on as all segments have. -/
theorem mem_pieces {ss : List Segment} (sized : 0 < route.bounce.size)
    (h : p ∈ route.pieces cursor ss) :
    (∃ s ∈ ss, p.body.direction = s.direction) ∧ 0 < p.size ∧ p.size ≤ route.bounce.size
      ∧ route.address cursor ≤ p.remote
      ∧ p.remote + p.size ≤ route.address cursor + Segment.total ss := by
  induction ss generalizing cursor with
  | nil => cases h
  | cons s ss ih =>
    rw [Segment.total]
    -- the cursor rounds down, so a later segment may start before this one ends
    rcases List.mem_append.mp h with here | later
    · obtain ⟨direction, pos, short, start, stop⟩ := mem_segmentPieces sized here
      exact ⟨⟨s, List.mem_cons_self, direction⟩, pos, short, start, by omega⟩
    · obtain ⟨⟨s', hs', direction⟩, pos, short, start, stop⟩ := ih later
      obtain ⟨onward, behind⟩ := route.address_next cursor s.size
      exact ⟨⟨s', List.mem_cons_of_mem s hs', direction⟩, pos, short, by omega, by omega⟩

/-- **No address leaves its word** where the bytes of all segments fit behind
the first one's place. -/
theorem fits_of_total {ss : List Segment}
    (h : route.address cursor + Segment.total ss < Geometry.wordLimit) :
    route.Fits cursor ss := by
  induction ss generalizing cursor with
  | nil => trivial
  | cons s ss ih =>
    rw [Segment.total] at h
    obtain ⟨-, behind⟩ := route.address_next cursor s.size
    exact ⟨by omega, ih (by omega)⟩

end Route

/-- The pieces that serving a request moves. -/
def Request.pieces (route : Route) (r : Request) : List Piece :=
  route.pieces r.sector.toNat r.segments.toList

/-- The pieces of a request go the way its operation says. -/
theorem Route.direction_of_mem_pieces {route : Route} {r : Request} {p : Piece}
    (sized : 0 < route.bounce.size) (h : p ∈ r.pieces route) :
    r.operation.direction? = some p.body.direction := by
  obtain ⟨⟨s, hs, direction⟩, -⟩ := mem_pieces sized h
  rw [direction]
  exact r.agrees s hs

namespace Device

variable {d : Device} {r : Request}

/-- The pieces a request comes down to. -/
def pieces (d : Device) (r : Request) : List Piece := r.pieces d.route

/-- **The check of a request is exact**: the sum it looks at never wraps around. -/
theorem inRange_iff : d.inRange r = true ↔ r.sector.toNat + r.sectors ≤ d.capacity :=
  Word.any_add?_le

/-- **An accepted request ends inside the disk**, whatever the lengths of its
segments. -/
theorem address_add_totalBytes_le (accepted : d.inRange r = true) :
    d.route.address r.sector.toNat + r.segments.totalBytes
      ≤ d.config.remoteBase.toNat + d.sizeBytes := by
  have ends := inRange_iff.mp accepted
  show d.config.remoteBase.toNat + r.sector.toNat * Geometry.sectorSize + _
    ≤ _ + d.capacity * Geometry.sectorSize
  unfold Request.sectors Geometry.sectorSize at *
  omega

/-- **The addresses of an accepted request fit their words.** -/
theorem fits_of_inRange (sound : d.Sound) (room : d.config.HasRoom)
    (accepted : d.inRange r = true) : d.route.Fits r.sector.toNat r.segments.toList := by
  refine Route.fits_of_total ?_
  have ends := address_add_totalBytes_le accepted
  rw [sound.sizeBytes] at ends
  unfold Config.HasRoom Geometry.lineSize at room
  show _ + r.segments.totalBytes < Geometry.wordLimit
  omega

/-- The bytes of an accepted request can be counted by a word. -/
theorem totalBytes_lt (sound : d.Sound) (accepted : d.inRange r = true) :
    r.segments.totalBytes < Geometry.wordLimit := by
  have ends := address_add_totalBytes_le accepted
  have word := d.config.sizeBytes.toNat_lt
  have base : d.route.remoteBase = d.config.remoteBase := rfl
  rw [sound.sizeBytes] at ends
  unfold Route.address at ends
  rw [base] at ends
  unfold Geometry.wordLimit
  omega

/-- A request with one segment that fits the bounce buffer is moved as one
piece. -/
theorem pieces_single (d : Device) {segment : Segment} (single : r.segments.toList = [segment])
    (pos : 0 < segment.size) (held : segment.size ≤ d.bounce.size) :
    d.pieces r = [⟨d.route.address r.sector.toNat, 0, segment⟩] := by
  unfold pieces Request.pieces
  rw [single]
  exact Route.pieces_single pos held

/-- **The pieces of an accepted request can be moved** without leaving any
bounds. -/
theorem safe_of_inRange (sound : d.Sound) (room : d.config.HasRoom)
    (accepted : d.inRange r = true) : ∀ p ∈ d.pieces r, p.Safe d.bounce := by
  intro p hp
  have size : d.route.bounce.size = Geometry.bounceSize := sound.size
  obtain ⟨-, pos, held, -, stop⟩ := Route.mem_pieces (by rw [size]; decide) hp
  have ends := address_add_totalBytes_le accepted
  have below := sound.below
  rw [sound.sizeBytes] at ends
  rw [size] at held
  have stop : p.remote + p.size
      ≤ d.route.address r.sector.toNat + r.segments.totalBytes := stop
  refine ⟨pos, ?_, ?_, ?_, ?_⟩
  · rw [sound.size]
    exact held
  · exact Nat.le_trans held (by decide)
  · omega
  · unfold Config.HasRoom at room
    omega

/-- The pieces of a request go the way its operation says. -/
theorem direction_of_mem_pieces (sound : d.Sound) {p : Piece} (h : p ∈ d.pieces r) :
    r.operation.direction? = some p.body.direction := by
  have sized : 0 < d.route.bounce.size := by
    show 0 < d.bounce.size
    rw [sound.size]
    decide
  exact Route.direction_of_mem_pieces sized h

end Device

/-! ## What becomes of a request that is submitted -/

namespace Serve

variable {α : Type} (serve : Serve α) (m : Machine)

/-- Serving on a machine starts from an idle request. -/
@[simp] theorem runOn_result : (serve.runOn m).1.result = (serve { machine := m }).1 := rfl

/-- What there is to show for a request that was served. -/
theorem runOn_served : (serve.runOn m).1 = ⟨(serve { machine := m }).1,
    (serve { machine := m }).2.phase, (serve { machine := m }).2.delivered⟩ := rfl

@[simp] theorem runOn_machine : (serve.runOn m).2 = (serve { machine := m }).2.machine := rfl

end Serve

/-- What the block layer is told about a result. -/
def BlockStatus.ofResult : Except BlockError Unit → BlockStatus
  | .ok () => .ok
  | .error _ => .failed

namespace Device

variable {d : Device} {r : Request}

open Op

/-- A length that fits its word passes the check. -/
theorem ofAct_word_ok {n : Nat} (h : n < Geometry.wordLimit) (s : Service) :
    Serve.ofAct (Act.word n) s = (.ok (UInt64.ofNat n), s) := by
  unfold Act.word
  rw [if_pos h]
  rfl

/-- An operation that moves no data is refused. -/
theorem submit_unsupported (h : r.operation.direction? = none) (s : Service) :
    d.submit r s = (.ok (.error .unsupported), { s with
      phase := .failed
      machine := s.machine.report .debug
        (Geometry.diskName ++ ": " ++ ("rejecting " ++ r.operation.name ++ " request")) }) := by
  unfold submit
  rw [if_pos h]
  rfl

/-- A request whose length does not fit a word ends in overflow. -/
theorem submit_overflow (moves : r.operation.direction? ≠ none)
    (h : Geometry.wordLimit ≤ r.segments.totalBytes) (s : Service) :
    d.submit r s = (.error .overflow, s) := by
  have checked : Serve.ofAct (Act.word r.segments.totalBytes) s = (.error .overflow, s) := by
    unfold Act.word
    rw [if_neg (Nat.not_lt.mpr h)]
    rfl
  unfold submit
  rw [if_neg moves]
  exact bind_error checked

/-- **A request that reaches past the last sector is refused.** -/
theorem submit_outOfRange (moves : r.operation.direction? ≠ none)
    (total : r.segments.totalBytes < Geometry.wordLimit) (h : d.inRange r = false) (s : Service) :
    ∃ text, d.submit r s = (.ok (.error .outOfRange), { s with
      phase := .failed
      machine := s.machine.report .error text }) := by
  unfold submit
  rw [if_neg moves, bind_ok (ofAct_word_ok total s), h]
  exact ⟨_, rfl⟩

/-- **An accepted request is served.** -/
theorem submit_accepted (moves : r.operation.direction? ≠ none)
    (total : r.segments.totalBytes < Geometry.wordLimit) (h : d.inRange r = true) (s : Service) :
    d.submit r s =
      (((d.route.serve r { s with phase := .started }).1).map (·.mapError .transfer),
        (d.route.serve r { s with phase := .started }).2) := by
  unfold submit
  rw [if_neg moves, bind_ok (ofAct_word_ok total s), h]
  refine (bind_ok (a := Serve.enter .started) rfl).trans ((bind_apply _ _ _).trans ?_)
  rcases d.route.serve r { s with phase := .started } with ⟨_ | _, _⟩ <;> rfl

/-- **Why a request is turned down** before anything is touched, and how. -/
inductive Refuses (d : Device) (r : Request) : Except Fault (Except BlockError Unit) → Prop
  /-- It moves no data. -/
  | unsupported (h : r.operation.direction? = none) : Refuses d r (.ok (.error .unsupported))
  /-- Its length is no word. -/
  | overflow (h : Geometry.wordLimit ≤ r.segments.totalBytes) : Refuses d r (.error .overflow)
  /-- It reaches past the last sector. -/
  | outOfRange (h : d.inRange r = false) : Refuses d r (.ok (.error .outOfRange))

/-- **What becomes of a request**: it is turned down and leaves the bare
machine, or it takes one of the courses of its pieces. -/
theorem submit_course (sound : d.Sound) (room : d.config.HasRoom) (s : Service)
    (engine : s.machine.HasEngine) :
    (d.Refuses r (d.submit r s).1 ∧ (d.submit r s).2.machine.bare = s.machine.bare)
      ∨ ∃ direction result, r.operation.direction? = some direction ∧ d.inRange r = true
        ∧ (d.submit r s).1 = result.map (·.mapError .transfer)
        ∧ Course d.bounce (d.pieces r) s.machine.bare result (d.submit r s).2.machine.bare := by
  rcases way : r.operation.direction? with _ | direction
  · rw [submit_unsupported way]
    exact .inl ⟨.unsupported way, rfl⟩
  have moves : r.operation.direction? ≠ none := by
    rw [way]
    exact Option.some_ne_none direction
  rcases Nat.lt_or_ge r.segments.totalBytes Geometry.wordLimit with total | total
  · rcases accepted : d.inRange r
    · obtain ⟨text, refused⟩ := submit_outOfRange moves total accepted s
      rw [refused]
      exact .inl ⟨.outOfRange accepted, rfl⟩
    · have course := Route.serve_course (fits_of_inRange sound room accepted)
        (safe_of_inRange sound room accepted) { s with phase := .started } engine
      rw [submit_accepted moves total accepted]
      exact .inr ⟨direction, _, rfl, rfl, rfl, course⟩
  · rw [submit_overflow moves total]
    exact .inl ⟨.overflow total, rfl⟩

/-- The block layer's entry runs the request and tells whether it
succeeded. -/
theorem queue_apply (r : Request) (s : Service) :
    d.queue r s = ((d.submit r s).1.map BlockStatus.ofResult, (d.submit r s).2) := by
  refine (bind_apply _ _ _).trans ?_
  rcases d.submit r s with ⟨_ | _ | _, _⟩ <;> rfl

/-- A request never loses the engine. -/
theorem submit_hasEngine (sound : d.Sound) (room : d.config.HasRoom) (s : Service)
    (engine : s.machine.HasEngine) : (d.submit r s).2.machine.HasEngine := by
  have before : s.machine.bare.HasEngine := Machine.hasEngine_bare.mpr engine
  rw [← Machine.hasEngine_bare]
  rcases submit_course (r := r) sound room s engine with ⟨-, bare⟩ | ⟨_, _, -, -, -, course⟩
  · rw [bare]
    exact before
  · exact course.hasEngine before

end Device

end RemoteDisk

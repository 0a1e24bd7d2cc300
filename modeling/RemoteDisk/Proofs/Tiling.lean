import Mathlib.Data.Nat.ModEq
import RemoteDisk.Proofs.Bounds
import RemoteDisk.Proofs.Effects
import RemoteDisk.Proofs.Segments

/-!
# The transfers of a request tile its sectors

A chunk's place on the disk comes from two counters: the sector cursor, which
is carried from segment to segment, and the offset within a segment. Where all
segments but the last have whole sectors the two stay in step, and the far ends
of a request's transfers follow one another without a gap. The chunks of a
segment are known in closed form (`Chunk.Plan.chunks_eq`), and so is the log
that a request leaves: one run of transfers for each segment, all of them or,
where a chunk fails, a prefix that ends with it.
-/

namespace RemoteDisk

/-! ## Chunks by their number -/

namespace Chunk

variable {lo mid hi : Nat} {cs ds : List Chunk}

/-- The chunk as it lies behind a number of bytes. -/
def behind (bytes : Nat) (c : Chunk) : Chunk := { c with offset := bytes + c.offset }

theorem Tiles.behind (bytes : Nat) (h : Tiles lo cs hi) :
    Tiles (bytes + lo) (cs.map (Chunk.behind bytes)) (bytes + hi) := by
  induction cs generalizing lo with
  | nil => exact congrArg (bytes + ·) h
  | cons c cs ih =>
    obtain ⟨rfl, rest⟩ := h
    exact ⟨rfl, (Nat.add_assoc bytes _ _).symm ▸ ih rest⟩

theorem Tiles.append (h : Tiles lo cs mid) (h' : Tiles mid ds hi) :
    Tiles lo (cs ++ ds) hi := by
  induction cs generalizing lo with
  | nil =>
    obtain rfl : lo = mid := h
    exact h'
  | cons c cs ih => exact ⟨h.1, ih h.2⟩

/-- **Chunks that tile a range cover it exactly once**, and nothing else. -/
theorem Tiles.countP_eq (h : Tiles lo cs hi) (b : Nat) :
    cs.countP (fun c => c.offset ≤ b ∧ b < c.offset + c.len)
      = if lo ≤ b ∧ b < hi then 1 else 0 := by
  induction cs generalizing lo with
  | nil =>
    obtain rfl : lo = hi := h
    rw [List.countP_nil, if_neg (by omega)]
  | cons c cs ih =>
    obtain ⟨rfl, rest⟩ := h
    have le := rest.le
    rw [List.countP_cons, ih rest]
    simp only [decide_eq_true_eq]
    split_ifs <;> omega

namespace Plan

/-- Nothing is to come at the end of a plan. -/
theorem remaining_of_le {p : Plan} (h : p.total ≤ p.offset) : p.remaining = 0 := by
  have pos := p.longest_pos
  unfold remaining
  rw [Nat.min_eq_right h, Nat.sub_self, Nat.zero_add]
  exact Nat.div_eq_of_lt (Nat.sub_lt pos Nat.one_pos)

/-- **A chunk that is cut off** is one of those that were to come. -/
theorem remaining_of_lt {p : Plan} (h : p.offset < p.total) :
    p.remaining = { p with offset := p.offset + p.nextLen }.remaining + 1 := by
  have pos := p.longest_pos
  unfold remaining nextLen
  dsimp only
  rcases Nat.le_total (p.total - p.offset) p.longest with last | more
  · -- this chunk is the last one, and nothing comes after it
    have here : (p.total - min p.offset p.total + (p.longest - 1)) / p.longest = 1 :=
      Nat.div_eq_of_lt_le (by omega) (by omega)
    rw [here, Nat.div_eq_of_lt (by omega)]
  · rw [← Nat.add_div_right _ pos]
    congr 1
    omega

/-- **The chunks of a plan by their number**: as many as are still to come, each
a longest chunk further on, and each of the longest length but the last, which
holds what is left. -/
theorem chunks_eq (p : Plan) :
    p.chunks = (List.range p.remaining).map fun k =>
      ⟨p.offset + k * p.longest, min p.longest (p.total - (p.offset + k * p.longest))⟩ := by
  fun_induction chunks p with
  | case1 p none =>
    rw [remaining_of_le (le_of_next?_eq_none none)]
    rfl
  | case2 p chunk rest next ih =>
    obtain ⟨left, rfl, rfl⟩ := next?_eq_some next
    rw [remaining_of_lt left, List.range_succ_eq_map, List.map_cons, List.map_map, ih,
      Nat.zero_mul, Nat.add_zero, Nat.min_comm]
    refine congrArg (List.cons _) (List.map_congr_left fun k hk => ?_)
    -- a chunk comes after this one only where this one is a longest one
    have full : p.nextLen = p.longest := by
      refine Nat.min_eq_right (Nat.le_of_not_lt fun short => ?_)
      rw [remaining_of_le] at hk
      · cases hk
      · unfold nextLen
        dsimp only
        omega
    rw [full]
    dsimp only [Function.comp]
    rw [Nat.succ_mul, Nat.add_comm (k * p.longest), Nat.add_assoc]

/-- A chunk that is to come starts before the end. -/
theorem mul_lt_of_lt_ceilDiv {k total longest : Nat} (pos : 0 < longest)
    (h : k < total ⌈/⌉ longest) : k * longest < total := by
  by_contra past
  refine Nat.not_le_of_lt h ((ceilDiv_le_iff_le_mul pos).mpr ?_)
  rw [Nat.mul_comm]
  exact Nat.not_lt.mp past

/-- A segment is cut into as many chunks as it has longest chunks, rounded up. -/
theorem chunks_start_eq {longest : Nat} (pos : 0 < longest) (total : Nat) :
    (start total longest).chunks = (List.range (total ⌈/⌉ longest)).map fun k =>
      ⟨k * longest, min longest (total - k * longest)⟩ := by
  have same : (start total longest).longest = longest := Nat.max_eq_left pos
  have count : (start total longest).remaining = total ⌈/⌉ longest := by
    unfold remaining
    rw [same, Nat.ceilDiv_eq_add_pred_div]
    show (total - min 0 total + (longest - 1)) / longest = _
    rw [Nat.zero_min, Nat.sub_zero, Nat.add_sub_assoc pos]
  rw [chunks_eq, count, same]
  refine List.map_congr_left fun k _ => ?_
  show Chunk.mk (0 + k * longest) (min longest (total - (0 + k * longest))) = _
  rw [Nat.zero_add]

end Plan

end Chunk

/-! ## Pieces by their number -/

/-- Where a piece lies on the bus. -/
def Piece.range (p : Piece) : Chunk := ⟨p.remote, p.size⟩

namespace Route

variable {route : Route} {cursor : Nat}

/-- **The pieces of a segment by their number.** -/
theorem segmentPieces_eq (sized : 0 < route.bounce.size) (cursor : Nat) (s : Segment) :
    route.segmentPieces cursor s = (List.range (s.size ⌈/⌉ route.bounce.size)).map fun k =>
      ⟨route.address cursor + k * route.bounce.size, k * route.bounce.size,
        s.part ⟨k * route.bounce.size,
          min route.bounce.size (s.size - k * route.bounce.size)⟩⟩ := by
  unfold segmentPieces
  rw [Chunk.Plan.chunks_start_eq sized, List.map_map]
  rfl

/-- **The pieces of a segment tile its place on the bus.** -/
theorem tiles_segmentPieces (cursor : Nat) (s : Segment) :
    Chunk.Tiles (route.address cursor) ((route.segmentPieces cursor s).map Piece.range)
      (route.address cursor + s.size) := by
  have tiles := (Chunk.Plan.tiles_start s.size route.bounce.size).behind (route.address cursor)
  rw [Nat.add_zero] at tiles
  unfold segmentPieces
  rw [List.map_map]
  refine (List.map_congr_left fun c hc => ?_) ▸ tiles
  have size : Piece.size ⟨route.address cursor + c.offset, c.offset, s.part c⟩ = c.len :=
    Segment.size_part (Chunk.Plan.mem_chunks hc).2.2.2
  show Chunk.mk (route.address cursor + c.offset) c.len
    = ⟨route.address cursor + c.offset,
        Piece.size ⟨route.address cursor + c.offset, c.offset, s.part c⟩⟩
  rw [size]

/-- **The pieces of segments tile their place on the bus**, where all of them
but the last have whole sectors. -/
theorem tiles_pieces {ss : List Segment}
    (whole : ∀ s ∈ ss.dropLast, Geometry.sectorSize ∣ s.size) :
    Chunk.Tiles (route.address cursor) ((route.pieces cursor ss).map Piece.range)
      (route.address cursor + Segment.total ss) := by
  induction ss generalizing cursor with
  | nil => rfl
  | cons s ss ih =>
    rw [pieces, List.map_append, Segment.total, ← Nat.add_assoc]
    refine (tiles_segmentPieces cursor s).append ?_
    cases ss with
    | nil => rfl
    | cons s' ss =>
      rw [List.dropLast_cons_cons] at whole
      rw [← route.address_aligned cursor (whole s List.mem_cons_self)]
      exact ih fun t ht => whole t (List.mem_cons_of_mem s ht)

end Route

/-! ## Requests that return -/

open Op

/-- **The machine after a wait for a transfer**, which ended well and is flushed,
or failed; it is counted either way. -/
def Machine.concluded (d : Descriptor) (out : Except TransferError Unit) (m : Machine) : Machine :=
  match out with
  | .ok () => (m.flushed d.destination d.length.toNat).mapCounters d.direction.count
  | .error cause => m.mapCounters cause.count

/-- A flush that came to its end has noted its range. -/
theorem Act.flush_inv {address : UInt64} {len : Nat} {m m' : Machine} {u : Unit}
    (h : flush address len m = (.ok u, m')) : m' = m.flushed address len := by
  rcases overruns : CacheLine.overruns address len
  · exact (congrArg Prod.snd ((flush_apply overruns m).symm.trans h)).symm
  · unfold flush at h
    rw [bind_ok (modify_apply _ m), overruns] at h
    cases h

/-- **A launch adds one transfer to the engine's log**, however it ends. -/
theorem Act.bare_launch {m : Machine} (engine : m.HasEngine) (t : Transfer) :
    (launch t.source t.destination t.length m).2.bare = m.bare.mapEngine (Engine.noted t) := by
  obtain ⟨e, engine⟩ := engine
  rw [launch_apply engine, (keeps_behave e.takeBehavior.behavior t (m.begun t)).1,
    Machine.bare_begun]

namespace Buffer

variable {b : Buffer}

/-- Bytes that do not fit the buffer are not staged. -/
theorem stage_fault {data : ByteArray} (h : ¬data.size ≤ b.size) (s : Service) :
    Attempt.ofAct (b.stage data) s = (.error .outOfBounds, s) := by
  unfold stage
  rw [if_neg h]
  rfl

/-- More bytes than the buffer has are not taken. -/
theorem unstage_fault {len : Nat} (h : ¬len ≤ b.size) (s : Service) :
    Attempt.ofAct (b.unstage len) s = (.error .outOfBounds, s) := by
  unfold unstage
  rw [if_neg h]
  rfl

end Buffer

namespace Descriptor

variable {d : Descriptor} {m m' : Machine}

/-- A transfer that was started is issued. -/
theorem begin_inv {u : Unit} (engine : m.HasEngine) (h : d.begin m = (.ok u, m')) :
    m'.bare = m.bare.issued d := by
  obtain ⟨_, m₁, flushed, launched⟩ := bind_ok_inv h
  obtain rfl := Act.flush_inv flushed
  have launch := Act.bare_launch (m := m.flushed d.source d.length.toNat) engine d.transfer
  exact (congrArg (fun r => (Prod.snd r).bare) launched).symm.trans launch

/-- **What a wait for a transfer leaves** where it comes back. -/
theorem finish_inv {ms : UInt64} {out : Except TransferError Unit}
    (h : d.finish ms m = (.ok out, m')) : m'.bare = m.bare.concluded d out := by
  obtain ⟨result, m₁, waited, rest⟩ := bind_ok_inv h
  have bare : m₁.bare = m.bare := by
    rw [← (Act.keeps_wait ms m).1, waited]
  rcases result with cause | _
  · obtain ⟨journal, run⟩ := finish_of_error (d := d) waited
    obtain ⟨outcome, rfl⟩ := Prod.mk.inj (h.symm.trans run)
    obtain rfl := Except.ok.inj outcome
    rw [← bare]
    exact m₁.bare_count_error cause
  · obtain ⟨_, m₂, succeeded, last⟩ := bind_ok_inv rest
    cases last
    obtain ⟨_, m₃, flushed, counted⟩ := bind_ok_inv succeeded
    obtain rfl := Act.flush_inv flushed
    have count : m' = (m₁.flushed d.destination d.length.toNat).mapCounters d.direction.count := by
      revert counted
      cases d.direction <;> exact fun counted => (congrArg Prod.snd counted).symm
    have bareCount := (m₁.flushed d.destination d.length.toNat).bare_count_direction d.direction
    rw [← count] at bareCount
    rw [bareCount, ← bare]
    rfl

end Descriptor

namespace Route

variable {route : Route} {p : Piece} {s s' : Service} {out : Except TransferError Unit}

/-- **What a transfer that came back leaves** of the bare machine. -/
theorem move_inv {d : Descriptor} (engine : s.machine.HasEngine)
    (h : route.move d s = (.ok out, s')) :
    s'.machine.bare = (s.machine.bare.issued d).concluded d out := by
  rcases began : d.begin s.machine with ⟨fault | _, m⟩
  · have first : Serve.ofAct d.begin ⟨s.machine, .transferring, s.delivered⟩
        = (.error fault, ⟨m, .transferring, s.delivered⟩) := by
      rw [Serve.ofAct_apply, began]
    cases (bind_error first).symm.trans h
  · rw [move_apply began] at h
    obtain ⟨finished, rfl⟩ := Prod.mk.inj h
    rw [← d.begin_inv engine began]
    exact Descriptor.finish_inv (Prod.ext finished rfl)

/-- **What a piece that came back leaves**: staging before its transfer and
taking bytes out after it leave the bare machine. -/
theorem movePiece_inv (engine : s.machine.HasEngine) (h : route.movePiece p s = (.ok out, s')) :
    s'.machine.bare = (s.machine.bare.issued (p.descriptor route.bounce)).concluded
      (p.descriptor route.bounce) out := by
  rcases p with ⟨remote, offset, ⟨buffer, size⟩ | data⟩
  · rcases moved : route.move (Piece.descriptor route.bounce ⟨remote, offset, .sink buffer size⟩) s
      with ⟨fault | cause | _, s₁⟩
    · cases (Attempt.bind_fault moved).symm.trans h
    · cases (Attempt.bind_failed moved).symm.trans h
      exact move_inv engine moved
    · by_cases held : size ≤ route.bounce.size
      · cases (movePiece_sink held moved).symm.trans h
        exact (move_inv engine moved :)
      · have short := Attempt.bind_fault
          (f := fun data => Attempt.ofServe (Serve.deliver ⟨buffer, offset, data⟩))
          (Buffer.unstage_fault held s₁)
        cases ((Attempt.bind_ok moved).trans short).symm.trans h
  · by_cases held : data.size ≤ route.bounce.size
    · rw [movePiece_source held] at h
      have moved := fun e => move_inv e h
      exact moved engine
    · have entered : Attempt.enter .staging s = (.ok (.ok ()), { s with phase := .staging }) := rfl
      cases ((Attempt.bind_ok entered).trans
        (Attempt.bind_fault (Buffer.stage_fault held _))).symm.trans h

/-- **Pieces that came back took one of the courses**, of whatever length they
are. -/
theorem moveAll_returned {ps : List Piece} (engine : s.machine.HasEngine)
    (h : route.moveAll ps s = (.ok out, s')) :
    Course route.bounce ps s.machine.bare (.ok out) s'.machine.bare := by
  induction ps generalizing s with
  | nil =>
    cases h
    exact .done _
  | cons p ps ih =>
    rcases moved : route.movePiece p s with ⟨fault | cause | _, s₁⟩
    · cases (Attempt.bind_fault moved).symm.trans h
    · cases (Attempt.bind_failed moved).symm.trans h
      rw [movePiece_inv engine moved]
      exact .failed p ps _ cause
    · have bare := movePiece_inv engine moved
      have engine₁ : s₁.machine.HasEngine := by
        rw [← Machine.hasEngine_bare, bare]
        exact (Machine.hasEngine_bare.mpr engine).moved (p.descriptor route.bounce)
      have rest := ih engine₁ ((Attempt.bind_ok moved).symm.trans h)
      rw [bare] at rest
      exact .moved rest

end Route

/-! ## Runs of transfers -/

/-- Where the far end of a transfer lies on the bus. -/
def Transfer.reach (direction : Direction) (t : Transfer) : Chunk :=
  ⟨(t.remote direction).toNat, t.length.toNat⟩

/-- **The transfer of a piece** joins the start of the bounce buffer to the place
of the piece. -/
theorem Piece.Flushable.reach {bounce : Buffer} {p : Piece} {direction : Direction}
    (h : p.Flushable bounce) (way : p.body.direction = direction) :
    (p.transfer bounce).nearby direction = bounce.base
      ∧ (p.transfer bounce).reach direction = p.range := by
  subst way
  refine ⟨by rcases p with ⟨_, _, _ | _⟩ <;> rfl, ?_⟩
  have remote : ((p.transfer bounce).remote p.body.direction).toNat = p.remote := by
    rw [← h.address]
    rcases p with ⟨_, _, _ | _⟩ <;> rfl
  have length : (p.transfer bounce).length.toNat = p.size := h.length
  unfold Transfer.reach
  rw [remote, length]
  rfl

namespace Route

variable (route : Route)

/-- **The transfers of segments**, a run for each. -/
def runs : (cursor : Nat) → List Segment → List (List Transfer)
  | _, [] => []
  | cursor, s :: rest =>
    (route.segmentPieces cursor s).map (Piece.transfer route.bounce)
      :: runs (cursor + s.size / Geometry.sectorSize) rest

theorem length_runs (cursor : Nat) (ss : List Segment) :
    (route.runs cursor ss).length = ss.length := by
  induction ss generalizing cursor with
  | nil => rfl
  | cons s ss ih => exact congrArg (· + 1) (ih _)

theorem flatten_runs (cursor : Nat) (ss : List Segment) :
    (route.runs cursor ss).flatten
      = (route.pieces cursor ss).map (Piece.transfer route.bounce) := by
  induction ss generalizing cursor with
  | nil => rfl
  | cons s ss ih => rw [runs, pieces, List.flatten_cons, List.map_append, ih]

/-- **The run of a segment** starts behind the whole sectors of the segments
before it, and its pieces are pieces of the request. -/
theorem getElem?_runs {cursor i : Nat} {ss : List Segment} {s : Segment}
    (whole : ∀ x ∈ ss.dropLast, Geometry.sectorSize ∣ x.size) (h : ss[i]? = some s) :
    let place := cursor + Segment.total (ss.take i) / Geometry.sectorSize
    (route.runs cursor ss)[i]?
        = some ((route.segmentPieces place s).map (Piece.transfer route.bounce))
      ∧ ∀ p ∈ route.segmentPieces place s, p ∈ route.pieces cursor ss := by
  induction ss generalizing cursor i with
  | nil => cases h
  | cons x ss ih =>
    cases i with
    | zero =>
      obtain rfl := Option.some.inj h
      have place : cursor + Segment.total ((x :: ss).take 0) / Geometry.sectorSize = cursor := by
        rw [List.take_zero, Segment.total, Nat.zero_div, Nat.add_zero]
      intro start
      rw [show start = _ from place]
      exact ⟨rfl, fun p hp => List.mem_append_left _ hp⟩
    | succ i =>
      obtain ⟨y, ys, rfl⟩ : ∃ y ys, ss = y :: ys := by
        cases ss with
        | nil => cases h
        | cons y ys => exact ⟨y, ys, rfl⟩
      rw [List.dropLast_cons_cons] at whole
      have aligned := whole x List.mem_cons_self
      obtain ⟨here, inside⟩ := @ih (cursor + x.size / Geometry.sectorSize) i
        (fun z hz => whole z (List.mem_cons_of_mem x hz)) h
      have place : cursor + Segment.total ((x :: y :: ys).take (i + 1)) / Geometry.sectorSize
          = cursor + x.size / Geometry.sectorSize
            + Segment.total ((y :: ys).take i) / Geometry.sectorSize := by
        rw [List.take_succ_cons, Segment.total, Nat.add_div_of_dvd_right aligned, Nat.add_assoc]
      intro start
      rw [show start = _ from place, runs, List.getElem?_cons_succ, pieces]
      exact ⟨here, fun p hp => List.mem_append_right _ (inside p hp)⟩

/-- **The run of a segment**: transfers that carry so many bytes to or from a
place on the bus, by way of the bounce buffer. -/
structure Run (direction : Direction) (place size : Nat) (run : List Transfer) : Prop where
  /-- There are as many as there are bounce buffers' lengths, rounded up. -/
  number : run.length = size ⌈/⌉ route.bounce.size
  /-- They lie a bounce buffer's length apart. -/
  apart : ∀ k (hk : k < run.length), (run[k].remote direction).toNat = place + k * route.bounce.size
  /-- No transfer is empty or longer than the bounce buffer. -/
  short : ∀ t ∈ run, 0 < t.length.toNat ∧ t.length.toNat ≤ route.bounce.size
  /-- All transfers but the last have the bounce buffer's length. -/
  full : ∀ k (hk : k + 1 < run.length), run[k].length.toNat = route.bounce.size
  /-- The local side is always the start of the bounce buffer. -/
  nearby : ∀ t ∈ run, t.nearby direction = route.bounce.base

/-- **Runs of transfers that tile a range of sectors**, one for each of some
segments that lie there one after another. -/
structure Tiling (direction : Direction) (sector : Nat) (segments : List Segment)
    (runs : List (List Transfer)) : Prop where
  /-- There is a run for each segment. -/
  count : runs.length = segments.length
  /-- It starts behind the whole sectors of the segments before it. -/
  run : ∀ i (hi : i < segments.length) (hr : i < runs.length),
    route.Run direction (route.remoteBase.toNat + Geometry.sectorSize
      * (sector + Segment.total (segments.take i) / Geometry.sectorSize)) segments[i].size runs[i]
  /-- The far ends follow one another without a gap, from the first sector to the
  end of the last segment. -/
  tiles : Chunk.Tiles (route.remoteBase.toNat + Geometry.sectorSize * sector)
    (runs.flatten.map (Transfer.reach direction))
    (route.remoteBase.toNat + Geometry.sectorSize * sector + Segment.total segments)
  /-- Every byte there is part of exactly one of them, and no other byte is part
  of any. -/
  once : ∀ b, (runs.flatten.map (Transfer.reach direction)).countP
      (fun c => c.offset ≤ b ∧ b < c.offset + c.len)
    = if route.remoteBase.toNat + Geometry.sectorSize * sector ≤ b
        ∧ b < route.remoteBase.toNat + Geometry.sectorSize * sector + Segment.total segments
      then 1 else 0

variable {route}

/-- **The transfers of a segment's pieces** are its run. -/
theorem run_segmentPieces {cursor : Nat} {s : Segment} {direction : Direction}
    (sized : 0 < route.bounce.size) (way : s.direction = direction)
    (flushable : ∀ p ∈ route.segmentPieces cursor s, p.Flushable route.bounce) :
    route.Run direction (route.address cursor) s.size
      ((route.segmentPieces cursor s).map (Piece.transfer route.bounce)) := by
  have reach : ∀ p ∈ route.segmentPieces cursor s,
      (p.transfer route.bounce).nearby direction = route.bounce.base
        ∧ (p.transfer route.bounce).reach direction = p.range := fun p hp =>
    (flushable p hp).reach ((mem_segmentPieces sized hp).1.trans way)
  have number : (route.segmentPieces cursor s).length = s.size ⌈/⌉ route.bounce.size := by
    rw [segmentPieces_eq sized, List.length_map, List.length_range]
  -- the piece of a number, as the closed form has it
  have piece (k : Nat) (hk : k < (route.segmentPieces cursor s).length) :
      ((route.segmentPieces cursor s)[k].transfer route.bounce).reach direction
        = ⟨route.address cursor + k * route.bounce.size,
            min route.bounce.size (s.size - k * route.bounce.size)⟩ := by
    have here := List.getElem_of_eq (segmentPieces_eq sized cursor s) hk
    rw [List.getElem_map, List.getElem_range] at here
    rw [(reach _ (List.getElem_mem hk)).2, here, Piece.range]
    congr 1
    have start := Chunk.Plan.mul_lt_of_lt_ceilDiv sized (number ▸ hk)
    have inside : k * route.bounce.size
        + min route.bounce.size (s.size - k * route.bounce.size) ≤ s.size := by
      omega
    exact Segment.size_part (c := ⟨_, _⟩) inside
  exact
    { number := by rw [List.length_map, number]
      apart := fun k hk => by
        rw [List.length_map] at hk
        rw [List.getElem_map]
        exact congrArg Chunk.offset (piece k hk)
      short := fun t ht => by
        obtain ⟨p, hp, rfl⟩ := List.mem_map.mp ht
        obtain ⟨-, pos, short, -⟩ := mem_segmentPieces sized hp
        rw [show (p.transfer route.bounce).length.toNat = p.size from
          congrArg Chunk.len (reach p hp).2]
        exact ⟨pos, short⟩
      full := fun k hk => by
        rw [List.length_map] at hk
        rw [List.getElem_map]
        refine (congrArg Chunk.len (piece k (Nat.lt_of_succ_lt hk))).trans (Nat.min_eq_left ?_)
        have next := Chunk.Plan.mul_lt_of_lt_ceilDiv sized (number ▸ hk)
        rw [Nat.succ_mul] at next
        omega
      nearby := fun t ht => by
        obtain ⟨p, hp, rfl⟩ := List.mem_map.mp ht
        exact (reach p hp).1 }

/-- **The transfers of segments tile their sectors.** -/
theorem tiling_runs {sector : Nat} {ss : List Segment} {direction : Direction}
    (sized : 0 < route.bounce.size) (way : ∀ s ∈ ss, s.direction = direction)
    (whole : ∀ s ∈ ss.dropLast, Geometry.sectorSize ∣ s.size)
    (flushable : ∀ p ∈ route.pieces sector ss, p.Flushable route.bounce) :
    route.Tiling direction sector ss (route.runs sector ss) := by
  have place : route.address sector = route.remoteBase.toNat + Geometry.sectorSize * sector :=
    congrArg (route.remoteBase.toNat + ·) (Nat.mul_comm _ _)
  have reaches : (route.runs sector ss).flatten.map (Transfer.reach direction)
      = (route.pieces sector ss).map Piece.range := by
    rw [flatten_runs, List.map_map]
    refine List.map_congr_left fun p hp => ?_
    obtain ⟨⟨s, hs, same⟩, -⟩ := mem_pieces sized hp
    exact ((flushable p hp).reach (same.trans (way s hs))).2
  have tiles : Chunk.Tiles (route.address sector) ((route.pieces sector ss).map Piece.range)
      (route.address sector + Segment.total ss) := tiles_pieces whole
  rw [← reaches, place] at tiles
  exact
    { count := route.length_runs sector ss
      run := fun i hi hr => by
        obtain ⟨here, inside⟩ := @getElem?_runs route sector i ss _ whole
          (List.getElem?_eq_getElem hi)
        rw [List.getElem?_eq_getElem hr] at here
        rw [Option.some.inj here, Nat.mul_comm]
        exact run_segmentPieces sized (way _ (List.getElem_mem hi)) fun p hp =>
          flushable p (inside p hp)
      tiles := tiles
      once := tiles.countP_eq }

/-- **The transfers of a request tile its sectors**, for a bounce buffer of any
length, segments of which all but the last have whole sectors, and both
directions. Where every chunk comes to a good end they are all in the log, a
run for each segment; where one fails, the log ends with it. -/
theorem serve_tiles {r : Request} {s : Service} {result : Except TransferError Unit}
    {direction : Direction} (sized : 0 < route.bounce.size)
    (way : r.operation.direction? = some direction)
    (whole : ∀ x ∈ r.segments.toList.dropLast, Geometry.sectorSize ∣ x.size)
    (flushable : ∀ p ∈ r.pieces route, p.Flushable route.bounce)
    (engine : s.machine.HasEngine) (returned : (route.serve r s).1 = .ok result) :
    ∃ runs, route.Tiling direction r.sector.toNat r.segments.toList runs
      ∧ match result with
        | .ok () => (route.serve r s).2.machine.transfers.toList
          = s.machine.transfers.toList ++ runs.flatten
        | .error _ => ∃ ts, ts ≠ [] ∧ ts <+: runs.flatten
          ∧ (route.serve r s).2.machine.transfers.toList = s.machine.transfers.toList ++ ts := by
  have same : ∀ x ∈ r.segments.toList, x.direction = direction := fun x hx =>
    Option.some.inj ((r.agrees x hx).symm.trans way)
  have way' : ∀ p ∈ r.pieces route, p.body.direction = direction := fun p hp =>
    Option.some.inj ((direction_of_mem_pieces sized hp).symm.trans way)
  refine ⟨_, tiling_runs sized same whole flushable, ?_⟩
  rw [flatten_runs]
  obtain ⟨s', run, ends⟩ := serve_returned flushable (apply_eq returned)
  rw [← moveAll_eq_perform] at run
  have course := moveAll_returned (s := announced r s) engine run
  have account := course.account (Machine.hasEngine_bare.mpr engine) way'
  have ended : (route.serve r s).2.machine = s'.machine := (congrArg Service.machine ends :)
  have started : (announced r s).machine.bare = s.machine.bare := rfl
  rw [started, Machine.transfers_bare, Machine.transfers_bare] at account
  rw [ended]
  obtain ⟨outcome, -, log⟩ | ⟨k, hk, log, ⟨cause, outcome, -⟩ | ⟨outcome, -⟩⟩ := account
  · cases outcome
    exact log
  · cases outcome
    refine ⟨_, ?_, (List.take_prefix (k + 1) _).map _, log⟩
    rw [ne_eq, List.map_eq_nil_iff, List.take_eq_nil_iff]
    rintro (zero | nil)
    · cases zero
    · rw [show r.pieces route = [] from nil] at hk
      exact Nat.not_lt_zero _ hk
  · cases outcome

/-- A sector and six bytes read by way of three hundred: the second segment
starts behind both transfers of the first. -/
theorem serve_tiles_two_segments :
    let route : Route := ⟨⟨0x100, 300⟩, 0x1000, 5⟩
    let r := Request.read 1 [⟨Array.replicate 512 0⟩, ⟨Array.replicate 6 0⟩]
    let m : Machine :=
      { controller := .engine { doneBits := 4 }
        window := { base := 0x1000, size := 0x800 }
        channel := { mode := .polling 1, doneMask := 4, errorMask := 2 }
        clock := Clock.stepping }
    (route.serve r { machine := m }).1 = .ok (.ok ())
      ∧ (route.serve r { machine := m }).2.machine.transfers.toList
        = [⟨0x1200, 0x100, 300⟩, ⟨0x132c, 0x100, 212⟩, ⟨0x1400, 0x100, 6⟩]
      ∧ ∃ runs, route.Tiling .read 1 r.segments.toList runs
        ∧ (route.serve r { machine := m }).2.machine.transfers.toList = runs.flatten := by
  intro route r m
  have sized : 0 < route.bounce.size := by decide
  have sizes (n : Nat) : (ByteArray.mk (Array.replicate n 0)).size = n := Array.size_replicate
  have whole : ∀ x ∈ r.segments.toList.dropLast, Geometry.sectorSize ∣ x.size := by
    intro x hx
    obtain rfl := List.mem_singleton.mp hx
    exact ⟨1, sizes 512⟩
  have flushable : ∀ p ∈ r.pieces route, p.Flushable route.bounce := by
    intro p hp
    obtain ⟨-, -, short, -, stop⟩ := mem_pieces sized hp
    have sum (a b : ByteArray) : Segment.total (Segments.buffers [a, b]).toList
        = a.size + (b.size + 0) := rfl
    have total : Segment.total r.segments.toList = 518 := by
      refine (sum _ _).trans ?_
      rw [sizes, sizes]
    have start : route.address r.sector.toNat = 0x1200 := by decide
    rw [total, start] at stop
    have base : route.bounce.base.toNat = 0x100 := rfl
    have size : route.bounce.size = 300 := rfl
    rw [size] at short
    refine ⟨?_, ?_⟩ <;> unfold Geometry.lineSize Geometry.wordLimit <;> omega
  have returned : (route.serve r { machine := m }).1 = .ok (.ok ()) := by
    decide +kernel
  obtain ⟨runs, tiling, log⟩ := serve_tiles sized rfl whole flushable ⟨_, rfl⟩ returned
  exact ⟨returned, by decide +kernel, runs, tiling, log⟩

end Route

end RemoteDisk

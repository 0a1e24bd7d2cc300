import RemoteDisk.Proofs.Moves
import RemoteDisk.Proofs.Submit

/-!
# Up to the first failure

A request moves its pieces in order. Where the engine copies all of them it
is completed. Otherwise the first piece that is not copied decides: the
request fails with that piece's cause, the pieces before it are carried over
as if nothing had failed, those behind it are not started, and of the piece
itself nothing is left but its start and, for a write, its bytes in the
bounce buffer.

That is so from any state of the machine: whatever the bounce buffer, the
completion slot, the registers and the counters held before.
-/

namespace RemoteDisk

namespace Route

variable {route : Route} {r : Request} {m : Machine} {p : Piece}

/-- **A request that the engine can reach**: its ranges lie in the window,
the bounce buffer does not, and no range that is flushed ends above the
topmost line. -/
structure Reaches (route : Route) (w : Window) (r : Request) : Prop where
  /-- The bounce buffer holds a byte, and no more than a buffer can. -/
  sized : 0 < route.bounce.size ∧ route.bounce.size ≤ Engine.longestBuffer
  /-- It starts outside the window. -/
  apart : route.bounce.base.toNat < w.base.toNat
    ∨ w.base.toNat + w.size ≤ route.bounce.base.toNat
  /-- It does not start at zero. -/
  nonzero : route.bounce.base ≠ 0
  /-- The segments start at addresses. -/
  fits : route.Fits r.sector.toNat r.segments.toList
  /-- The remote ranges lie in the window. -/
  inside : ∀ p ∈ r.pieces route,
    w.base.toNat ≤ p.remote ∧ p.remote + p.size ≤ w.base.toNat + w.size
  /-- The ranges on both sides end below the topmost line. -/
  flushable : ∀ p ∈ r.pieces route, p.remote + p.size + Geometry.lineSize ≤ Geometry.wordLimit
    ∧ route.bounce.base.toNat + p.size + Geometry.lineSize ≤ Geometry.wordLimit

theorem Reaches.safe (reaches : route.Reaches m.window r) :
    ∀ p ∈ r.pieces route, p.Safe route.bounce := by
  intro p hp
  obtain ⟨sized, short⟩ := reaches.sized
  obtain ⟨-, pos, held, -⟩ := mem_pieces sized hp
  obtain ⟨remote, nearby⟩ := reaches.flushable p hp
  exact ⟨pos, held, Nat.le_trans held short, nearby, remote⟩

theorem Reaches.reachable (reaches : route.Reaches m.window r) :
    ∀ p ∈ r.pieces route, p.Reachable route.bounce m.window := by
  intro p hp
  obtain ⟨start, stop⟩ := reaches.inside p hp
  exact ⟨start, stop, reaches.nonzero, reaches.apart⟩

/-- **A request is reached as a whole**: where all its bytes lie in the
window, so do those of each piece. -/
theorem Reaches.of_total {w : Window}
    (sized : 0 < route.bounce.size ∧ route.bounce.size ≤ Engine.longestBuffer)
    (apart : route.bounce.base.toNat < w.base.toNat
      ∨ w.base.toNat + w.size ≤ route.bounce.base.toNat)
    (nonzero : route.bounce.base ≠ 0)
    (nearby : route.bounce.base.toNat + route.bounce.size + Geometry.lineSize ≤ Geometry.wordLimit)
    (start : w.base.toNat ≤ route.address r.sector.toNat)
    (stop : route.address r.sector.toNat + r.segments.totalBytes ≤ w.base.toNat + w.size)
    (top : w.base.toNat + w.size + Geometry.lineSize ≤ Geometry.wordLimit) : route.Reaches w r := by
  have sum : Segment.total r.segments.toList = r.segments.totalBytes := rfl
  refine ⟨sized, apart, nonzero, fits_of_total ?_, fun p hp => ?_, fun p hp => ?_⟩
  · rw [sum]
    unfold Geometry.lineSize at top
    omega
  · obtain ⟨-, -, -, after, before⟩ := mem_pieces sized.1 hp
    rw [sum] at before
    omega
  · obtain ⟨-, -, held, -, before⟩ := mem_pieces sized.1 hp
    rw [sum] at before
    omega

/-- **How serving a request ends**, and what it leaves: the engine's log, the
flushed ranges, the counters and memory. -/
structure Ends (route : Route) (r : Request) (s : Service) (result : Except TransferError Unit)
    (phase : Phase) (log : List Transfer) (flushes : List Flush) (counters : Counters)
    (store : Store) : Prop where
  result : (route.serve r s).1 = .ok result
  phase : (route.serve r s).2.phase = phase
  log : (route.serve r s).2.machine.transfers.toList = s.machine.transfers.toList ++ log
  flushes : (route.serve r s).2.machine.flushes.toList = s.machine.flushes.toList ++ flushes
  /-- Interrupts are counted by their handler. -/
  counters : (route.serve r s).2.machine.counters.withoutIrqs = counters.withoutIrqs
  store : (route.serve r s).2.store = store
  /-- All else is as before. -/
  fixed : (route.serve r s).2.machine.bare.fixed = s.machine.bare.fixed

variable {s : Service} {direction : Direction}

/-- **A request of which the engine copies every piece is carried over.** -/
theorem serve_carried (prompt : s.machine.Prompt) (calm : s.machine.pending = [])
    (reaches : route.Reaches s.machine.window r)
    (immediate : ∀ i < (r.pieces route).length, s.machine.behaviorAt i = some .immediate) :
    ∃ s', route.serve r s = (.ok (.ok ()), s') ∧ s'.phase = .completed
      ∧ Carried route.bounce (r.pieces route) s s' := by
  obtain ⟨s', moved, carried⟩ := moveAll_carried
    (s := { s with machine := s.machine.report .trace ("[OMNI] request " ++ r.text) })
    (prompt.congr rfl rfl rfl rfl) calm immediate reaches.safe reaches.reachable
  have run := serve_apply reaches.fits s
  unfold Request.pieces at moved
  rw [moved] at run
  exact ⟨_, run, rfl, carried.bare, carried.pending, carried.store⟩

/-- A request of which the engine copies every piece is completed. -/
theorem ends_completed (prompt : s.machine.Prompt) (calm : s.machine.pending = [])
    (reaches : route.Reaches s.machine.window r)
    (way : ∀ p ∈ r.pieces route, p.body.direction = direction)
    (immediate : ∀ i < (r.pieces route).length, s.machine.behaviorAt i = some .immediate) :
    route.Ends r s (.ok ()) .completed ((r.pieces route).map (Piece.transfer route.bounce))
      ((r.pieces route).flatMap (Piece.flushes route.bounce))
      (direction.counted (r.pieces route).length s.machine.counters)
      (s.store.carryAll route.bounce s.machine.window.base (r.pieces route)) := by
  obtain ⟨s', run, phase, carried⟩ := serve_carried prompt calm reaches immediate
  have engine : s.machine.bare.HasEngine := Machine.hasEngine_bare.mpr prompt.hasEngine
  constructor
  · rw [run]
  · rw [run]
    exact phase
  · rw [run, ← Machine.transfers_bare, carried.bare, Machine.transfers_movedAll engine,
      Machine.transfers_bare]
  · rw [run, ← Machine.flushes_bare, carried.bare, Machine.flushes_movedAll, Machine.flushes_bare]
  · -- the handler may have counted interrupts, so the rest is compared
    have counters := congrArg Machine.counters carried.bare
    rw [Machine.counters_movedAll way] at counters
    have reduced := congrArg Counters.withoutIrqs counters
    rw [direction.counted_withoutIrqs] at reduced
    rw [run, direction.counted_withoutIrqs]
    exact reduced
  · rw [run]
    exact carried.store
  · rw [run]
    exact carried.fixed

/-- A request of which the engine fails a piece after it copied those before
it has failed. -/
theorem ends_failed {k : Nat} {b : Behavior} {cause : TransferError} (prompt : s.machine.Prompt)
    (calm : s.machine.pending = []) (reaches : route.Reaches s.machine.window r)
    (way : ∀ p ∈ r.pieces route, p.body.direction = direction)
    (expires : s.machine.clock.Expires s.machine.channel.mode route.timeoutMs)
    (hk : k < (r.pieces route).length)
    (immediate : ∀ i < k, s.machine.behaviorAt i = some .immediate)
    (next : s.machine.behaviorAt k = some b)
    (fails : b.failure? s.machine.channel.doneMask s.machine.channel.errorMask = some cause) :
    route.Ends r s (.error cause) .failed
      (((r.pieces route).take (k + 1)).map (Piece.transfer route.bounce))
      (((r.pieces route).take k).flatMap (Piece.flushes route.bounce)
        ++ ((r.pieces route)[k].flushes route.bounce).take 1)
      (cause.count (direction.counted k s.machine.counters))
      ((r.pieces route)[k].abandon route.bounce
        (s.store.carryAll route.bounce s.machine.window.base ((r.pieces route).take k))) := by
  -- the pieces in front, the one that fails, and those that are not started
  have parts : (r.pieces route).take k ++ (r.pieces route)[k] :: (r.pieces route).drop (k + 1)
      = r.pieces route := by
    rw [← List.drop_eq_getElem_cons hk, List.take_append_drop]
  have length : ((r.pieces route).take k).length = k := List.length_take_of_le (Nat.le_of_lt hk)
  obtain ⟨s', stopped, bare, store⟩ := moveAll_fails
    ((r.pieces route).take k) (r.pieces route)[k] ((r.pieces route).drop (k + 1))
    (s := { s with machine := s.machine.report .trace ("[OMNI] request " ++ r.text) })
    (prompt.congr rfl rfl rfl rfl) calm
    (by rw [length]; exact immediate) (by rw [length]; exact next) fails expires
    (by rw [parts]; exact reaches.safe)
    (fun p hp => reaches.reachable p (List.mem_of_mem_take hp))
  have run := serve_apply reaches.fits s
  rw [parts] at stopped
  unfold Request.pieces at stopped
  rw [stopped] at run
  -- that the request was announced is in the journal, not in the bare machine
  have bare : s'.machine.bare = (s.machine.bare.movedAll route.bounce
      ((r.pieces route).take k)).failed ((r.pieces route)[k].descriptor route.bounce) cause :=
    bare
  constructor
  · rw [run]
  · rw [run]
  · have engine := Machine.hasEngine_bare.mpr prompt.hasEngine
    have log := Machine.transfers_issued_movedAll route.bounce engine hk
    rw [Machine.transfers_bare] at log
    rw [run, ← Machine.transfers_bare, bare]
    exact log
  · rw [run, ← Machine.flushes_bare, bare]
    show (Machine.issued _ _).flushes.toList = _
    rw [Machine.flushes_issued, Array.toList_push, Machine.flushes_movedAll, Machine.flushes_bare,
      List.append_assoc]
    rfl
  · have counters := congrArg Machine.counters bare
    rw [Machine.counters_failed, Machine.counters_movedAll_take way hk] at counters
    have reduced := congrArg Counters.withoutIrqs counters
    rw [cause.count_withoutIrqs, direction.counted_withoutIrqs] at reduced
    rw [run, cause.count_withoutIrqs, direction.counted_withoutIrqs]
    exact reduced
  · rw [run]
    exact store
  · rw [run, bare]
    exact (Machine.fixed_issued _ _).trans Machine.fixed_movedAll

/-- **A request stops at the first piece that the engine fails**, and not
before. With the pieces the engine copies at once in front of it, that piece
decides the result; what stands behind it makes no difference. -/
theorem serve_stops_at_failure (way : r.operation.direction? = some direction)
    (prompt : s.machine.Prompt) (calm : s.machine.pending = [])
    (reaches : route.Reaches s.machine.window r)
    (expires : s.machine.clock.Expires s.machine.channel.mode route.timeoutMs) :
    let ps := r.pieces route
    let base := s.machine.window.base
    ((∀ i < ps.length, s.machine.behaviorAt i = some .immediate) →
      route.Ends r s (.ok ()) .completed
        (ps.map (Piece.transfer route.bounce)) (ps.flatMap (Piece.flushes route.bounce))
        (direction.counted ps.length s.machine.counters)
        (s.store.carryAll route.bounce base ps))
    ∧ ∀ (k : Nat) (hk : k < ps.length) (b : Behavior) (cause : TransferError),
      (∀ i < k, s.machine.behaviorAt i = some .immediate) →
      s.machine.behaviorAt k = some b →
      b.failure? s.machine.channel.doneMask s.machine.channel.errorMask = some cause →
      route.Ends r s (.error cause) .failed
        ((ps.take (k + 1)).map (Piece.transfer route.bounce))
        ((ps.take k).flatMap (Piece.flushes route.bounce) ++ (ps[k].flushes route.bounce).take 1)
        (cause.count (direction.counted k s.machine.counters))
        (ps[k].abandon route.bounce (s.store.carryAll route.bounce base (ps.take k))) := by
  have way' : ∀ p ∈ r.pieces route, p.body.direction = direction := fun p hp =>
    Option.some.inj ((direction_of_mem_pieces reaches.sized.1 hp).symm.trans way)
  exact ⟨ends_completed prompt calm reaches way',
    fun k hk b cause => ends_failed prompt calm reaches way' expires hk⟩

/-- Ten bytes written by way of four, of which the engine copies the first
four and then finds a fault. -/
theorem serve_stops_at_failure_second :
    let route : Route := ⟨⟨0x100, 4⟩, 0x1000, 5⟩
    let r := Request.write 1 [⟨#[0, 1, 2, 3, 4, 5, 6, 7, 8, 9]⟩]
    let m : Machine :=
      { controller := .engine { doneBits := 4, upcoming := [.immediate, .fault 2] }
        window := { base := 0x1000, size := 0x400 }
        channel := { mode := .polling 1, doneMask := 4, errorMask := 2, signaled := true }
        clock := Clock.stepping }
    route.Ends r { machine := m } (.error (.engine 6)) .failed
      [⟨0x100, 0x1200, 4⟩, ⟨0x100, 0x1204, 4⟩]
      [⟨0x100, 4⟩, ⟨0x1200, 4⟩, ⟨0x100, 4⟩] { writes := 1, errors := 1 }
      ⟨Memory.empty.write 0x200 ⟨#[0, 1, 2, 3]⟩,
        (Memory.empty.write 0x100 ⟨#[0, 1, 2, 3]⟩).write 0x100 ⟨#[4, 5, 6, 7]⟩, []⟩ := by
  intro route r m
  have reaches : route.Reaches m.window r := by
    refine .of_total ?_ ?_ ?_ ?_ ?_ ?_ ?_ <;> decide +kernel
  have expires : m.clock.Expires m.channel.mode route.timeoutMs :=
    ⟨1, (by decide : (1 : UInt64) = Clock.stepping.delayTicks 1), 2, by decide⟩
  have pieces : r.pieces route = [⟨0x1200, 0, .source ⟨#[0, 1, 2, 3]⟩⟩,
      ⟨0x1204, 4, .source ⟨#[4, 5, 6, 7]⟩⟩, ⟨0x1208, 8, .source ⟨#[8, 9]⟩⟩] := by
    have chunks : (Chunk.Plan.start 10 4).chunks = [⟨0, 4⟩, ⟨4, 4⟩, ⟨8, 2⟩] := by
      decide +kernel
    have parts : let data : ByteArray := ⟨#[0, 1, 2, 3, 4, 5, 6, 7, 8, 9]⟩
        data.extract 0 (0 + 4) = ⟨#[0, 1, 2, 3]⟩ ∧ data.extract 4 (4 + 4) = ⟨#[4, 5, 6, 7]⟩
          ∧ data.extract 8 (8 + 2) = ⟨#[8, 9]⟩ := by
      decide +kernel
    have address : route.address 1 = 0x1200 := by decide
    show (Chunk.Plan.start 10 4).chunks.map (fun c => Piece.mk (route.address 1 + c.offset)
      c.offset ((Segment.source _).part c)) ++ [] = _
    rw [chunks, address, List.append_nil]
    simp only [List.map_cons, List.map_nil, Segment.part, parts]
  have prompt : m.Prompt := ⟨⟨_, rfl, rfl⟩, by decide, by decide, rfl,
    fun interrupt => absurd interrupt (by decide)⟩
  have way : r.operation.direction? = some .write := rfl
  have first : ∀ i < 1, m.behaviorAt i = some .immediate := by
    intro i hi
    obtain rfl := Nat.lt_one_iff.mp hi
    rfl
  have second : 1 < (r.pieces route).length := by
    rw [pieces]
    decide
  have stops := (serve_stops_at_failure (s := { machine := m }) way prompt rfl reaches expires).2
    1 second (.fault 2) (.engine 6) first rfl (by decide)
  simp only [pieces] at stops
  exact stops

end Route

end RemoteDisk

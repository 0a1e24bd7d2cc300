import RemoteDisk.Command.Run
import RemoteDisk.Proofs.Accounting
import RemoteDisk.Proofs.Effects
import RemoteDisk.Proofs.Patterns

/-!
# Accesses by whole sectors

An access by whole sectors is checked before it becomes a request, and the
request is checked again before it is served. Each check adds words of its own
and minds the carry. The first one counts the sectors of its buffer by a division
without remainder, the second those of a request by one that rounds up; on whole
sectors they are the same number, and either sum comes out as in exact numbers
(`checkRange_of_whole`, `inRange_request`), so the second check never turns down
what the first let pass.

An access that passes is therefore as good as its request
(`SectorCall.agrees`). It fails where the transfer of one of its chunks does and
in no other case (`Route.ChunkFails`), and what it leaves behind is what the
block layer's request leaves.
-/

namespace RemoteDisk

open Op

/-! ## Attempts that fail -/

namespace Attempt

variable {α β : Type} {cause : TransferError} {s : Service}

/-- **An attempt fails** with a cause. -/
def Fails (x : Attempt α) (cause : TransferError) (s : Service) : Prop :=
  (x s).1 = .ok (.error cause)

/-- **A sequence fails** where its first part does, or its second part on what
the first one left. -/
theorem fails_bind {x : Attempt α} {f : α → Attempt β} :
    (x >>= f).Fails cause s
      ↔ x.Fails cause s ∨ ∃ v t, x s = (.ok (.ok v), t) ∧ (f v).Fails cause t := by
  unfold Fails
  rw [bind_apply]
  constructor
  · intro fails
    rcases run : x s with ⟨fault | cause' | v, t⟩
    all_goals
      rw [run] at fails
      dsimp only at fails
    · cases fails
    · cases fails
      exact .inl rfl
    · exact .inr ⟨v, t, rfl, fails⟩
  · rintro (fails | ⟨v, t, run, fails⟩)
    · rw [apply_eq fails]
    · rw [run]
      exact fails

/-- A sequence whose second part cannot fail fails where its first part does. -/
theorem fails_bind_left {x : Attempt α} {f : α → Attempt β}
    (never : ∀ v t, ¬(f v).Fails cause t) : (x >>= f).Fails cause s ↔ x.Fails cause s := by
  rw [fails_bind]
  refine or_iff_left ?_
  rintro ⟨v, t, -, fails⟩
  exact never v t fails

/-- **What cannot fail** leaves the failing to what comes after it. -/
theorem fails_ofServe_bind {serve : Serve α} {f : α → Attempt β} :
    (ofServe serve >>= f).Fails cause s
      ↔ ∃ v t, serve s = (.ok v, t) ∧ (f v).Fails cause t := by
  have never : ¬(ofServe serve).Fails cause s := ofServe_ne_failed serve s cause
  rw [fails_bind, or_iff_right never, ofServe_apply]
  constructor
  · rintro ⟨v, t, run, fails⟩
    rcases served : serve s with ⟨fault | v', t'⟩
    all_goals
      rw [served] at run
      cases run
    exact ⟨v, t', rfl, fails⟩
  · rintro ⟨v, t, served, fails⟩
    rw [served]
    exact ⟨v, t, rfl, fails⟩

/-- What takes part on the machine alone cannot fail. -/
theorem fails_ofAct_bind {act : Act α} {f : α → Attempt β} :
    (ofAct act >>= f).Fails cause s
      ↔ ∃ v m, act s.machine = (.ok v, m) ∧ (f v).Fails cause { s with machine := m } := by
  refine fails_ofServe_bind.trans ?_
  rw [Serve.ofAct_apply]
  constructor
  · rintro ⟨v, t, run, fails⟩
    obtain ⟨ended, rfl⟩ := Prod.mk.inj run
    exact ⟨v, _, apply_eq ended, fails⟩
  · rintro ⟨v, m, acted, fails⟩
    rw [acted]
    exact ⟨v, _, rfl, fails⟩

end Attempt

/-! ## Chunks whose transfer fails -/

namespace Route

variable {route : Route} {segment : Segment} {start : UInt64} {chunk : Chunk}
  {cause : TransferError} {s : Service}

/-- **Starts the transfer of a chunk**, after its bytes were staged where they
are to be written. -/
def startChunk (route : Route) (segment : Segment) (start : UInt64) (chunk : Chunk) :
    Act Unit := do
  match segment with
  | .source data =>
    let stop ← (ExceptT.mk (pure (chunk.stopWithin data.size)) : Act Nat)
    route.bounce.stage (data.extract chunk.offset stop)
    let d ← route.descriptor .write start chunk
    d.begin
  | .sink _ _ =>
    let d ← route.descriptor .read start chunk
    d.begin

/-- **The transfer of one of these chunks fails**: it is started, after those
before it ended well, and the wait for it comes back with a cause. -/
inductive ChunkFails (route : Route) (segment : Segment) (start : UInt64)
    (cause : TransferError) : List Chunk → Service → Prop
  | here {chunk : Chunk} {rest : List Chunk} {s : Service} {m m' : Machine}
    (started : route.startChunk segment start chunk s.machine = (.ok (), m))
    (waited : Act.wait route.timeoutMs m = (.ok (.error cause), m')) :
    ChunkFails route segment start cause (chunk :: rest) s
  | later {chunk : Chunk} {rest : List Chunk} {s s' : Service}
    (served : route.serveChunk segment start chunk s = (.ok (.ok ()), s'))
    (fails : ChunkFails route segment start cause rest s') :
    ChunkFails route segment start cause (chunk :: rest) s

/-- **Moving a chunk fails** where the wait for its transfer does. -/
theorem fails_move {d : Descriptor} : (route.move d).Fails cause s
    ↔ ∃ m m', d.begin s.machine = (.ok (), m)
      ∧ Act.wait route.timeoutMs m = (.ok (.error cause), m') := by
  unfold Attempt.Fails
  constructor
  · intro fails
    rcases began : d.begin s.machine with ⟨fault | _, m⟩
    · have first : Serve.ofAct d.begin ⟨s.machine, .transferring, s.delivered⟩
          = (.error fault, ⟨m, .transferring, s.delivered⟩) := by
        rw [Serve.ofAct_apply, began]
      cases (congrArg Prod.fst (bind_error first)).symm.trans fails
    · rw [move_apply began] at fails
      obtain ⟨result, m', waited, rest⟩ := bind_ok_inv (apply_eq fails)
      rcases result with cause' | _
      · obtain ⟨journal, run⟩ := Descriptor.finish_of_error (d := d) waited
        cases (congrArg Prod.fst run).symm.trans fails
        exact ⟨m, m', rfl, waited⟩
      · obtain ⟨_, _, -, last⟩ := bind_ok_inv rest
        cases last
  · rintro ⟨m, m', began, waited⟩
    obtain ⟨journal, run⟩ := Descriptor.finish_of_error (d := d) waited
    rw [move_apply began, run]

/-- A move that was described on the machine fails where its transfer does. -/
theorem fails_descriptor_move {direction : Direction} :
    (do
        let d ← Attempt.ofAct (route.descriptor direction start chunk)
        route.move d).Fails cause s
      ↔ ∃ m m', (do
          let d ← route.descriptor direction start chunk
          d.begin) s.machine = (.ok (), m)
        ∧ Act.wait route.timeoutMs m = (.ok (.error cause), m') := by
  rw [Attempt.fails_ofAct_bind]
  constructor
  · rintro ⟨d, m₀, described, fails⟩
    obtain ⟨m, m', began, waited⟩ := fails_move.mp fails
    exact ⟨m, m', (bind_ok described).trans began, waited⟩
  · rintro ⟨m, m', started, waited⟩
    obtain ⟨d, m₀, described, began⟩ := bind_ok_inv started
    exact ⟨d, m₀, described, fails_move.mpr ⟨m, m', began, waited⟩⟩

/-- **Serving a chunk fails** where its transfer does. -/
theorem fails_serveChunk : (route.serveChunk segment start chunk).Fails cause s
    ↔ ∃ m m', route.startChunk segment start chunk s.machine = (.ok (), m)
      ∧ Act.wait route.timeoutMs m = (.ok (.error cause), m') := by
  cases segment with
  | source data =>
    show (Attempt.ofServe (Serve.enter .staging) >>= fun _ =>
      Attempt.ofAct (ExceptT.mk (pure (chunk.stopWithin data.size))) >>= fun stop =>
      Attempt.ofAct (route.bounce.stage (data.extract chunk.offset stop)) >>= fun _ =>
      Attempt.ofAct (route.descriptor .write start chunk) >>= fun d =>
      route.move d).Fails cause s ↔ _
    constructor
    · intro fails
      obtain ⟨_, _, entered, fails⟩ := Attempt.fails_ofServe_bind.mp fails
      cases entered
      obtain ⟨stop, _, stopped, fails⟩ := Attempt.fails_ofAct_bind.mp fails
      obtain ⟨_, _, staged, fails⟩ := Attempt.fails_ofAct_bind.mp fails
      obtain ⟨m, m', started, waited⟩ := fails_descriptor_move.mp fails
      exact ⟨m, m', (bind_ok stopped).trans ((bind_ok staged).trans started), waited⟩
    · rintro ⟨m, m', started, waited⟩
      obtain ⟨stop, _, stopped, started⟩ := bind_ok_inv started
      obtain ⟨_, _, staged, started⟩ := bind_ok_inv started
      refine Attempt.fails_ofServe_bind.mpr ⟨_, _, rfl, ?_⟩
      refine Attempt.fails_ofAct_bind.mpr ⟨stop, _, stopped, ?_⟩
      refine Attempt.fails_ofAct_bind.mpr ⟨_, _, staged, ?_⟩
      exact fails_descriptor_move.mpr ⟨m, m', started, waited⟩
  | sink buffer size =>
    refine Iff.trans ?_ fails_descriptor_move
    show (Attempt.ofAct (route.descriptor .read start chunk) >>= fun d => _).Fails cause s ↔ _
    rw [Attempt.fails_ofAct_bind, Attempt.fails_ofAct_bind]
    refine exists_congr fun d => exists_congr fun m => and_congr_right fun _ => ?_
    -- once the transfer has ended well, only a fault can end the chunk
    refine Attempt.fails_bind_left fun _ t fails => ?_
    obtain ⟨_, _, -, fails⟩ := Attempt.fails_ofServe_bind.mp fails
    obtain ⟨_, _, -, fails⟩ := Attempt.fails_ofAct_bind.mp fails
    exact Attempt.ofServe_ne_failed _ _ _ fails

/-- **Serving chunks fails** where the transfer of one of them does. -/
theorem fails_serveChunks {chunks : List Chunk} :
    (route.serveChunks segment start chunks).Fails cause s
      ↔ route.ChunkFails segment start cause chunks s := by
  induction chunks generalizing s with
  | nil => constructor <;> exact fun fails => nomatch fails
  | cons chunk rest ih =>
    rw [serveChunks, Attempt.fails_bind, fails_serveChunk]
    constructor
    · rintro (⟨m, m', started, waited⟩ | ⟨_, t, served, fails⟩)
      · exact .here started waited
      · exact .later served (ih.mp fails)
    · rintro (⟨started, waited⟩ | ⟨served, fails⟩)
      · exact .inl ⟨_, _, started, waited⟩
      · exact .inr ⟨_, _, served, ih.mpr fails⟩

/-- **Serving one segment fails** where the transfer of one of its chunks does. -/
theorem fails_serveSegments {cursor : Nat} :
    (route.serveSegments cursor [segment]).Fails cause s
      ↔ ∃ start : UInt64, start.toNat = route.address cursor
        ∧ route.ChunkFails segment start cause
          (Chunk.Plan.start segment.size route.bounce.size).chunks s := by
  rw [serveSegments]
  refine (Attempt.fails_bind_left fun _ t fails => ?_).trans ?_
  · -- no segment comes after this one, so nothing can fail after it
    obtain ⟨_, _, -, fails⟩ := Attempt.fails_ofAct_bind.mp fails
    cases fails
  rw [serveSegment, Attempt.fails_ofAct_bind]
  constructor
  · rintro ⟨start, m, addressed, fails⟩
    obtain ⟨place, rfl⟩ := Act.word_inv addressed
    exact ⟨start, place, fails_serveChunks.mp fails⟩
  · rintro ⟨start, place, fails⟩
    have addressed := Act.word_ok (n := route.address cursor) (place ▸ start.toNat_lt) s.machine
    rw [← place, UInt64.ofNat_toNat, place] at addressed
    exact ⟨start, s.machine, addressed, fails_serveChunks.mpr fails⟩

/-- **A request of one segment fails** where the transfer of one of its chunks
does. -/
theorem serve_failed_iff {r : Request} (single : r.segments.toList = [segment]) :
    (route.serve r s).1 = .ok (.error cause)
      ↔ ∃ start : UInt64, start.toNat = route.address r.sector.toNat
        ∧ route.ChunkFails segment start cause
          (Chunk.Plan.start segment.size route.bounce.size).chunks (announced r s) := by
  rw [← fails_serveSegments, ← single]
  unfold serve
  rw [bind_ok (show Serve.ofAct (Act.report .trace ("[OMNI] request " ++ r.text)) s
    = (.ok (), announced r s) from rfl)]
  constructor
  · intro failed
    obtain ⟨outcome, t, served, rest⟩ := bind_ok_inv (apply_eq failed)
    cases outcome with
    | ok => cases congrArg Prod.fst rest
    | error =>
      cases congrArg Prod.fst rest
      exact congrArg Prod.fst served
  · intro failed
    exact congrArg Prod.fst (bind_ok (apply_eq failed))

end Route

/-! ## Calls -/

/-- **A call by whole sectors**, with its first sector and its buffer. -/
inductive SectorCall where
  | readSectors (block : UInt64) (buffer : ByteArray)
  | writeSectors (block : UInt64) (data : ByteArray)
  | readBlocks (block : UInt64) (buffer : ByteArray)
  | writeBlocks (block : UInt64) (data : ByteArray)

namespace SectorCall

/-- The first sector. -/
def block : SectorCall → UInt64
  | readSectors block _ | writeSectors block _ | readBlocks block _ | writeBlocks block _ => block

/-- The caller's buffer. -/
def buffer : SectorCall → ByteArray
  | readSectors _ buffer | readBlocks _ buffer => buffer
  | writeSectors _ data | writeBlocks _ data => data

/-- **What a call does.** -/
def run (d : Device) : SectorCall → Serve (Except StorageError Unit)
  | readSectors block buffer => d.readSectors block buffer
  | writeSectors block data => d.writeSectors block data
  | readBlocks block buffer => d.readBlocks block buffer
  | writeBlocks block data => d.writeBlocks block data

/-- The only segment of the call's request. -/
def segment : SectorCall → Segment
  | readSectors _ buffer | readBlocks _ buffer => .sink 0 buffer.size
  | writeSectors _ data | writeBlocks _ data => .source data

/-- **The request that stands for a call.** -/
def request : SectorCall → Request
  | readSectors block buffer | readBlocks block buffer => .read block [buffer]
  | writeSectors block data | writeBlocks block data => .write block [data]

/-- **The caller's buffer after the call**, which a read puts bytes into. It is
the only buffer there is. -/
def buffersAfter (delivered : List Delivery) : SectorCall → List ByteArray
  | readSectors _ buffer | readBlocks _ buffer => Delivery.putAll delivered [buffer]
  | writeSectors _ data | writeBlocks _ data => [data]

/-- **The buffer holds whole sectors**, and some. -/
def Whole (c : SectorCall) : Prop := 0 < c.buffer.size ∧ Geometry.sectorSize ∣ c.buffer.size

/-- The first sector past the call. -/
def stop (c : SectorCall) : Nat := c.block.toNat + c.buffer.size / Geometry.sectorSize

/-- **The transfer of a chunk fails** while the call's request is served. -/
def ChunkFails (c : SectorCall) (d : Device) (m : Machine) (cause : TransferError) : Prop :=
  ∃ start : UInt64, start.toNat = d.route.address c.block.toNat
    ∧ d.route.ChunkFails c.segment start cause
      (Chunk.Plan.start c.segment.size d.bounce.size).chunks
      (Route.announced c.request { machine := m, phase := .started })

variable {c : SectorCall} {d : Device} {m : Machine} {e : StorageError} {sector : UInt64}

theorem request_segments (c : SectorCall) : c.request.segments.toList = [c.segment] := by
  cases c <;> rfl

theorem request_sector (c : SectorCall) : c.request.sector = c.block := by
  cases c <;> rfl

theorem totalBytes_request (c : SectorCall) : c.request.segments.totalBytes = c.buffer.size := by
  rw [Segments.totalBytes, request_segments]
  cases c <;> rfl

theorem request_moves (c : SectorCall) : c.request.operation.direction? ≠ none := by
  cases c <;> exact Option.some_ne_none _

/-! ## The two checks -/

/-- **The first check is exact.** A call with whole sectors fails it where the
sector it ends at, in numbers without a bound, lies past the disk. -/
theorem checkRange_of_whole (whole : c.Whole) : d.checkRange c.block c.buffer.size
    = if c.stop ≤ d.capacity then .ok c.block else .error .invalidBlock := by
  have odd : ¬(c.buffer.size = 0 ∨ c.buffer.size % Geometry.sectorSize ≠ 0) := by
    rw [not_or, not_not]
    exact ⟨Nat.ne_of_gt whole.1, Nat.mod_eq_zero_of_dvd whole.2⟩
  have exact : ((Word.ofNat? (c.buffer.size / Geometry.sectorSize)).bind (Word.add? c.block)).any
      (· ≤ d.sectors) = true ↔ c.stop ≤ d.capacity := Word.any_add?_le
  unfold Device.checkRange
  rw [if_neg odd]
  cases stop : (Word.ofNat? (c.buffer.size / Geometry.sectorSize)).bind (Word.add? c.block) with
  | none =>
    rw [stop, Option.any_none] at exact
    rw [if_neg (exact.not.mp Bool.false_ne_true)]
  | some stop' =>
    rw [stop, Option.any_some, decide_eq_true_iff] at exact
    simp only [exact]

/-- **What the first check finds.** -/
theorem checkRange_cases (c : SectorCall) (d : Device) :
    (¬c.Whole ∧ d.checkRange c.block c.buffer.size = .error .invalidBufferSize)
      ∨ (c.Whole ∧ d.capacity < c.stop
        ∧ d.checkRange c.block c.buffer.size = .error .invalidBlock)
      ∨ (c.Whole ∧ c.stop ≤ d.capacity ∧ d.checkRange c.block c.buffer.size = .ok c.block) := by
  by_cases whole : c.Whole
  · have checked := checkRange_of_whole (d := d) whole
    by_cases inside : c.stop ≤ d.capacity
    · exact .inr (.inr ⟨whole, inside, checked.trans (if_pos inside)⟩)
    · exact .inr (.inl ⟨whole, Nat.not_le.mp inside, checked.trans (if_neg inside)⟩)
  · refine .inl ⟨whole, if_pos ?_⟩
    rwa [Whole, not_and_or, Nat.not_lt, Nat.le_zero, Nat.dvd_iff_mod_eq_zero] at whole

/-- **On whole sectors the second check finds the same**: to divide them without
remainder and to round up is one number. -/
theorem inRange_request (whole : c.Whole) : d.inRange c.request = true ↔ c.stop ≤ d.capacity := by
  obtain ⟨-, k, size⟩ := whole
  have sectors : c.request.sectors = c.buffer.size / Geometry.sectorSize := by
    unfold Request.sectors
    rw [totalBytes_request, size, Nat.mul_add_div (by decide),
      Nat.mul_div_cancel_left k (by decide)]
    rfl
  rw [Device.inRange_iff, sectors, request_sector]
  rfl

/-! ## What becomes of a call -/

/-- A call that the first check turns down touches nothing. -/
theorem run_refused (refused : d.checkRange c.block c.buffer.size = .error e) (s : Service) :
    c.run d s = (.ok (.error e), s) := by
  cases c <;> exact Device.access_refused _ refused s

/-- **A call that it lets pass** ends as its request does. -/
theorem run_accepted (accepted : d.checkRange c.block c.buffer.size = .ok c.block) (s : Service) :
    c.run d s = ((d.submit c.request s).1.map (·.mapError StorageError.ofBlockError),
      (d.submit c.request s).2) := by
  have access (request : UInt64 → Request) :
      d.access c.block c.buffer.size request s
        = ((d.submit (request c.block) s).1.map (·.mapError StorageError.ofBlockError),
          (d.submit (request c.block) s).2) := by
    unfold Device.access
    rw [accepted]
    refine (bind_apply _ _ _).trans ?_
    rcases d.submit (request c.block) s with ⟨_ | _, _⟩ <;> rfl
  cases c <;> exact access _

/-- The answer to a call whose request the block layer was told of. -/
def answer : BlockStatus → Except StorageError Unit
  | .ok => .ok ()
  | .failed => .error .failed

/-- **A call that is served**, as against its request submitted and queued. -/
structure Served (c : SectorCall) (d : Device) (m : Machine) : Prop where
  /-- The second check does not turn it down. -/
  unrejected : ∀ e, e = .unsupported ∨ e = .outOfRange →
    ((d.submit c.request).runOn m).1.result ≠ .ok (.error e)
  /-- It fails where the transfer of a chunk does. -/
  failed : ((c.run d).runOn m).1.result = .ok (.error .failed) ↔ ∃ cause, c.ChunkFails d m cause
  /-- It ends as the block layer's request does, also where that is a fault. -/
  result : ((c.run d).runOn m).1.result = ((d.queue c.request).runOn m).1.result.map answer
  /-- The same bytes are delivered. -/
  delivered : ((c.run d).runOn m).1.delivered = ((d.queue c.request).runOn m).1.delivered
  /-- The same machine is left. -/
  machine : ((c.run d).runOn m).2 = ((d.queue c.request).runOn m).2

/-- **What a call comes to**, as against its request. -/
structure Agrees (c : SectorCall) (d : Device) (m : Machine) : Prop where
  /-- A buffer is refused that is empty or no multiple of a sector. -/
  badSize : ((c.run d).runOn m).1.result = .ok (.error .invalidBufferSize)
    ↔ c.buffer.size = 0 ∨ ¬Geometry.sectorSize ∣ c.buffer.size
  /-- A buffer of whole sectors is refused that ends past the disk, in exact numbers. -/
  badBlock : ((c.run d).runOn m).1.result = .ok (.error .invalidBlock)
    ↔ c.Whole ∧ d.capacity < c.stop
  /-- A refused call touches neither the machine nor the buffer. -/
  untouched : ∀ e, e = .invalidBufferSize ∨ e = .invalidBlock →
    ((c.run d).runOn m).1.result = .ok (.error e) →
      ((c.run d).runOn m).2 = m ∧ c.buffersAfter ((c.run d).runOn m).1.delivered = [c.buffer]
  /-- On whole sectors both checks refuse the same. -/
  outOfRange : c.Whole → (((c.run d).runOn m).1.result = .ok (.error .invalidBlock)
    ↔ ((d.submit c.request).runOn m).1.result = .ok (.error .outOfRange))
  /-- What neither refuses is served. -/
  served : c.Whole → c.stop ≤ d.capacity → c.Served d m

/-- Nothing is put into the buffer of a call that delivered nothing. -/
theorem buffersAfter_nil (c : SectorCall) : c.buffersAfter [] = [c.buffer] := by
  cases c <;> rfl

/-- **A call that passes the first check is served.** -/
theorem served_of_whole (word : c.buffer.size < Geometry.wordLimit) (whole : c.Whole)
    (inside : c.stop ≤ d.capacity) : c.Served d m := by
  have accepted : d.checkRange c.block c.buffer.size = .ok c.block := by
    obtain ⟨odd, -⟩ | ⟨-, past, -⟩ | ⟨-, -, accepted⟩ := c.checkRange_cases d
    · exact absurd whole odd
    · exact absurd inside (Nat.not_le.mpr past)
    · exact accepted
  have inRange : d.inRange c.request = true := (inRange_request whole).mpr inside
  have total : c.request.segments.totalBytes < Geometry.wordLimit := by
    rwa [totalBytes_request]
  have run := c.run_accepted accepted { machine := m }
  have submitted := Device.submit_accepted c.request_moves total inRange { machine := m }
  have queued := d.queue_apply c.request { machine := m }
  rw [submitted] at run queued
  refine ⟨?_, ?_, ?_, ?_, ?_⟩
  · intro e checks ended
    rw [Serve.runOn_result, Device.submit_eq_handOn c.request_moves total inRange] at ended
    refine Device.handOn_ne_error (fun cause same => ?_) ended
    obtain rfl | rfl := checks
    all_goals cases same
  · rw [Serve.runOn_result, run]
    unfold ChunkFails
    have fails (cause : TransferError) :
        (d.route.serve c.request { machine := m, phase := .started }).1 = .ok (.error cause) ↔ _ :=
      Route.serve_failed_iff c.request_segments
    rw [request_sector] at fails
    refine Iff.trans ?_ (exists_congr fails)
    rcases (d.route.serve c.request { machine := m, phase := .started }).1 with fault | cause | _
    · exact iff_of_false (fun h => nomatch h) fun ⟨_, h⟩ => nomatch h
    · exact iff_of_true rfl ⟨cause, rfl⟩
    · exact iff_of_false (fun h => nomatch h) fun ⟨_, h⟩ => nomatch h
  · rw [Serve.runOn_result, Serve.runOn_result, run, queued]
    rcases (d.route.serve c.request { machine := m, phase := .started }).1 with _ | _ | _ <;> rfl
  · rw [Serve.runOn_served, Serve.runOn_served, run, queued]
  · rw [Serve.runOn_machine, Serve.runOn_machine, run, queued]

/-- **Accesses by whole sectors and requests agree**, on every disk and every
machine. An access is refused by its own check exactly where its buffer is empty
or no multiple of a sector, or else where it ends past the disk, and then nothing
is touched; the second refusal is the one its request would have met. An access
that is not refused is served as its request is, so that it fails exactly where
the transfer of one of its chunks does. -/
theorem agrees (c : SectorCall) (d : Device) (m : Machine)
    (word : c.buffer.size < Geometry.wordLimit) : c.Agrees d m := by
  have whole_iff : ¬c.Whole ↔ c.buffer.size = 0 ∨ ¬Geometry.sectorSize ∣ c.buffer.size := by
    rw [Whole, not_and_or, Nat.not_lt, Nat.le_zero]
  have refusal {e : StorageError} (refused : d.checkRange c.block c.buffer.size = .error e) :
      (c.run d).runOn m = (⟨.ok (.error e), .idle, []⟩, m) := by
    unfold Serve.runOn
    rw [run_refused refused]
  obtain ⟨odd, refused⟩ | ⟨whole, past, refused⟩ | ⟨whole, inside, -⟩ := c.checkRange_cases d
  · exact
      { badSize := by
          rw [refusal refused]
          exact iff_of_true rfl (whole_iff.mp odd)
        badBlock := by
          rw [refusal refused]
          exact iff_of_false (fun h => nomatch h) fun h => odd h.1
        untouched := by
          rw [refusal refused]
          exact fun _ _ _ => ⟨rfl, c.buffersAfter_nil⟩
        outOfRange := fun whole => absurd whole odd
        served := fun whole => absurd whole odd }
  · have beyond : d.inRange c.request = false :=
      Bool.eq_false_iff.mpr (mt (inRange_request whole).mp (Nat.not_le.mpr past))
    obtain ⟨text, outside⟩ := Device.submit_outOfRange c.request_moves
      (by rwa [totalBytes_request]) beyond { machine := m }
    exact
      { badSize := by
          rw [refusal refused]
          exact iff_of_false (fun h => nomatch h) (mt whole_iff.mpr (not_not_intro whole))
        badBlock := by
          rw [refusal refused]
          exact iff_of_true rfl ⟨whole, past⟩
        untouched := by
          rw [refusal refused]
          exact fun _ _ _ => ⟨rfl, c.buffersAfter_nil⟩
        outOfRange := by
          rw [refusal refused, Serve.runOn_result, outside]
          exact fun _ => iff_of_true rfl rfl
        served := fun _ inside => absurd inside (Nat.not_le.mpr past) }
  · have served := served_of_whole (d := d) (m := m) word whole inside
    have passed (e : StorageError) (checks : e = .invalidBufferSize ∨ e = .invalidBlock) :
        ((c.run d).runOn m).1.result ≠ .ok (.error e) := by
      rw [served.result]
      rcases ((d.queue c.request).runOn m).1.result with _ | _ | _
      all_goals
        intro same
        cases same
      obtain same | same := checks <;> cases same
    exact
      { badSize := iff_of_false (passed _ (.inl rfl)) (mt whole_iff.mpr (not_not_intro whole))
        badBlock := iff_of_false (passed _ (.inr rfl)) fun h => Nat.not_le.mpr h.2 inside
        untouched := fun e checks ended => absurd ended (passed e checks)
        outOfRange := fun _ => iff_of_false (passed _ (.inr rfl))
          (served.unrejected _ (.inr rfl))
        served := fun _ _ => served }

/-- A disk whose engine ends every transfer with an error bit that is looked
for. -/
def faulty : Machine :=
  { Command.freshMachine with
    clock := {}
    controller := .engine { doneBits := Status.diskDone, behavior := .fault 8 }
    channel := { mode := .polling 10, errorMask := 8 }
    window := { base := 0x100000000, size := 1024 } }

/-- On a disk of two sectors, the sector with the topmost number is refused, and
nothing is touched. A call for the second sector is accepted and fails, so the
transfer of a chunk has failed. -/
theorem agrees_at_the_edges :
    let d : Device := ⟨{ sizeBytes := 1024, remoteBase := 0x100000000 }, 2, none,
      ⟨0x80000000, 4096⟩⟩
    let beyond := writeBlocks 0xffffffffffffffff (Bytes.fill 512 0)
    let last := readSectors 1 (Bytes.fill 512 0)
    ((beyond.run d).runOn faulty).1.result = .ok (.error .invalidBlock)
      ∧ ((beyond.run d).runOn faulty).2 = faulty
      ∧ ((d.submit beyond.request).runOn faulty).1.result = .ok (.error .outOfRange)
      ∧ ∃ cause, last.ChunkFails d faulty cause := by
  intro d beyond last
  have size : (Bytes.fill 512 0).size = 512 := Bytes.size_fill 512 0
  have whole (c : SectorCall) (h : c.buffer.size = 512) : c.Whole := by
    rw [Whole, h]
    decide
  have one := agrees beyond d faulty (by rw [show beyond.buffer.size = 512 from size]; decide)
  have other := agrees last d faulty (by rw [show last.buffer.size = 512 from size]; decide)
  have refused := one.badBlock.mpr ⟨whole beyond size, by
    rw [stop, show beyond.buffer.size = 512 from size]
    decide⟩
  refine ⟨refused, (one.untouched _ (.inr rfl) refused).1,
    (one.outOfRange (whole beyond size)).mp refused, ?_⟩
  refine (other.served (whole last size) ?_).failed.mp ?_
  · rw [stop, show last.buffer.size = 512 from size]
    decide
  · decide +kernel

end SectorCall

end RemoteDisk

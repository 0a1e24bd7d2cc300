import RemoteDisk.Proofs.FirstFailure
import RemoteDisk.Proofs.Segments

/-!
# A disk is an array of bytes

On a controller that copies at once, a disk cannot be told from an array of
bytes that answers requests itself (`FlatDisk`): chunks, the bounce buffer,
the registers and the wait for the end of a transfer leave no trace in what
requests come back with. Requests that arrive one after another are answered
alike (`Device.answers_mirrored`), because after each of them the window
mirrors the array again and the machine is as ready as it was at first.

A request has to bring its data in whole sectors, except for its last
segment: the disk starts every segment at a sector.
-/

namespace RemoteDisk

/-- **What a request comes back with.** -/
structure Response where
  /-- What the block layer is told. -/
  status : Except Fault BlockStatus
  /-- The phase the request ends in. -/
  phase : Phase
  /-- Its buffers. -/
  buffers : List ByteArray

/-- The buffers a request brings. -/
def Request.buffers (r : Request) : List ByteArray :=
  match r.segments with
  | .buffers bs => bs
  | .sources _ | .none => []

/-- **Requests answered one after another.** -/
def answers {σ : Type} (answer : Request → σ → Response × σ) : List Request → σ → List Response × σ
  | [], s => ([], s)
  | r :: rs, s =>
    let (reply, s) := answer r s
    let (replies, s) := answers answer rs s
    (reply :: replies, s)

/-- A disk answering a request. -/
def Device.answer (d : Device) (r : Request) (m : Machine) : Response × Machine :=
  let (served, m) := (d.queue r).runOn m
  (⟨served.result, served.phase, r.buffersAfter served.delivered⟩, m)

/-! ## The array -/

/-- **A plain array of bytes** in place of a disk. -/
structure FlatDisk where
  bytes : ByteArray

namespace FlatDisk

/-- An array of zeros. -/
def blank (size : Nat) : FlatDisk := ⟨Bytes.fill size 0⟩

/-- Buffers filled in order with the bytes from a place on. -/
def fill (disk : FlatDisk) : (place : Nat) → List ByteArray → List ByteArray
  | _, [] => []
  | place, b :: rest =>
    disk.bytes.extract place (place + b.size) :: disk.fill (place + b.size) rest

/-- The array with the bytes from a place on replaced. -/
def replace (disk : FlatDisk) (place : Nat) (data : ByteArray) : FlatDisk :=
  ⟨disk.bytes.extract 0 place ++ data
    ++ disk.bytes.extract (place + data.size) disk.bytes.size⟩

/-- **What becomes of a request that ends within the array.** -/
def serve (r : Request) (disk : FlatDisk) : List ByteArray × FlatDisk :=
  let place := r.sector.toNat * Geometry.sectorSize
  match r.segments with
  | .buffers bs => (disk.fill place bs, disk)
  | .sources bs => ([], disk.replace place (Bytes.join bs))
  | .none => ([], disk)

/-- **An array answering a request.** -/
def answer (r : Request) (disk : FlatDisk) : Response × FlatDisk :=
  if r.sector.toNat + r.sectors ≤ disk.bytes.size / Geometry.sectorSize then
    (⟨.ok .ok, .completed, (disk.serve r).1⟩, (disk.serve r).2)
  else (⟨.ok .failed, .failed, r.buffers⟩, disk)

end FlatDisk

/-- **A request that brings its data in whole sectors**, up to its last
segment. -/
structure Request.Aligned (r : Request) : Prop where
  /-- It is a read or a write. -/
  moves : r.operation.direction? ≠ none
  /-- Every segment but the last has whole sectors. -/
  whole : ∀ s ∈ r.segments.toList.dropLast, Geometry.sectorSize ∣ s.size
  /-- Its length is a word. -/
  total : r.segments.totalBytes < Geometry.wordLimit

/-- A request that nothing was delivered to has the buffers it brought. -/
theorem Request.buffersAfter_nil (r : Request) : r.buffersAfter [] = r.buffers := by
  unfold buffersAfter buffers
  cases r.segments <;> rfl

/-! ## One request -/

/-- **The window mirrors an array**, and nothing is left over from requests
before: the machine is as ready for the next as for the first. -/
structure Device.Mirrors (d : Device) (m : Machine) (disk : FlatDisk) : Prop where
  prompt : m.Prompt
  calm : m.pending = []
  /-- The engine copies at once, however often it is started. -/
  immediate : ∀ i, m.behaviorAt i = some .immediate
  base : m.window.base = d.config.remoteBase
  size : m.window.size = d.config.sizeBytes.toNat
  /-- The bytes of the window are those of the array. -/
  bytes : m.window.memory.read 0 d.config.sizeBytes.toNat = disk.bytes

namespace FlatDisk

variable {route : Route} {disk : FlatDisk} {s : Store} {n cursor : Nat} {bs : List ByteArray}

/-- The place of a sector in the window. -/
theorem address_sub (route : Route) (cursor : Nat) :
    route.remoteBase.toNat ≤ route.address cursor
      ∧ route.address cursor - route.remoteBase.toNat = cursor * Geometry.sectorSize :=
  ⟨Nat.le_add_right _ _, Nat.add_sub_cancel_left _ _⟩

/-- **The contents of buffers** that lie there in whole sectors are what the array
fills them with. -/
theorem contents_eq_fill {remote : Memory}
    (whole : ∀ b ∈ bs.dropLast, Geometry.sectorSize ∣ b.size)
    (bytes : remote.read 0 n = disk.bytes)
    (inside : cursor * Geometry.sectorSize + (Bytes.join bs).size ≤ n) :
    route.contents route.remoteBase remote cursor bs
      = disk.fill (cursor * Geometry.sectorSize) bs := by
  induction bs generalizing cursor with
  | nil => rfl
  | cons b bs ih =>
    rw [Bytes.size_join_cons] at inside
    have range := remote.extract_read 0 (n := n) (i := cursor * Geometry.sectorSize)
      (j := cursor * Geometry.sectorSize + b.size) (by omega)
    rw [bytes, Nat.zero_add, Nat.add_sub_cancel_left] at range
    rw [Route.contents, fill, (address_sub route cursor).2, range]
    -- the last buffer need not end with a sector: nothing follows it
    rcases bs with _ | ⟨b', bs⟩
    · rfl
    · obtain ⟨k, size⟩ : Geometry.sectorSize ∣ b.size := whole b List.mem_cons_self
      have next : (cursor + b.size / Geometry.sectorSize) * Geometry.sectorSize
          = cursor * Geometry.sectorSize + b.size := by
        rw [Nat.add_mul, Nat.div_mul_cancel ⟨k, size⟩]
      rw [ih (fun x hx => whole x (List.mem_cons_of_mem b hx)) (by omega), next]

/-- **Buffers that a read is given** are filled as the array fills them. -/
theorem fill_of_carryAll (whole : ∀ b ∈ bs.dropLast, Geometry.sectorSize ∣ b.size)
    (bytes : s.remote.read 0 n = disk.bytes) (fresh : s.delivered = [])
    (inside : cursor * Geometry.sectorSize + (Bytes.join bs).size ≤ n) :
    let s' := s.carryAll route.bounce route.remoteBase
      (route.pieces cursor (bs.zipIdx.map (fun b => .sink b.2 b.1.size)))
    Delivery.putAll s'.delivered bs = disk.fill (cursor * Geometry.sectorSize) bs
      ∧ s'.remote.read 0 n = disk.bytes := by
  obtain ⟨remote, ds, delivered, put⟩ :=
    Route.carryAll_sinks [] bs (address_sub route cursor).1 s
  rw [fresh, List.nil_append] at delivered
  rw [List.nil_append, List.nil_append, contents_eq_fill whole bytes inside] at put
  intro s'
  refine ⟨?_, ?_⟩
  · rw [show s'.delivered = ds from delivered, put]
  · rw [show s'.remote = s.remote from remote, bytes]

/-- **Bytes that a write brings** are replaced as the array replaces them. -/
theorem replace_of_carryAll (whole : ∀ b ∈ bs.dropLast, Geometry.sectorSize ∣ b.size)
    (bytes : s.remote.read 0 n = disk.bytes)
    (inside : cursor * Geometry.sectorSize + (Bytes.join bs).size ≤ n) :
    (s.carryAll route.bounce route.remoteBase
        (route.pieces cursor (bs.map .source))).remote.read 0 n
      = (disk.replace (cursor * Geometry.sectorSize) (Bytes.join bs)).bytes := by
  have length : disk.bytes.size = n := by rw [← bytes, Memory.size_read]
  obtain ⟨above, place⟩ := address_sub route cursor
  -- byte by byte, since the pieces reach remote memory in writes of their own
  have written (i : Nat) := Route.carryAll_sources whole above s (0 + i)
  rw [place] at written
  rw [Memory.read_congr (fun i _ => written i), Memory.read_write_inside _ _ _ inside, bytes]
  unfold replace
  rw [length]

/-- Segments of the sizes of byte strings have their length together. -/
theorem total_of_sizes {ss : List Segment} (sizes : ss.map Segment.size = bs.map ByteArray.size) :
    Segment.total ss = (Bytes.join bs).size := by
  induction bs generalizing ss with
  | nil =>
    rw [List.map_eq_nil_iff.mp sizes]
    rfl
  | cons b bs ih =>
    obtain ⟨s, ss, rfl, size, rest⟩ := List.map_eq_cons_iff.mp sizes
    rw [Segment.total, size, ih rest, Bytes.size_join_cons]

/-- Byte strings are whole sectors where the segments of their sizes are. -/
theorem whole_of_sizes {ss : List Segment} (sizes : ss.map Segment.size = bs.map ByteArray.size)
    (whole : ∀ s ∈ ss.dropLast, Geometry.sectorSize ∣ s.size) :
    ∀ b ∈ bs.dropLast, Geometry.sectorSize ∣ b.size := by
  intro b hb
  have mem : b.size ∈ (ss.map Segment.size).dropLast := by
    rw [sizes, ← List.map_dropLast]
    exact List.mem_map_of_mem hb
  rw [← List.map_dropLast] at mem
  obtain ⟨s, hs, size⟩ := List.mem_map.mp mem
  exact size ▸ whole s hs

/-- **Carrying over the pieces of a request** does to memory, and to what is
delivered, what the array does. -/
theorem serve_of_carryAll {r : Request} (aligned : r.Aligned)
    (bytes : s.remote.read 0 n = disk.bytes) (fresh : s.delivered = [])
    (inside : r.sector.toNat * Geometry.sectorSize + r.segments.totalBytes ≤ n) :
    let s' := s.carryAll route.bounce route.remoteBase (r.pieces route)
    r.buffersAfter s'.delivered = (disk.serve r).1
      ∧ s'.remote.read 0 n = (disk.serve r).2.bytes := by
  have whole := aligned.whole
  unfold Segments.totalBytes at inside
  rcases r with ⟨sector, operation, bs | bs | _, agrees⟩
  · have sizes : (Segments.buffers bs).toList.map Segment.size = bs.map ByteArray.size := by
      rw [Segments.toList, List.map_map]
      exact (List.map_map (l := bs.zipIdx) (f := Prod.fst)).symm.trans
        (congrArg (List.map ByteArray.size) (List.zipIdx_map_fst 0 bs))
    refine fill_of_carryAll (whole_of_sizes sizes whole) bytes fresh ?_
    rw [← total_of_sizes sizes]
    exact inside
  · have sizes : (Segments.sources bs).toList.map Segment.size = bs.map ByteArray.size :=
      List.map_map
    refine ⟨rfl, replace_of_carryAll (whole_of_sizes sizes whole) bytes ?_⟩
    rw [← total_of_sizes sizes]
    exact inside
  · exact ⟨rfl, bytes⟩

end FlatDisk

namespace Device

variable {d : Device} {disk : FlatDisk} {m : Machine} {r : Request}

section Answers

variable (sound : d.Sound) (room : d.config.HasRoom)
  (apart : d.bounce.base.toNat < d.config.remoteBase.toNat
    ∨ d.config.remoteBase.toNat + d.config.sizeBytes.toNat ≤ d.bounce.base.toNat)
include sound room apart

/-- Where the window mirrors an array, the engine reaches whatever the disk
accepts. -/
theorem reaches_of_inRange (mirrors : d.Mirrors m disk) (accepted : d.inRange r = true) :
    d.route.Reaches m.window r := by
  have size := sound.size
  have above := sound.above
  have below := sound.below
  rw [← size] at below
  unfold Geometry.bounceSize at size
  have sized : 0 < d.bounce.size ∧ d.bounce.size ≤ Engine.longestBuffer := by
    unfold Engine.longestBuffer
    omega
  have nonzero : d.bounce.base ≠ 0 := by
    intro zero
    rw [zero] at above
    exact absurd above (by decide)
  have start : m.window.base.toNat ≤ d.route.address r.sector.toNat := by
    rw [mirrors.base]
    exact Nat.le_add_right _ _
  have ends := address_add_totalBytes_le accepted
  rw [sound.sizeBytes, ← mirrors.base, ← mirrors.size] at ends
  have top : m.window.base.toNat + m.window.size + Geometry.lineSize ≤ Geometry.wordLimit := by
    rw [mirrors.base, mirrors.size]
    exact room
  rw [← mirrors.base, ← mirrors.size] at apart
  exact .of_total sized apart nonzero below start ends top

/-- **One request is answered alike**, and the window mirrors the array
again. -/
theorem answer_mirrored (aligned : r.Aligned) (mirrors : d.Mirrors m disk) :
    (d.answer r m).1 = (disk.answer r).1 ∧ d.Mirrors (d.answer r m).2 (disk.answer r).2 := by
  have length : disk.bytes.size = d.config.sizeBytes.toNat := by
    rw [← mirrors.bytes, Memory.size_read]
  have capacity : disk.bytes.size / Geometry.sectorSize = d.capacity := by
    rw [length, ← sound.sizeBytes]
    exact Nat.mul_div_cancel _ (by decide)
  -- disk and array accept the same requests
  have range : (r.sector.toNat + r.sectors ≤ disk.bytes.size / Geometry.sectorSize)
      ↔ d.inRange r = true := by
    rw [capacity]
    exact inRange_iff.symm
  unfold answer FlatDisk.answer Serve.runOn
  rw [queue_apply]
  by_cases accepted : d.inRange r = true
  · rw [if_pos (range.mpr accepted), submit_accepted aligned.moves aligned.total accepted]
    obtain ⟨s', served, phase, carried⟩ := Route.serve_carried
      (s := { machine := m, phase := .started }) mirrors.prompt mirrors.calm
      (reaches_of_inRange sound room apart mirrors accepted) (fun i _ => mirrors.immediate i)
    rw [served]
    obtain ⟨base, size⟩ := carried.window
    have inside : r.sector.toNat * Geometry.sectorSize + r.segments.totalBytes
        ≤ d.config.sizeBytes.toNat := by
      have ends := address_add_totalBytes_le accepted
      rw [sound.sizeBytes] at ends
      unfold Route.address at ends
      rw [show d.route.remoteBase = d.config.remoteBase from rfl] at ends
      omega
    have store := carried.store
    rw [mirrors.base] at store
    obtain ⟨buffers, bytes⟩ : r.buffersAfter s'.store.delivered = (disk.serve r).1
        ∧ s'.store.remote.read 0 d.config.sizeBytes.toNat = (disk.serve r).2.bytes := by
      rw [store]
      exact FlatDisk.serve_of_carryAll aligned mirrors.bytes rfl inside
    refine ⟨?_, ?_⟩
    · show Response.mk (.ok .ok) s'.phase (r.buffersAfter s'.store.delivered) = _
      rw [phase, buffers]
    · -- bare machine and pending transfers are what the next request relies on
      exact {
        prompt := carried.prompt mirrors.prompt
        calm := carried.pending
        immediate := fun i => (carried.behaviorAt i).trans (mirrors.immediate _)
        base := base.trans mirrors.base
        size := size.trans mirrors.size
        bytes := bytes }
  · rw [if_neg (range.not.mpr accepted)]
    obtain ⟨text, refused⟩ := submit_outOfRange aligned.moves aligned.total
      (Bool.eq_false_iff.mpr accepted) { machine := m }
    rw [refused]
    refine ⟨?_, ?_⟩
    · show Response.mk (.ok .failed) .failed (r.buffersAfter []) = _
      rw [r.buffersAfter_nil]
    · exact ⟨mirrors.prompt.congr rfl rfl rfl rfl, mirrors.calm, mirrors.immediate, mirrors.base,
        mirrors.size, mirrors.bytes⟩

/-- **Requests are answered alike**, one after another. -/
theorem answers_mirrored {rs : List Request} (aligned : ∀ r ∈ rs, r.Aligned)
    (mirrors : d.Mirrors m disk) :
    (answers d.answer rs m).1 = (answers FlatDisk.answer rs disk).1
      ∧ d.Mirrors (answers d.answer rs m).2 (answers FlatDisk.answer rs disk).2 := by
  induction rs generalizing m disk with
  | nil => exact ⟨rfl, mirrors⟩
  | cons r rs ih =>
    obtain ⟨first, mirrors'⟩ := answer_mirrored sound room apart (aligned r List.mem_cons_self)
      mirrors
    obtain ⟨rest, last⟩ := ih (fun q hq => aligned q (List.mem_cons_of_mem r hq)) mirrors'
    exact ⟨congrArg₂ List.cons first rest, last⟩

end Answers

/-- **A disk that was just brought up on a bench** mirrors an array of
zeros. -/
theorem onBench_mirrors {config : Config} {m₀ m : Machine}
    (brought : onBench config m₀ = (.ok (.ok d), m)) (quiet : m₀.events = [])
    (done : config.doneMask ≠ 0) (errors : config.errorMask &&& config.doneMask = 0) :
    d.Sound ∧ d.config = config ∧ d.Mirrors m (FlatDisk.blank config.sizeBytes.toNat) := by
  obtain ⟨sound, rfl, line, arena, journal, rfl⟩ := onBench_inv brought
  refine ⟨sound, rfl, ?_⟩
  exact {
    prompt := ⟨⟨_, rfl, rfl⟩, done, errors, quiet, fun _ => ⟨_, _, rfl, .inr (by rw [line])⟩⟩
    calm := rfl
    immediate := fun i => congrArg some (Engine.behaviorAt_of_none rfl i)
    base := rfl
    size := rfl
    bytes := Memory.read_empty _ _ }

/-- **A disk on a bench is an array of bytes**: whatever requests it is given,
they come back with what the array answers, and the window holds its
bytes. -/
theorem onBench_answers_as_array {config : Config} {m₀ m : Machine}
    (brought : onBench config m₀ = (.ok (.ok d), m)) (quiet : m₀.events = [])
    (done : config.doneMask ≠ 0) (errors : config.errorMask &&& config.doneMask = 0)
    (room : config.HasRoom)
    (apart : d.bounce.base.toNat + d.bounce.size ≤ config.remoteBase.toNat
      ∨ config.remoteBase.toNat + config.sizeBytes.toNat ≤ d.bounce.base.toNat)
    {rs : List Request} (aligned : ∀ r ∈ rs, r.Aligned) :
    let array := FlatDisk.blank config.sizeBytes.toNat
    (answers d.answer rs m).1 = (answers FlatDisk.answer rs array).1
      ∧ (answers d.answer rs m).2.window.memory.read 0 config.sizeBytes.toNat
        = (answers FlatDisk.answer rs array).2.bytes := by
  obtain ⟨sound, rfl, mirrors⟩ := onBench_mirrors brought quiet done errors
  have size := sound.size
  unfold Geometry.bounceSize at size
  have apart : d.bounce.base.toNat < d.config.remoteBase.toNat
      ∨ d.config.remoteBase.toNat + d.config.sizeBytes.toNat ≤ d.bounce.base.toNat := by
    omega
  obtain ⟨alike, last⟩ := answers_mirrored sound room apart aligned mirrors
  exact ⟨alike, last.bytes⟩

/-- A disk of two sectors on the emulated controller's clock: both are written
in one request, a part of the second is read back, and there is no third. -/
theorem onBench_answers_as_array_two_sectors :
    ∃ d m, onBench { sizeBytes := 1024, errorMask := 0x10 } { clock := Clock.stepping }
        = (.ok (.ok d), m)
      ∧ (answers d.answer [Request.write 0 [Bytes.fill 512 7, ⟨#[1, 2, 3]⟩],
          Request.read 1 [⟨#[0, 0]⟩], Request.write 2 [⟨#[1]⟩]] m).1
        = (answers FlatDisk.answer [Request.write 0 [Bytes.fill 512 7, ⟨#[1, 2, 3]⟩],
          Request.read 1 [⟨#[0, 0]⟩], Request.write 2 [⟨#[1]⟩]] (FlatDisk.blank 1024)).1 := by
  have brought : onBench { sizeBytes := 1024, errorMask := 0x10 } { clock := Clock.stepping }
      = (.ok (.ok ⟨{ sizeBytes := 1024, errorMask := 0x10 }, 2, some 33,
          ⟨0x80000000, Geometry.bounceSize⟩⟩), (onBench { sizeBytes := 1024, errorMask := 0x10 }
            { clock := Clock.stepping }).2) := Op.apply_eq rfl
  have aligned : ∀ r ∈ [Request.write 0 [Bytes.fill 512 7, ⟨#[1, 2, 3]⟩],
      Request.read 1 [⟨#[0, 0]⟩], Request.write 2 [⟨#[1]⟩]], r.Aligned := by
    intro r hr
    refine ⟨?_, ?_, ?_⟩ <;> revert r <;> decide +kernel
  exact ⟨_, _, brought, (onBench_answers_as_array brought rfl (by decide) (by decide) (by decide)
    (.inl (by decide)) aligned).1⟩

end Device

end RemoteDisk

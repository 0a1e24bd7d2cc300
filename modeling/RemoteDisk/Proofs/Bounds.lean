import RemoteDisk.Proofs.Submit

/-!
# A request stays inside its disk

Every transfer that a request starts runs between the start of the bounce
buffer and the disk's own range of the bus, and nothing that is computed on
the way leaves its word or its buffer. The check that decides this rounds
the length of the whole request; what has to stay in bounds are the chunks
of every segment.
-/

namespace RemoteDisk

/-! ## The transfers of a disk -/

namespace Transfer

/-- The end of a transfer that lies in the bounce buffer. -/
def nearby (t : Transfer) : Direction → UInt64
  | .read => t.destination
  | .write => t.source

/-- The end of a transfer that lies in remote memory. -/
def remote (t : Transfer) : Direction → UInt64
  | .read => t.source
  | .write => t.destination

end Transfer

/-- **A transfer that stays inside a disk**: it has at least one byte and no
more than the bounce buffer holds, one end of it is the start of the bounce
buffer, and the other lies within the disk's range of the bus. -/
structure Device.Confines (d : Device) (direction : Direction) (t : Transfer) : Prop where
  /-- There is something to be moved. -/
  pos : 1 ≤ t.length.toNat
  /-- It is no longer than the bounce buffer. -/
  short : t.length.toNat ≤ 1048576
  /-- Its near end is the start of the bounce buffer. -/
  nearby : t.nearby direction = d.bounce.base
  /-- Its far end starts inside the disk. -/
  start : d.config.remoteBase.toNat ≤ (t.remote direction).toNat
  /-- Its far end ends inside the disk. -/
  stop : (t.remote direction).toNat + t.length.toNat
    ≤ d.config.remoteBase.toNat + d.config.sizeBytes.toNat

namespace Device

variable {d : Device} {r : Request} {p : Piece}

/-- **The pieces of an accepted request stay inside the disk.** -/
theorem confines_of_mem_pieces (sound : d.Sound) (room : d.config.HasRoom)
    (accepted : d.inRange r = true) (h : p ∈ d.pieces r) :
    d.Confines p.body.direction (p.transfer d.bounce) := by
  have safe := safe_of_inRange sound room accepted p h
  have ends := address_add_totalBytes_le accepted
  have piece : p ∈ d.route.pieces r.sector.toNat r.segments.toList := h
  obtain ⟨-, -, -, start, stop⟩ := Route.mem_pieces (Nat.lt_of_lt_of_le safe.pos safe.held) piece
  have stop : p.remote + p.size
      ≤ d.route.address r.sector.toNat + r.segments.totalBytes := stop
  have base : d.config.remoteBase.toNat ≤ d.route.address r.sector.toNat :=
    Nat.le_add_right _ _
  have held := safe.held
  rw [sound.size] at held
  rw [sound.sizeBytes] at ends
  have length : (p.transfer d.bounce).length.toNat = p.size := safe.length
  have remote : ((p.transfer d.bounce).remote p.body.direction).toNat = p.remote := by
    rw [← safe.address]
    rcases p with ⟨_, _, _ | _⟩ <;> rfl
  refine ⟨?_, ?_, ?_, ?_, ?_⟩
  · rw [length]
    exact safe.pos
  · rw [length]
    exact held
  · rcases p with ⟨_, _, _ | _⟩ <;> rfl
  · rw [remote]
    exact Nat.le_trans base start
  · rw [remote, length]
    omega

/-- **Accepted requests stay inside the disk.** A disk that was brought up
and ends at least a line below the top of the address space serves whatever
its range check accepts – segments of any lengths, from any state of the
machine, against any behaviour of the engine – without a sum, a product or a
slice leaving its bounds: the one way not to return is to wait for a
transfer that never ends. Every transfer it starts stays inside the disk. -/
theorem submit_confined {resources : Resources} {config : Config} {m₀ m₁ : Machine}
    (probed : probe resources config m₀ = (.ok (.ok d), m₁))
    (room : config.HasRoom)
    {m : Machine} (engine : m.HasEngine) (accepted : d.inRange r = true)
    (total : r.segments.totalBytes < Geometry.wordLimit) :
    (∀ fault, ((d.submit r).runOn m).1.result = .error fault → fault = .endless)
      ∧ ∃ ts : List Transfer,
        ((d.submit r).runOn m).2.transfers.toList = m.transfers.toList ++ ts
        ∧ ∀ t ∈ ts, ∃ direction, r.operation.direction? = some direction
          ∧ d.Confines direction t := by
  obtain ⟨sound, rfl, -, -⟩ := probe_inv probed
  rw [Serve.runOn_result, Serve.runOn_machine]
  rcases submit_course sound room { machine := m } engine with
    ⟨refused, bare⟩ | ⟨direction, result, way, -, ended, course⟩
  · have same : (d.submit r { machine := m }).2.machine.transfers = m.transfers := by
      rw [← Machine.transfers_bare, bare, Machine.transfers_bare]
    refine ⟨fun fault h => ?_, [], ?_, fun _ h => nomatch h⟩
    · rw [h] at refused
      -- the one fault a request can be refused with needs a longer request
      cases refused with
      | overflow long => exact absurd total (Nat.not_lt.mpr long)
    · rw [same, List.append_nil]
  · have engine' : m.bare.HasEngine := Machine.hasEngine_bare.mpr engine
    have way' : ∀ p ∈ d.pieces r, p.body.direction = direction := fun p hp =>
      Option.some.inj ((direction_of_mem_pieces sound hp).symm.trans way)
    have confined (k : Nat) : ∀ t ∈ ((d.pieces r).take k).map (Piece.transfer d.bounce),
        ∃ direction, r.operation.direction? = some direction ∧ d.Confines direction t := by
      intro t ht
      obtain ⟨p, hp, rfl⟩ := List.mem_map.mp ht
      have hp := List.mem_of_mem_take hp
      exact ⟨_, direction_of_mem_pieces sound hp, confines_of_mem_pieces sound room accepted hp⟩
    have account := course.account engine' way'
    rw [Machine.transfers_bare, Machine.transfers_bare] at account
    rw [ended]
    -- all pieces moved, one of them failed, or one is waited for without end
    rcases account with ⟨rfl, -, log⟩ | ⟨k, -, log, ⟨cause, rfl, -⟩ | ⟨rfl, -⟩⟩
    · refine ⟨fun _ h => (nomatch h), _, log, ?_⟩
      rw [← List.take_length (l := d.pieces r)]
      exact confined _
    · exact ⟨fun _ h => (nomatch h), _, log, confined _⟩
    · refine ⟨fun _ h => ?_, _, log, confined _⟩
      cases h
      rfl

/-- The last sector of a disk, written in two segments of which neither has
the length of a sector, while the engine drops every transfer. -/
theorem submit_confined_last_sector :
    ∃ d m₁, probe { irq := some Geometry.interruptLine } {} {} = (.ok (.ok d), m₁)
      ∧ ∃ ts : List Transfer,
        ((d.submit (Request.write 1048575 [Bytes.fill 300 7, Bytes.fill 212 9])).runOn
            { m₁ with controller := .engine { behavior := .hang } }).2.transfers.toList = ts
        ∧ ∀ t ∈ ts, d.Confines .write t := by
  have probed : probe { irq := some Geometry.interruptLine } {} {}
      = (.ok (.ok ⟨{}, 1048576, some 33, ⟨0x80000000, Geometry.bounceSize⟩⟩),
        (probe { irq := some Geometry.interruptLine } {} {}).2) := Op.apply_eq rfl
  have total : (Request.write 1048575 [Bytes.fill 300 7, Bytes.fill 212 9]).segments.totalBytes
      = 512 := by
    simp [Request.write, Segments.totalBytes, Segments.toList, Segment.total, Segment.size]
  refine ⟨_, _, probed, ?_⟩
  obtain ⟨-, ts, log, confined⟩ := submit_confined probed (by decide)
    (m := { (probe { irq := some Geometry.interruptLine } {} {}).2 with
      controller := .engine { behavior := .hang } }) ⟨_, rfl⟩
    (r := Request.write 1048575 [Bytes.fill 300 7, Bytes.fill 212 9])
    (by
      unfold inRange Request.sectors
      rw [total]
      rfl)
    (by
      rw [total]
      decide)
  refine ⟨ts, log, fun t ht => ?_⟩
  obtain ⟨_, way, confines⟩ := confined t ht
  cases way
  exact confines

end Device

end RemoteDisk

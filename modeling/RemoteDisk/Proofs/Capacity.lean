import RemoteDisk.Device.Sectors
import RemoteDisk.Proofs.Diagnostics
import RemoteDisk.Proofs.Rejections

/-!
# The size of a disk

The size a disk is configured with is turned into sectors when it is brought up, and back into
bytes in three places. They agree, since a size that is no whole number of sectors is refused
(`Device.Shows`).

A size given in MiB is cut off at the largest byte count. That one is odd, so a size that was
cut off is refused like any other that is no multiple of a sector, and no disk ever shows it
(`Device.sizes_agree`).
-/

namespace RemoteDisk

/-! ## Sizes that are accepted -/

namespace Config

theorem mode_withSizeMb (c : Config) (n : UInt64) : (c.withSizeMb n).mode = c.mode := by
  unfold withSizeMb
  rfl

/-- **A size in MiB is accepted** where it is not zero and its bytes have a number, and there
are 2048 sectors to each. -/
theorem capacity_withSizeMb (c : Config) (n : UInt64) :
    (c.withSizeMb n).capacity = if 1 ≤ n.toNat ∧ n.toNat < 2 ^ 44
      then .ok (n.toNat * 2048) else .error .invalidSize := by
  have size : (c.withSizeMb n).sizeBytes.toNat = min (n.toNat * 2 ^ 20) (2 ^ 64 - 1) :=
    UInt64.toNat_ofNat_of_lt' (Nat.lt_of_le_of_lt (Nat.min_le_right _ _) (by decide))
  have empty : (c.withSizeMb n).sizeBytes = 0 ↔ (c.withSizeMb n).sizeBytes.toNat = 0 :=
    UInt64.toNat_inj.symm
  unfold capacity
  simp only [empty, size, Geometry.sectorSize]
  by_cases fits : 1 ≤ n.toNat ∧ n.toNat < 2 ^ 44
  · rw [if_pos fits, if_neg (by omega)]
    exact congrArg _ (by omega)
  · rw [if_neg fits, if_pos (by omega)]

end Config

/-! ## Bringing a disk up -/

/-- **What a disk needs besides a size**: the registers, room for a bounce buffer, and an
interrupt line unless it polls. -/
structure Resources.Suffice (resources : Resources) (mode : CompletionMode) (m : Machine) :
    Prop where
  registers : resources.registers = true
  bounce : ∃ taken, m.arena.alloc? Geometry.bounceSize = some taken
  irq : mode = .interrupt → resources.irq ≠ none

namespace Device

open Op

variable {resources : Resources} {config : Config} {m : Machine} {d : Device}

/-- A disk whose size is refused is not brought up. -/
theorem probe_refused (resources : Resources) (m : Machine) {e : ResourceError}
    (refused : config.capacity = .error e) :
    (probe resources config m).1 = .ok (.error e) := by
  unfold probe
  rw [refused]
  rfl

/-- A bounce buffer is taken where there is room for one. -/
theorem takeBounce_ok {b : Buffer} {arena : Arena}
    (room : m.arena.alloc? Geometry.bounceSize = some (b, arena)) :
    ∃ journal, takeBounce m = (.ok (.ok b), { m with arena, journal }) := by
  have run := Act.allocateBounce_apply Geometry.bounceSize m
  rw [room] at run
  unfold takeBounce
  rw [bind_ok run]
  exact ⟨_, rfl⟩

/-- Without room for it the bounce buffer is missing. -/
theorem takeBounce_failed (full : m.arena.alloc? Geometry.bounceSize = none) :
    ∃ m', takeBounce m = (.ok (.error .bufferAllocFailed), m') := by
  have run := Act.allocateBounce_apply Geometry.bounceSize m
  rw [full] at run
  unfold takeBounce
  rw [bind_ok run]
  exact ⟨_, rfl⟩

/-- An interrupt line is taken where there is one or none is needed. -/
theorem takeIrq_ok {mode : CompletionMode} {irq : Option UInt32}
    (present : mode = .interrupt → irq ≠ none) :
    ∃ journal, takeIrq mode irq m = (.ok (.ok irq), { m with journal }) := by
  unfold takeIrq
  cases mode with
  | interrupt =>
    cases irq with
    | none => exact absurd rfl (present rfl)
    | some line => exact ⟨_, rfl⟩
  | polling us => exact ⟨_, rfl⟩

/-- A disk that waits for interrupts misses its line where there is none. -/
theorem takeIrq_failed : ∃ m', takeIrq .interrupt none m = (.ok (.error .missingIrq), m') :=
  ⟨_, rfl⟩

/-- **What becomes of a disk whose size is accepted**: it is brought up where nothing else is
missing, and otherwise not for its size. -/
theorem probe_cases (resources : Resources) (m : Machine) {capacity : Nat}
    (accepted : config.capacity = .ok capacity) :
    (resources.Suffice config.mode m ∧ ∃ d m', probe resources config m = (.ok (.ok d), m'))
      ∨ (¬resources.Suffice config.mode m
        ∧ ∃ e, e ≠ .invalidSize ∧ (probe resources config m).1 = .ok (.error e)) := by
  have said (text : String) (m : Machine) : report .info text m
      = (.ok (), m.report .info (Geometry.diskName ++ ": " ++ text)) := rfl
  unfold probe
  rw [accepted, bind_ok (said _ m)]
  rcases resources with ⟨_ | _, irq⟩
  · exact .inr ⟨fun suffice => Bool.noConfusion suffice.registers, .missingRegisterWindow, nofun,
      rfl⟩
  dsimp only
  rw [if_neg (by decide), bind_ok (said _ _)]
  rcases room : m.arena.alloc? Geometry.bounceSize with _ | ⟨b, arena⟩
  · obtain ⟨_, failed⟩ := takeBounce_failed (m := (m.report .info _).report .info _) room
    rw [bind_ok failed]
    refine .inr ⟨fun suffice => ?_, .bufferAllocFailed, nofun, rfl⟩
    obtain ⟨taken, room'⟩ := suffice.bounce
    exact absurd (room.symm.trans room') nofun
  obtain ⟨_, taken⟩ := takeBounce_ok (m := (m.report .info _).report .info _) room
  rw [bind_ok taken]
  dsimp only
  by_cases present : config.mode = .interrupt → irq ≠ none
  · obtain ⟨_, line⟩ := takeIrq_ok present
    rw [bind_ok line]
    exact .inl ⟨⟨rfl, ⟨_, room⟩, present⟩, _, _, rfl⟩
  · obtain ⟨mode, absent⟩ := Classical.not_imp.mp present
    obtain rfl := Decidable.not_not.mp absent
    obtain ⟨_, failed⟩ := takeIrq_failed
    rw [mode, bind_ok failed]
    exact .inr ⟨fun suffice => suffice.irq rfl rfl, .missingIrq, nofun, rfl⟩

/-- **A disk is brought up** exactly where its size is accepted and nothing else is missing. -/
theorem probe_ok_iff : (∃ d m', probe resources config m = (.ok (.ok d), m'))
    ↔ (∃ capacity, config.capacity = .ok capacity) ∧ resources.Suffice config.mode m := by
  rcases accepted : config.capacity with e | capacity
  · refine ⟨fun ⟨d, m', run⟩ => ?_, fun ⟨⟨_, ok⟩, _⟩ => nomatch ok⟩
    have refused := probe_refused resources m accepted
    rw [run] at refused
    cases refused
  · rcases probe_cases resources m accepted with ⟨suffice, up⟩ | ⟨lacking, e, -, ended⟩
    · exact ⟨fun _ => ⟨⟨_, rfl⟩, suffice⟩, fun _ => up⟩
    · refine ⟨fun ⟨d, m', run⟩ => ?_, fun ⟨_, suffice⟩ => absurd suffice lacking⟩
      rw [run] at ended
      cases ended

/-- **A disk is refused for its size** exactly where there are no sectors to that size,
whatever else is missing. -/
theorem probe_invalidSize_iff : (probe resources config m).1 = .ok (.error .invalidSize)
    ↔ config.capacity = .error .invalidSize := by
  refine ⟨fun ended => ?_, probe_refused resources m⟩
  rcases accepted : config.capacity with e | capacity
  · rw [probe_refused resources m accepted] at ended
    cases ended
    rfl
  · rcases probe_cases resources m accepted with ⟨-, d, m', up⟩ | ⟨-, e, other, lacking⟩
    · rw [up] at ended
      cases ended
    · rw [lacking] at ended
      cases ended
      exact absurd rfl other

/-! ## What a disk shows of its size -/

/-- **A disk shows one size** wherever it is asked for it, and takes what lies below it. -/
structure Shows (d : Device) (size : UInt64) : Prop where
  /-- Its own count of bytes is the size. -/
  bytes : d.sizeBytes = size.toNat
  /-- The count of bytes that callers get who count in blocks is the size too. -/
  blocks : capacityBytes Geometry.sectorSize d.capacity = .ok size.toNat
  /-- The command that asks for the size is answered with it in eight bytes. -/
  answer : ∀ (m : Machine) (out : ByteArray), 8 ≤ out.size →
    ∃ out', d.ioctl Diagnostic.getSize.number out m = (.ok (.ok (8, out')), m)
      ∧ Bytes.Holds out out' 8 [size]
  /-- A request for one sector is handed on where that sector lies below the size. -/
  accepts : ∀ (m : Machine) (r : Request), r.operation.direction? ≠ none → r.sectors = 1 →
    r.sector.toNat < size.toNat / Geometry.sectorSize →
    (d.submit r).runOn m = (d.handOn r).runOn m
      ∧ ((d.submit r).runOn m).1.result ≠ .ok (.error .outOfRange)
  /-- A request for one sector is out of range where that sector does not lie below the size. -/
  rejects : ∀ (m : Machine) (r : Request), r.operation.direction? ≠ none → r.sectors = 1 →
    size.toNat / Geometry.sectorSize ≤ r.sector.toNat → d.Rejected r .outOfRange m

/-- **A sound disk shows the size it was configured with.** -/
theorem Sound.shows (sound : d.Sound) : d.Shows d.config.sizeBytes := by
  have bytes : d.capacity * Geometry.sectorSize = d.config.sizeBytes.toNat := sound.sizeBytes
  have capacity : d.config.sizeBytes.toNat / Geometry.sectorSize = d.capacity := by
    rw [← bytes, Nat.mul_div_cancel _ (by decide)]
  have top : d.config.sizeBytes.toNat < Geometry.wordLimit := d.config.sizeBytes.toNat_lt
  have short (r : Request) (one : r.sectors = 1) : r.segments.totalBytes < Geometry.wordLimit := by
    unfold Request.sectors Geometry.sectorSize at one
    unfold Geometry.wordLimit
    omega
  have within (r : Request) (one : r.sectors = 1) :
      d.inRange r = decide (r.sector.toNat < d.capacity) := by
    rw [Bool.eq_iff_iff, inRange_iff, one, decide_eq_true_iff]
    exact Iff.rfl
  refine ⟨sound.sizeBytes, ?_, fun m out room => ioctl_answered (c := .getSize) sound room m,
    fun m r moves one below => ?_, fun m r moves one above => ?_⟩
  · unfold capacityBytes
    rw [Nat.mul_comm, bytes, if_pos top]
  · rw [capacity] at below
    have handed : (d.submit r).runOn m = (d.handOn r).runOn m := by
      rcases submit_cases d m r (short r one) with ⟨still, -⟩ | ⟨-, outside, -⟩ | ⟨-, -, handed⟩
      · exact absurd still moves
      · rw [within r one, decide_eq_false_iff_not] at outside
        exact absurd below outside
      · exact handed
    refine ⟨handed, ?_⟩
    rw [handed]
    exact handOn_ne_error nofun
  · rw [capacity] at above
    rcases submit_cases d m r (short r one) with ⟨still, -⟩ | ⟨-, -, rejected⟩ | ⟨-, inside, -⟩
    · exact absurd still moves
    · exact rejected
    · rw [within r one, decide_eq_true_iff] at inside
      exact absurd inside above.not_gt

/-- **All figures of a disk's size agree.** A disk that was brought up shows the size it was
configured with, and no figure of it overflows. A size given in MiB is accepted exactly where
it is not zero and its bytes have a number: any other is refused as a size, whatever else is
missing, and one that is accepted comes up wherever nothing else is missing, as a disk of just
so many MiB. -/
theorem sizes_agree (resources : Resources) (config : Config) (m : Machine) :
    (∀ d m', probe resources config m = (.ok (.ok d), m') → d.Shows config.sizeBytes)
    ∧ ∀ n : UInt64,
      ((probe resources (config.withSizeMb n) m).1 = .ok (.error .invalidSize)
        ↔ ¬(1 ≤ n.toNat ∧ n.toNat < 2 ^ 44))
      ∧ ((∃ d m', probe resources (config.withSizeMb n) m = (.ok (.ok d), m'))
        ↔ (1 ≤ n.toNat ∧ n.toNat < 2 ^ 44) ∧ resources.Suffice config.mode m)
      ∧ ∀ d m', probe resources (config.withSizeMb n) m = (.ok (.ok d), m') →
        ∃ size, d.Shows size ∧ size.toNat = n.toNat * Config.mib := by
  have shows {config : Config} {d : Device} {m' : Machine}
      (probed : probe resources config m = (.ok (.ok d), m')) : d.Shows config.sizeBytes := by
    obtain ⟨sound, rfl, -⟩ := probe_inv probed
    exact sound.shows
  refine ⟨fun d m' probed => shows probed, fun n => ⟨?_, ?_, fun d m' probed => ?_⟩⟩
  · rw [probe_invalidSize_iff, config.capacity_withSizeMb]
    split_ifs with fits
    · exact ⟨nofun, fun odd => absurd fits odd⟩
    · exact ⟨fun _ => fits, fun _ => rfl⟩
  · rw [probe_ok_iff, config.capacity_withSizeMb, config.mode_withSizeMb]
    split_ifs with fits
    · exact and_congr_left' ⟨fun _ => fits, fun _ => ⟨_, rfl⟩⟩
    · exact and_congr_left' ⟨fun ⟨_, ok⟩ => (nomatch ok), fun h => absurd h fits⟩
  · obtain ⟨sound, same, -⟩ := probe_inv probed
    refine ⟨_, shows probed, ?_⟩
    have capacity := sound.capacity
    rw [same, config.capacity_withSizeMb] at capacity
    split_ifs at capacity with fits
    have bytes : d.capacity * 512 = d.config.sizeBytes.toNat := sound.sizeBytes
    have sectors : n.toNat * 2048 = d.capacity := Except.ok.inj capacity
    rw [← same, ← bytes, ← sectors, Nat.mul_assoc]
    rfl

/-- The largest size in MiB is shown as it is, to the sector, and the next one is refused. -/
theorem sizes_agree_at_the_top :
    (∃ d m', probe { irq := some Geometry.interruptLine } (Config.withSizeMb {} 0xfffffffffff) {}
        = (.ok (.ok d), m')
      ∧ d.Shows 0xfffffffffff00000
      ∧ d.Rejected (.read 0x7ffffffffff800 [⟨#[0]⟩]) .outOfRange m')
    ∧ (probe { irq := some Geometry.interruptLine } (Config.withSizeMb {} 0x100000000000) {}).1
      = .ok (.error .invalidSize) := by
  have agree := (sizes_agree { irq := some Geometry.interruptLine } {} {}).2
  have suffice : Resources.Suffice { irq := some Geometry.interruptLine } .interrupt {} :=
    ⟨rfl, ⟨_, rfl⟩, fun _ => nofun⟩
  obtain ⟨-, up, exactly⟩ := agree 0xfffffffffff
  obtain ⟨d, m', probed⟩ := up.mpr ⟨by decide, suffice⟩
  obtain ⟨size, shows, bytes⟩ := exactly d m' probed
  obtain rfl : size = 0xfffffffffff00000 := UInt64.toNat_inj.mp bytes
  exact ⟨⟨d, m', probed, shows, shows.rejects m' _ nofun rfl (by decide)⟩,
    (agree 0x100000000000).1.mpr (by decide)⟩

end Device

end RemoteDisk

import RemoteDisk.Device.Bench
import RemoteDisk.Proofs.Acts

/-!
# What a disk is brought up with

Bringing a disk up either ends in an error or hands out a disk whose
capacity is that of its configuration and whose bounce buffer was just
taken from the arena. On the machine it leaves the completion slot set up
for the disk and the counters at zero; apart from the journal and the pages
taken, nothing else is touched (`Device.probe_inv`).
-/

namespace RemoteDisk

/-- **A disk that ends a line below the top of the address space**, so that
the lines of every range on it can be walked to their end. -/
def Config.HasRoom (c : Config) : Prop :=
  c.remoteBase.toNat + c.sizeBytes.toNat + Geometry.lineSize ≤ Geometry.wordLimit

instance (c : Config) : Decidable c.HasRoom := inferInstanceAs (Decidable (_ ≤ _))

/-- **A disk as it is brought up**: what every operation on it may rely
on. -/
structure Device.Sound (d : Device) : Prop where
  /-- Its capacity is that of its configuration. -/
  capacity : d.config.capacity = .ok d.capacity
  /-- Its bounce buffer has the size a bounce buffer has. -/
  size : d.bounce.size = Geometry.bounceSize
  /-- The bounce buffer lies behind the first page of the address space. -/
  above : Geometry.pageSize ≤ d.bounce.base.toNat
  /-- The bounce buffer ends a line below the top of the address space. -/
  below : d.bounce.base.toNat + Geometry.bounceSize + Geometry.lineSize ≤ Geometry.wordLimit

/-- **A size that is accepted** is a whole number of sectors. -/
theorem Config.capacity_mul {c : Config} {sectors : Nat} (accepted : c.capacity = .ok sectors) :
    sectors * Geometry.sectorSize = c.sizeBytes.toNat := by
  unfold capacity at accepted
  split at accepted
  · cases accepted
  · next ok =>
    have whole : c.sizeBytes.toNat % Geometry.sectorSize = 0 :=
      Decidable.not_not.mp (fun odd => ok (.inr odd))
    rw [← Except.ok.inj accepted]
    exact Nat.div_mul_cancel (Nat.dvd_of_mod_eq_zero whole)

/-- The sectors of a size that is accepted can be counted by a word. -/
theorem Config.toNat_capacity {c : Config} {sectors : Nat} (accepted : c.capacity = .ok sectors) :
    (UInt64.ofNat sectors).toNat = sectors := by
  refine UInt64.toNat_ofNat_of_lt' ?_
  have bytes := capacity_mul accepted
  have word := c.sizeBytes.toNat_lt
  show sectors < 2 ^ 64
  unfold Geometry.sectorSize at bytes
  omega

/-- **The disk's size is a whole number of sectors.** -/
theorem Device.Sound.sizeBytes {d : Device} (sound : d.Sound) :
    d.sizeBytes = d.config.sizeBytes.toNat :=
  Config.capacity_mul sound.capacity

/-- The bytes of a run of pages hold a buffer that starts where the run does. -/
structure PageRun.Holds (run : PageRun) (b : Buffer) : Prop where
  base : b.base.toNat = run.first * Geometry.pageSize
  size : b.size ≤ run.count * Geometry.pageSize

/-- **A buffer that is handed out** has the length asked for and lies in a run of pages that
does not start at address zero, ends inside the address space and is apart from the runs that
were handed out before. The run is noted. -/
theorem Arena.alloc?_next {a a' : Arena} {len : Nat} {b : Buffer}
    (h : a.alloc? len = some (b, a')) :
    ∃ run : PageRun, b.size = len ∧ run.Holds b ∧ 0 < run.first
      ∧ run.stop * Geometry.pageSize < Geometry.wordLimit ∧ (∀ other ∈ a.handed, run.Apart other)
      ∧ a' = { a with handed := run :: a.handed } := by
  obtain ⟨first, placed, h⟩ := Option.bind_eq_some_iff.mp h
  cases h
  have below := a.allocator.below placed
  have base : (UInt64.ofNat (first * Geometry.pageSize)).toNat = first * Geometry.pageSize := by
    refine UInt64.toNat_ofNat_of_lt' ?_
    exact Nat.lt_of_le_of_lt (Nat.mul_le_mul_right _ (Nat.le_add_right _ _)) below
  have held : len ≤ pagesFor len * Geometry.pageSize := by
    unfold pagesFor Geometry.pageSize
    omega
  exact ⟨⟨first, pagesFor len⟩, rfl, ⟨base, held⟩, a.allocator.nonzero placed, below,
    a.allocator.apart placed, rfl⟩

/-- A buffer that is handed out lies behind the first page of the address space, and ends at
least a cache line below its top. -/
theorem Arena.alloc?_inv {a a' : Arena} {len : Nat} {b : Buffer}
    (h : a.alloc? len = some (b, a')) :
    b.size = len ∧ Geometry.pageSize ≤ b.base.toNat
      ∧ b.base.toNat + len + Geometry.lineSize ≤ Geometry.wordLimit := by
  obtain ⟨run, size, held, nonzero, below, -, -⟩ := alloc?_next h
  have base := held.base
  have room := held.size
  unfold PageRun.stop at below
  unfold Geometry.pageSize Geometry.lineSize Geometry.wordLimit at *
  exact ⟨size, by omega, by omega⟩

open Op

/-- **A bounce buffer is allocated** where the arena has room for it. -/
theorem Act.allocateBounce_apply (len : Nat) (m : Machine) :
    allocateBounce len m = match m.arena.alloc? len with
      | none => (.ok (.error .bufferAllocFailed), m)
      | some (b, arena) => (.ok (.ok b), { m with arena }) := by
  unfold allocateBounce allocate
  rw [bind_ok (modifyGet_apply _ m)]
  cases m.arena.alloc? len <;> rfl

/-- A bounce buffer that was taken comes from the arena, and the arena and
the journal are all that changed. -/
theorem Device.takeBounce_inv {m m' : Machine} {b : Buffer}
    (h : takeBounce m = (.ok (.ok b), m')) :
    ∃ arena journal, m.arena.alloc? Geometry.bounceSize = some (b, arena)
      ∧ m' = { m with arena, journal } := by
  have run := Act.allocateBounce_apply Geometry.bounceSize m
  unfold takeBounce at h
  rcases free : m.arena.alloc? Geometry.bounceSize with _ | ⟨buffer, arena⟩
  · rw [free] at run
    rw [bind_ok run] at h
    cases h
  · rw [free] at run
    rw [bind_ok run] at h
    cases h
    exact ⟨arena, _, rfl, rfl⟩

/-- Taking an interrupt line changes the journal alone. -/
theorem Device.takeIrq_inv {mode : CompletionMode} {irq irq' : Option UInt32} {m m' : Machine}
    (h : takeIrq mode irq m = (.ok (.ok irq'), m')) :
    irq' = irq ∧ ∃ journal, m' = { m with journal } := by
  unfold takeIrq at h
  cases mode with
  | interrupt =>
    cases irq with
    | none => cases h
    | some line =>
      cases h
      exact ⟨rfl, _, rfl⟩
  | polling us =>
    cases h
    exact ⟨rfl, _, rfl⟩

/-- **What bringing a disk up takes and establishes**: a bounce buffer from
the arena, a sound disk with the given configuration, a completion slot set
up for it, and counters at zero. -/
theorem Device.probe_takes {resources : Resources} {config : Config} {m m' : Machine} {d : Device}
    (h : probe resources config m = (.ok (.ok d), m')) :
    d.Sound ∧ d.config = config ∧ d.irq = resources.irq ∧
      ∃ arena journal, m.arena.alloc? Geometry.bounceSize = some (d.bounce, arena)
        ∧ m' = { m with
          arena
          journal
          channel :=
            { mode := config.mode, doneMask := config.doneMask, errorMask := config.errorMask }
          counters := {} } := by
  unfold probe at h
  obtain ⟨_, m₁, reported, h⟩ := bind_ok_inv h
  cases reported
  -- a disk is handed out only where no step fails
  rcases accepted : config.capacity with e | capacity
  · rw [accepted] at h
    cases h
  rw [accepted] at h
  rcases resources with ⟨_ | _, irq⟩
  · cases h
  obtain ⟨_, m₂, mapped, h⟩ := bind_ok_inv h
  cases mapped
  obtain ⟨taken, m₃, bounced, h⟩ := bind_ok_inv h
  rcases taken with _ | bounce
  · cases h
  obtain ⟨line, m₄, lined, h⟩ := bind_ok_inv h
  rcases line with _ | line
  · cases h
  obtain ⟨arena, journal, free, rfl⟩ := takeBounce_inv bounced
  obtain ⟨rfl, journal, rfl⟩ := takeIrq_inv lined
  obtain ⟨size, above, below⟩ := Arena.alloc?_inv free
  cases h
  have counted : config.capacity = .ok (UInt64.ofNat capacity).toNat := by
    rw [accepted, Config.toNat_capacity accepted]
  exact ⟨⟨counted, size, above, below⟩, rfl, rfl, arena, _, free, rfl⟩

/-- What bringing a disk up establishes, whatever buffer it has taken. -/
theorem Device.probe_inv {resources : Resources} {config : Config} {m m' : Machine} {d : Device}
    (h : probe resources config m = (.ok (.ok d), m')) :
    d.Sound ∧ d.config = config ∧ d.irq = resources.irq ∧
      ∃ arena journal, m' = { m with
        arena
        journal
        channel :=
          { mode := config.mode, doneMask := config.doneMask, errorMask := config.errorMask }
        counters := {} } := by
  obtain ⟨sound, same, line, arena, journal, -, left⟩ := probe_takes h
  exact ⟨sound, same, line, arena, journal, left⟩

/-- **What bringing a disk up on a bench takes and leaves**: the disk has taken
its bounce buffer from the arena, in front of it there is a fresh engine with
a fresh window, and it listens to its wire. -/
theorem Device.onBench_takes {config : Config} {m m' : Machine} {d : Device}
    (h : onBench config m = (.ok (.ok d), m')) :
    d.Sound ∧ d.config = config ∧ d.irq = some Geometry.interruptLine
      ∧ ∃ arena journal, m.arena.alloc? Geometry.bounceSize = some (d.bounce, arena)
        ∧ m' = { m with
          controller := .engine { doneBits := config.doneMask }
          window := { base := config.remoteBase, size := config.sizeBytes.toNat }
          wire := some ⟨Geometry.interruptLine, some (.disk d.irq)⟩
          arena
          journal
          channel :=
            { mode := config.mode, doneMask := config.doneMask, errorMask := config.errorMask }
          counters := {} } := by
  unfold onBench at h
  by_cases long : Engine.longestBuffer < config.sizeBytes.toNat
  · rw [if_pos long] at h
    cases h
  rw [if_neg long] at h
  obtain ⟨_, m₁, emulated, h⟩ := bind_ok_inv h
  cases emulated
  obtain ⟨probed, m₂, run, h⟩ := bind_ok_inv h
  rcases probed with _ | d'
  · cases h
  obtain ⟨sound, same, line, arena, journal, free, rfl⟩ := probe_takes run
  cases h
  exact ⟨sound, same, line, arena, journal, free, rfl⟩

/-- What bringing a disk up on a bench leaves, whatever buffer it has
taken. -/
theorem Device.onBench_inv {config : Config} {m m' : Machine} {d : Device}
    (h : onBench config m = (.ok (.ok d), m')) :
    d.Sound ∧ d.config = config ∧ d.irq = some Geometry.interruptLine
      ∧ ∃ arena journal, m' = { m with
        controller := .engine { doneBits := config.doneMask }
        window := { base := config.remoteBase, size := config.sizeBytes.toNat }
        wire := some ⟨Geometry.interruptLine, some (.disk d.irq)⟩
        arena
        journal
        channel :=
          { mode := config.mode, doneMask := config.doneMask, errorMask := config.errorMask }
        counters := {} } := by
  obtain ⟨sound, same, line, arena, journal, -, left⟩ := onBench_takes h
  exact ⟨sound, same, line, arena, journal, left⟩

end RemoteDisk

import RemoteDisk.Proofs.Endings

/-!
# Reads of the clock

Whatever happens at a read of the clock, the clock is moved by the read alone
(`Machine.now_clock`). So every read there will be is known from where the clock stands
(`Clock.ahead`), and whether a deadline that was set at one of them is found to have passed at
another is a matter of numbers (`Clock.reached_iff`).
-/

namespace RemoteDisk

open Op

/-! ## Clocks that were read -/

/-- The clock after so many reads more. -/
def Clock.ahead (c : Clock) (n : Nat) : Clock :=
  { c with counter := c.counter + UInt64.ofNat n * c.step, reads := c.reads + n }

namespace Clock

theorem ahead_zero (c : Clock) : c.ahead 0 = c := by
  show { c with counter := c.counter + 0 * c.step, reads := c.reads + 0 } = c
  rw [UInt64.zero_mul, UInt64.add_zero, Nat.add_zero]

theorem read_eq_ahead (c : Clock) : c.read.2 = c.ahead 1 := by
  show _ = { c with counter := c.counter + 1 * c.step, reads := c.reads + 1 }
  rw [UInt64.one_mul]
  rfl

/-- The looks after the next read are the looks after the first. -/
theorem look_ahead (c : Clock) (i : Nat) :
    (c.ahead 1).counter + UInt64.ofNat i * (c.ahead 1).step
      = c.counter + UInt64.ofNat (i + 1) * c.step := by
  show c.counter + 1 * c.step + UInt64.ofNat i * c.step = _
  rw [UInt64.ofNat_add]
  grind

theorem ahead_ahead (c : Clock) (n k : Nat) : (c.ahead n).ahead k = c.ahead (n + k) := by
  have counter : c.counter + UInt64.ofNat n * c.step + UInt64.ofNat k * c.step
      = c.counter + UInt64.ofNat (n + k) * c.step := by
    rw [UInt64.ofNat_add]
    grind
  show { c with
    counter := c.counter + UInt64.ofNat n * c.step + UInt64.ofNat k * c.step
    reads := c.reads + n + k } = _
  rw [counter, Nat.add_assoc]
  rfl

/-- **How far the counter moves** over `n` reads. -/
def moved (c : Clock) (n : Nat) : Nat := n * c.step.toNat % Geometry.wordLimit

end Clock

/-! ## What a read moves -/

namespace Machine

variable (m : Machine)

theorem clock_mapEngine (f : Engine → Engine) : (m.mapEngine f).clock = m.clock := by
  rcases m with ⟨_ | _⟩ <;> rfl

theorem clock_setStatus (value : UInt32) : (m.setStatus value).clock = m.clock := by
  rcases m with ⟨_ | _⟩ <;> rfl

theorem clock_store (target : Target) (data : ByteArray) :
    (m.store target data).clock = m.clock := by
  cases target <;> rfl

theorem clock_handleInterrupt : m.handleInterrupt.2.clock = m.clock := by
  have read := m.readStatus_still.2.2
  unfold handleInterrupt
  dsimp only
  split
  · exact read
  · exact read

theorem clock_deliver (handler : Handler) (line : UInt32) :
    (m.deliver handler line).2.clock = m.clock := by
  cases handler with
  | latch => rfl
  | observer claims => rfl
  | disk own =>
    unfold deliver
    dsimp only
    split
    · exact m.clock_handleInterrupt
    · rfl

theorem clock_raise : m.raise.2.clock = m.clock := by
  unfold raise
  split
  · exact m.clock_deliver _ _
  · rfl

theorem clock_happen (h : Happening) : (m.happen h).clock = m.clock := by
  cases h with
  | signal => rfl
  | status value => exact m.clock_setStatus value
  | raise => exact m.clock_raise
  | interrupt line =>
    show (m.interrupt line).2.clock = m.clock
    unfold interrupt
    split
    · exact m.clock_deliver _ _
    · rfl

theorem clock_happenings (hs : List Happening) :
    (hs.foldl (fun m h => m.happen h) m).clock = m.clock := by
  induction hs generalizing m with
  | nil => rfl
  | cons h hs ih => rw [List.foldl_cons, ih, clock_happen]

theorem clock_finish (extra : UInt32) : (m.finish extra).clock = m.clock := by
  rw [finish, clock_raise, release, clock_mapEngine, publish, clock_mapEngine]

end Machine

/-- The end of a transfer that was put off leaves the clock alone. -/
theorem Act.keeps_clock_complete (t : Transfer) :
    Keeps Machine.clock (fun _ => True) (complete t) := by
  refine keeps_bind (fun m => ⟨?_, fun _ _ => trivial⟩)
    fun _ => keeps_modify fun m => m.clock_finish _
  rw [copy_apply]
  split
  · rfl
  · split
    · rfl
    · exact m.clock_store _ _

namespace Machine

variable (m : Machine)

theorem clock_completeNext : m.completeNext.clock = m.clock := by
  unfold completeNext
  split
  · rfl
  · exact (Act.keeps_clock_complete _ _).1

theorem clock_completeDue (count : Nat) : (m.completeDue count).clock = m.clock := by
  induction count generalizing m with
  | zero => rfl
  | succ count ih =>
    rw [completeDue]
    split
    · rw [ih, clock_completeNext]
    · rfl

theorem clock_passTicks (ticks : UInt64) : (m.passTicks ticks).clock = m.clock := by
  unfold passTicks pass
  split
  · rw [clock_completeDue, clock_mapEngine]
  · rfl

/-- **A read of the clock** shows its counter and moves it by a step, whatever happens
at the read. -/
theorem now_clock : m.now.1 = m.clock.counter ∧ m.now.2.clock = m.clock.ahead 1 := by
  have same : ((m.nextHappenings.foldl (fun m h => m.happen h) m).passTicks m.clock.step).clock
      = m.clock := by
    rw [clock_passTicks, clock_happenings]
  unfold now
  dsimp only
  rw [same]
  exact ⟨rfl, m.clock.read_eq_ahead⟩

end Machine

/-! ## Deadlines -/

/-- The deadline that a wait sets. -/
def Machine.deadline (m : Machine) (ms : UInt64) : Deadline :=
  ⟨m.clock.counter, usToTicks (Deadline.msToUs ms) m.clock.freq⟩

/-- What a deadline set at a first read sees `n` reads later. -/
theorem Clock.reached_iff (c : Clock) (ticks : UInt64) (n : Nat) :
    (Deadline.mk c.counter ticks).reached (c.ahead n).counter = true
      ↔ ticks.toNat ≤ c.moved n := by
  have product : (UInt64.ofNat n * c.step).toNat = c.moved n := by
    rw [UInt64.toNat_mul, UInt64.toNat_ofNat', Nat.mod_mul_mod]
    rfl
  show (Deadline.mk c.counter ticks).reached (c.counter + UInt64.ofNat n * c.step) = true ↔ _
  rw [Deadline.reached_shift, decide_eq_true_eq, UInt64.le_iff_toNat_le, product]

namespace Deadline

variable {d : Deadline} {n : Nat}

/-- A deadline that has passed is seen at once. -/
theorem passesAt_zero (c : Clock) : d.PassesAt c.counter c.step 0 ↔ d.reached c.counter = true := by
  refine ⟨fun p => p.now, fun passed => ⟨fun i hi => absurd hi (Nat.not_lt_zero i), ?_⟩⟩
  rwa [PassesAt.first_look]

/-- A deadline that is seen to pass later is not seen now, but from the next read on. -/
theorem passesAt_succ (c : Clock) : d.PassesAt c.counter c.step (n + 1)
    ↔ d.reached c.counter = false ∧ d.PassesAt (c.ahead 1).counter (c.ahead 1).step n := by
  constructor
  · refine fun p => ⟨p.not_now, fun i hi => ?_, ?_⟩
    · rw [c.look_ahead]
      exact p.before (i + 1) (Nat.succ_lt_succ hi)
    · rw [c.look_ahead]
      exact p.reached
  · rintro ⟨early, p⟩
    refine ⟨fun i hi => ?_, ?_⟩
    · cases i with
      | zero => rwa [PassesAt.first_look]
      | succ i =>
        rw [← c.look_ahead]
        exact p.before i (Nat.lt_of_succ_lt_succ hi)
    · rw [← c.look_ahead]
      exact p.reached

end Deadline

namespace Act

/-- A look at a deadline, whatever happens at it. -/
theorem expired_apply (d : Deadline) (m : Machine) :
    expired d m = (.ok (d.reached m.clock.counter), m.now.2) := by
  rw [← m.now_clock.1]
  rfl

/-- A deadline is set by a read of the clock. -/
theorem afterMs_apply (ms : UInt64) (m : Machine) :
    afterMs ms m = (.ok (m.deadline ms), m.now.2) := by
  unfold Machine.deadline
  rw [← m.now_clock.1]
  rfl

end Act

end RemoteDisk

import RemoteDisk.Proofs.Leading
import RemoteDisk.Proofs.Prompt

/-!
# Waiting leaves memory alone

While somebody waits, interrupts arrive and the status register changes, but
bytes are copied only where a transfer was put off. Where none was, a wait leaves
both memories as they were (`Act.rests_wait`), whatever the clock and its events
are and however the wait ends. Neither does the end of a transfer touch memory
(`Machine.SameMemory.finish`).
-/

namespace RemoteDisk

namespace Machine

variable {m m' : Machine}

theorem SameMemory.refl (m : Machine) : m.SameMemory m := ⟨rfl, rfl, rfl⟩

theorem SameMemory.setStatus (value : UInt32) (m : Machine) :
    m.SameMemory (m.setStatus value) := by
  rcases m with ⟨_ | _⟩ <;> exact ⟨rfl, rfl, rfl⟩

theorem SameMemory.readStatus (m : Machine) : m.SameMemory m.readStatus.2 :=
  .of_still m.readStatus_still.2.1

/-- The disk's handler fills the slot and counts, and no more. -/
theorem SameMemory.handleInterrupt (m : Machine) : m.SameMemory m.handleInterrupt.2 := by
  unfold Machine.handleInterrupt
  dsimp only
  split
  · exact (SameMemory.readStatus m).trans ⟨rfl, rfl, rfl⟩
  · exact (SameMemory.readStatus m).trans ⟨rfl, rfl, rfl⟩

theorem SameMemory.deliver (handler : Handler) (line : UInt32) (m : Machine) :
    m.SameMemory (m.deliver handler line).2 := by
  cases handler with
  | latch => exact ⟨rfl, rfl, rfl⟩
  | observer claims => exact ⟨rfl, rfl, rfl⟩
  | disk own =>
    unfold Machine.deliver
    dsimp only
    split
    · exact .handleInterrupt m
    · exact .refl m

theorem SameMemory.raise (m : Machine) : m.SameMemory m.raise.2 := by
  unfold Machine.raise
  split
  · exact .deliver _ _ m
  · exact .refl m

/-- Whatever happens from outside leaves memory alone. -/
theorem SameMemory.happen (h : Happening) (m : Machine) : m.SameMemory (m.happen h) := by
  cases h with
  | signal => exact ⟨rfl, rfl, rfl⟩
  | status value => exact .setStatus value m
  | raise => exact .raise m
  | interrupt line =>
    show m.SameMemory (m.interrupt line).2
    unfold interrupt
    split
    · exact .deliver _ _ m
    · exact .refl m

theorem SameMemory.happenings (hs : List Happening) (m : Machine) :
    m.SameMemory (hs.foldl (fun m h => m.happen h) m) := by
  induction hs generalizing m with
  | nil => exact .refl m
  | cons h hs ih => exact (SameMemory.happen h m).trans (ih (m.happen h))

/-- **The end of a transfer** publishes its status and raises the wire. -/
theorem SameMemory.finish (extra : UInt32) (m : Machine) : m.SameMemory (m.finish extra) := by
  have published : m.SameMemory (m.publish extra) := by
    rcases m with ⟨_ | _⟩ <;> exact ⟨rfl, rfl, rfl⟩
  exact (published.trans (.release _)).trans (.raise _)

/-- **A read of the clock** where no transfer was put off. -/
theorem SameMemory.now (none : m.pending = []) : m.SameMemory m.now.2 := by
  have happened := SameMemory.happenings m.nextHappenings m
  obtain ⟨-, still, -⟩ := now_still (m := m) rfl (happened.pending.trans none)
  exact happened.trans (.of_still still)

/-- **Memory rests** on the way from one machine to another, where no transfer was
put off. -/
def AtRest (m m' : Machine) : Prop := m.pending = [] → m.SameMemory m'

instance : IsPreorder Machine AtRest where
  refl m _ := .refl m
  trans _ _ _ first second none := (first none).trans (second ((first none).pending.trans none))

end Machine

namespace Act

open Op

variable {α : Type}

/-- **An operation lets memory rest**: where no transfer was put off, it leaves
both memories alone and puts none off. -/
def Rests (a : Act α) : Prop := ∀ m : Machine, m.pending = [] → m.SameMemory (a m).2

/-- **A wait lets memory rest**, whatever happens during it and however it
ends. -/
theorem rests_wait (ms : UInt64) : Rests (wait ms) := by
  have reads : Leads Machine.AtRest now := fun _ none => .now none
  have takes : Leads Machine.AtRest takeSignal := fun _ _ => ⟨rfl, rfl, rfl⟩
  have looks : Leads Machine.AtRest readStatus := fun m _ => .readStatus m
  refine leads_wait reads takes looks (leads_delay reads fun m ticks _ none => ?_) ms
  have passed := Machine.SameMemory.of_still (Machine.passTicks_still none ticks).1
  exact ⟨passed.window, passed.memory, passed.pending⟩

end Act

end RemoteDisk

import RemoteDisk.Machine.Controller

/-!
# Time on the machine

Nothing happens on the machine while nobody waits. Before a read of the
clock returns, the events of that read happen; and where the clock is
running, time passes at reads and delays, and the transfers that have become
due are completed. Somebody outside may also wait for the engine itself,
which takes it straight to the next transfer that is due.

A wait looks at the clock over and over. Its looks are bounded by
`Machine.patience`: once the last event has happened and the last transfer
was due, what a look finds follows from the counter alone, and the counter
has no more than `Clock.period` values to show. A wait that has seen all of
them will never end, and that is a fault of its own.
-/

namespace RemoteDisk

namespace Machine

/-- One happening. -/
def happen (h : Happening) (m : Machine) : Machine :=
  match h with
  | .signal => m.signal
  | .status value => m.setStatus value
  | .raise => m.raise.2
  | .interrupt line => (m.interrupt line).2

/-- What happens at the next read of the clock, in order. -/
def nextHappenings (m : Machine) : List Happening :=
  (m.events.filter (fun e => e.read == m.clock.reads + 1)).map Event.happening

/-- The transfers that are put off. -/
def pending (m : Machine) : List Postponed := (m.engine?.map Engine.pending).getD []

/-- **Completes the first transfer that was put off**, which takes until it
is due. Where its copy ends in a fault the transfer is lost, and the engine
stays busy. -/
def completeNext (m : Machine) : Machine :=
  match m.engine?.bind Engine.takePostponed? with
  | none => m
  | some (t, engine) => (Act.complete t { m with controller := .engine engine }).2

/-- Completes transfers that are due, at most `count` of them. -/
def completeDue : (count : Nat) → Machine → Machine
  | 0, m => m
  | count + 1, m =>
    if (m.engine?.map Engine.isDue).getD false then completeDue count m.completeNext else m

/-- **Time that passes**: the transfers that become due are completed. -/
def pass (us : Nat) (m : Machine) : Machine :=
  completeDue m.pending.length (m.mapEngine (fun e => e.elapse us))

/-- The time that passes with some ticks of the clock, where it is
running. -/
def passTicks (ticks : UInt64) (m : Machine) : Machine :=
  if m.clock.running then m.pass (m.clock.passed ticks) else m

/-- **How often the observer on the wire was called** since it was put
there. -/
def calls (m : Machine) : Nat :=
  match m.wire with
  | some ⟨_, some _⟩ => m.notices.foldl Notice.countCall 0
  | _ => 0

/-- Completes transfers that were put off until the observer on the wire was
called so often, or none is left. -/
def completeUntil (calls : Nat) : (left : Nat) → Machine → Machine
  | 0, m => m
  | left + 1, m =>
    if calls ≤ m.calls then m else completeUntil calls left m.completeNext

/-- **A read of the clock**, after the events of this read and the time it
takes. -/
def now (m : Machine) : UInt64 × Machine :=
  let m := (m.nextHappenings.foldl (fun m h => m.happen h) m).passTicks m.clock.step
  let (counter, clock) := m.clock.read
  (counter, { m with clock })

/-- The number of the last read at which something happens. -/
def lastEvent (m : Machine) : Nat := m.events.foldl (fun n e => max n e.read) 0

/-- When the last of the transfers put off is due, where time passes. -/
def lastDue (m : Machine) : Nat :=
  if m.clock.running then m.pending.foldl (fun n p => max n p.due) 0 else 0

/-- **How often a wait looks before it is known never to end.** -/
def patience (m : Machine) : Nat := m.clock.period + m.lastEvent + m.lastDue + 1

end Machine

namespace Act

/-- A read of the clock. -/
def now : Act UInt64 := modifyGet Machine.now

/-- Takes a completion out of the slot, if one is there. -/
def takeSignal : Act Bool := modifyGet Machine.takeSignal

/-- The number of looks after which a wait is known never to end. -/
def patience : Act Nat := return (← get).patience

/-- **A deadline** some microseconds from now. -/
def afterUs (us : UInt64) : Act Deadline := do
  let ticks := usToTicks us (← get).clock.freq
  return ⟨← now, ticks⟩

/-- A deadline some milliseconds from now. -/
def afterMs (ms : UInt64) : Act Deadline := afterUs (Deadline.msToUs ms)

/-- Whether a deadline has passed, which takes a read of the clock. -/
def expired (d : Deadline) : Act Bool := return d.reached (← now)

/-- How often a deadline is found not to have passed, in at most `left` looks
more after `seen` of them. -/
def looks (d : Deadline) : (left seen : Nat) → Act Nat
  | 0, seen => pure seen
  | left + 1, seen => do
    if ← expired d then return seen
    looks d left (seen + 1)

/-- Reads the clock until a deadline has passed. -/
def spin (d : Deadline) : (fuel : Nat) → Act Unit
  | 0 => throw .endless
  | fuel + 1 => do
    if ← expired d then return
    spin d fuel

/-- **Waits some microseconds**, and at least one tick. -/
def delay (us : UInt64) : Act Unit := do
  let clock := (← get).clock
  let ticks := clock.delayTicks us
  match clock.delay with
  | .jump =>
    modify (fun m => { m.passTicks ticks with clock := m.clock.advance ticks })
  | .spin => spin ⟨← now, ticks⟩ (← patience)

end Act

end RemoteDisk

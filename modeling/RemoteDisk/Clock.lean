import RemoteDisk.Geometry

/-!
# Clocks and deadlines

Time is read from a counter of 64 bits that wraps. A clock moves its counter
by `step` at every read, so that a run is decided by how often it looks. A
span of microseconds becomes ticks by rounding down, except that a count too
large for the counter becomes the largest one.

Most clocks stand for reads that take no time: their counter is all that
moves. A clock that is `running` goes with the time of the machine around
it, which passes as the counter does.

A deadline remembers the counter it was started at and compares wrapped
differences, so it is not disturbed when the counter passes its top.
-/

namespace RemoteDisk

/-- **Microseconds in ticks of a counter**, rounded down and cut off at the
largest counter value. -/
def usToTicks (us freq : UInt64) : UInt64 :=
  UInt64.ofNat (min (us.toNat * freq.toNat / 1000000) (Geometry.wordLimit - 1))

/-- How a clock waits for a number of ticks to pass. -/
inductive Delay where
  /-- By reading the counter until it has moved far enough. -/
  | spin
  /-- By moving the counter without reading it. -/
  | jump
  deriving Repr, DecidableEq, Inhabited

/-- **A clock**: a counter that moves by `step` whenever it is read. -/
structure Clock where
  /-- What the next read returns. -/
  counter : UInt64 := 0
  /-- How far a read moves the counter. -/
  step : UInt64 := 1
  /-- Ticks in a second. -/
  freq : UInt64 := 1000
  /-- How the clock waits. -/
  delay : Delay := .spin
  /-- Whether time passes for the rest of the machine as the counter moves. -/
  running : Bool := false
  /-- Reads so far. -/
  reads : Nat := 0
  deriving Repr, Inhabited

namespace Clock

/-- The clock of an emulated controller: its counter moves by a millisecond
at every read, and waiting moves it at once. -/
def stepping : Clock := { delay := .jump }

/-- The clock on the wall: time passes with it, a millisecond at every
read. -/
def wall : Clock := { delay := .jump, running := true }

/-- **The time that passes with some ticks**, in microseconds. -/
def passed (c : Clock) (ticks : UInt64) : Nat :=
  if c.running then ticks.toNat * 1000000 / c.freq.toNat else 0

/-- **One read**: the counter before it moves. -/
def read (c : Clock) : UInt64 × Clock :=
  (c.counter, { c with counter := c.counter + c.step, reads := c.reads + 1 })

/-- The ticks that a wait of some microseconds lasts, never none. -/
def delayTicks (c : Clock) (us : UInt64) : UInt64 := max (usToTicks us c.freq) 1

/-- **How many values a wait can see** before the counter repeats one of
them. Reads alone walk through the multiples of the step; a clock that jumps
may show any value. -/
def period (c : Clock) : Nat :=
  match c.delay with
  | .spin => Geometry.wordLimit / Nat.gcd c.step.toNat Geometry.wordLimit
  | .jump => Geometry.wordLimit

/-- The clock moved on by `ticks` without a read. -/
def advance (c : Clock) (ticks : UInt64) : Clock :=
  { c with counter := c.counter + ticks }

end Clock

/-- **A point in time**: `ticks` after the counter stood at `start`. -/
structure Deadline where
  /-- The counter when the deadline was set. -/
  start : UInt64
  /-- How many ticks may pass. -/
  ticks : UInt64
  deriving Repr, DecidableEq, Inhabited

namespace Deadline

/-- Whether a counter value lies at or past the deadline. -/
def reached (d : Deadline) (counter : UInt64) : Bool := d.ticks ≤ counter - d.start

/-- Milliseconds in microseconds, cut off at the largest count. -/
def msToUs (ms : UInt64) : UInt64 :=
  UInt64.ofNat (min (ms.toNat * 1000) (Geometry.wordLimit - 1))

end Deadline

end RemoteDisk

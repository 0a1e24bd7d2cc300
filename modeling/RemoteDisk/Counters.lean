import RemoteDisk.Bytes

/-!
# Transfer counters

Five counters tell what a disk has done: chunks read and written, transfers
that failed, those among them that timed out, and interrupts that were
claimed. Each counts modulo 2^64. Diagnostics answer them as five words of
eight bytes in this order.
-/

namespace RemoteDisk

/-- **The five counters of a disk.** -/
structure Counters where
  /-- Chunks read. -/
  reads : UInt64 := 0
  /-- Chunks written. -/
  writes : UInt64 := 0
  /-- Transfers that failed. -/
  errors : UInt64 := 0
  /-- Transfers that timed out, each of which also failed. -/
  timeouts : UInt64 := 0
  /-- Interrupts claimed. -/
  irqs : UInt64 := 0
  deriving Repr, DecidableEq, Inhabited

namespace Counters

/-- One more chunk read. -/
def countRead (c : Counters) : Counters := { c with reads := c.reads + 1 }

/-- One more chunk written. -/
def countWrite (c : Counters) : Counters := { c with writes := c.writes + 1 }

/-- One more failed transfer. -/
def countError (c : Counters) : Counters := { c with errors := c.errors + 1 }

/-- One more transfer that timed out. -/
def countTimeout (c : Counters) : Counters := { c with timeouts := c.timeouts + 1 }

/-- One more interrupt claimed. -/
def countIrq (c : Counters) : Counters := { c with irqs := c.irqs + 1 }

/-- The counters in the order in which they are answered. -/
def toList (c : Counters) : List UInt64 :=
  [c.reads, c.writes, c.errors, c.timeouts, c.irqs]

/-- The counters as they are answered: eight bytes each. -/
def bytes (c : Counters) : ByteArray :=
  (c.toList.flatMap (fun n => Bytes.ofNat 8 n.toNat)).toByteArray

/-- The counters as they are reported. -/
def text (c : Counters) : String :=
  "reads: " ++ toString c.reads.toNat ++ ", writes: " ++ toString c.writes.toNat
    ++ ", errors: " ++ toString c.errors.toNat ++ ", timeouts: " ++ toString c.timeouts.toNat
    ++ ", irqs: " ++ toString c.irqs.toNat

end Counters

end RemoteDisk

import RemoteDisk.Geometry

/-!
# Controller registers

A transfer is described to the controller by three 64-bit values, each given
as a low and a high half in neighbouring 32-bit registers, and started by
the control register. `Halves` splits a value and joins it again;
`Register.offset` is the layout.

`RegisterFile` is plain register space, a word at every offset. `Recorder`
adds to it a record of every access and a script that answers writes to the
control register, which is how a transfer is observed without an engine
behind the registers.
-/

namespace RemoteDisk

namespace Halves

/-- The lower half of a value. -/
def low (value : UInt64) : UInt32 := value.toUInt32

/-- The upper half of a value. -/
def high (value : UInt64) : UInt32 := (value >>> 32).toUInt32

/-- The value with the given halves. -/
def join (lo hi : UInt32) : UInt64 := lo.toUInt64 ||| (hi.toUInt64 <<< 32)

end Halves

/-- **The registers of the controller.** -/
inductive Register where
  | sourceLow
  | sourceHigh
  | destinationLow
  | destinationHigh
  | lengthLow
  | lengthHigh
  | control
  | status
  deriving Repr, DecidableEq

namespace Register

/-- Where a register lies in the controller's register space. -/
def offset : Register → Nat
  | sourceLow => 0x00
  | sourceHigh => 0x04
  | destinationLow => 0x08
  | destinationHigh => 0x0C
  | lengthLow => 0x10
  | lengthHigh => 0x14
  | control => 0x18
  | status => 0x1C

/-- The bit of the control register that starts a transfer. -/
def startBit : UInt32 := 1

/-- **The writes that describe a transfer**, in the order they are made: the
low half of each value before its high half. -/
def program (source destination length : UInt64) : List (Register × UInt32) :=
  [(sourceLow, Halves.low source), (sourceHigh, Halves.high source),
    (destinationLow, Halves.low destination), (destinationHigh, Halves.high destination),
    (lengthLow, Halves.low length), (lengthHigh, Halves.high length)]

end Register

/-- **Register space**: a word at every offset, zero until it is written. -/
structure RegisterFile where
  /-- The offsets that were written and what they hold, each offset once. -/
  cells : List (Nat × UInt32) := []
  deriving Repr, Inhabited

namespace RegisterFile

/-- The word at an offset. -/
def get (f : RegisterFile) (offset : Nat) : UInt32 := (f.cells.lookup offset).getD 0

/-- The register space with a word at an offset replaced. -/
def set (f : RegisterFile) (offset : Nat) (value : UInt32) : RegisterFile :=
  ⟨(offset, value) :: f.cells.filter (fun cell => cell.1 != offset)⟩

/-- A 64-bit value written as two halves, the low one first. -/
def setHalves (f : RegisterFile) (lo hi : Nat) (value : UInt64) : RegisterFile :=
  (f.set lo (Halves.low value)).set hi (Halves.high value)

end RegisterFile

/-- One access to register space. -/
inductive Access where
  /-- A read and what it returned. -/
  | read (offset : Nat) (value : UInt32)
  /-- A write and what it stored. -/
  | write (offset : Nat) (value : UInt32)
  deriving Repr, DecidableEq

/-- Whether it is a read. -/
def Access.isRead : Access → Bool
  | read _ _ => true
  | write _ _ => false

/-- What happens when the control register is written. -/
structure Reply where
  /-- The status register's new contents, where they change. -/
  status : Option UInt32 := none
  /-- Whether the completion is signalled. -/
  signal : Bool := false
  deriving Repr, Inhabited

/-- **Recording registers**: register space that notes every access and
answers starts from a script. -/
structure Recorder where
  /-- The register space. -/
  file : RegisterFile := {}
  /-- The accesses so far. -/
  accesses : Array Access := #[]
  /-- The answers to the next starts; the last one repeats. -/
  replies : List Reply := []
  deriving Repr, Inhabited

namespace Recorder

/-- A read, noted. -/
def read (r : Recorder) (offset : Nat) : UInt32 × Recorder :=
  let value := r.file.get offset
  (value, { r with accesses := r.accesses.push (.read offset value) })

/-- A write, noted. -/
def write (r : Recorder) (offset : Nat) (value : UInt32) : Recorder :=
  { r with file := r.file.set offset value, accesses := r.accesses.push (.write offset value) }

/-- The status register set from outside, which is no access. -/
def setStatus (r : Recorder) (value : UInt32) : Recorder :=
  { r with file := r.file.set Register.status.offset value }

/-- **The next answer of the script**, which is used up unless it is the
last. -/
def takeReply (r : Recorder) : Option Reply × Recorder :=
  match r.replies with
  | [] => (none, r)
  | [last] => (some last, r)
  | next :: rest => (some next, { r with replies := rest })

end Recorder

end RemoteDisk

import RemoteDisk.Geometry
import RemoteDisk.Error

/-!
# Configuration

What a disk is brought up with: its size, where its bytes lie in remote
memory, which status bits mean that a transfer is done or has failed, and
how the end of a transfer is noticed. `Config.capacity` turns the size into
sectors and refuses one that is empty or no multiple of a sector.
-/

namespace RemoteDisk

/-- How the end of a transfer is noticed. -/
inductive CompletionMode where
  /-- The interrupt handler signals the waiting side. -/
  | interrupt
  /-- The status register is read every `intervalUs` microseconds. -/
  | polling (intervalUs : UInt64)
  deriving Repr, DecidableEq, Inhabited

namespace CompletionMode

/-- The interval used where none is chosen, in microseconds. -/
def defaultIntervalUs : UInt64 := 10

end CompletionMode

namespace Status

/-- The done bit of a controller that serves a disk. -/
def diskDone : UInt32 := 4

/-- The done bit of a controller in the self test. -/
def selfTestDone : UInt32 := 1

/-- **Whether a status shows one of the bits of a mask.** -/
def shows (status mask : UInt32) : Bool := status &&& mask != 0

/-- Whether a status shows all bits of a mask. -/
def showsAll (status mask : UInt32) : Bool := status &&& mask == mask

end Status

/-- Bytes in a MiB. -/
def Config.mib : Nat := 1048576

/-- **What a disk is brought up with.** -/
structure Config where
  /-- The size of the disk in bytes. -/
  sizeBytes : UInt64 := UInt64.ofNat (Geometry.defaultSizeMb.toNat * Config.mib)
  /-- The bus address of the disk's first byte. -/
  remoteBase : UInt64 := Geometry.remoteBase
  /-- The status bits that mean a transfer is over. -/
  doneMask : UInt32 := Status.diskDone
  /-- The status bits that mean a transfer has failed; none is looked at
  where this is empty. -/
  errorMask : UInt32 := 0
  /-- How the end of a transfer is noticed. -/
  mode : CompletionMode := .interrupt
  deriving Repr, DecidableEq, Inhabited

namespace Config

/-- The configuration of the self test: the other done bit, and polling. -/
def selfTest : Config :=
  { doneMask := Status.selfTestDone, mode := .polling CompletionMode.defaultIntervalUs }

/-- **The size set to a number of MiB**, cut off at the largest byte
count. -/
def withSizeMb (c : Config) (mb : UInt64) : Config :=
  { c with sizeBytes := UInt64.ofNat (min (mb.toNat * mib) (Geometry.wordLimit - 1)) }

/-- **The size in sectors**, refused where it is empty or no multiple of a
sector. -/
def capacity (c : Config) : Except ResourceError Nat :=
  if c.sizeBytes = 0 ∨ c.sizeBytes.toNat % Geometry.sectorSize ≠ 0 then
    .error .invalidSize
  else
    .ok (c.sizeBytes.toNat / Geometry.sectorSize)

end Config

end RemoteDisk

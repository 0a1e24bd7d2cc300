import RemoteDisk.Device

/-!
# A disk on an emulated controller

An emulated controller is an engine in front of a window of remote memory.
A bench puts a disk on one that suits it: the window is as large as the
disk, the engine's done bits are the ones the disk looks for, and the
controller's interrupt line is connected to the disk once it is up.
-/

namespace RemoteDisk

namespace Machine

/-- **The machine with an emulated controller**, whose window is fresh. -/
def emulate (base : UInt64) (size : Nat) (doneBits : UInt32) (m : Machine) : Machine :=
  { m with
    controller := .engine { doneBits }
    window := { base, size } }

end Machine

namespace Device

/-- **A disk brought up on a bench.** The window is allocated first, before
the disk looks at its size. -/
def onBench (config : Config) : Act (Except ResourceError Device) := do
  if Engine.longestBuffer < config.sizeBytes.toNat then throw .allocation
  modify (Machine.emulate config.remoteBase config.sizeBytes.toNat config.doneMask)
  match ← probe { irq := some Geometry.interruptLine } config with
  | .error e => return .error e
  | .ok d =>
    modify (d.attach Geometry.interruptLine)
    return .ok d

/-- A disk taken off its bench. Where others still hold it, it stays up and
only its counters are told. -/
def takeOff (shared : Bool) : Act Counters := do
  if shared then
    Act.report .warn "[EMU] device still shared at removal"
    return (← get).counters
  else remove

end Device

end RemoteDisk

import RemoteDisk.Device

/-!
# Access by whole sectors

Callers inside the system read and write a disk without building requests:
a first sector and one buffer of whole sectors. Bad arguments are told
apart before the disk is touched; what is accepted is a request of one
segment.
-/

namespace RemoteDisk.Device

/-- **The first sector of an access**, refused where the buffer is empty or
no multiple of a sector, or where the access ends past the disk. -/
def checkRange (d : Device) (block : UInt64) (len : Nat) : Except StorageError UInt64 :=
  if len = 0 ∨ len % Geometry.sectorSize ≠ 0 then .error .invalidBufferSize
  else
    match (Word.ofNat? (len / Geometry.sectorSize)).bind (Word.add? block) with
    | some stop => if stop ≤ d.sectors then .ok block else .error .invalidBlock
    | none => .error .invalidBlock

/-- An access run as a request of one segment. -/
def access (d : Device) (block : UInt64) (len : Nat) (request : UInt64 → Request) :
    Serve (Except StorageError Unit) := do
  match d.checkRange block len with
  | .error e => return .error e
  | .ok sector =>
    let result ← d.submit (request sector)
    return result.mapError StorageError.ofBlockError

/-- **Reads whole sectors into a buffer.** -/
def readSectors (d : Device) (block : UInt64) (buffer : ByteArray) :
    Serve (Except StorageError Unit) :=
  d.access block buffer.size (fun sector => Request.read sector [buffer])

/-- **Writes whole sectors from a buffer.** -/
def writeSectors (d : Device) (block : UInt64) (data : ByteArray) :
    Serve (Except StorageError Unit) :=
  d.access block data.size (fun sector => Request.write sector [data])

/-- Reads blocks, which are sectors. -/
def readBlocks (d : Device) (block : UInt64) (buffer : ByteArray) :
    Serve (Except StorageError Unit) :=
  d.readSectors block buffer

/-- Writes blocks. -/
def writeBlocks (d : Device) (block : UInt64) (data : ByteArray) :
    Serve (Except StorageError Unit) :=
  d.writeSectors block data

/-- The bytes that blocks of one size hold together, or a fault where they
do not fit a word. -/
def capacityBytes (blockSize blocks : Nat) : Except Fault Nat :=
  if blockSize * blocks < Geometry.wordLimit then .ok (blockSize * blocks)
  else .error .overflow

end RemoteDisk.Device

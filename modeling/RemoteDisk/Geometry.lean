/-!
# Sizes and names

The fixed figures of the disk and of the controller it sits behind: the
sector, the bounce buffer, the DMA page, the cache line and the limits the
block layer is told. They are gathered here because several parts have to
agree on them.
-/

namespace RemoteDisk.Geometry

/-- Bytes in a sector, the unit in which requests address the disk. -/
def sectorSize : Nat := 512

/-- Bytes in the bounce buffer, the longest transfer of one chunk. -/
def bounceSize : Nat := 1048576

/-- Bytes in a page of DMA memory. -/
def pageSize : Nat := 4096

/-- Bytes in a cache line. -/
def lineSize : Nat := 64

/-- Milliseconds a transfer may take before it is given up. -/
def timeoutMs : UInt64 := 5000

/-- Commands the block layer may keep queued. -/
def queueDepth : Nat := 64

/-- Hardware queues of the device. -/
def hardwareQueues : Nat := 1

/-- Size of a disk for which none is chosen, in MiB. -/
def defaultSizeMb : UInt64 := 512

/-- Where the controller's registers are found on the bus. -/
def registerBase : UInt64 := 0x9000000

/-- Bytes of register space the controller decodes. -/
def registerSpan : Nat := 0x20

/-- Where remote memory starts on the bus. -/
def remoteBase : UInt64 := 0x200000000

/-- The interrupt line of the emulated controller. -/
def interruptLine : UInt32 := 33

/-- The disk's name, which its messages start with. -/
def diskName : String := "omniblk"

/-- The name under which the platform finds the disk. -/
def platformName : String := "omni-blkdev"

/-- The hardware description the disk is bound to. -/
def compatible : String := "etri,omni-dma"

/-- The version announced when a disk is brought up. -/
def version : String := "1.0.0"

/-- One past the largest bus address or byte count. -/
def wordLimit : Nat := 0x10000000000000000

/-- **The queue limits** the block layer is told. -/
structure QueueLimits where
  /-- Bytes in the smallest unit a request may address. -/
  logicalBlock : Nat := sectorSize
  /-- Bytes in the unit the hardware works in. -/
  physicalBlock : Nat := sectorSize
  /-- Sectors in the longest request: as many as fit the bounce buffer. -/
  maxSectors : Nat := bounceSize / sectorSize
  /-- Commands that may be queued. -/
  depth : Nat := queueDepth
  /-- Hardware queues. -/
  queues : Nat := hardwareQueues
  /-- A request may sleep while it is served. -/
  blocking : Bool := true

end RemoteDisk.Geometry

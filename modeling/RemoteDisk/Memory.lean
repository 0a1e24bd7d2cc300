import Std.Data.TreeMap
import RemoteDisk.Geometry
import RemoteDisk.Bytes

/-!
# Sparse memory

A memory has a byte at every address and holds only the pages that were
written, so a window of many gigabytes costs what its contents cost. Every
byte is zero until it is written. `Memory.byte` is the view all statements
are made in; `Memory.read` and `Memory.write` work page by page and are
described by it.
-/

namespace RemoteDisk

/-- A page of memory. -/
structure Page where
  /-- The bytes of the page. -/
  bytes : ByteArray
  /-- A page is never shorter or longer than a page. -/
  size_bytes : bytes.size = Geometry.pageSize

namespace Page

/-- The page that was never written. -/
def zero : Page := ⟨Bytes.fill Geometry.pageSize 0, Bytes.size_fill _ _⟩

/-- The byte at an offset within the page. -/
def byte (p : Page) (offset : Nat) (h : offset < Geometry.pageSize) : UInt8 :=
  p.bytes.get offset (p.size_bytes ▸ h)

/-- **The page with `piece` at `offset`.** -/
def overwrite (p : Page) (offset : Nat) (piece : ByteArray)
    (h : offset + piece.size ≤ Geometry.pageSize) : Page where
  bytes := p.bytes.extract 0 offset ++ piece
    ++ p.bytes.extract (offset + piece.size) Geometry.pageSize
  size_bytes := by
    simp only [ByteArray.size_append, ByteArray.size_extract, p.size_bytes]
    omega

end Page

/-- **A memory**: the pages that were written, by page number. -/
structure Memory where
  /-- The written pages. -/
  pages : Std.TreeMap Nat Page := ∅

namespace Memory

/-- Memory that was never written. -/
def empty : Memory := {}

/-- The page with a given number. -/
def page (m : Memory) (number : Nat) : Page := m.pages.getD number Page.zero

/-- **The byte at an address.** -/
def byte (m : Memory) (address : Nat) : UInt8 :=
  (m.page (address / Geometry.pageSize)).byte (address % Geometry.pageSize)
    (Nat.mod_lt _ (by decide))

/-- How many of `count` bytes from `address` on lie in the page of
`address`. -/
def run (address count : Nat) : Nat :=
  min count (Geometry.pageSize - address % Geometry.pageSize)

/-- Appends `count` bytes from `address` on, a page at a time; `fuel` bounds
the pages visited. -/
def readOnto (m : Memory) : (fuel address count : Nat) → ByteArray → ByteArray
  | 0, _, _, acc => acc
  | fuel + 1, address, count, acc =>
    if count = 0 then acc
    else
      let n := run address count
      let offset := address % Geometry.pageSize
      readOnto m fuel (address + n) (count - n)
        (acc ++ (m.page (address / Geometry.pageSize)).bytes.extract offset (offset + n))

/-- **The `count` bytes from `address` on.** -/
def read (m : Memory) (address count : Nat) : ByteArray :=
  m.readOnto count address count (ByteArray.emptyWithCapacity count)

/-- Writes the bytes of `data` from `start` on, a page at a time; `fuel`
bounds the pages visited. -/
def writeFrom (data : ByteArray) : (fuel address start : Nat) → Memory → Memory
  | 0, _, _, m => m
  | fuel + 1, address, start, m =>
    if start < data.size then
      let n := run address (data.size - start)
      let offset := address % Geometry.pageSize
      let number := address / Geometry.pageSize
      let piece := data.extract start (start + n)
      let page := (m.page number).overwrite offset piece (by
        have : offset < Geometry.pageSize := Nat.mod_lt _ (by decide)
        simp only [piece, n, run, ByteArray.size_extract]
        omega)
      writeFrom data fuel (address + n) (start + n) ⟨m.pages.insert number page⟩
    else m

/-- **The memory with `data` written from `address` on.** -/
def write (m : Memory) (address : Nat) (data : ByteArray) : Memory :=
  writeFrom data data.size address 0 m

end Memory

end RemoteDisk

import RemoteDisk.Geometry

/-!
# Cache lines

Before the engine reads a range and after it wrote one, the lines of that
range are flushed. A cursor starts at the line of the first byte and moves a
line at a time up to the end of the range, which is cut off at the top of
the address space. After every line the cursor has to move on, past the last
line too, so a range that reaches the topmost line ends in overflow after
all of its lines were flushed.
-/

namespace RemoteDisk.CacheLine

/-- The line that holds an address, by the address of its first byte. -/
def first (address : UInt64) : Nat :=
  address.toNat / Geometry.lineSize * Geometry.lineSize

/-- The end of a range, cut off below the top of the address space. -/
def stop (address : UInt64) (len : Nat) : Nat :=
  min (address.toNat + len) (Geometry.wordLimit - 1)

/-- **What a cursor has passed** when it comes to rest. -/
structure Walk where
  /-- The lines that were flushed, in order. -/
  lines : Array UInt64 := #[]
  /-- Whether the cursor left the address space. -/
  overran : Bool := false
  deriving Repr, DecidableEq

/-- The walk of a cursor up to `stop`, after the lines in `seen`. -/
def walkFrom (stop cursor : Nat) (seen : Array UInt64) : Walk :=
  if cursor < stop then
    let seen := seen.push (UInt64.ofNat cursor)
    let next := cursor + Geometry.lineSize
    if next < Geometry.wordLimit then walkFrom stop next seen else ⟨seen, true⟩
  else ⟨seen, false⟩
termination_by stop - cursor
decreasing_by
  have : 0 < Geometry.lineSize := by decide
  omega

/-- **The walk over a range**, which takes no step where the range is
empty. -/
def walk (address : UInt64) (len : Nat) : Walk :=
  if len = 0 then {} else walkFrom (stop address len) (first address) #[]

/-- The lines of a range, in the order they are flushed. -/
def lines (address : UInt64) (len : Nat) : List UInt64 := (walk address len).lines.toList

/-- Whether the cursor leaves the address space at the end of a range. -/
def overruns (address : UInt64) (len : Nat) : Bool := (walk address len).overran

/-- A line joined to the last of the runs before it, where it continues it. -/
def pushRun (runs : Array (Nat × Nat)) (line : UInt64) : Array (Nat × Nat) :=
  match runs.back? with
  | some (start, n) =>
    if line.toNat = start + n * Geometry.lineSize then runs.pop.push (start, n + 1)
    else runs.push (line.toNat, 1)
  | none => runs.push (line.toNat, 1)

/-- **Lines as runs of neighbours**: the first line of each run and how many
lines it has. -/
def runs (lines : List UInt64) : Array (Nat × Nat) := lines.foldl pushRun #[]

end RemoteDisk.CacheLine

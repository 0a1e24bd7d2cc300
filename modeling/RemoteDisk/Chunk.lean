import RemoteDisk.Error
import RemoteDisk.Geometry

/-!
# Chunks

A segment longer than the bounce buffer is moved in chunks: all of the
buffer's length but the last, which holds what is left. A `Chunk.Plan` is
the part of a segment that is still to be cut; it gives its chunks one by
one and knows at every point how many are still to come.
-/

namespace RemoteDisk

/-- **One piece of a segment.** -/
structure Chunk where
  /-- Where the piece starts in its segment. -/
  offset : Nat
  /-- Its length in bytes. -/
  len : Nat
  deriving Repr, DecidableEq, Inhabited

namespace Chunk

/-- The end of the piece, or a fault where it does not fit a word. -/
def stop (c : Chunk) : Except Fault Nat :=
  if c.offset + c.len < Geometry.wordLimit then .ok (c.offset + c.len) else .error .overflow

/-- **The end of the piece in a segment of so many bytes**: a fault where it
does not fit a word, and one where it lies past the segment. -/
def stopWithin (c : Chunk) (size : Nat) : Except Fault Nat := do
  let stop ← c.stop
  if stop ≤ size then return stop else throw .outOfBounds

/-- **What is left of a segment to be cut into chunks.** -/
structure Plan where
  /-- The length of the segment. -/
  total : Nat
  /-- The longest chunk there may be. -/
  longest : Nat
  /-- What was cut off so far. -/
  offset : Nat := 0
  /-- Every chunk has at least one byte. -/
  longest_pos : 0 < longest
  deriving Repr, DecidableEq

namespace Plan

/-- A whole segment to be cut. -/
def start (total longest : Nat) : Plan :=
  { total, longest := max longest 1, longest_pos := by omega }

/-- The length of the next chunk, where there is one. -/
def nextLen (p : Plan) : Nat := min (p.total - p.offset) p.longest

/-- **The next chunk**, and what is left after it. -/
def next? (p : Plan) : Option (Chunk × Plan) :=
  if p.offset < p.total then
    some (⟨p.offset, p.nextLen⟩, { p with offset := p.offset + p.nextLen })
  else none

/-- **How many chunks are still to come**: what is left by the longest
chunk, rounded up. -/
def remaining (p : Plan) : Nat :=
  (p.total - min p.offset p.total + (p.longest - 1)) / p.longest

/-- Cutting a chunk off leaves less to be cut. -/
theorem next?_decreases {p rest : Plan} {c : Chunk} (h : p.next? = some (c, rest)) :
    rest.total - rest.offset < p.total - p.offset := by
  unfold next? at h
  split at h
  · next left =>
    obtain ⟨-, rfl⟩ := Prod.mk.inj (Option.some.inj h)
    have pos := p.longest_pos
    simp only [nextLen]
    omega
  · exact absurd h (by simp)

/-- **All chunks that are still to come**, cut off one by one until nothing
is left. -/
def chunks (p : Plan) : List Chunk :=
  match _h : p.next? with
  | none => []
  | some (chunk, rest) => chunk :: rest.chunks
termination_by p.total - p.offset
decreasing_by exact next?_decreases _h

end Plan

end Chunk

end RemoteDisk

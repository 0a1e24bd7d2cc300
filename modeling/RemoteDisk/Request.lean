import RemoteDisk.Bytes
import RemoteDisk.Transfer

/-!
# Requests

A request names a first sector and brings its data in segments, which lie
one after another on the disk in the order given. The data of a request goes
the way its operation says (`Request.agrees`). A write brings the bytes of
its segments; a read brings buffers, and what it has delivered so far are
bytes put into one of them from an offset on, time and again
(`Request.buffersAfter`).
-/

namespace RemoteDisk

/-- What a request asks for. -/
inductive Operation where
  | read
  | write
  | flush
  | discard
  | writeZeroes
  deriving Repr, DecidableEq, Inhabited

namespace Operation

/-- All operations. -/
def all : List Operation := [read, write, flush, discard, writeZeroes]

/-- The operation's name in the journal. -/
def name : Operation → String
  | read => "Read"
  | write => "Write"
  | flush => "Flush"
  | discard => "Discard"
  | writeZeroes => "WriteZeroes"

/-- The operation with a given name. -/
def ofName? (name : String) : Option Operation := all.find? (fun op => op.name == name)

/-- **The direction of the operation's transfers**; only reads and writes
have one. -/
def direction? : Operation → Option Direction
  | read => some .read
  | write => some .write
  | flush | discard | writeZeroes => none

end Operation

/-- **How far a request has come.** The three phases in the middle repeat for
every chunk. -/
inductive Phase where
  | idle
  | started
  | staging
  | transferring
  | waiting
  | completed
  | failed
  deriving Repr, DecidableEq, Inhabited

namespace Phase

/-- All phases, in the order in which they come. -/
def all : List Phase := [idle, started, staging, transferring, waiting, completed, failed]

/-- The phase's name. -/
def name : Phase → String
  | idle => "Idle"
  | started => "Started"
  | staging => "Staging"
  | transferring => "Transferring"
  | waiting => "WaitingCompletion"
  | completed => "Completed"
  | failed => "Failed"

/-- Whether a request is over. -/
def isTerminal : Phase → Bool
  | completed | failed => true
  | idle | started | staging | transferring | waiting => false

end Phase

/-- **The data of a request.** -/
inductive Segments where
  /-- Buffers that a read fills. -/
  | buffers (bs : List ByteArray)
  /-- Bytes that a write brings. -/
  | sources (bs : List ByteArray)
  /-- No data. -/
  | none

/-- One segment as the disk sees it. -/
inductive Segment where
  /-- The buffer with some number, and so many bytes of it to be filled. -/
  | sink (buffer size : Nat)
  /-- Bytes to be written. -/
  | source (data : ByteArray)

/-- The length of a segment. -/
def Segment.size : Segment → Nat
  | sink _ size => size
  | source data => data.size

/-- **The length of segments together.** -/
def Segment.total : List Segment → Nat
  | [] => 0
  | s :: rest => s.size + total rest

/-- Which way the bytes of a segment go. -/
def Segment.direction : Segment → Direction
  | sink _ _ => .read
  | source _ => .write

namespace Segments

/-- The segments, in order. Buffers are numbered from zero. -/
def toList : Segments → List Segment
  | buffers bs => bs.zipIdx.map (fun b => .sink b.2 b.1.size)
  | sources bs => bs.map .source
  | none => []

/-- How many segments there are. -/
def count (s : Segments) : Nat := s.toList.length

/-- The length of all segments together. -/
def totalBytes (s : Segments) : Nat := Segment.total s.toList

end Segments

/-- **A request to the disk.** -/
structure Request where
  /-- The first sector. -/
  sector : UInt64
  /-- What is asked for. -/
  operation : Operation
  /-- The data. -/
  segments : Segments
  /-- The data goes the way the operation says. -/
  agrees : ∀ s ∈ segments.toList, operation.direction? = some s.direction

namespace Request

/-- A read into buffers. -/
def read (sector : UInt64) (bs : List ByteArray) : Request where
  sector
  operation := .read
  segments := .buffers bs
  agrees := by
    intro s hs
    obtain ⟨b, -, rfl⟩ := List.mem_map.mp hs
    rfl

/-- A write of bytes. -/
def write (sector : UInt64) (bs : List ByteArray) : Request where
  sector
  operation := .write
  segments := .sources bs
  agrees := by
    intro s hs
    obtain ⟨b, -, rfl⟩ := List.mem_map.mp hs
    rfl

/-- A request without data, such as a flush. -/
def withoutData (sector : UInt64) (op : Operation) : Request where
  sector
  operation := op
  segments := .none
  agrees := fun _ hs => nomatch hs

/-- **Whole sectors the data takes**, the last one counted where it is
touched at all. -/
def sectors (r : Request) : Nat :=
  (r.segments.totalBytes + (Geometry.sectorSize - 1)) / Geometry.sectorSize

/-- The request as it stands in the journal. -/
def text (r : Request) : String :=
  "sector=" ++ toString r.sector.toNat ++ " segments=" ++ toString r.segments.count
    ++ " bytes=" ++ toString r.segments.totalBytes

end Request

/-- **Bytes put into a buffer of a request.** -/
structure Delivery where
  /-- The number of the buffer. -/
  buffer : Nat
  /-- Where in the buffer the bytes start. -/
  offset : Nat
  /-- The bytes. -/
  data : ByteArray

namespace Delivery

/-- The buffer it goes to, with its bytes in place. -/
def onto (d : Delivery) (buffer : ByteArray) : ByteArray :=
  Bytes.overlayAt d.offset d.data buffer

/-- **Buffers after deliveries**, made one after another. -/
def putAll (ds : List Delivery) (bs : List ByteArray) : List ByteArray :=
  ds.foldl (fun bs d => bs.modify d.buffer d.onto) bs

/-- The bytes of deliveries, one after another. -/
def bytes (ds : List Delivery) : ByteArray := ds.foldl (fun bs d => bs ++ d.data) ByteArray.empty

end Delivery

instance : Coe (List Delivery) ByteArray := ⟨Delivery.bytes⟩

/-- **The request's buffers after `delivered` was read into them.** -/
def Request.buffersAfter (r : Request) (delivered : List Delivery) : List ByteArray :=
  match r.segments with
  | .buffers bs => Delivery.putAll delivered bs
  | .sources _ | .none => []

end RemoteDisk

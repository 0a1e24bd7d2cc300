import RemoteDisk.Bounce
import RemoteDisk.Chunk
import RemoteDisk.Request

/-!
# Serving a request

The segments of a request are walked in order, each cut into chunks no
longer than the bounce buffer, and every chunk is moved before the next is
looked at. The first chunk that fails abandons the rest of the request. A
segment's place on the disk follows from whole sectors of the segments
before it.

While this goes on the request is in a phase, and a read has put some bytes
into its buffers. Both belong to the `Service` state, so they are known however
serving ends.
-/

namespace RemoteDisk

/-- **A request being served.** -/
structure Service where
  /-- The machine that serves it. -/
  machine : Machine
  /-- How far it has come. -/
  phase : Phase := .idle
  /-- What a read has delivered. -/
  delivered : List Delivery := []

/-- An operation on a request being served, which may end in a fault. -/
abbrev Serve (α : Type) : Type := ExceptT Fault (StateM Service) α

/-- An operation on a request being served, which may fail as a transfer
does or end in a fault. -/
abbrev Attempt (α : Type) : Type := ExceptT TransferError (ExceptT Fault (StateM Service)) α

namespace Serve

/-- **An operation on the machine alone.** -/
def ofAct {α : Type} (act : Act α) : Serve α := fun service =>
  match service with
  | ⟨machine, phase, delivered⟩ =>
    let (result, machine) := act machine
    (result, ⟨machine, phase, delivered⟩)

/-- The request's phase replaced. -/
def enter (phase : Phase) : Serve Unit := modify (fun s => { s with phase })

/-- Bytes put into a buffer of the request. -/
def deliver (d : Delivery) : Serve Unit :=
  modify (fun s => { s with delivered := s.delivered ++ [d] })

end Serve

namespace Attempt

/-- An operation that cannot fail as a transfer does. -/
def ofServe {α : Type} (serve : Serve α) : Attempt α := ExceptT.lift serve

/-- An operation on the machine alone. -/
def ofAct {α : Type} (act : Act α) : Attempt α := ofServe (Serve.ofAct act)

/-- The request's phase replaced. -/
def enter (phase : Phase) : Attempt Unit := ofServe (Serve.enter phase)

/-- Plain arithmetic, which may end in a fault. -/
def ofExcept {α : Type} (e : Except Fault α) : Attempt α := ofServe (ExceptT.mk (pure e))

end Attempt

/-- **Where and how a request is served.** -/
structure Route where
  /-- The bounce buffer. -/
  bounce : Buffer
  /-- The bus address of the disk's first byte. -/
  remoteBase : UInt64
  /-- How long a transfer may take, in milliseconds. -/
  timeoutMs : UInt64

namespace Route

/-- Moves one chunk between the bounce buffer and remote memory. -/
def move (route : Route) (d : Descriptor) : Attempt Unit := ExceptT.mk do
  Serve.enter .transferring
  Serve.ofAct d.begin
  Serve.enter .waiting
  Serve.ofAct (d.finish route.timeoutMs)

/-- The transfer of a chunk of a segment that starts at a bus address. -/
def descriptor (route : Route) (direction : Direction) (start : UInt64) (chunk : Chunk) :
    Act Descriptor := do
  let remote ← Act.word (start.toNat + chunk.offset)
  return ⟨direction, route.bounce.base, remote, UInt64.ofNat chunk.len⟩

/-- **Serves one chunk** of a segment that starts at a bus address. Bytes to
be written are staged before anything else; bytes that were read are taken
from the bounce buffer after everything else. Either way the chunk's part of
the segment is taken first, and has to lie within it. -/
def serveChunk (route : Route) (segment : Segment) (start : UInt64) (chunk : Chunk) :
    Attempt Unit := do
  match segment with
  | .source data =>
    Attempt.enter .staging
    let stop ← Attempt.ofExcept (chunk.stopWithin data.size)
    Attempt.ofAct (route.bounce.stage (data.extract chunk.offset stop))
    route.move (← Attempt.ofAct (route.descriptor .write start chunk))
  | .sink buffer size =>
    route.move (← Attempt.ofAct (route.descriptor .read start chunk))
    let stop ← Attempt.ofExcept (chunk.stopWithin size)
    let data ← Attempt.ofAct (route.bounce.unstage (stop - chunk.offset))
    Attempt.ofServe (Serve.deliver ⟨buffer, chunk.offset, data⟩)

/-- Serves chunks in order. -/
def serveChunks (route : Route) (segment : Segment) (start : UInt64) :
    List Chunk → Attempt Unit
  | [] => pure ()
  | chunk :: rest => do
    route.serveChunk segment start chunk
    route.serveChunks segment start rest

/-- **Serves one segment**, whose first byte lies in the sector `cursor`. -/
def serveSegment (route : Route) (cursor : Nat) (segment : Segment) : Attempt Unit := do
  let start ← Attempt.ofAct
    (Act.word (route.remoteBase.toNat + cursor * Geometry.sectorSize))
  route.serveChunks segment start (Chunk.Plan.start segment.size route.bounce.size).chunks

/-- Serves segments in order, the first one from the sector `cursor` on. -/
def serveSegments (route : Route) (cursor : Nat) : List Segment → Attempt Unit
  | [] => pure ()
  | segment :: rest => do
    route.serveSegment cursor segment
    let next ← Attempt.ofAct (Act.word (cursor + segment.size / Geometry.sectorSize))
    route.serveSegments next.toNat rest

/-- **Serves a request** and leaves it completed or failed. -/
def serve (route : Route) (r : Request) : Serve (Except TransferError Unit) := do
  Serve.ofAct (Act.report .trace ("[OMNI] request " ++ r.text))
  let result ← (route.serveSegments r.sector.toNat r.segments.toList).run
  match result with
  | .ok () => Serve.enter .completed
  | .error _ => Serve.enter .failed
  return result

end Route

/-- **How serving a request ended**, with what there is to show for it. -/
structure Served (α : Type) where
  /-- The result, or the fault in its place. -/
  result : Except Fault α
  /-- The phase the request was left in. -/
  phase : Phase
  /-- What a read delivered. -/
  delivered : List Delivery

/-- Serving run on a machine, from an idle request on. -/
def Serve.runOn {α : Type} (serve : Serve α) (m : Machine) : Served α × Machine :=
  let (result, s) := serve { machine := m }
  (⟨result, s.phase, s.delivered⟩, s.machine)

end RemoteDisk

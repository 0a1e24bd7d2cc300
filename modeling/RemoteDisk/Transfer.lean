import RemoteDisk.Channel

/-!
# One chunk's transfer

Between remote memory and the bounce buffer a transfer has a direction. Its
source is flushed before it starts, whichever side that is, and its
destination after it has ended well. The counters and the journal tell how
it ended: a chunk read or written, a timeout, which is also an error, or an
error of the engine.
-/

namespace RemoteDisk

/-- The direction of a transfer as the block layer sees it. -/
inductive Direction where
  /-- From remote memory to the bounce buffer. -/
  | read
  /-- From the bounce buffer to remote memory. -/
  | write
  deriving Repr, DecidableEq, Inhabited

/-- The direction's name in the journal. -/
def Direction.name : Direction → String
  | read => "Read"
  | write => "Write"

/-- **One chunk's transfer.** -/
structure Descriptor where
  /-- Which way the bytes go. -/
  direction : Direction
  /-- The bus address of the bounce buffer's side. -/
  nearby : UInt64
  /-- The bus address of the remote side. -/
  remote : UInt64
  /-- How many bytes. -/
  length : UInt64
  deriving Repr, DecidableEq

namespace Descriptor

/-- Where the bytes come from. -/
def source (d : Descriptor) : UInt64 :=
  match d.direction with
  | .read => d.remote
  | .write => d.nearby

/-- Where the bytes go. -/
def destination (d : Descriptor) : UInt64 :=
  match d.direction with
  | .read => d.nearby
  | .write => d.remote

/-- **Flushes the source and starts the transfer.** -/
def begin (d : Descriptor) : Act Unit := do
  Act.flush d.source d.length.toNat
  Act.launch d.source d.destination d.length

/-- A transfer that ended well: the destination is flushed, and the chunk is
counted. -/
def succeed (d : Descriptor) : Act Unit := do
  Act.flush d.destination d.length.toNat
  match d.direction with
  | .read => Act.count Counters.countRead
  | .write => Act.count Counters.countWrite

/-- A transfer that failed: it is counted and reported. -/
def fail (d : Descriptor) (timeoutMs : UInt64) (cause : TransferError) : Act Unit :=
  match cause with
  | .timeout => do
    Act.count Counters.countTimeout
    Act.count Counters.countError
    Act.report .error (Geometry.diskName ++ ": DMA timeout after " ++ toString timeoutMs.toNat
      ++ " ms (" ++ d.direction.name ++ " " ++ toString d.length.toNat ++ " bytes @ "
      ++ Hex.address d.remote.toNat ++ ")")
    Act.report .warn
      (Geometry.diskName ++ ": engine not reset after timeout; next transfer reuses it as-is")
  | .engine status => do
    Act.count Counters.countError
    Act.report .error
      (Geometry.diskName ++ ": DMA error (" ++ TransferError.statusText status ++ ")")

/-- **Waits for the started transfer and accounts for it.** -/
def finish (d : Descriptor) (timeoutMs : UInt64) : Act (Except TransferError Unit) := do
  match ← Act.wait timeoutMs with
  | .ok () =>
    d.succeed
    return .ok ()
  | .error cause =>
    d.fail timeoutMs cause
    return .error cause

/-- **Starts the transfer, waits for it and accounts for it.** -/
def execute (d : Descriptor) (timeoutMs : UInt64) : Act (Except TransferError Unit) := do
  d.begin
  d.finish timeoutMs

end Descriptor

end RemoteDisk

import RemoteDisk.Machine.Controller

/-!
# The bounce buffer

The only local memory the engine is pointed at while a request is served.
Bytes are staged at its start before a write and taken from its start after
a read. Its contents mean something only for the chunk that is using it.
-/

namespace RemoteDisk

namespace Act

/-- **A buffer of DMA memory**, or none where it is refused. -/
def allocate (len : Nat) : Act (Option Buffer) :=
  modifyGet (fun m =>
    match m.arena.alloc? len with
    | none => (none, m)
    | some (buffer, arena) => (some buffer, { m with arena }))

/-- `count` buffers of the same length, or none where one is refused. -/
def allocateMany (count len : Nat) : Act (Option (List Buffer)) :=
  modifyGet (fun m =>
    match m.arena.allocMany? len count with
    | none => (none, m)
    | some (buffers, arena) => (some buffers, { m with arena }))

/-- Buffers of these lengths, without those that are refused. -/
def allocateEach : List Nat → Act (List Buffer)
  | [] => pure []
  | len :: rest => do
    let buffer ← allocate len
    return buffer.toList ++ (← allocateEach rest)

/-- A bounce buffer of the given capacity. -/
def allocateBounce (capacity : Nat) : Act (Except ResourceError Buffer) :=
  return match ← allocate capacity with
    | none => .error .bufferAllocFailed
    | some buffer => .ok buffer

end Act

namespace Buffer

/-- **Copies bytes to the start of the buffer**, where they fit. -/
def stage (b : Buffer) (data : ByteArray) : Act Unit :=
  if data.size ≤ b.size then
    modify (fun m => { m with memory := m.memory.write b.base.toNat data })
  else throw .outOfBounds

/-- **Takes bytes from the start of the buffer**, as many as it has at
most. -/
def unstage (b : Buffer) (len : Nat) : Act ByteArray := do
  if len ≤ b.size then return (← get).memory.read b.base.toNat len
  else throw .outOfBounds

/-- All bytes of the buffer. -/
def contents (b : Buffer) (m : Machine) : ByteArray := m.memory.read b.base.toNat b.size

/-- Copies bytes into the buffer from an offset on, where they fit. -/
def write (b : Buffer) (offset : Nat) (data : ByteArray) : Act Unit :=
  if Geometry.wordLimit ≤ offset + data.size then throw .overflow
  else if b.size < offset + data.size then throw .outOfBounds
  else modify (fun m => { m with memory := m.memory.write (b.base.toNat + offset) data })

end Buffer

namespace Act

/-- Bytes of remote memory, read past the engine. -/
def remoteRead (offset len : Nat) : Act ByteArray := do
  let window := (← get).window
  if Geometry.wordLimit ≤ offset + len then throw .overflow
  if window.size < offset + len then throw .outOfBounds
  return window.memory.read offset len

/-- Bytes of remote memory, written past the engine. -/
def remoteWrite (offset : Nat) (data : ByteArray) : Act Unit := do
  let size := (← get).window.size
  if Geometry.wordLimit ≤ offset + data.size then throw .overflow
  if size < offset + data.size then throw .outOfBounds
  modify (Machine.store (.remote offset) data)

end Act

end RemoteDisk

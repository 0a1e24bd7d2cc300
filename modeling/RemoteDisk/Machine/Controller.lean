import RemoteDisk.Machine

/-!
# Register accesses

What reads and writes of registers do. A write that starts a transfer makes
the engine act as its behaviour says: an immediate one copies, publishes its
status, becomes free and raises the interrupt wire, in this order, and each
of these is an operation of its own here.

Raising the wire calls whoever listens. The disk's own handler claims an
interrupt only on its line and only while the status register shows a done
bit; it signals the completion and counts the interrupt.
-/

namespace RemoteDisk

namespace Machine

/-- **A register read.** -/
def readRegister (offset : Nat) (m : Machine) : UInt32 × Machine :=
  match m.controller with
  | .recorder r =>
    let (value, r) := r.read offset
    (value, { m with controller := .recorder r })
  | .engine e => (e.read offset, m)

/-- A read of the status register. -/
def readStatus (m : Machine) : UInt32 × Machine := m.readRegister Register.status.offset

/-- The contents of the status register, looked at from outside. -/
def status (m : Machine) : UInt32 :=
  match m.controller with
  | .recorder r => r.file.get Register.status.offset
  | .engine e => e.get .status

/-- The status register set from outside. -/
def setStatus (value : UInt32) (m : Machine) : Machine :=
  match m.controller with
  | .recorder r => { m with controller := .recorder (r.setStatus value) }
  | .engine e => { m with controller := .engine (e.setStatus value) }

/-- The completion slot filled. -/
def signal (m : Machine) : Machine := m.mapChannel (fun c => { c with signaled := true })

/-- The completion slot emptied. -/
def resetSignal (m : Machine) : Machine := m.mapChannel (fun c => { c with signaled := false })

/-- **Takes a completion out of the slot**, if one is there. -/
def takeSignal (m : Machine) : Bool × Machine := (m.channel.signaled, m.resetSignal)

/-- **The disk's interrupt handler**: claims the interrupt while the status
register shows a done bit. Its answer is noted. -/
def handleInterrupt (m : Machine) : Claim × Machine :=
  let (status, m) := m.readStatus
  let (claim, m) :=
    if Status.shows status m.channel.doneMask then
      (Claim.handled, m.signal.mapCounters Counters.countIrq)
    else (Claim.unclaimed, m)
  (claim, m.answered claim)

/-- **A call of a handler** for an interrupt on some line. -/
def deliver (handler : Handler) (line : UInt32) (m : Machine) : Claim × Machine :=
  match handler with
  | .latch => (.handled, m.signal)
  | .disk own => if own = some line then m.handleInterrupt else (.unclaimed, m)
  | .observer claims =>
    (if claims then .handled else .unclaimed,
      { m with notices := m.notices.push (.called line m.status) })

/-- **The interrupt wire raised once.** -/
def raise (m : Machine) : Claim × Machine :=
  match m.wire with
  | some ⟨line, some handler⟩ => m.deliver handler line
  | _ => (.unclaimed, m)

/-- **An interrupt that belongs to some line**, told to whoever listens. -/
def interrupt (line : UInt32) (m : Machine) : Claim × Machine :=
  match m.wire with
  | some ⟨_, some handler⟩ => m.deliver handler line
  | _ => (.unclaimed, m)

/-- A handler put on the wire, in place of the one before. -/
def attach (line : UInt32) (handler : Handler) (m : Machine) : Machine :=
  let m := match handler with
    | .observer _ => { m with notices := m.notices.push (.registered line) }
    | .latch | .disk _ => m
  { m with wire := some ⟨line, some handler⟩ }

/-- The handler on the wire gone; the wire keeps its line. -/
def detach (m : Machine) : Machine :=
  { m with wire := m.wire.map (fun w => { w with handler := none }) }

/-- The bytes of a range, which must not be invalid to have any. -/
def fetch (target : Target) (len : Nat) (m : Machine) : ByteArray :=
  match target with
  | .remote offset => m.window.memory.read offset len
  | .nearby address => m.memory.read address len
  | .invalid => ByteArray.empty

/-- The machine with bytes stored at the start of a range. -/
def store (target : Target) (data : ByteArray) (m : Machine) : Machine :=
  match target with
  | .remote offset =>
    { m with window := { m.window with memory := m.window.memory.write offset data } }
  | .nearby address => { m with memory := m.memory.write address data }
  | .invalid => m

/-- The engine's status register set to the done bits and some more. -/
def publish (extra : UInt32) (m : Machine) : Machine :=
  m.mapEngine (fun e => e.setStatus (e.doneBits ||| extra))

/-- The engine free for the next transfer. -/
def release (m : Machine) : Machine := m.mapEngine (fun e => { e with busy := false })

/-- **The end of a transfer**: the status is published, the engine becomes
free, and then the wire is raised. -/
def finish (extra : UInt32) (m : Machine) : Machine :=
  ((m.publish extra).release).raise.2

end Machine

namespace Act

/-- **Copies the bytes of a transfer**, all of them or none. The answer is
whether both ranges could be reached. The bytes in between take a buffer of
the transfer's length, which is allocated before either range is looked
at. -/
def copy (t : Transfer) : Act Bool := do
  let len := t.length.toNat
  if Engine.longestBuffer < len then throw .allocation
  let m ← get
  let source := m.window.locate t.source len
  let destination := m.window.locate t.destination len
  if source = .invalid ∨ destination = .invalid then return false
  modify (fun m => m.store destination (m.fetch source len))
  return true

/-- **Copies and finishes**, with the bus error shown where a range could
not be reached. -/
def complete (t : Transfer) : Act Unit := do
  let reached ← copy t
  modify (Machine.finish (if reached then 0 else Engine.busError))

/-- Does what the engine's behaviour says for a transfer that was just
started. -/
def behave (behavior : Behavior) (t : Transfer) : Act Unit :=
  match behavior with
  | .immediate => complete t
  | .deferred us => modify (Machine.mapEngine (fun e => e.defer us t))
  | .hang => modify Machine.release
  | .fault bits => modify (Machine.finish bits)

/-- **Starts the transfer an engine's registers describe.** -/
def start (e : Engine) : Act Unit := do
  let t := e.programmed
  modify (Machine.mapEngine (fun e => e.started t))
  report .trace ("[EMU] start " ++ t.text)
  behave e.takeBehavior.behavior t

/-- The script's answer to a write of the control register, if it has
one. -/
def answer : Act Unit :=
  modify (fun m =>
    match m.controller with
    | .engine _ => m
    | .recorder r =>
      let (reply, r) := r.takeReply
      let m := { m with controller := .recorder r }
      match reply with
      | none => m
      | some reply =>
        let m := match reply.status with
          | none => m
          | some value => m.setStatus value
        if reply.signal then m.signal else m)

/-- **A register write.** Behind recording registers any write of the
control register is a start; an engine looks for the start bit. -/
def writeRegister (offset : Nat) (value : UInt32) : Act Unit := do
  match (← get).controller with
  | .recorder _ =>
    modify (fun m =>
      match m.controller with
      | .recorder r => { m with controller := .recorder (r.write offset value) }
      | .engine _ => m)
    if offset = Register.control.offset then answer
  | .engine _ =>
    modify (Machine.mapEngine (fun e => e.set offset value))
    if Engine.starts offset value then
      match (← get).controller with
      | .engine e => start e
      | .recorder _ => pure ()

/-- A 64-bit value written as two halves, the low one first. -/
def writeHalves (lo hi : Nat) (value : UInt64) : Act Unit := do
  writeRegister lo (Halves.low value)
  writeRegister hi (Halves.high value)

/-- A register read. -/
def readRegister (offset : Nat) : Act UInt32 := modifyGet (Machine.readRegister offset)

/-- A read of the status register. -/
def readStatus : Act UInt32 := modifyGet Machine.readStatus

/-- The register writes of a list, in order. -/
def writeAll : List (Register × UInt32) → Act Unit
  | [] => pure ()
  | (r, value) :: rest => do
    writeRegister r.offset value
    writeAll rest

/-- **Describes a transfer to the controller.** -/
def program (source destination length : UInt64) : Act Unit :=
  writeAll (Register.program source destination length)

/-- **Sets the start bit.** -/
def setStart : Act Unit := writeRegister Register.control.offset Register.startBit

end Act

end RemoteDisk

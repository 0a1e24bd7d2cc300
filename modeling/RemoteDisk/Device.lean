import RemoteDisk.Request.Service
import RemoteDisk.Word

/-!
# The disk

A disk is brought up from its configuration and the resources of its
platform, which are taken in a fixed order: the size is checked, then the
registers, the bounce buffer and the interrupt line are asked for, and the
first that is missing ends it. Its counters start at zero. Afterwards it
serves requests, answers interrupts on its line, and can be removed.

`Device.submit` refuses operations that move no data and requests that reach
past the last sector before it touches anything; every other request is
served and ends completed or failed.
-/

namespace RemoteDisk

/-- What the platform hands over when a disk is brought up. -/
structure Resources where
  /-- Whether the controller's registers are there. -/
  registers : Bool := true
  /-- The controller's interrupt line, where it has one. -/
  irq : Option UInt32 := none

/-- **A disk.** -/
structure Device where
  /-- What it was brought up with. -/
  config : Config
  /-- Its size in sectors, as a word. -/
  sectors : UInt64
  /-- The interrupt line it listens to. -/
  irq : Option UInt32
  /-- Its bounce buffer. -/
  bounce : Buffer

/-- What the block layer is told about a request. -/
inductive BlockStatus where
  | ok
  | failed
  deriving Repr, DecidableEq

namespace Device

/-- The disk's size in sectors. -/
def capacity (d : Device) : Nat := d.sectors.toNat

/-- An entry under the disk's name. -/
def report (level : Level) (text : String) : Act Unit :=
  Act.report level (Geometry.diskName ++ ": " ++ text)

/-- The interrupt line a disk takes, which polling does without. -/
def takeIrq (mode : CompletionMode) (irq : Option UInt32) :
    Act (Except ResourceError (Option UInt32)) := do
  match mode, irq with
  | .interrupt, none =>
    report .error "Failed to get IRQ"
    return .error .missingIrq
  | .interrupt, some line =>
    report .info ("Registered IRQ " ++ toString line.toNat)
    return .ok (some line)
  | .polling intervalUs, line =>
    report .info ("Polling for completion every " ++ toString intervalUs.toNat ++ " us")
    return .ok line

/-- The bounce buffer a disk takes. -/
def takeBounce : Act (Except ResourceError Buffer) := do
  match ← Act.allocateBounce Geometry.bounceSize with
  | .error e =>
    report .error "Failed to allocate DMA buffer"
    return .error e
  | .ok bounce =>
    report .info ("Allocated DMA buffer: " ++ toString (bounce.size / 1024) ++ " KB @ phys "
      ++ Hex.address bounce.base.toNat)
    return .ok bounce

/-- **Brings a disk up.** -/
def probe (resources : Resources) (config : Config) : Act (Except ResourceError Device) := do
  report .info ("Probing OmniXtend Block Device Driver v" ++ Geometry.version)
  match config.capacity with
  | .error e => return .error e
  | .ok capacity =>
    if !resources.registers then
      report .error "Failed to get memory resource"
      return .error .missingRegisterWindow
    report .info "Mapped DMA controller registers"
    match ← takeBounce with
    | .error e => return .error e
    | .ok bounce =>
      match ← takeIrq config.mode resources.irq with
      | .error e => return .error e
      | .ok irq =>
        modify (fun m => { m with
          channel :=
            { mode := config.mode, doneMask := config.doneMask, errorMask := config.errorMask }
          counters := {} })
        report .info ("Device registered: /dev/" ++ Geometry.diskName ++ ", "
          ++ toString (config.sizeBytes.toNat / Config.mib) ++ " MB ("
          ++ toString capacity ++ " sectors)")
        return .ok { config, sectors := UInt64.ofNat capacity, irq, bounce }

/-- The disk taken down, with its last counters. -/
def remove : Act Counters := do
  report .info "Removing driver"
  let counters := (← get).counters
  report .info ("Stats - " ++ counters.text)
  report .info "Driver removed"
  return counters

/-- **Whether a request ends within the disk.** The sector it ends at has to
be a word, so that none near the top wraps around. -/
def inRange (d : Device) (r : Request) : Bool :=
  ((Word.ofNat? r.sectors).bind (Word.add? r.sector)).any (· ≤ d.sectors)

/-- How the disk serves requests. -/
def route (d : Device) : Route := ⟨d.bounce, d.config.remoteBase, Geometry.timeoutMs⟩

/-- A request refused before anything was touched. -/
def refuse (level : Level) (text : String) (e : BlockError) :
    Serve (Except BlockError Unit) := do
  Serve.ofAct (report level text)
  Serve.enter .failed
  return .error e

/-- **Checks a request and serves it.** -/
def submit (d : Device) (r : Request) : Serve (Except BlockError Unit) := do
  if r.operation.direction? = none then
    refuse .debug ("rejecting " ++ r.operation.name ++ " request") .unsupported
  else
    let total ← Serve.ofAct (Act.word r.segments.totalBytes)
    if !d.inRange r then
      refuse .error ("request at sector " ++ toString r.sector.toNat ++ " ("
        ++ toString total.toNat ++ " bytes) beyond " ++ toString d.capacity ++ " sectors")
        .outOfRange
    else
      Serve.enter .started
      let result ← d.route.serve r
      return result.mapError .transfer

/-- **The block layer's entry**, where all failures are one. -/
def queue (d : Device) (r : Request) : Serve BlockStatus := do
  match ← d.submit r with
  | .ok () => return .ok
  | .error _ => return .failed

/-- The disk's handler called for an interrupt on some line. -/
def handle (d : Device) (line : UInt32) (m : Machine) : Claim × Machine :=
  m.deliver (.disk d.irq) line

/-- The disk put on an interrupt wire. -/
def attach (d : Device) (line : UInt32) (m : Machine) : Machine :=
  m.attach line (.disk d.irq)

/-- All counters set to zero. -/
def resetCounters : Act Unit := Act.count (fun _ => {})

/-- **The size of the disk in bytes.** -/
def sizeBytes (d : Device) : Nat := d.capacity * Geometry.sectorSize

end Device

end RemoteDisk

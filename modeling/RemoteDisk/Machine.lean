import RemoteDisk.CacheLine
import RemoteDisk.Clock
import RemoteDisk.Config
import RemoteDisk.Counters
import RemoteDisk.Engine
import RemoteDisk.Error
import RemoteDisk.Journal
import RemoteDisk.Memory.Arena

/-!
# The machine

Everything a disk works on and that outlives one of its operations: the
controller's registers and what stands behind them, local and remote memory,
the completion slot, the clock with what is going to happen at its reads,
the interrupt wire, the counters, and the records of flushed ranges, of
journal entries and of the answers that interrupts were given.

Operations are `Act`s: they change a machine and end in a value or in a
`Fault`, and in both cases the machine is kept as it was left. Operations
that cannot end in a fault are plain functions on machines.
-/

namespace RemoteDisk

/-- **What answers at the registers.** -/
inductive Controller where
  /-- Registers that only record. -/
  | recorder (r : Recorder)
  /-- The registers of an engine. -/
  | engine (e : Engine)
  deriving Inhabited

/-- **The completion slot** and what is looked for in the status register. -/
structure Channel where
  /-- How the end of a transfer is noticed. -/
  mode : CompletionMode := .interrupt
  /-- The status bits that mean a transfer is over. -/
  doneMask : UInt32 := Status.diskDone
  /-- The status bits that mean a transfer has failed. -/
  errorMask : UInt32 := 0
  /-- Whether a completion was signalled and not yet taken. -/
  signaled : Bool := false
  deriving Repr, DecidableEq, Inhabited

/-- Something that happens to the machine from outside. -/
inductive Happening where
  /-- The completion is signalled. -/
  | signal
  /-- The status register changes. -/
  | status (value : UInt32)
  /-- The interrupt wire is raised. -/
  | raise
  /-- An interrupt arrives that belongs to some line. -/
  | interrupt (line : UInt32)
  deriving Repr, DecidableEq

/-- **What happens at a read of the clock**, the reads being numbered from
one. -/
structure Event where
  /-- The number of the read. -/
  read : Nat
  /-- What happens just before it returns. -/
  happening : Happening
  deriving Repr, DecidableEq

/-- Who is called when the interrupt wire is raised. -/
inductive Handler where
  /-- Signals the completion, whatever the status register shows. -/
  | latch
  /-- A disk on a line of its own, or on none. -/
  | disk (line : Option UInt32)
  /-- Notes the call, and claims the interrupt or not. -/
  | observer (claims : Bool)
  deriving Repr, DecidableEq

/-- Whether an interrupt was claimed. -/
inductive Claim where
  | unclaimed
  | handled
  deriving Repr, DecidableEq, Inhabited

/-- The claim as a truth value. -/
def Claim.isHandled : Claim → Bool
  | unclaimed => false
  | handled => true

/-- **The interrupt wire**: the line it is raised as, and who listens. The
listener may be gone, and then nobody is called. -/
structure Wire where
  /-- The line number a handler is told. -/
  line : UInt32
  /-- Who is called. -/
  handler : Option Handler
  deriving Repr, DecidableEq

/-- What an observer of the wire notes. -/
inductive Notice where
  /-- It was put on a line. -/
  | registered (line : UInt32)
  /-- It was called, while the status register showed `status`. -/
  | called (line : UInt32) (status : UInt32)
  deriving Repr, DecidableEq

/-- The calls of the latest observer, after `calls` of them and one more
notice. A new observer was never called. -/
def Notice.countCall (calls : Nat) : Notice → Nat
  | registered _ => 0
  | called _ _ => calls + 1

/-- How the processor sees memory. -/
inductive View where
  /-- The remote window and these buffers; nothing lies elsewhere. -/
  | buffers (locals : List Buffer)
  /-- Local memory, at every address. -/
  | mapped

/-- Processor accesses gone wrong, by their number counted from one. -/
structure Disturbance where
  /-- The first access that is disturbed. -/
  first : Nat
  /-- The last one. -/
  last : Nat
  /-- The bits that are flipped in the word read or written. -/
  flip : UInt32 := 0
  /-- What the engine does from then on, where that changes. -/
  behavior : Option Behavior := none

/-- **The processor's access to memory.** -/
structure Processor where
  /-- How memory is seen. -/
  view : View := .mapped
  /-- Accesses so far. -/
  accesses : Nat := 0
  /-- Accesses that go wrong. -/
  disturbances : List Disturbance := []

/-- A range that was flushed. -/
structure Flush where
  /-- The bus address of its first byte. -/
  address : UInt64
  /-- Its length in bytes. -/
  len : Nat
  deriving Repr, DecidableEq, Inhabited

/-- **The machine.** -/
structure Machine where
  /-- What answers at the registers. -/
  controller : Controller := .recorder {}
  /-- Remote memory. -/
  window : Window := {}
  /-- Local memory, by bus address. -/
  memory : Memory := {}
  /-- The pages of local memory the engine may be pointed at. -/
  arena : Arena := {}
  /-- The completion slot. -/
  channel : Channel := {}
  /-- The clock. -/
  clock : Clock := {}
  /-- What happens at reads of the clock. -/
  events : List Event := []
  /-- The interrupt wire, once it is connected. -/
  wire : Option Wire := none
  /-- The transfer counters. -/
  counters : Counters := {}
  /-- The flushed ranges, oldest first. -/
  flushes : Array Flush := #[]
  /-- The journal, oldest entry first. -/
  journal : Array Entry := #[]
  /-- What observers of the wire noted, oldest first. -/
  notices : Array Notice := #[]
  /-- What the disk's handler answered to interrupts, oldest first. -/
  claims : Array Claim := #[]
  /-- The processor's access to memory. -/
  processor : Processor := {}

/-- **An operation on the machine** that ends in a value or in a fault. -/
abbrev Act (α : Type) : Type := ExceptT Fault (StateM Machine) α

namespace Machine

/-- The engine, where there is one. -/
def engine? (m : Machine) : Option Engine :=
  match m.controller with
  | .recorder _ => none
  | .engine e => some e

/-- The machine with its engine changed, where there is one. -/
def mapEngine (f : Engine → Engine) (m : Machine) : Machine :=
  match m.controller with
  | .recorder _ => m
  | .engine e => { m with controller := .engine (f e) }

/-- The transfers its engine was started with. -/
def transfers (m : Machine) : Array Transfer := (m.engine?.map Engine.log).getD #[]

/-- Whether its engine was ever started while a transfer was running. -/
def overlapped (m : Machine) : Bool := (m.engine?.map Engine.overlapped).getD false

/-- The accesses that recording registers noted. -/
def accesses (m : Machine) : Array Access :=
  match m.controller with
  | .recorder r => r.accesses
  | .engine _ => #[]

/-- The machine with one more entry in its journal. -/
def report (level : Level) (text : String) (m : Machine) : Machine :=
  { m with journal := m.journal.push ⟨level, text⟩ }

/-- The machine with its completion slot changed. -/
def mapChannel (f : Channel → Channel) (m : Machine) : Machine :=
  { m with channel := f m.channel }

/-- The machine with its counters changed. -/
def mapCounters (f : Counters → Counters) (m : Machine) : Machine :=
  { m with counters := f m.counters }

/-- The machine with one more answer to an interrupt. -/
def answered (claim : Claim) (m : Machine) : Machine :=
  { m with claims := m.claims.push claim }

end Machine

namespace Act

/-- One more entry in the journal. -/
def report (level : Level) (text : String) : Act Unit := modify (Machine.report level text)

/-- One count more in the counters. -/
def count (f : Counters → Counters) : Act Unit := modify (Machine.mapCounters f)

/-- **A number as a word**, or a fault where it does not fit. -/
def word (n : Nat) : Act UInt64 :=
  if n < Geometry.wordLimit then pure (UInt64.ofNat n) else throw .overflow

/-- **Flushes the cache lines of a range.** The range is noted before its
lines are walked, so it is noted too where the walk ends in overflow. -/
def flush (address : UInt64) (len : Nat) : Act Unit := do
  modify (fun m => { m with flushes := m.flushes.push ⟨address, len⟩ })
  if CacheLine.overruns address len then throw .overflow

end Act

end RemoteDisk

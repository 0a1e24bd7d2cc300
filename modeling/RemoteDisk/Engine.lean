import RemoteDisk.Memory
import RemoteDisk.Register
import RemoteDisk.Text.Hex

/-!
# The copying engine

The engine of an emulated controller decodes eight registers and copies
between local memory and a window of remote memory. What it does when a
transfer is started is a matter of its `Behavior`: it may copy at once, copy
later, drop the transfer, or finish without copying. A list of behaviours
can be laid out ahead, one of which each start uses up.

A transfer that is to be copied later is due at a point of the engine's own
time, which counts microseconds and moves only when something waits for it.

`Window.locate` decides where a range lies. A range that starts inside the
window has to end inside it; any other address but zero is local.
-/

namespace RemoteDisk

/-- **Remote memory as the bus sees it**: `size` bytes from `base` on. -/
structure Window where
  /-- The bus address of the first byte. -/
  base : UInt64 := 0
  /-- How many bytes there are. -/
  size : Nat := 0
  /-- The bytes, counted from the start of the window. -/
  memory : Memory := {}

/-- Where a range of bus addresses lies. -/
inductive Target where
  /-- In the window, from this offset on. -/
  | remote (offset : Nat)
  /-- In local memory, from this address on. -/
  | nearby (address : Nat)
  /-- Nowhere the engine can reach. -/
  | invalid
  deriving Repr, DecidableEq

/-- **Where the `len` bytes from an address on lie.** -/
def Window.locate (w : Window) (address : UInt64) (len : Nat) : Target :=
  if w.base ≤ address ∧ address.toNat - w.base.toNat < w.size then
    let offset := address.toNat - w.base.toNat
    if offset + len ≤ w.size then .remote offset else .invalid
  else if address = 0 then .invalid
  else .nearby address.toNat

/-- What the engine does when a transfer is started. -/
inductive Behavior where
  /-- Copy and finish before the start returns. -/
  | immediate
  /-- Copy and finish later, after so many microseconds. -/
  | deferred (us : UInt64)
  /-- Drop the transfer: no copy, no status, no interrupt. -/
  | hang
  /-- Finish without copying, with further status bits set. -/
  | fault (bits : UInt32)
  deriving Repr, DecidableEq, Inhabited

/-- **A transfer as it was programmed.** -/
structure Transfer where
  /-- The bus address bytes come from. -/
  source : UInt64
  /-- The bus address bytes go to. -/
  destination : UInt64
  /-- How many bytes. -/
  length : UInt64
  deriving Repr, DecidableEq, Inhabited

/-- The transfer as it stands in the journal. -/
def Transfer.text (t : Transfer) : String :=
  "src=" ++ Hex.address t.source.toNat ++ " dst=" ++ Hex.address t.destination.toNat ++ " len="
    ++ toString t.length.toNat

/-- **A transfer that was put off.** -/
structure Postponed where
  /-- When it is due, in microseconds of the engine's time. -/
  due : Nat
  /-- What is to be copied. -/
  transfer : Transfer
  deriving Repr, DecidableEq, Inhabited

/-- **The engine of an emulated controller.** -/
structure Engine where
  /-- The register words. -/
  registers : Vector UInt32 8 := Vector.replicate 8 0
  /-- The status bits a finished transfer shows. -/
  doneBits : UInt32 := 0
  /-- What the next start does. -/
  behavior : Behavior := .immediate
  /-- Behaviours laid out ahead: each start takes the first and keeps it. -/
  upcoming : List Behavior := []
  /-- The transfers started so far. -/
  log : Array Transfer := #[]
  /-- Whether a transfer is running. -/
  busy : Bool := false
  /-- Whether a start was ever written while a transfer was running. -/
  overlapped : Bool := false
  /-- The engine's time, in microseconds. -/
  elapsed : Nat := 0
  /-- Transfers that are still to be copied, the first of them due first. -/
  pending : List Postponed := []

namespace Engine

/-- The status bit that tells of a range outside all memory. -/
def busError : UInt32 := 0x80000000

/-- The longest buffer that can be allocated. -/
def longestBuffer : Nat := 0x7fffffffffffffff

/-- The word at an offset; there is none past the last register. -/
def read (e : Engine) (offset : Nat) : UInt32 := (e.registers[offset / 4]?).getD 0

/-- The engine with the word at an offset replaced. -/
def set (e : Engine) (offset : Nat) (value : UInt32) : Engine :=
  { e with registers := e.registers.setIfInBounds (offset / 4) value }

/-- The contents of one register. -/
def get (e : Engine) (r : Register) : UInt32 := e.read r.offset

/-- The status register replaced. -/
def setStatus (e : Engine) (value : UInt32) : Engine := e.set Register.status.offset value

/-- **The transfer the registers describe.** -/
def programmed (e : Engine) : Transfer where
  source := Halves.join (e.get .sourceLow) (e.get .sourceHigh)
  destination := Halves.join (e.get .destinationLow) (e.get .destinationHigh)
  length := Halves.join (e.get .lengthLow) (e.get .lengthHigh)

/-- **Whether a write starts a transfer**: the start bit, at the control
register's own offset. -/
def starts (offset : Nat) (value : UInt32) : Bool :=
  offset == Register.control.offset && value &&& Register.startBit != 0

/-- The engine with the next of the behaviours laid out ahead taken. -/
def takeBehavior (e : Engine) : Engine :=
  match e.upcoming with
  | [] => e
  | next :: rest => { e with behavior := next, upcoming := rest }

/-- **The engine as a start leaves it**: the status cleared, an overlap
noted, and the transfer in the log. -/
def started (e : Engine) (t : Transfer) : Engine :=
  { e.takeBehavior.setStatus 0 with
    overlapped := e.overlapped || e.busy
    busy := true
    log := e.log.push t }

/-- **A transfer put off** for some microseconds from now, behind those that
are due no later. -/
def defer (e : Engine) (us : UInt64) (t : Transfer) : Engine :=
  let due := e.elapsed + us.toNat
  { e with pending :=
      e.pending.takeWhile (fun p => p.due ≤ due) ++ ⟨due, t⟩
        :: e.pending.dropWhile (fun p => p.due ≤ due) }

/-- Time that passes. -/
def elapse (e : Engine) (us : Nat) : Engine := { e with elapsed := e.elapsed + us }

/-- **The first of the transfers put off taken out**, no earlier than it is
due. -/
def takePostponed? (e : Engine) : Option (Transfer × Engine) :=
  match e.pending with
  | [] => none
  | p :: rest => some (p.transfer, { e with elapsed := max e.elapsed p.due, pending := rest })

/-- Whether a transfer is due. -/
def isDue (e : Engine) : Bool := e.pending.any (fun p => p.due ≤ e.elapsed)

end Engine

end RemoteDisk

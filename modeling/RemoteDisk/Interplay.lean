import RemoteDisk.Channel

/-!
# Worker, engine and interrupts step by step

Where the engine finishes a transfer by itself, on a thread of its own, what
it does falls between the steps of the worker that started the transfer, and
interrupts fall between the steps of both. Here the parts are taken one step
at a time. The worker describes a transfer register by register, empties the
slot, sets the start bit and looks for the end of the transfer until it finds
it; the engine copies a transfer that was put off, publishes the status,
becomes free and raises the wire. Any step may come next that can come next
(`Interplay.step`), and transfers that were put off may be copied in any
order. Deadlines do not occur, so a worker that finds nothing looks again.

What was copied and what the worker has come back with is kept beside the
machine.
-/

namespace RemoteDisk

/-- **How a transfer that is over has ended**: with an error where the status
register shows one of the error bits. Where there are none to look for, the
register is not read. -/
def Machine.conclude (m : Machine) : Except TransferError Unit × Machine :=
  if m.channel.errorMask = 0 then (.ok (), m)
  else
    let (status, left) := m.readStatus
    (if Status.shows status m.channel.errorMask then .error (.engine status) else .ok (), left)

/-- **Where the worker stands** with the transfer of a chunk. -/
inductive Worker where
  /-- Between two chunks. -/
  | idle
  /-- The transfer is being described: these register writes are left. -/
  | describing (t : Transfer) (left : List (Register × UInt32))
  /-- The slot is empty, and the start bit is about to be set. -/
  | armed (t : Transfer)
  /-- The slot is about to be looked at. -/
  | waiting (t : Transfer)
  /-- The slot was empty, and the status register is about to be read. -/
  | peeking (t : Transfer)
  /-- The transfer was seen to be over. -/
  | noticed (t : Transfer)
  deriving Repr, DecidableEq

/-- **What the worker comes back with**, and what the engine had been started
with and had copied by then. -/
structure Report where
  /-- The transfer of the chunk. -/
  transfer : Transfer
  /-- How it ended. -/
  result : Except TransferError Unit
  /-- All transfers the engine was started with. -/
  started : List Transfer
  /-- The transfers it was done copying, oldest first, and whether both of
  their ranges could be reached. -/
  copied : List (Transfer × Bool)

/-- **Worker and engine side by side**, at some point between two steps. -/
structure Interplay where
  /-- The machine both work on. -/
  machine : Machine
  /-- Where the worker stands. -/
  worker : Worker := .idle
  /-- The transfers that are copied, or could not be, and whose status is
  still to be published. -/
  unpublished : List Bool := []
  /-- How often the status is published and the engine still to become
  free. -/
  unreleased : Nat := 0
  /-- How often the engine has become free and the wire is still to be
  raised. -/
  unraised : Nat := 0
  /-- What was copied so far, oldest first. -/
  copied : List (Transfer × Bool) := []
  /-- What the worker came back with so far, oldest first. -/
  reports : List Report := []

/-- A step of the worker, of the engine or of somebody outside. -/
inductive Move where
  /-- The worker takes up a transfer. -/
  | begin (t : Transfer)
  /-- The worker does what comes next. -/
  | work
  /-- The engine copies one of the transfers that were put off. -/
  | copy (i : Nat)
  /-- The engine publishes the status of a transfer. -/
  | publish (i : Nat)
  /-- The engine becomes free. -/
  | release
  /-- The engine raises the wire. -/
  | raise
  /-- Somebody else raises the wire. -/
  | interrupt
  deriving Repr, DecidableEq

namespace Interplay

/-- **What the worker does next.** -/
def work (s : Interplay) : Option Interplay :=
  match s.worker with
  | .idle => none
  | .describing t ((r, value) :: left) =>
    some { s with
      machine := (Act.writeRegister r.offset value s.machine).2
      worker := .describing t left }
  | .describing t [] => some { s with machine := s.machine.resetSignal, worker := .armed t }
  | .armed t => some { s with machine := (Act.setStart s.machine).2, worker := .waiting t }
  | .waiting t =>
    let (found, machine) := s.machine.takeSignal
    let further := if machine.channel.mode = .interrupt then .waiting t else .peeking t
    some { s with machine, worker := if found then .noticed t else further }
  | .peeking t =>
    let (status, machine) := s.machine.readStatus
    some { s with
      machine
      worker := if Status.shows status machine.channel.doneMask then .noticed t else .waiting t }
  | .noticed t =>
    let (result, machine) := s.machine.conclude
    some { s with
      machine
      worker := .idle
      reports := s.reports ++ [⟨t, result, machine.transfers.toList, s.copied⟩] }

/-- **The engine copies a transfer that was put off.** Where no buffer can be
allocated for it the transfer is lost. -/
def copy (i : Nat) (s : Interplay) : Option Interplay := do
  let postponed ← s.machine.pending[i]?
  match Act.copy postponed.transfer
      (s.machine.mapEngine fun e => { e with pending := e.pending.eraseIdx i }) with
  | (.ok reached, machine) =>
    some { s with
      machine
      unpublished := s.unpublished ++ [reached]
      copied := s.copied ++ [(postponed.transfer, reached)] }
  | (.error _, machine) => some { s with machine }

/-- The engine publishes the status of a transfer it is done copying. -/
def publish (i : Nat) (s : Interplay) : Option Interplay := do
  let reached ← s.unpublished[i]?
  some { s with
    machine := s.machine.publish (if reached then 0 else Engine.busError)
    unpublished := s.unpublished.eraseIdx i
    unreleased := s.unreleased + 1 }

/-- **One step**, where it can come next. -/
def step (s : Interplay) : Move → Option Interplay
  | .begin t =>
    if s.worker = .idle then
      some { s with
        machine := s.machine.report .trace ("[DMA] " ++ t.text)
        worker := .describing t (Register.program t.source t.destination t.length) }
    else none
  | .work => s.work
  | .copy i => s.copy i
  | .publish i => s.publish i
  | .release =>
    if s.unreleased = 0 then none
    else some { s with
      machine := s.machine.release
      unreleased := s.unreleased - 1
      unraised := s.unraised + 1 }
  | .raise =>
    if s.unraised = 0 then none
    else some { s with machine := s.machine.raise.2, unraised := s.unraised - 1 }
  | .interrupt => some { s with machine := s.machine.raise.2 }

/-- **A run**: one step after another, each of them allowed where it comes. -/
def run (allowed : Interplay → Move → Bool) (moves : List Move) (s : Interplay) :
    Option Interplay :=
  moves.foldlM (fun s move => if allowed s move then s.step move else none) s

/-! ## Untimely looks at the status register -/

/-- Whether the status register shows a done bit. -/
def shows (s : Interplay) : Bool := Status.shows s.machine.status s.machine.channel.doneMask

/-- Whether a step calls who listens to the wire. -/
def calls : Move → Bool
  | .raise | .interrupt => true
  | .begin _ | .work | .copy _ | .publish _ | .release => false

/-- Whether a step looks for a done bit. -/
def looks (s : Interplay) (move : Move) : Bool :=
  calls move || match s.worker, move with
    | .peeking _, .work => true
    | _, _ => false

/-- **A stale claim**: between the emptying of the slot and the start bit, the
handler is called while the status register still shows a done bit of an
earlier transfer. -/
def stale (s : Interplay) (move : Move) : Bool :=
  match s.worker with
  | .armed _ => calls move && s.shows
  | _ => false

/-- **A hasty look**: a done bit is found that is published already, while the
engine is still to become free. -/
def hasty (s : Interplay) (move : Move) : Bool :=
  s.unreleased ≠ 0 && s.looks move && s.shows

end Interplay

end RemoteDisk

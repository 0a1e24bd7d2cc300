import RemoteDisk.Machine.Time

/-!
# One transfer at a time

A transfer is described to the controller, the completion slot is emptied,
and only then the start bit is written, so that a completion raised at once
is not lost. Waiting for it follows one of two strategies: with interrupts
the slot alone is watched; with polling the status register is read too,
but only when the slot is empty, and a pause is made between looks.

Both strategies look once more after the deadline has passed. A wait that
timed out touches no register; one that ended well reads the status register
once more where there are error bits to look for.
-/

namespace RemoteDisk

/-- How a wait for a transfer ended. -/
inductive Outcome where
  | ready
  | timedOut
  deriving Repr, DecidableEq, Inhabited

namespace Act

/-- Waits for the completion slot alone. -/
def awaitSignal (d : Deadline) : (fuel : Nat) → Act Outcome
  | 0 => throw .endless
  | fuel + 1 => do
    if ← takeSignal then return .ready
    if ← expired d then
      return if ← takeSignal then .ready else .timedOut
    awaitSignal d fuel

/-- **Whether the transfer is over**: the slot is looked at first, and the
status register only where the slot is empty. -/
def ready : Act Bool := do
  if ← takeSignal then return true
  let status ← readStatus
  return Status.shows status (← get).channel.doneMask

/-- Waits for the slot or the status register, pausing between looks. -/
def awaitStatus (intervalUs : UInt64) (d : Deadline) : (fuel : Nat) → Act Outcome
  | 0 => throw .endless
  | fuel + 1 => do
    if ← ready then return .ready
    if ← expired d then
      return if ← ready then .ready else .timedOut
    delay intervalUs
    awaitStatus intervalUs d fuel

/-- **Waits for a completion**, for so many milliseconds. -/
def awaitCompletion (ms : UInt64) : Act Outcome := do
  let d ← afterMs ms
  match (← get).channel.mode with
  | .interrupt => awaitSignal d (← patience)
  | .polling intervalUs => awaitStatus intervalUs d (← patience)

/-- **Starts a transfer.** The slot is emptied after the transfer was
described and before the start bit is set. -/
def launch (source destination length : UInt64) : Act Unit := do
  report .trace ("[DMA] " ++ (Transfer.mk source destination length).text)
  program source destination length
  modify Machine.resetSignal
  setStart

/-- **Waits for the transfer that was started.** -/
def wait (ms : UInt64) : Act (Except TransferError Unit) := do
  match ← awaitCompletion ms with
  | .timedOut => return .error .timeout
  | .ready =>
    let mask := (← get).channel.errorMask
    if mask = 0 then return .ok ()
    let status ← readStatus
    return if Status.shows status mask then .error (.engine status) else .ok ()

/-- **A copy between two bus addresses**, started and waited for. -/
def transfer (source destination length ms : UInt64) : Act (Except TransferError Unit) := do
  launch source destination length
  wait ms

end Act

end RemoteDisk

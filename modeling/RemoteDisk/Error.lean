import RemoteDisk.Text.Hex

/-!
# What can go wrong

Four families of errors, one per layer: bringing a disk up
(`ResourceError`), moving bytes (`TransferError`), serving a request
(`BlockError`) and answering a diagnostic command (`DiagnosticError`). Each
error has a number within its family, a description and the error number
the caller of the block layer sees; `Identity.code` joins family and number,
and a message is the code, the description and, in parentheses, the cause.

Callers that address the disk by blocks see `StorageError` instead, which
tells bad arguments from failed transfers and no more.

A `Fault` is different: it is the end of a computation that left the range
of its numbers or the bounds of a buffer, or that can never finish. What was
done before it stays done.
-/

namespace RemoteDisk

/-- **The end of a computation that cannot go on.** -/
inductive Fault where
  /-- A sum or product does not fit its word. -/
  | overflow
  /-- A range reaches past the end of its buffer. -/
  | outOfBounds
  /-- A buffer is larger than any that can be allocated. -/
  | allocation
  /-- More memory than there is, which ends the whole program. -/
  | exhausted
  /-- A wait that nothing will ever end. -/
  | endless
  deriving Repr, DecidableEq, Inhabited

/-- What identifies an error to a caller. -/
structure Identity where
  /-- The family the error belongs to. -/
  family : Nat
  /-- The error's number within its family. -/
  number : Nat
  /-- What happened, in words. -/
  description : String
  /-- The error number of the block layer. -/
  errno : Nat

/-- **The code of an error**: the family in the high byte, the number in
the low one. -/
def Identity.code (i : Identity) : Nat := i.family * 256 + i.number

/-- The code with four upper-case digits, then the description. -/
def Identity.message (i : Identity) : String :=
  "E" ++ String.ofList ((Hex.fixed 4 i.code).map Char.toUpper) ++ ": " ++ i.description

/-- Why a disk could not be brought up. -/
inductive ResourceError where
  | missingRegisterWindow
  | missingIrq
  | bufferAllocFailed
  | invalidSize
  deriving Repr, DecidableEq

namespace ResourceError

/-- All resource errors. -/
def all : List ResourceError :=
  [missingRegisterWindow, missingIrq, bufferAllocFailed, invalidSize]

/-- The error's name. -/
def name : ResourceError → String
  | missingRegisterWindow => "MissingRegisterWindow"
  | missingIrq => "MissingIrq"
  | bufferAllocFailed => "BufferAllocFailed"
  | invalidSize => "InvalidSize"

/-- Family, number, description and error number. -/
def identity : ResourceError → Identity
  | missingRegisterWindow => ⟨1, 1, "Register window not provided", 19⟩
  | missingIrq => ⟨1, 2, "Interrupt line not provided", 6⟩
  | bufferAllocFailed => ⟨1, 3, "Bounce buffer allocation failed", 12⟩
  | invalidSize => ⟨1, 4, "Device size is zero or not sector aligned", 22⟩

/-- The error as it is reported. -/
def message (e : ResourceError) : String := e.identity.message

end ResourceError

/-- Why a transfer failed. -/
inductive TransferError where
  | timeout
  /-- The engine finished with one of its error bits set. -/
  | engine (status : UInt32)
  deriving Repr, DecidableEq

namespace TransferError

/-- Family, number, description and error number. -/
def identity : TransferError → Identity
  | timeout => ⟨2, 1, "DMA transfer timed out", 110⟩
  | engine _ => ⟨2, 2, "DMA engine reported an error", 5⟩

/-- An engine's status as it is reported. -/
def statusText (status : UInt32) : String := "status " ++ Hex.word status

/-- The error as it is reported, an engine's with its status. -/
def message (e : TransferError) : String :=
  match e with
  | timeout => e.identity.message
  | engine status => e.identity.message ++ " (" ++ statusText status ++ ")"

end TransferError

/-- Why a request failed. -/
inductive BlockError where
  /-- The operation is neither a read nor a write. -/
  | unsupported
  /-- A chunk's transfer failed. -/
  | transfer (cause : TransferError)
  /-- The request reaches past the last sector. -/
  | outOfRange
  deriving Repr, DecidableEq

namespace BlockError

/-- Family, number, description and error number. -/
def identity : BlockError → Identity
  | unsupported => ⟨3, 1, "Unsupported block operation", 5⟩
  | transfer _ => ⟨3, 2, "Block I/O failed", 5⟩
  | outOfRange => ⟨3, 3, "Request beyond device capacity", 5⟩

/-- The error as it is reported, a failed transfer with its cause. -/
def message (e : BlockError) : String :=
  match e with
  | transfer cause => e.identity.message ++ " (" ++ cause.message ++ ")"
  | unsupported | outOfRange => e.identity.message

end BlockError

/-- Why a diagnostic command was refused. -/
inductive DiagnosticError where
  | unknownCommand
  | bufferTooSmall
  deriving Repr, DecidableEq

namespace DiagnosticError

/-- The error's name. -/
def name : DiagnosticError → String
  | unknownCommand => "UnknownCommand"
  | bufferTooSmall => "BufferTooSmall"

/-- Family, number, description and error number. -/
def identity : DiagnosticError → Identity
  | unknownCommand => ⟨4, 1, "Unknown diagnostic command", 25⟩
  | bufferTooSmall => ⟨4, 2, "Output buffer too small", 22⟩

/-- The error as it is reported. -/
def message (e : DiagnosticError) : String := e.identity.message

end DiagnosticError

/-- What a caller that addresses the disk by blocks is told. -/
inductive StorageError where
  | notReady
  /-- A transfer failed. -/
  | failed
  | invalidBlock
  | invalidBufferSize
  deriving Repr, DecidableEq

namespace StorageError

/-- All storage errors. -/
def all : List StorageError := [notReady, failed, invalidBlock, invalidBufferSize]

/-- The error's name. -/
def name : StorageError → String
  | notReady => "NotReady"
  | failed => "IoError"
  | invalidBlock => "InvalidBlock"
  | invalidBufferSize => "InvalidBufferSize"

/-- The error as it is reported. -/
def message : StorageError → String
  | notReady => "device not ready"
  | failed => "I/O error"
  | invalidBlock => "block out of range"
  | invalidBufferSize => "buffer size is not a multiple of the block size"

/-- **Every way in which a request fails is one I/O error** to a caller
that addresses the disk by blocks. -/
def ofBlockError (_ : BlockError) : StorageError := .failed

end StorageError

end RemoteDisk

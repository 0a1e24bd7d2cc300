import RemoteDisk.Device

/-!
# Diagnostic commands

The size of the disk and its counters are asked for by command numbers. A
number packs four fields into 32 bits: which way data goes, how many bytes,
a letter for the family of commands and the command's place in it. A buffer
too small for the answer is refused before the command runs, so that
counters are never reset without anyone being told.
-/

namespace RemoteDisk

namespace CommandNumber

/-- The field that says which way data goes, in a number that moves none. -/
def noData : UInt32 := 0

/-- The same field in a number whose answer the caller reads. -/
def answered : UInt32 := 2

/-- **Four fields packed into one number.** -/
def encode (direction : UInt32) (family place : UInt8) (size : Nat) : UInt32 :=
  (direction <<< 30) ||| (UInt32.ofNat size <<< 16) ||| (family.toUInt32 <<< 8)
    ||| place.toUInt32

/-- The number of a command without data. -/
def plain (family place : UInt8) : UInt32 := encode noData family place 0

/-- The number of a command whose answer has so many bytes. -/
def reading (family place : UInt8) (size : Nat) : UInt32 := encode answered family place size

end CommandNumber

/-- **A diagnostic command.** -/
inductive Diagnostic where
  /-- The size of the disk in bytes. -/
  | getSize
  /-- The five counters. -/
  | getStats
  /-- The five counters set to zero. -/
  | resetStats
  deriving Repr, DecidableEq

namespace Diagnostic

/-- The letter of the disk's command numbers. -/
def family : UInt8 := 79

/-- All commands, in the order of their places. -/
def all : List Diagnostic := [getSize, getStats, resetStats]

/-- The command's name. -/
def name : Diagnostic → String
  | getSize => "GetSize"
  | getStats => "GetStats"
  | resetStats => "ResetStats"

/-- The command with a given name. -/
def ofName? (name : String) : Option Diagnostic := all.find? (fun c => c.name == name)

/-- Bytes in the answer of a command. -/
def answerSize : Diagnostic → Nat
  | getSize => 8
  | getStats => 40
  | resetStats => 0

/-- **The number of a command.** -/
def number : Diagnostic → UInt32
  | getSize => CommandNumber.reading family 1 getSize.answerSize
  | getStats => CommandNumber.reading family 2 getStats.answerSize
  | resetStats => CommandNumber.plain family 3

/-- **The command with a given number.** -/
def ofNumber? (n : UInt32) : Except DiagnosticError Diagnostic :=
  match all.find? (fun c => c.number == n) with
  | some c => .ok c
  | none => .error .unknownCommand

end Diagnostic

/-- **What a diagnostic command answers.** -/
inductive Answer where
  | size (bytes : UInt64)
  | stats (counters : Counters)
  | reset
  deriving Repr, DecidableEq

/-- The answer as bytes, each number eight bytes with the least significant
first. -/
def Answer.bytes : Answer → ByteArray
  | size n => Bytes.ofCounter n
  | stats counters => counters.bytes
  | reset => ByteArray.empty

namespace Device

/-- **Runs a diagnostic command.** -/
def diagnose (d : Device) (c : Diagnostic) : Act Answer := do
  match c with
  | .getSize => return .size (← Act.word d.sizeBytes)
  | .getStats => return .stats (← get).counters
  | .resetStats =>
    resetCounters
    report .info "statistics reset"
    return .reset

/-- Bytes copied to the start of the caller's buffer, which has to have room for
them. -/
def copyOut (bytes : ByteArray) : StateT ByteArray Act Unit := do
  if (← get).size < bytes.size then throw Fault.outOfBounds
  modify (Bytes.overlay bytes)

/-- **Runs the command with a given number** on the caller's buffer, and comes
back with the length of the answer. The table of sizes decides whether there is
room; what is copied is the answer. -/
def command (d : Device) (number : UInt32) : StateT ByteArray Act (Except DiagnosticError Nat) := do
  match Diagnostic.ofNumber? number with
  | .error e => return .error e
  | .ok c =>
    if (← get).size < c.answerSize then return .error .bufferTooSmall
    let answer := (← d.diagnose c).bytes
    copyOut answer
    return .ok answer.size

/-- A command whose result, where it is not refused, comes together with the
buffer. -/
def ioctl (d : Device) (number : UInt32) (out : ByteArray) :
    Act (Except DiagnosticError (Nat × ByteArray)) := do
  let (result, out) ← (d.command number).run out
  return result.map (·, out)

end Device

end RemoteDisk

import RemoteDisk.Command.Run

/-!
# The command line

Runs the command its arguments name, writes what it answers and ends with
its exit code.
-/

namespace RemoteDisk

/-- The exit code a shell shows for a program that was ended by force. -/
def endedByForce : Nat := 134

end RemoteDisk

/-- Writes the answer of the command the arguments name. -/
def main (arguments : List String) : IO UInt32 := do
  let reaction := RemoteDisk.Command.runArguments arguments
  IO.print reaction.output
  match reaction.error with
  | none => pure ()
  | some text => IO.eprint text
  return UInt32.ofNat (reaction.exitCode.getD RemoteDisk.endedByForce)

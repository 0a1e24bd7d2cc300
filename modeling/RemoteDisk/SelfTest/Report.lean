import RemoteDisk.Error

/-!
# Reports of the self test

The self test has seven steps, and its report tells the outcome of each. A
comparison that fails is told by how many words were wrong and by the first
ten of them; the steps after the one that failed were skipped.
-/

namespace RemoteDisk.SelfTest

/-- **The steps of the self test.** -/
inductive Step where
  | writeRemote
  | readRemote
  | prepareLocal
  | localToLocal
  | localToRemote
  | remoteToLocal
  | finalCheck
  deriving Repr, DecidableEq

namespace Step

/-- All steps, in the order in which they are taken. -/
def all : List Step :=
  [writeRemote, readRemote, prepareLocal, localToLocal, localToRemote, remoteToLocal,
    finalCheck]

/-- The step's number, from one. -/
def number : Step → Nat
  | writeRemote => 1
  | readRemote => 2
  | prepareLocal => 3
  | localToLocal => 4
  | localToRemote => 5
  | remoteToLocal => 6
  | finalCheck => 7

/-- The step's title. -/
def title : Step → String
  | writeRemote => "CPU write to OmniXtend"
  | readRemote => "CPU read from OmniXtend"
  | prepareLocal => "Prepare local buffers"
  | localToLocal => "DMA local to local"
  | localToRemote => "DMA local to OmniXtend"
  | remoteToLocal => "DMA OmniXtend to local"
  | finalCheck => "Final CPU verification"

end Step

/-- Bytes that every step moves or compares. -/
def testSize : Nat := 256

/-- Words that every step moves or compares. -/
def testWords : Nat := testSize / 4

/-- Wrong words that a report tells one by one. -/
def maxReported : Nat := 10

/-- A word that differs from what it should be. -/
structure Mismatch where
  /-- Which of the words it is. -/
  index : Nat
  /-- What it should be. -/
  expected : UInt32
  /-- What it is. -/
  actual : UInt32
  deriving Repr, DecidableEq

/-- **The wrong words of a comparison**: how many, and the first few. -/
structure Mismatches where
  /-- How many words are wrong. -/
  count : Nat := 0
  /-- The first of them, in order. -/
  reported : List Mismatch := []
  deriving Repr, DecidableEq

namespace Mismatches

/-- One more wrong word, which is told where there is room left. -/
def push (ms : Mismatches) (m : Mismatch) : Mismatches where
  count := ms.count + 1
  reported := if ms.count < maxReported then ms.reported ++ [m] else ms.reported

end Mismatches

/-- **How a step ended.** -/
inductive StepOutcome where
  | passed
  /-- A comparison failed. -/
  | mismatch (ms : Mismatches)
  /-- A transfer failed. -/
  | transfer (e : TransferError)
  /-- The step was not taken, because an earlier one failed. -/
  | skipped
  deriving Repr, DecidableEq

namespace StepOutcome

/-- The outcome in one word. -/
def verdict : StepOutcome → String
  | passed => "PASSED"
  | mismatch _ | transfer _ => "FAILED"
  | skipped => "SKIPPED"

end StepOutcome

/-- **The report of a self test**: its steps and how each of them ended. -/
structure Report where
  /-- The outcomes, step by step. -/
  outcomes : List (Step × StepOutcome)
  deriving Repr, DecidableEq

namespace Report

/-- Whether every step passed. -/
def passed (r : Report) : Bool := r.outcomes.all (fun o => o.2 = .passed)

/-- **The first step that did not pass**, and how it ended. -/
def firstFailure? (r : Report) : Option (Step × StepOutcome) :=
  r.outcomes.find? (fun o => o.2 ≠ .passed)

/-- Text filled up with blanks to a width. -/
def padTo (width : Nat) (text : String) : String :=
  text ++ String.ofList (List.replicate (width - text.length) ' ')

/-- A number of two decimal digits at least. -/
def twoDigits (n : Nat) : String := if n < 10 then "0" ++ toString n else toString n

/-- The lines that tell a wrong word. -/
def mismatchLine (m : Mismatch) : String :=
  "  [" ++ twoDigits m.index ++ "] MISMATCH: expected " ++ Hex.word m.expected ++ ", got "
    ++ Hex.word m.actual ++ "\n"

/-- What follows the line of a step. -/
def detail : StepOutcome → String
  | .passed | .skipped => ""
  | .mismatch ms =>
    String.join (ms.reported.map mismatchLine) ++ "  " ++ toString ms.count ++ " out of "
      ++ toString testWords ++ " words mismatched\n"
  | .transfer e => "  " ++ e.message ++ "\n"

/-- The lines of one step. -/
def stepText (step : Step) (outcome : StepOutcome) : String :=
  "Step " ++ toString step.number ++ ": " ++ padTo 28 step.title ++ " " ++ outcome.verdict
    ++ "\n" ++ detail outcome

/-- **The report as text.** -/
def text (r : Report) : String := String.join (r.outcomes.map (fun o => stepText o.1 o.2))

end Report

end RemoteDisk.SelfTest

import RemoteDisk.Channel
import RemoteDisk.Processor
import RemoteDisk.SelfTest.Report

/-!
# The self test

Seven steps that try out a controller before it is given a disk: the
processor writes a pattern to remote memory and reads it back, fills three
local buffers, and then the engine copies between local buffers, from a
local buffer to remote memory and back, each copy being checked by the
processor where it arrives. The first step that fails ends the test.

The three patterns differ in their top byte, and the remote range the engine
writes to lies clear of the one the processor wrote.
-/

namespace RemoteDisk.SelfTest

/-- How far past the start of remote memory the engine copies to. -/
def remoteOffset : Nat := 0x1000

/-- The first word of the pattern in remote memory. -/
def remotePattern : UInt32 := 0xAA000000

/-- The first word of the pattern in the first local buffer. -/
def firstPattern : UInt32 := 0xBB000000

/-- The first word of the pattern in the second local buffer. -/
def secondPattern : UInt32 := 0xCC000000

/-- **The addresses a self test works on.** -/
structure Layout where
  /-- Where remote memory starts. -/
  remoteBase : UInt64
  /-- The buffer that is copied to the third one. -/
  first : UInt64
  /-- The buffer that is copied to remote memory. -/
  second : UInt64
  /-- The buffer that receives copies. -/
  third : UInt64
  deriving Repr, DecidableEq

/-- Word `i` of a pattern. -/
def patternWord (base : UInt32) (i : Nat) : UInt32 := base + UInt32.ofNat i

/-- The address of word `i` from an address on. -/
def wordAddress (address : UInt64) (i : Nat) : Act UInt64 := Act.word (address.toNat + 4 * i)

/-- Writes words one by one. -/
def fillWords (address : UInt64) (word : Nat → UInt32) : List Nat → Act Unit
  | [] => pure ()
  | i :: rest => do
    Act.storeWord (← wordAddress address i) (word i)
    fillWords address word rest

/-- **Fills the words of a test range.** -/
def fill (address : UInt64) (word : Nat → UInt32) : Act Unit :=
  fillWords address word (List.range testWords)

/-- Compares words one by one, and adds those that are wrong. -/
def compareWords (address : UInt64) (base : UInt32) : List Nat → Mismatches → Act Mismatches
  | [], ms => pure ms
  | i :: rest, ms => do
    let actual ← Act.loadWord (← wordAddress address i)
    let expected := patternWord base i
    compareWords address base rest
      (if actual = expected then ms else ms.push ⟨i, expected, actual⟩)

/-- **Compares a test range with a pattern.** -/
def verify (address : UInt64) (base : UInt32) : Act StepOutcome := do
  let ms ← compareWords address base (List.range testWords) {}
  return if ms.count = 0 then .passed else .mismatch ms

/-- **A copy by the engine**: the source is flushed before it, the
destination after it has ended well. -/
def copyStep (source destination : UInt64) : Act StepOutcome := do
  Act.report .info ("[DMA] " ++ Hex.wide source.toNat ++ " -> " ++ Hex.wide destination.toNat
    ++ " (" ++ toString testSize ++ " bytes)")
  Act.flush source testSize
  match ← Act.transfer source destination (UInt64.ofNat testSize) Geometry.timeoutMs with
  | .ok () =>
    Act.flush destination testSize
    return .passed
  | .error e =>
    Act.report .error ("[DMA] " ++ e.message)
    return .transfer e

/-- A copy by the engine and a look at what arrived. -/
def copyAndVerify (source destination : UInt64) (base : UInt32) : Act StepOutcome := do
  match ← copyStep source destination with
  | .passed => verify destination base
  | other => return other

/-- **Takes one step.** The engine copies to and from `target` in remote
memory. -/
def takeStep (layout : Layout) (target : UInt64) : Step → Act StepOutcome
  | .writeRemote => do
    fill layout.remoteBase (patternWord remotePattern)
    Act.flush layout.remoteBase testSize
    return .passed
  | .readRemote => verify layout.remoteBase remotePattern
  | .prepareLocal => do
    fill layout.first (patternWord firstPattern)
    fill layout.second (patternWord secondPattern)
    fill layout.third (fun _ => 0)
    Act.flush layout.first testSize
    Act.flush layout.second testSize
    Act.flush layout.third testSize
    return .passed
  | .localToLocal => copyAndVerify layout.first layout.third firstPattern
  | .localToRemote => do
    fill layout.third (fun _ => 0)
    Act.flush layout.third testSize
    copyStep layout.second target
  | .remoteToLocal => copyAndVerify target layout.third secondPattern
  | .finalCheck => verify target secondPattern

/-- **Takes steps in order** until one of them fails; the rest is skipped. -/
def takeSteps (layout : Layout) (target : UInt64) :
    List Step → Act (List (Step × StepOutcome))
  | [] => pure []
  | step :: rest => do
    Act.report .info ("STEP " ++ toString step.number ++ ": " ++ step.title)
    let outcome ← takeStep layout target step
    if outcome = .passed then
      Act.report .info ("[SUCCESS] step " ++ toString step.number ++ " passed")
      return (step, outcome) :: (← takeSteps layout target rest)
    else
      Act.report .error ("[FAIL] step " ++ toString step.number ++ " failed")
      return (step, outcome) :: rest.map (fun s => (s, .skipped))

/-- **Runs the self test.** -/
def run (layout : Layout) : Act Report := do
  let target ← Act.word (layout.remoteBase.toNat + remoteOffset)
  return ⟨← takeSteps layout target Step.all⟩

end RemoteDisk.SelfTest

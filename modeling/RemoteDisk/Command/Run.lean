import RemoteDisk.Command
import RemoteDisk.Device.Bench
import RemoteDisk.Device.Sectors
import RemoteDisk.SelfTest
import RemoteDisk.Text.Json
import RemoteDisk.Text.WordDump

/-!
# Running commands

A command works on a machine of its own, with an emulated controller and the
clock on the wall, and answers what is written
and how it ends. It may end well, with an error that is told, or in a fault,
which is told by the exit code alone. Where it asks for as much memory as a
computer has in all, it is ended by force and has no exit code.
-/

namespace RemoteDisk

/-- **What a command answers.** -/
structure Reaction where
  /-- The exit code, where the program was not ended by force. -/
  exitCode : Option Nat := some 0
  /-- What is written to the standard output. -/
  output : String := ""
  /-- The error that is told at the end. -/
  error : Option String := none
  deriving Repr, DecidableEq

namespace Reaction

/-- What a command line that names no command ends with. -/
def usage : Reaction := { exitCode := some 2 }

/-- **What a command that ran into a fault ends with.** -/
def faulted : Fault → Reaction
  | .exhausted => { exitCode := none }
  | .overflow | .outOfBounds | .allocation | .endless => { exitCode := some 101 }

/-- **An error**, with what was written before it. -/
def failed (output text : String) : Reaction :=
  { exitCode := some 1, output, error := some ("Error: " ++ text ++ "\n") }

end Reaction

/-- An error's text with its cause. -/
def causedBy (text cause : String) : String := text ++ "\n\nCaused by:\n    " ++ cause

/-- The counters as a command writes them. -/
def Counters.render (c : Counters) (json : Bool) : String :=
  if json then
    Json.object ""
      [("reads", .number c.reads.toNat), ("writes", .number c.writes.toNat),
        ("errors", .number c.errors.toNat), ("timeouts", .number c.timeouts.toNat),
        ("irqs", .number c.irqs.toNat)] ++ "\n"
  else "Stats - " ++ c.text ++ "\n"

namespace Command

/-- The machine a command starts with. -/
def freshMachine : Machine := { clock := Clock.wall }

/-- The engine's behaviour where it takes some time. -/
def deferral (us : UInt64) : Behavior := if us = 0 then .immediate else .deferred us

/-! ## The self test -/

/-- A step of the report as JSON. -/
def stepFields (step : SelfTest.Step) (outcome : SelfTest.StepOutcome) :
    List (String × Json.Value) :=
  let (label, mismatches) := match outcome with
    | .passed => ("passed", 0)
    | .mismatch ms => ("mismatch", ms.count)
    | .transfer e => (e.message, 0)
    | .skipped => ("skipped", 0)
  [("step", .number step.number), ("title", .text step.title), ("outcome", .text label),
    ("mismatches", .number mismatches)]

/-- The words of remote memory that the engine copied to. -/
def copiedWords (address : UInt64) : List Nat → Act (List UInt32)
  | [] => pure []
  | i :: rest => do
    let w ← Act.loadWord (← SelfTest.wordAddress address i)
    return w :: (← copiedWords address rest)

/-- The self test on an emulated controller: its report, and the words it
left in remote memory. -/
def runSelfTest (behavior : Behavior) : Act (Option (SelfTest.Report × List UInt32)) := do
  let base := Geometry.remoteBase
  modify (Machine.emulate base (SelfTest.remoteOffset + SelfTest.testSize) Status.selfTestDone)
  modify (Machine.mapEngine (fun e => { e with behavior }))
  match ← Act.allocateMany 3 SelfTest.testSize with
  | some [a, b, c] =>
    modify (fun m => { m with
      processor := { view := .buffers [a, b, c] }
      channel :=
        { mode := .polling CompletionMode.defaultIntervalUs
          doneMask := Status.selfTestDone } })
    let report ← SelfTest.run ⟨base, a.base, b.base, c.base⟩
    let target ← Act.word (base.toNat + SelfTest.remoteOffset)
    return some (report, ← copiedWords target (List.range SelfTest.testWords))
  | _ => return none

/-- **Runs the self test and tells its report.** -/
def selfTestReaction (deferredUs : UInt64) (hang json : Bool) : Reaction :=
  let behavior := if hang then .hang else deferral deferredUs
  match (runSelfTest behavior freshMachine).1 with
  | .error f => .faulted f
  | .ok none => .failed "" "failed to allocate local buffers"
  | .ok (some (report, words)) =>
    let output :=
      if json then
        Json.objects (report.outcomes.map (fun o => stepFields o.1 o.2)) ++ "\n"
      else
        report.text ++ "OmniXtend @ "
          ++ Hex.address (Geometry.remoteBase.toNat + SelfTest.remoteOffset) ++ ":\n"
          ++ WordDump.render words ++ "\n"
    match report.firstFailure? with
    | none => { output }
    | some (step, _) =>
      .failed output ("scenario failed at step " ++ toString step.number ++ " ("
        ++ step.title ++ ")")

/-! ## The exercise -/

/-- The first word of a round's data, which tells client and round. -/
def seed (id round : Nat) : UInt32 := (UInt32.ofNat id <<< 24) ||| (UInt32.ofNat round <<< 16)

/-- An operation of a command, which may fail with a text. -/
abbrev Task (α : Type) : Type := ExceptT String (ExceptT Fault (StateM Machine)) α

/-- An operation on the machine, as part of a command. -/
def Task.ofAct {α : Type} (act : Act α) : Task α := ExceptT.lift act

/-- A request as part of a command: its outcome and the bytes it
delivered. -/
def Task.serve {α : Type} (serve : Serve α) : Task (α × ByteArray) := ExceptT.mk fun m =>
  let (served, m) := serve.runOn m
  (served.result.map (fun r => .ok (r, served.delivered)), m)

/-- **One round trip of a client**: a write, and a read that must give the
same bytes. -/
def roundTrip (d : Device) (id round : Nat) (sector : UInt64) (len : Nat) : Task Unit := do
  let place := "thread " ++ toString id ++ " round " ++ toString round ++ ": "
  let spot := " at sector " ++ toString sector.toNat
  let data := Bytes.counting (seed id round) len
  let (written, _) ← Task.serve (d.queue (Request.write sector [data]))
  if written = .failed then throw (place ++ "write" ++ spot ++ " failed")
  let (got, back) ← Task.serve (d.queue (Request.read sector [Bytes.fill len 0]))
  if got = .failed then throw (place ++ "read" ++ spot ++ " failed")
  if back.data ≠ data.data then throw (place ++ "data mismatch" ++ spot)

/-- The rounds of a client, `left` of them still to come. -/
def rounds (d : Device) (id : Nat) (sector : UInt64) (len : Nat) :
    (left round : Nat) → Task Unit
  | 0, _ => pure ()
  | left + 1, round => do
    roundTrip d id round sector len
    rounds d id sector len left (round + 1)

/-- The clients one after another, each on sectors of its own. -/
def clients (d : Device) (requests len : Nat) : (left id : Nat) → Task Unit
  | 0, _ => pure ()
  | left + 1, id => do
    rounds d id (UInt64.ofNat (id * (len / Geometry.sectorSize))) len requests 0
    clients d requests len left (id + 1)

/-- The memory of the computer that a command runs on, 32 GiB. It bounds what
is promised at once, since a window takes real memory only where it is
written. -/
def installedMemory : Nat := 0x800000000

/-- **The memory for a disk's window**, which is refused where it would take
all there is. A size no buffer can have is a fault of its own, found when
the disk is brought up. -/
def reserve (size : Nat) : Act Unit :=
  if size ≤ Engine.longestBuffer ∧ installedMemory ≤ size then throw .exhausted
  else pure ()

/-- A disk for a command. -/
def bringUp (config : Config) : Task Device := do
  Task.ofAct (reserve config.sizeBytes.toNat)
  match ← Task.ofAct (Device.onBench config) with
  | .ok d => return d
  | .error e => throw (causedBy "probe failed" e.message)

/-- **Exercises a disk**, and gives its last counters. -/
def runExercise (o : ExerciseOptions) : Task Counters := do
  let len := (← Task.ofAct (Act.word (o.requestKb.toNat * 1024))).toNat
  if len = 0 ∨ len % Geometry.sectorSize ≠ 0 then
    throw ("request size must be a positive multiple of " ++ toString Geometry.sectorSize
      ++ " bytes")
  if o.threads = 0 then throw "need at least one thread"
  let config := { ({} : Config).withSizeMb o.sizeMb with mode := o.mode }
  let all ← Task.ofAct (Act.word (o.threads.toNat * len))
  if config.sizeBytes < all then
    throw (toString o.threads.toNat ++ " threads x " ++ toString o.requestKb.toNat
      ++ " KiB do not fit in " ++ toString o.sizeMb.toNat ++ " MiB")
  let d ← bringUp config
  Task.ofAct
    (modify (Machine.mapEngine (fun e => { e with behavior := deferral o.deferredUs })))
  clients d o.requests.toNat len o.threads.toNat 0
  if (← Task.ofAct get).overlapped then throw "engine saw overlapping transfers"
  Task.ofAct (Device.takeOff false)

/-! ## Diagnostic commands -/

/-- A round trip of one sector before a diagnostic command. -/
def warmUp (d : Device) : (left sector : Nat) → Task Unit
  | 0, _ => pure ()
  | left + 1, sector => do
    let buffer := Bytes.fill Geometry.sectorSize (UInt8.ofNat sector)
    let (written, _) ← Task.serve (d.writeSectors (UInt64.ofNat sector) buffer)
    match written with
    | .ok () => pure ()
    | .error e => throw (causedBy "warmup write failed" e.message)
    let (got, _) ← Task.serve (d.readSectors (UInt64.ofNat sector) buffer)
    match got with
    | .ok () => pure ()
    | .error e => throw (causedBy "warmup read failed" e.message)
    warmUp d left (sector + 1)

/-- The bytes of the answer's buffer. -/
def answerBuffer : Nat := 64

/-- **Asks a fresh disk**: the answer's bytes, and the counters after it. -/
def runDiagnose (command : Diagnostic) (sizeMb warmup : UInt64) :
    Task (ByteArray × Counters) := do
  let d ← bringUp (({} : Config).withSizeMb sizeMb)
  warmUp d warmup.toNat 0
  match ← Task.ofAct (d.ioctl command.number (Bytes.fill answerBuffer 0)) with
  | .error e =>
    throw (causedBy ("ioctl " ++ Hex.word command.number ++ " failed") e.message)
  | .ok (n, out) => return (out.extract 0 n, (← Task.ofAct get).counters)

/-- Five counters from the bytes of an answer. -/
def countersOf (answer : ByteArray) : Counters :=
  let counter (i : Nat) : UInt64 :=
    UInt64.ofNat (Bytes.toNat (answer.extract (8 * i) (8 * i + 8)).data.toList)
  { reads := counter 0, writes := counter 1, errors := counter 2, timeouts := counter 3,
    irqs := counter 4 }

/-- What is written about an answer. -/
def answerText (command : Diagnostic) (json : Bool) (answer : ByteArray) (after : Counters) :
    String :=
  match command with
  | .getSize =>
    let size := Bytes.toNat answer.data.toList
    if json then Json.single "size_bytes" size ++ "\n"
    else toString size ++ " bytes (" ++ toString (size / Config.mib) ++ " MiB)\n"
  | .getStats => (countersOf answer).render json
  | .resetStats => after.render json

/-! ## All commands -/

/-- How a task ends, with what is written where it ends well. -/
def react {α : Type} (task : Task α) (output : α → String) : Reaction :=
  match (task freshMachine).1 with
  | .error f => .faulted f
  | .ok (.error text) => .failed "" text
  | .ok (.ok a) => { output := output a }

/-- **Runs a command.** -/
def run : Command → Reaction
  | selfTest deferredUs hang json => selfTestReaction deferredUs hang json
  | exercise o => react (runExercise o) (fun c => c.render o.json)
  | diagnose command sizeMb warmup json =>
    react (runDiagnose command sizeMb warmup)
      (fun a => answerText command json a.1 a.2)

/-- **Runs a command line.** -/
def runArguments (arguments : List String) : Reaction :=
  match ofArguments? arguments with
  | none => .usage
  | some c => c.run

end Command

end RemoteDisk

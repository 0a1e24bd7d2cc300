import RemoteDisk.Command.Arguments
import RemoteDisk.Device.Diagnostics

/-!
# Commands

The command line runs the self test, exercises a disk with clients that
write and read back, or asks one diagnostic command of a fresh disk. Options
that a command shares with the commands below it may stand before or behind
the name of the lower one; given on both levels, the lower one counts.
-/

namespace RemoteDisk

/-- How the clients' disk notices the end of a transfer. -/
structure ExerciseOptions where
  /-- The size of the disk in MiB. -/
  sizeMb : UInt64
  /-- How many clients there are. -/
  threads : UInt64
  /-- Round trips of each client. -/
  requests : UInt64
  /-- The length of a request in KiB. -/
  requestKb : UInt64
  /-- How the end of a transfer is noticed. -/
  mode : CompletionMode
  /-- How long the engine takes, in microseconds. -/
  deferredUs : UInt64
  /-- Whether the counters are written as JSON. -/
  json : Bool
  deriving Repr, DecidableEq

/-- **A command.** -/
inductive Command where
  /-- Runs the self test. -/
  | selfTest (deferredUs : UInt64) (hang json : Bool)
  /-- Exercises a disk. -/
  | exercise (options : ExerciseOptions)
  /-- Asks a fresh disk, after some round trips to it. -/
  | diagnose (command : Diagnostic) (sizeMb warmup : UInt64) (json : Bool)
  deriving Repr, DecidableEq

namespace Command

open Arguments

/-- The option every level knows. -/
def commonOptions : Options := [("log-level", .value)]

/-- The options of the self test. -/
def selfTestOptions : Options :=
  [("deferred-us", .value), ("hang", .flag), ("json", .flag)] ++ commonOptions

/-- The options of the exercise. -/
def exerciseOptions : Options :=
  [("size-mb", .value), ("threads", .value), ("requests", .value), ("request-kb", .value),
    ("completion", .value), ("deferred-us", .value), ("json", .flag)] ++ commonOptions

/-- The options of a diagnostic command, on both of its levels. -/
def diagnoseOptions : Options :=
  [("size-mb", .value), ("warmup", .value), ("json", .flag)] ++ commonOptions

/-- Whether the log level of a level is one that exists. -/
def logLevelOk (given : Given) : Bool :=
  match value? given "log-level" with
  | none => true
  | some name => ["error", "warn", "info", "debug", "trace"].contains name

/-- How the end of a transfer is noticed, by its name. -/
def mode? (given : Given) : Option CompletionMode :=
  match value? given "completion" with
  | none => some .interrupt
  | some name =>
    if name = "irq" then some .interrupt
    else if name = "poll" then some (.polling CompletionMode.defaultIntervalUs)
    else none

/-- The diagnostic command of a name. -/
def diagnostic? (name : String) : Option Diagnostic :=
  if name = "get-size" then some .getSize
  else if name = "get-stats" then some .getStats
  else if name = "reset-stats" then some .resetStats
  else none

/-- The last level of a command, which no argument may end. -/
def lastLevel? (options : Options) (arguments : List String) : Option Given := do
  let level ← level? options [] arguments
  guard (level.rest.isNone && logLevelOk level.given)
  return level.given

/-- The self test's command. -/
def selfTest? (arguments : List String) : Option Command := do
  let given ← lastLevel? selfTestOptions arguments
  let deferredUs ← countOr? given "deferred-us" 0
  return .selfTest deferredUs (isGiven given "hang") (isGiven given "json")

/-- The exercise's command. -/
def exercise? (arguments : List String) : Option Command := do
  let given ← lastLevel? exerciseOptions arguments
  let sizeMb ← countOr? given "size-mb" 16
  let threads ← countOr? given "threads" 4
  let requests ← countOr? given "requests" 32
  let requestKb ← countOr? given "request-kb" 64
  let mode ← mode? given
  let deferredUs ← countOr? given "deferred-us" 20
  return .exercise
    { sizeMb, threads, requests, requestKb, mode, deferredUs, json := isGiven given "json" }

/-- A count option of two levels: the lower one counts, but both have to be
counts. -/
def sharedCount? (upper lower : Given) (name : String) (default : UInt64) :
    Option UInt64 := do
  let fallback ← countOr? upper name default
  countOr? lower name fallback

/-- The command that asks a fresh disk. -/
def diagnose? (arguments : List String) : Option Command := do
  let upper ← level? diagnoseOptions [] arguments
  guard (logLevelOk upper.given)
  let (name, rest) ← upper.rest
  let command ← diagnostic? name
  let lower ← lastLevel? diagnoseOptions rest
  let sizeMb ← sharedCount? upper.given lower "size-mb" Geometry.defaultSizeMb
  let warmup ← sharedCount? upper.given lower "warmup" 0
  return .diagnose command sizeMb warmup (isGiven upper.given "json" || isGiven lower "json")

/-- **The command of a command line**, or nothing where there is none. -/
def ofArguments? (arguments : List String) : Option Command := do
  let level ← level? commonOptions [] arguments
  guard (logLevelOk level.given)
  let (name, rest) ← level.rest
  if name = "scenario" then selfTest? rest
  else if name = "exercise" then exercise? rest
  else if name = "ioctl" then diagnose? rest
  else none

end Command

end RemoteDisk

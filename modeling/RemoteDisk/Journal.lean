/-!
# The journal

What the disk reports while it works, one entry after another, each with a
level that tells how much it matters.
-/

namespace RemoteDisk

/-- How much an entry matters. -/
inductive Level where
  | error
  | warn
  | info
  | debug
  | trace
  deriving Repr, DecidableEq, Inhabited

/-- The level's name, as it stands before an entry. -/
def Level.name : Level → String
  | error => "ERROR"
  | warn => "WARN"
  | info => "INFO"
  | debug => "DEBUG"
  | trace => "TRACE"

/-- **One entry of the journal.** -/
structure Entry where
  /-- How much it matters. -/
  level : Level
  /-- What it says. -/
  text : String
  deriving Repr, DecidableEq, Inhabited

/-- The entry as one line. -/
def Entry.line (e : Entry) : String := e.level.name ++ " " ++ e.text

end RemoteDisk

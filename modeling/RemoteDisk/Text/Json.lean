/-!
# JSON for reports

Reports are written as objects of numbers and texts, one field to a line and
each level indented by two blanks. The texts are names and messages of this
library, which hold no control characters, so a quotation mark and a
backslash are all that is escaped.
-/

namespace RemoteDisk.Json

/-- A character inside a quoted text. -/
def escape (c : Char) : String :=
  if c = '"' then "\\\"" else if c = '\\' then "\\\\" else String.singleton c

/-- A text in quotation marks. -/
def quote (s : String) : String := "\"" ++ String.join (s.toList.map escape) ++ "\""

/-- The value of a field. -/
inductive Value where
  | number (n : Nat)
  | text (s : String)
  deriving Repr, DecidableEq

/-- The value as it is written. -/
def Value.render : Value → String
  | number n => toString n
  | text s => quote s

/-- **An object over several lines**, the lines after the first being
indented by `indent`. -/
def object (indent : String) (fields : List (String × Value)) : String :=
  "\x7b\n"
    ++ String.intercalate ",\n"
      (fields.map (fun f => indent ++ "  " ++ quote f.1 ++ ": " ++ f.2.render))
    ++ "\n" ++ indent ++ "\x7d"

/-- **A list of objects over several lines.** -/
def objects (items : List (List (String × Value))) : String :=
  "[\n" ++ String.intercalate ",\n" (items.map (fun fields => "  " ++ object "  " fields))
    ++ "\n]"

/-- An object of one number on one line. -/
def single (name : String) (n : Nat) : String :=
  "\x7b" ++ quote name ++ ":" ++ toString n ++ "\x7d"

end RemoteDisk.Json

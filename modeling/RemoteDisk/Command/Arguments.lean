import RemoteDisk.Geometry

/-!
# Arguments of the command line

A command line is read level by level. On each level options come in any
order, as `--name value` or `--name=value`, or as `--name` alone where the
option is a flag, and none may be given twice. The first argument that is no
option ends the level: it names the command of the next one. After `--`
nothing may follow.
-/

namespace RemoteDisk.Arguments

/-- Whether an option takes a value. -/
inductive Kind where
  | flag
  | value
  deriving Repr, DecidableEq

/-- The options a level knows. -/
abbrev Options := List (String × Kind)

/-- The options that were given on a level, a flag with an empty value. -/
abbrev Given := List (String × String)

/-- **What a level was given**, and the argument that ended it with those
behind it. -/
structure Level where
  /-- The options. -/
  given : Given
  /-- The first argument that is no option, and the rest. -/
  rest : Option (String × List String)
  deriving Repr

/-- An option's name and the value written with it, where the argument is an
option at all. -/
def splitOption? (argument : List Char) : Option (String × Option String) :=
  match argument with
  | '-' :: '-' :: body =>
    let name := String.ofList (body.takeWhile (· != '='))
    match body.dropWhile (· != '=') with
    | [] => some (name, none)
    | _ :: value => some (name, some (String.ofList value))
  | _ => none

/-- Whether an argument cannot stand as the value of the option before
it. -/
def looksLikeOption (argument : String) : Bool := argument.toList.head? == some '-'

/-- An option added to those given, unless it was given before. -/
def add? (given : Given) (name value : String) : Option Given :=
  if given.any (fun g => g.1 == name) then none else some (given ++ [(name, value)])

/-- **Reads the options of a level**, or nothing where the arguments do not
follow its rules. -/
def level? (options : Options) : Given → List String → Option Level
  | given, [] => some ⟨given, none⟩
  | given, argument :: rest =>
    if argument = "--" then
      if rest.isEmpty then some ⟨given, none⟩ else none
    else
      match splitOption? argument.toList with
      | none =>
        if looksLikeOption argument then none else some ⟨given, some (argument, rest)⟩
      | some (name, written) =>
        match options.lookup name, written, rest with
        | none, _, _ => none
        | some .flag, none, rest => (add? given name "").bind (level? options · rest)
        | some .flag, some _, _ => none
        | some .value, some value, rest => (add? given name value).bind (level? options · rest)
        | some .value, none, value :: rest =>
          if looksLikeOption value then none
          else (add? given name value).bind (level? options · rest)
        | some .value, none, [] => none

/-- The value an option was given. -/
def value? (given : Given) (name : String) : Option String := given.lookup name

/-- Whether an option was given. -/
def isGiven (given : Given) (name : String) : Bool := (given.lookup name).isSome

/-- The digits of a number, read from the front. -/
def number? : List Char → Nat → Option Nat
  | [], n => some n
  | c :: rest, n => if c.isDigit then number? rest (n * 10 + (c.toNat - 48)) else none

/-- **A count**: decimal digits, a plus sign before them or not, below the
largest count there is. -/
def count? (text : String) : Option UInt64 :=
  let digits := match text.toList with
    | '+' :: rest => rest
    | all => all
  if digits.isEmpty then none
  else
    match number? digits 0 with
    | none => none
    | some n => if n < Geometry.wordLimit then some (UInt64.ofNat n) else none

/-- A count option, with what it stands at where it is not given. -/
def countOr? (given : Given) (name : String) (default : UInt64) : Option UInt64 :=
  match value? given name with
  | none => some default
  | some text => count? text

end RemoteDisk.Arguments

import NotesBench.Text.Numeral
import NotesBench.Decimal.Reading
import NotesBench.Duration

/-!
# Command-line options

An option is given by its long name (`--name value`, `--name=value`), some also by a letter
(`-n value`, `-nvalue`, `-n=value`). A value that begins with a dash must be joined to its option.
No option may be given twice, and nothing may be given that is no option.
-/

namespace NotesBench.Command

/-- An option that can be given. -/
structure OptionRule where
  name : String
  letter : Option Char := none
  /-- A flag has no value. -/
  isFlag : Bool := false
  deriving Repr, DecidableEq

/-- Why arguments cannot be used. -/
inductive UsageError where
  | noCommand
  | unknown (argument : String)
  | missingValue (name : String)
  | unwantedValue (name : String)
  | repeated (name : String)
  | badValue (name value : String)
  deriving Repr, DecidableEq

def UsageError.message : UsageError → String
  | .noCommand => "a command is required"
  | .unknown argument => "unexpected argument '" ++ argument ++ "'"
  | .missingValue name => "a value is required for '--" ++ name ++ "'"
  | .unwantedValue name => "'--" ++ name ++ "' takes no value"
  | .repeated name => "'--" ++ name ++ "' was given more than once"
  | .badValue name value => "invalid value '" ++ value ++ "' for '--" ++ name ++ "'"

/-- The options that were given, a flag with the empty text. -/
abbrev Given := List (String × String)

/-! ## Reading -/

/-- The form of an argument. -/
inductive Form where
  /-- A long name, and the value that is joined to it. -/
  | long (name : String) (value : Option String)
  /-- A letter, and the value that is joined to it. -/
  | short (letter : Char) (value : Option String)
  /-- Ends the options. -/
  | ending
  | plain
  deriving Repr, DecidableEq

/-- The form of an argument. A single dash is no option. -/
def Form.of (argument : String) : Form :=
  match argument.toList with
  | ['-', '-'] => .ending
  | '-' :: '-' :: rest =>
    .long (String.ofList (rest.takeWhile (· != '=')))
      (("=".toList.isPrefixOf? (rest.dropWhile (· != '='))).map String.ofList)
  | ['-'] => .plain
  | ['-', c] => .short c none
  | '-' :: c :: '=' :: rest => .short c (some (String.ofList rest))
  | '-' :: c :: rest => .short c (some (String.ofList rest))
  | _ => .plain

/-- The option of an argument, and the value that is joined to it. -/
def Form.rule? (rules : List OptionRule) : Form → Option (OptionRule × Option String)
  | .long name value => (rules.find? (·.name = name)).map fun rule => (rule, value)
  | .short c value => (rules.find? (·.letter = some c)).map fun rule => (rule, value)
  | .ending | .plain => none

def addOption (given : Given) (name value : String) : Except UsageError Given :=
  if given.any (·.1 = name) then .error (.repeated name) else .ok (given ++ [(name, value)])

/-- What one argument does: it gives an option, or waits for the value of one. -/
def takeOption (given : Given) (rule : OptionRule) :
    Option String → Except UsageError (Given × Option String)
  | none =>
    if rule.isFlag then do return (← addOption given rule.name "", none)
    else .ok (given, some rule.name)
  | some value =>
    if rule.isFlag then .error (.unwantedValue rule.name)
    else do return (← addOption given rule.name value, none)

/-- Reads arguments after those already given, the first of which may be the value of an option
that waits for it. -/
def readOptions (rules : List OptionRule) (given : Given) (waiting : Option String) :
    List String → Except UsageError Given
  | [] =>
    match waiting with
    | none => .ok given
    | some name => .error (.missingValue name)
  | argument :: rest =>
    match waiting with
    | some name =>
      if Form.of argument = .plain then do
        readOptions rules (← addOption given name argument) none rest
      else .error (.missingValue name)
    | none =>
      match (Form.of argument).rule? rules with
      | some (rule, value) => do
        let (given, waiting) ← takeOption given rule value
        readOptions rules given waiting rest
      | none =>
        if Form.of argument = .ending then
          match rest with
          | [] => .ok given
          | stray :: _ => .error (.unknown stray)
        else .error (.unknown argument)

/-! ## Values -/

namespace Given

def text? (given : Given) (name : String) : Option String :=
  (given.find? (·.1 = name)).map (·.2)

def flag (given : Given) (name : String) : Bool := (given.text? name).isSome

def value? {α : Type} (given : Given) (name : String) (read? : String → Option α) :
    Except UsageError (Option α) :=
  match given.text? name with
  | none => .ok none
  | some s =>
    match read? s with
    | some v => .ok (some v)
    | none => .error (.badValue name s)

def value {α : Type} (given : Given) (name : String) (read? : String → Option α) (usual : α) :
    Except UsageError α := do
  return (← given.value? name read?).getD usual

end Given

/-- Reads a count: a number of 64 bits. -/
def count? (s : String) : Option Nat := Text.unsigned? s.toList

/-- Reads a number of 16 bits. It may carry a sign. -/
def small? (s : String) : Option Nat :=
  (Text.signed? s.toList).bind fun n => if 0 ≤ n ∧ n < 65536 then some n.toNat else none

def duration? (s : String) : Option Duration := (Duration.read s).toOption

/-- Reads the name of a file, which is not empty. -/
def file? (s : String) : Option String := if s = "" then none else some s

end NotesBench.Command

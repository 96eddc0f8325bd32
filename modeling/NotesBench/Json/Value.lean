import NotesBench.Text.Numeral
import NotesBench.Text.Octets
import NotesBench.Decimal.Notation

/-!
# JSON values and how they are written

`compact` writes a value without blanks, `pretty` over several lines with two blanks for each
level. Both write the members of an object in the order in which they stand; `sorted` puts them in
the order of their names. In a text only the quote, the backslash and the control characters below
U+0020 are escaped.
-/

namespace NotesBench

/-- A JSON value. A number is an integer or a double given by its bits. -/
inductive Json where
  | null
  | bool (b : Bool)
  | int (n : Int)
  | real (bits : UInt64)
  | string (s : String)
  | array (items : List Json)
  | object (members : List (String × Json))
  deriving Repr, Inhabited

namespace Json

/-! ## Texts -/

/-- A character as it stands between quotes. -/
def escape (c : Char) : List Char :=
  if c = '"' then ['\\', '"']
  else if c = '\\' then ['\\', '\\']
  else if c = '\n' then ['\\', 'n']
  else if c = '\r' then ['\\', 'r']
  else if c = '\t' then ['\\', 't']
  else if c = '\x08' then ['\\', 'b']
  else if c = '\x0c' then ['\\', 'f']
  else if c.toNat < 0x20 then '\\' :: 'u' :: (Text.hexText 4 c.toNat).toList
  else [c]

def quoted (s : List Char) : List Char := '"' :: (s.flatMap escape ++ ['"'])

def scalar : Json → List Char
  | .null => ['n', 'u', 'l', 'l']
  | .bool true => ['t', 'r', 'u', 'e']
  | .bool false => ['f', 'a', 'l', 's', 'e']
  | .int n => (Text.intText n).toList
  | .real bits => (Decimal.withExponent (Float.ofBits bits)).toList
  | .string s => quoted s.toList
  | .array _ => ['[', ']']
  | .object _ => ['\x7b', '\x7d']

/-! ## On one line -/

mutual

/-- A value on one line without blanks. -/
def compact : Json → List Char
  | .array items => '[' :: (compactItems items ++ [']'])
  | .object members => '\x7b' :: (compactMembers members ++ ['\x7d'])
  | v => scalar v

/-- The items with commas between them. -/
def compactItems : List Json → List Char
  | [] => []
  | [v] => compact v
  | v :: rest => compact v ++ ',' :: compactItems rest

/-- The members with commas between them. -/
def compactMembers : List (String × Json) → List Char
  | [] => []
  | [(name, v)] => quoted name.toList ++ ':' :: compact v
  | (name, v) :: rest => quoted name.toList ++ ':' :: (compact v ++ ',' :: compactMembers rest)

end

/-- The compact form as a text. -/
def text (v : Json) : String := String.ofList v.compact

def octets (v : Json) : Text.Octets := Text.Utf8.encode v.text

/-! ## Over several lines -/

/-- The start of a line at the given level. -/
def newline (level : Nat) : List Char := '\n' :: List.replicate (2 * level) ' '

mutual

/-- A value over several lines. Empty arrays and objects stay on one. -/
def prettyAt (level : Nat) : Json → List Char
  | .array (v :: rest) => '[' :: (prettyItems (level + 1) (v :: rest) ++ newline level ++ [']'])
  | .object (m :: rest) =>
    '\x7b' :: (prettyMembers (level + 1) (m :: rest) ++ newline level ++ ['\x7d'])
  | v => scalar v

/-- The items, each on a line of its own. -/
def prettyItems (level : Nat) : List Json → List Char
  | [] => []
  | [v] => newline level ++ prettyAt level v
  | v :: rest => newline level ++ prettyAt level v ++ ',' :: prettyItems level rest

/-- The members, each on a line of its own. -/
def prettyMembers (level : Nat) : List (String × Json) → List Char
  | [] => []
  | [(name, v)] => newline level ++ quoted name.toList ++ ':' :: ' ' :: prettyAt level v
  | (name, v) :: rest =>
    newline level ++ quoted name.toList ++ ':' :: ' ' :: (prettyAt level v ++
      ',' :: prettyMembers level rest)

end

def pretty (v : Json) : String := String.ofList (prettyAt 0 v)

/-! ## Order of the members -/

/-- Puts a member where its name belongs, in place of an earlier one of that name. -/
def insertMember (name : String) (v : Json) : List (String × Json) → List (String × Json)
  | [] => [(name, v)]
  | (other, w) :: rest =>
    if name < other then (name, v) :: (other, w) :: rest
    else if name = other then (name, v) :: rest
    else (other, w) :: insertMember name v rest

mutual

/-- The value with the members of every object in the order of their names. -/
def sorted : Json → Json
  | .array items => .array (sortedItems items)
  | .object members => .object (sortedMembers [] members)
  | v => v

def sortedItems : List Json → List Json
  | [] => []
  | v :: rest => v.sorted :: sortedItems rest

def sortedMembers (placed : List (String × Json)) :
    List (String × Json) → List (String × Json)
  | [] => placed
  | (name, v) :: rest => sortedMembers (insertMember name v.sorted placed) rest

end

end Json

end NotesBench

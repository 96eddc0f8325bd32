import NotesBench.Text.Numeral
import NotesBench.Text.Cut
import NotesBench.Text.Octets

/-!
# Percent-encoding

`encodeSegment` writes a text as one segment of a path: unreserved characters stay, and every
other octet of its UTF-8 form becomes a percent sign with two capital hexadecimal digits.
`decodeComponent` reads a part of a query: a plus sign is a space, a percent sign with two
hexadecimal digits is an octet, and the octets are read as UTF-8, broken pieces becoming U+FFFD.
`pairs` splits a query into its names and values.
-/

namespace NotesBench.Http

open Text (Octets)

def capitalHex (n : Nat) : Char := n.digitChar.toUpper

/-- An octet as a percent sign and two digits. -/
def percent (b : UInt8) : List Char :=
  ['%', capitalHex (b.toNat / 16), capitalHex (b.toNat % 16)]

/-- The characters that stand for themselves anywhere in a path. -/
def isUnreserved (c : Char) : Bool :=
  c.isAlphanum || c == '-' || c == '.' || c == '_' || c == '~'

def encodeOctet (b : UInt8) : List Char :=
  let c := Char.ofNat b.toNat
  if isUnreserved c then [c] else percent b

/-- A text as a segment of a path. -/
def encodeSegment (s : String) : List Char := (Text.Utf8.encode s).flatMap encodeOctet

/-- Replaces each percent sign with two hexadecimal digits by its octet. Other percent signs
stay. -/
def decodePercent : Octets → Octets
  | [] => []
  | 0x25 :: a :: b :: rest =>
    match Text.hexOctet? a, Text.hexOctet? b with
    | some x, some y => UInt8.ofNat (16 * x + y) :: decodePercent rest
    | _, _ => 0x25 :: decodePercent (a :: b :: rest)
  | b :: rest => b :: decodePercent rest

/-- Reads a name or a value of a query. -/
def decodeComponent (s : List Char) : String :=
  let spaced := s.map fun c => if c = '+' then ' ' else c
  Text.Utf8.decodeLossy (decodePercent (Text.Utf8.encode (String.ofList spaced)))

/-- A name and a value. A name without an equals sign has an empty value. -/
def decodePair (s : List Char) : String × String :=
  let (name, value) := (Text.cutAt '=' s).getD (s, [])
  (decodeComponent name, decodeComponent value)

/-- The names and values of a query, in order. Empty pieces between separators are passed over. -/
def pairs (query : String) : List (String × String) :=
  ((Text.splitOn '&' query.toList).filter (!·.isEmpty)).map decodePair

end NotesBench.Http

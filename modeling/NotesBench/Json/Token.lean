import NotesBench.Text.Octets

/-!
# Reading JSON octet by octet

A reader goes through the octets once. `Mode` says where it stands inside a token, and each
finished token is handed on. Texts and numbers are kept as they were written: an escape or an
octet inside a text is checked for its form only, so a text that nobody looks at may hold lone
surrogates and broken UTF-8, and a number may have any size.
-/

namespace NotesBench.Json

open Text (Octets)

/-- The parts that JSON text is made of. -/
inductive Token where
  | openBrace
  | closeBrace
  | openBracket
  | closeBracket
  | comma
  | colon
  | null
  | bool (b : Bool)
  /-- A number as it was written. -/
  | number (literal : Octets)
  /-- What stood between the quotes. -/
  | text (raw : Octets)
  deriving Repr, DecidableEq

/-- How far a number has been read. -/
inductive NumberPart where
  | sign
  | zero
  | whole
  | point
  | places
  | exponent
  | exponentSign
  | power
  deriving Repr, DecidableEq

def isDigit (b : UInt8) : Bool := 0x30 ≤ b && b ≤ 0x39

def isHex (b : UInt8) : Bool :=
  isDigit b || (0x41 ≤ b && b ≤ 0x46) || (0x61 ≤ b && b ≤ 0x66)

/-- The part that the octet takes a number to, if it belongs to the number. -/
def NumberPart.advance? (part : NumberPart) (b : UInt8) : Option NumberPart :=
  let isExponent := b == 0x65 || b == 0x45
  match part with
  | .sign => if b == 0x30 then some .zero else if isDigit b then some .whole else none
  | .zero => if b == 0x2E then some .point else if isExponent then some .exponent else none
  | .whole =>
    if isDigit b then some .whole
    else if b == 0x2E then some .point
    else if isExponent then some .exponent
    else none
  | .point => if isDigit b then some .places else none
  | .places => if isDigit b then some .places else if isExponent then some .exponent else none
  | .exponent =>
    if isDigit b then some .power
    else if b == 0x2B || b == 0x2D then some .exponentSign
    else none
  | .exponentSign => if isDigit b then some .power else none
  | .power => if isDigit b then some .power else none

/-- Whether a number may end here. -/
def NumberPart.complete : NumberPart → Bool
  | .zero | .whole | .places | .power => true
  | .sign | .point | .exponent | .exponentSign => false

/-- Where the reader stands inside a token. The octets seen are kept backwards. -/
inductive Mode where
  | between
  | text (seen : Octets)
  | escape (seen : Octets)
  /-- `left` digits of an escaped code are still to come. -/
  | code (left : Nat) (seen : Octets)
  /-- The rest of a word that must follow. -/
  | word (left : Octets) (token : Token)
  | number (seen : Octets) (part : NumberPart)
  deriving Repr, DecidableEq

/-- What one octet leads to: a mode, and the token that it completes. -/
abbrev Scanned := Mode × Option Token

def isGap (b : UInt8) : Bool := b == 0x20 || b == 0x09 || b == 0x0A || b == 0x0D

def scanFirst? (b : UInt8) : Option Scanned :=
  if isGap b then some (.between, none)
  else if b == 0x22 then some (.text [], none)
  else if b == 0x7B then some (.between, some .openBrace)
  else if b == 0x7D then some (.between, some .closeBrace)
  else if b == 0x5B then some (.between, some .openBracket)
  else if b == 0x5D then some (.between, some .closeBracket)
  else if b == 0x2C then some (.between, some .comma)
  else if b == 0x3A then some (.between, some .colon)
  else if b == 0x6E then some (.word [0x75, 0x6C, 0x6C] .null, none)
  else if b == 0x74 then some (.word [0x72, 0x75, 0x65] (.bool true), none)
  else if b == 0x66 then some (.word [0x61, 0x6C, 0x73, 0x65] (.bool false), none)
  else if b == 0x2D then some (.number [b] .sign, none)
  else if b == 0x30 then some (.number [b] .zero, none)
  else if isDigit b then some (.number [b] .whole, none)
  else none

/-- Whether the octet may follow a backslash on its own. -/
def isEscaped (b : UInt8) : Bool :=
  b == 0x22 || b == 0x5C || b == 0x2F || b == 0x62 || b == 0x66 || b == 0x6E || b == 0x72 ||
  b == 0x74

/-- An octet inside a text, an escape or a word. -/
def scanInside? (mode : Mode) (b : UInt8) : Option Scanned :=
  match mode with
  | .text seen =>
    if b == 0x22 then some (.between, some (.text seen.reverse))
    else if b == 0x5C then some (.escape (b :: seen), none)
    else if b < 0x20 then none
    else some (.text (b :: seen), none)
  | .escape seen =>
    if isEscaped b then some (.text (b :: seen), none)
    else if b == 0x75 then some (.code 3 (b :: seen), none)
    else none
  | .code left seen =>
    if !isHex b then none
    else
      match left with
      | 0 => some (.text (b :: seen), none)
      | left + 1 => some (.code left (b :: seen), none)
  | .word (c :: left) token =>
    if b != c then none
    else if left.isEmpty then some (.between, some token)
    else some (.word left token, none)
  | .word [] _ | .between | .number .. => none

end NotesBench.Json

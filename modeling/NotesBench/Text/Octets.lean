/-!
# Octets

Texts are sent and stored as octets in UTF-8. `Utf8.marks` reads octets into characters and marks
each maximal broken piece by `none`. `Utf8.decode?` accepts octets without a broken piece;
`Utf8.decodeLossy` puts U+FFFD for each of them. `Base64.encode` writes octets in letters, digits
and signs.
-/

namespace NotesBench.Text

/-- Octets, such as the body of a message. -/
abbrev Octets := List UInt8

/-! ## UTF-8 -/

namespace Utf8

def encode (s : String) : Octets := s.toList.flatMap String.utf8EncodeChar

/-- What a first octet asks for: how many octets follow it, and the bounds of the next one. The
bounds rule out overlong forms, surrogates and values above U+10FFFF. -/
def follow (b : UInt8) : Option (Nat × UInt8 × UInt8) :=
  if 0xC2 ≤ b && b ≤ 0xDF then some (1, 0x80, 0xBF)
  else if b == 0xE0 then some (2, 0xA0, 0xBF)
  else if b == 0xED then some (2, 0x80, 0x9F)
  else if 0xE1 ≤ b && b ≤ 0xEF then some (2, 0x80, 0xBF)
  else if b == 0xF0 then some (3, 0x90, 0xBF)
  else if 0xF1 ≤ b && b ≤ 0xF3 then some (3, 0x80, 0xBF)
  else if b == 0xF4 then some (3, 0x80, 0x8F)
  else none

/-- An octet that continues a character. -/
def continues (b : UInt8) : Bool := 0x80 ≤ b && b ≤ 0xBF

/-- Reads octets into characters; `none` stands for a maximal broken piece. -/
def marks : Octets → List (Option Char)
  | [] => []
  | b :: rest =>
    if b < 0x80 then some (Char.ofNat b.toNat) :: marks rest
    else
      match follow b with
      | none => none :: marks rest
      | some (more, low, high) =>
        match rest with
        | [] => [none]
        | b₁ :: rest₁ =>
          if !(low ≤ b₁ && b₁ ≤ high) then none :: marks (b₁ :: rest₁)
          else if more = 1 then
            some (Char.ofNat (b.toNat % 32 * 64 + b₁.toNat % 64)) :: marks rest₁
          else
            match rest₁ with
            | [] => [none]
            | b₂ :: rest₂ =>
              if !continues b₂ then none :: marks (b₂ :: rest₂)
              else if more = 2 then
                some (Char.ofNat ((b.toNat % 16 * 64 + b₁.toNat % 64) * 64 + b₂.toNat % 64))
                  :: marks rest₂
              else
                match rest₂ with
                | [] => [none]
                | b₃ :: rest₃ =>
                  if !continues b₃ then none :: marks (b₃ :: rest₃)
                  else
                    some (Char.ofNat (((b.toNat % 8 * 64 + b₁.toNat % 64) * 64
                      + b₂.toNat % 64) * 64 + b₃.toNat % 64)) :: marks rest₃

/-- The text that the octets encode, if they are UTF-8 throughout. -/
def decode? (bytes : Octets) : Option String :=
  ((marks bytes).mapM id).map String.ofList

/-- The text with U+FFFD for each maximal broken piece. -/
def decodeLossy (bytes : Octets) : String :=
  String.ofList ((marks bytes).map (·.getD '\uFFFD'))

end Utf8

/-! ## Base64

Three octets are written as four letters, digits or signs of six bits each. The last group may be
shorter and is filled up with equals signs. -/

namespace Base64

def symbol (n : Nat) : Char :=
  if n < 26 then Char.ofNat ('A'.toNat + n)
  else if n < 52 then Char.ofNat ('a'.toNat + (n - 26))
  else if n < 62 then Char.ofNat ('0'.toNat + (n - 52))
  else if n = 62 then '+'
  else '/'

/-- The characters for a group of three octets. -/
def group (a b c : UInt8) : List Char :=
  let n := (a.toNat * 256 + b.toNat) * 256 + c.toNat
  [symbol (n / 262_144), symbol (n / 4096 % 64), symbol (n / 64 % 64), symbol (n % 64)]

def encode : Octets → List Char
  | [] => []
  | [a] => (group a 0 0).take 2 ++ ['=', '=']
  | [a, b] => (group a b 0).take 3 ++ ['=']
  | a :: b :: c :: rest => group a b c ++ encode rest

end Base64

end NotesBench.Text

import NotesBench.Text.Numeral
import NotesBench.Decimal.Binary64

/-!
# Reading a double

A numeral is a sign, digits with a point among or around them, and an exponent, of which the sign
and the exponent may be left out; `inf`, `infinity` and `nan` are read in either case. The result
is the nearest double.
-/

namespace NotesBench.Decimal

open Text (digits?)

def exponent? : List Char → Option Int
  | '-' :: rest => (digits? rest).map fun n => -(n : Int)
  | '+' :: rest => (digits? rest).map Int.ofNat
  | s => (digits? s).map Int.ofNat

/-- The double nearest to `digits * 10 ^ power`. Powers far beyond the range of doubles are cut off
before they are computed. -/
def ofDecimal (digits : Nat) (power : Int) : Float :=
  let size := (Nat.toDigits 10 digits).length + power
  if digits = 0 ∨ size < -400 then ofRatio 0 1
  else if 400 < size then ofRatio (Nat.pow 10 400) 1
  else ofRatio (digits * Nat.pow 10 power.toNat) (Nat.pow 10 (-power).toNat)

/-- A number as it is written, without its sign. -/
structure Numeral where
  /-- The digits before the point. -/
  whole : List Char
  /-- The digits behind the point. -/
  places : List Char
  exponent : Int
  deriving Repr, DecidableEq

/-- Takes digits, a point and an exponent apart. -/
def Numeral.read? (s : List Char) : Option Numeral := do
  let whole := s.takeWhile Char.isDigit
  let rest := s.dropWhile Char.isDigit
  let (places, rest) := match rest with
    | '.' :: behind => (behind.takeWhile Char.isDigit, behind.dropWhile Char.isDigit)
    | _ => ([], rest)
  let exponent ← match rest with
    | [] => some 0
    | c :: tail => if c = 'e' ∨ c = 'E' then exponent? tail else none
  return ⟨whole, places, exponent⟩

/-- Reads digits, a point and an exponent. -/
def magnitude? (s : List Char) : Option Float := do
  let n ← Numeral.read? s
  let digits ← digits? (n.whole ++ n.places)
  return ofDecimal digits (n.exponent - n.places.length)

/-- Reads a number without its sign. -/
def unsignedFloat? (s : List Char) : Option Float :=
  let name := String.ofList (s.map Char.toLower)
  if name = "inf" ∨ name = "infinity" then some (Float.ofBits 0x7FF0000000000000)
  else if name = "nan" then some (Float.ofBits 0x7FF8000000000000)
  else magnitude? s

def float? (s : String) : Option Float :=
  match s.toList with
  | '-' :: rest => (unsignedFloat? rest).map negate
  | '+' :: rest => unsignedFloat? rest
  | s => unsignedFloat? s

end NotesBench.Decimal

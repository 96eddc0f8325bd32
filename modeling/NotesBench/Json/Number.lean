import NotesBench.Decimal.Reading
import NotesBench.Json.Value

/-!
# Numbers in JSON

An integer within 64 bits, signed or not, is kept as it is; every other number becomes a double.
Of its digits those are used that fit into 64 bits, and they are then multiplied or divided by a
power of ten. Each step rounds, so the double may be a neighbour of the nearest one. A number too
large for a double is refused; one too small for it becomes zero.
-/

namespace NotesBench.Json

open Decimal (Numeral)
open Text (Octets)

def characters (literal : Octets) : List Char := literal.map fun b => Char.ofNat b.toNat

/-- Reads a number without point and exponent. A negative zero is not an integer. -/
def readInt? (literal : Octets) : Option Int :=
  match characters literal with
  | '-' :: digits => ((Text.digits? digits).filter (· ≠ 0)).map fun n => -(n : Int)
  | digits => (Text.digits? digits).map Int.ofNat

/-- Appends digits to a number as long as it fits into 64 bits, and gives the digits left. -/
def appendDigits (n : Nat) : List Char → Nat × List Char
  | [] => (n, [])
  | d :: rest =>
    let next := 10 * n + (d.toNat - '0'.toNat)
    if next < Text.unsignedEnd then appendDigits next rest else (n, d :: rest)

/-- The digits of a numeral that are used, and the power of ten that goes with them. -/
def significant (n : Numeral) : Nat × Int :=
  let (whole, unread) := appendDigits 0 n.whole
  let (digits, unused) := appendDigits whole n.places
  (digits, n.exponent + unread.length + unused.length - n.places.length)

def tenTo (power : Nat) : Float := Decimal.ofNat (Nat.pow 10 power)

/-- The greatest power of ten among the doubles. -/
def greatestPower : Nat := 308

/-- The double multiplied by a power of ten, if it stays finite. -/
def multiplied? (x : Float) (power : Nat) : Option Float :=
  if power ≤ greatestPower then
    let y := x * tenTo power
    if y.isFinite then some y else none
  else if x == 0 then some x
  else none

/-- The double divided by a power of ten, in steps for which the power is a double. -/
def divided (x : Float) (power : Nat) : Float :=
  if power ≤ greatestPower then x / tenTo power
  else if x == 0 then x
  else divided (x / tenTo greatestPower) (power - greatestPower)
termination_by power
decreasing_by simp only [greatestPower] at *; omega

/-- Reads a number without its sign as a double. -/
def magnitude? (s : List Char) : Option Float := do
  let (digits, power) := significant (← Numeral.read? s)
  let x := Decimal.ofNat digits
  if 0 ≤ power then multiplied? x power.toNat else return divided x power.natAbs

def readReal? (literal : Octets) : Option Float :=
  match characters literal with
  | '-' :: rest => (magnitude? rest).map Decimal.negate
  | s => magnitude? s

/-- Reads a number: an integer within 64 bits, and otherwise a finite double. -/
def readNumber? (literal : Octets) : Option Json :=
  match (readInt? literal).filter fun n => -(Text.signedEnd : Int) ≤ n ∧ n < Text.unsignedEnd with
  | some n => some (.int n)
  | none => (readReal? literal).map fun x => .real x.toBits

end NotesBench.Json

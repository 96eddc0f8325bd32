/-!
# Rounding to binary floating point

A finite double is a mantissa times a power of two (`view`). `ofRatio` rounds a quotient of two
natural numbers to the nearest double, a tie going to the even mantissa; all numbers that the
summaries and the options turn into doubles go through it.
-/

namespace NotesBench.Decimal

/-- The quotient rounded to a natural number, a half going to the even neighbour. -/
def roundHalfEven (num den : Nat) : Nat :=
  let q := num / den
  let twice := 2 * (num % den)
  if twice < den then q
  else if den < twice then q + 1
  else q + q % 2

/-- What a double stands for. -/
inductive View where
  | nan
  | infinite (negative : Bool)
  /-- The value `mantissa * 2 ^ exponent`, with its sign, which a zero has too. -/
  | finite (negative : Bool) (mantissa : Nat) (exponent : Int)
  deriving Repr, DecidableEq

def view (x : Float) : View :=
  let bits := x.toBits.toNat
  let negative := bits / Nat.pow 2 63 == 1
  let biased : Nat := bits / Nat.pow 2 52 % Nat.pow 2 11
  let fraction : Nat := bits % Nat.pow 2 52
  if biased == 2047 then if fraction == 0 then .infinite negative else .nan
  else if biased == 0 then .finite negative fraction (-1074)
  else .finite negative (Nat.pow 2 52 + fraction) ((biased : Int) - 1075)

/-- A fraction multiplied by a power of two. -/
def scale (num den : Nat) (power : Int) : Nat × Nat :=
  if 0 ≤ power then (num * Nat.pow 2 power.toNat, den)
  else (num, den * Nat.pow 2 (-power).toNat)

/-- The largest power of two that a positive fraction reaches. -/
def floorLog2 (num den : Nat) : Int :=
  let guess := (num.log2 : Int) - den.log2
  let (n, d) := scale num den (-guess)
  if d ≤ n then guess else guess - 1

/-- The bits of the double nearest to a fraction. Above the largest double it is infinity. -/
def ratioBits (num den : Nat) : Nat :=
  if num = 0 then 0
  else
    let exponent := max (floorLog2 num den - 52) (-1074)
    let (n, d) := scale num den (-exponent)
    min ((exponent + 1074).toNat * Nat.pow 2 52 + roundHalfEven n d) (2047 * Nat.pow 2 52)

/-- The double nearest to a fraction of natural numbers. -/
def ofRatio (num den : Nat) : Float := Float.ofBits (UInt64.ofNat (ratioBits num den))

/-- The double nearest to a natural number. -/
def ofNat (n : Nat) : Float := ofRatio n 1

/-- The double with its sign turned. -/
def negate (x : Float) : Float := Float.ofBits (x.toBits ^^^ 0x8000000000000000)

end NotesBench.Decimal

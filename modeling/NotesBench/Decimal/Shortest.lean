import NotesBench.Decimal.Binary64

/-!
# The shortest decimal of a double

`shortest` gives the fewest decimal digits that read back as the double `mantissa * 2 ^ exponent`,
and among those the decimal nearest to it. Where two are equally near, a `Tie` decides. A decimal
reads back when it lies between the midpoints to the neighbouring doubles; the midpoints belong to
the double with an even mantissa. For one digit, two digits and so on up to seventeen, the two
decimals around the value are tried: if any decimal of that length reads back, one of these does.
-/

namespace NotesBench.Decimal

/-- The decimal `digits * 10 ^ power`. -/
structure Scaled where
  digits : Nat
  power : Int
  deriving Repr, DecidableEq

/-- The largest power of ten that the fraction reaches, for a positive fraction that is no power
of ten below one. -/
def floorLog10 (num den : Nat) : Int :=
  if den ≤ num then ((Nat.toDigits 10 (num / den)).length : Int) - 1
  else -((Nat.toDigits 10 (den / num)).length : Int)

/-- The numbers between which a decimal reads back, and the double itself, all over one
denominator. -/
structure Interval where
  low : Nat
  value : Nat
  high : Nat
  denominator : Nat
  /-- Whether the two ends read back too. -/
  closed : Bool

/-- The decimals that read back as `mantissa * 2 ^ exponent`. Below a power of two the doubles lie
twice as close. -/
def Interval.around (mantissa : Nat) (exponent : Int) : Interval :=
  let below := if mantissa = Nat.pow 2 52 ∧ -1074 < exponent then 1 else 2
  let (unit, denominator) := scale 1 4 exponent
  ⟨(4 * mantissa - below) * unit, 4 * mantissa * unit, (4 * mantissa + 2) * unit, denominator,
    mantissa % 2 == 0⟩

def Interval.holds (i : Interval) (n d : Nat) : Bool :=
  let x := n * i.denominator
  (i.low * d < x && x < i.high * d) || (i.closed && (i.low * d == x || x == i.high * d))

/-- Which of two equally near decimals is taken. -/
inductive Tie where
  /-- The larger one. -/
  | up
  /-- The one with an even last digit. -/
  | even
  deriving Repr, DecidableEq

/-- Whether the larger of two equally near decimals is taken. -/
def Tie.takesUpper : Tie → Nat → Bool
  | .up, _ => true
  | .even, lower => lower % 2 == 1

/-- The decimal with the given power of ten that is nearest to the value, of the two around it, if
one of them reads back. -/
def Interval.candidate? (i : Interval) (tie : Tie) (power : Int) : Option Nat :=
  let num := Nat.pow 10 power.toNat
  let den := Nat.pow 10 (-power).toNat
  let step := i.denominator * num
  let lower := i.value * den / step
  let rest := i.value * den % step
  let upperFirst := step < 2 * rest || (step == 2 * rest && tie.takesUpper lower)
  let nearer := if upperFirst then [lower + 1, lower] else [lower, lower + 1]
  nearer.find? fun c => i.holds (c * num) den

/-- Tries the powers of ten from `power` downwards. -/
def Interval.search (i : Interval) (tie : Tie) : Nat → Int → Scaled
  | 0, power => ⟨0, power⟩
  | tries + 1, power =>
    match i.candidate? tie power with
    | some digits => ⟨digits, power⟩
    | none => i.search tie tries (power - 1)

/-- Moves zeros at the end of the digits into the power. -/
def Scaled.strip : Nat → Scaled → Scaled
  | 0, d => d
  | steps + 1, d =>
    if d.digits ≠ 0 ∧ d.digits % 10 = 0 then strip steps ⟨d.digits / 10, d.power + 1⟩ else d

def shortest (tie : Tie) (mantissa : Nat) (exponent : Int) : Scaled :=
  if mantissa = 0 then ⟨0, 0⟩
  else
    let i := Interval.around mantissa exponent
    (i.search tie 18 (floorLog10 i.value i.denominator)).strip 20

end NotesBench.Decimal

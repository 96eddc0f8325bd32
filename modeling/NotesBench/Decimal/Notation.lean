import NotesBench.Decimal.Shortest

/-!
# Written forms of a double

`plain` writes the shortest digits without an exponent, however long that gets. `twoPlaces` writes
the exact value rounded to two places, a half going to the even neighbour. `withExponent` writes
the shortest digits and takes an exponent outside the range from 1e-5 to 1e16, which is how JSON
numbers are written. A minus sign is kept on a negative zero. Of two shortest decimals that are
equally near, `plain` takes the larger one and `withExponent` the even one.
-/

namespace NotesBench.Decimal

/-- Digits with `power` zeros after them, or with a point `-power` places before their end. -/
def place (digits : List Char) (power : Int) : List Char :=
  if 0 ≤ power then digits ++ List.replicate power.toNat '0'
  else
    let behind := (-power).toNat
    let padded := List.replicate (behind + 1 - digits.length) '0' ++ digits
    padded.take (padded.length - behind) ++ '.' :: padded.drop (padded.length - behind)

def signed (negative : Bool) (s : List Char) : List Char :=
  if negative then '-' :: s else s

/-- Writes the numbers by `write` and the other doubles by their names. -/
def written (write : Nat → Int → List Char) (x : Float) : String :=
  match view x with
  | .nan => "NaN"
  | .infinite negative => String.ofList (signed negative ['i', 'n', 'f'])
  | .finite negative mantissa exponent => String.ofList (signed negative (write mantissa exponent))

/-- The shortest digits that read back, without an exponent. -/
def plain : Float → String :=
  written fun mantissa exponent =>
    let d := shortest .up mantissa exponent
    place (Nat.toDigits 10 d.digits) d.power

def hundredths (mantissa : Nat) (exponent : Int) : Nat :=
  let (n, d) := scale (100 * mantissa) 1 exponent
  roundHalfEven n d

/-- The value with two places behind the point. -/
def twoPlaces : Float → String :=
  written fun mantissa exponent => place (Nat.toDigits 10 (hundredths mantissa exponent)) (-2)

/-- One digit, the point and the other digits, then the exponent with its sign. -/
def scientific (digits : List Char) (exponent : Int) : List Char :=
  let power := (if exponent < 0 then '-' else '+') :: Nat.toDigits 10 exponent.natAbs
  match digits with
  | [d] => d :: 'e' :: power
  | d :: rest => d :: '.' :: (rest ++ 'e' :: power)
  | [] => []

/-- The shortest digits that read back, with an exponent where the number is very large or very
small, and otherwise with a point. -/
def withExponent : Float → String :=
  written fun mantissa exponent =>
    let d := shortest .even mantissa exponent
    let digits := Nat.toDigits 10 d.digits
    let point := digits.length + d.power
    if mantissa = 0 then ['0', '.', '0']
    else if 0 ≤ d.power ∧ point ≤ 16 then place digits d.power ++ ['.', '0']
    else if -5 < point ∧ point ≤ 16 then place digits d.power
    else scientific digits (point - 1)

end NotesBench.Decimal

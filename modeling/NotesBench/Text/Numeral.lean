/-!
# Numerals

Decimal numerals as the service and its commands write and read them. A written number has no
leading zeros; a read one may have any number of them and a sign, and is refused when it lies
outside the range of 64-bit numbers.
-/

namespace NotesBench.Text

/-- One past the largest unsigned 64-bit number. -/
def unsignedEnd : Nat := 18_446_744_073_709_551_616

/-- One past the largest signed 64-bit number. -/
def signedEnd : Nat := 9_223_372_036_854_775_808

/-- The decimal numeral of a natural number. -/
def natText (n : Nat) : String := n.repr

/-- The decimal numeral of an integer, with a minus sign below zero. -/
def intText : Int → String
  | .ofNat n => natText n
  | .negSucc n => "-" ++ natText (n + 1)

/-- The number that a nonempty run of ASCII digits denotes. -/
def digits? (s : List Char) : Option Nat :=
  if !s.isEmpty && s.all Char.isDigit then some (Nat.ofDigitChars 10 s 0) else none

/-- Reads digits that denote an unsigned 64-bit number. -/
def bounded? (s : List Char) : Option Nat :=
  (digits? s).filter (· < unsignedEnd)

/-- Reads an unsigned 64-bit number, with an optional plus sign. -/
def unsigned? : List Char → Option Nat
  | '+' :: rest => bounded? rest
  | s => bounded? s

def signed? : List Char → Option Int
  | '-' :: rest => ((digits? rest).filter (· ≤ signedEnd)).map fun n => -(n : Int)
  | '+' :: rest => ((digits? rest).filter (· < signedEnd)).map Int.ofNat
  | s => ((digits? s).filter (· < signedEnd)).map Int.ofNat

/-- A number in hexadecimal with small letters, in at least `width` places. -/
def hexText (width n : Nat) : String :=
  let digits := Nat.toDigits 16 n
  String.ofList (List.replicate (width - digits.length) '0' ++ digits)

/-- The value of a hexadecimal digit, in either case. -/
def hexValue? (c : Char) : Option Nat :=
  if c.isDigit then some (c.toNat - '0'.toNat)
  else if 'a' ≤ c && c ≤ 'f' then some (c.toNat - 'a'.toNat + 10)
  else if 'A' ≤ c && c ≤ 'F' then some (c.toNat - 'A'.toNat + 10)
  else none

/-- The value of an octet that is the code of a hexadecimal digit. -/
def hexOctet? (b : UInt8) : Option Nat := hexValue? (Char.ofNat b.toNat)

/-- The number that hexadecimal digits denote, zero if there are none. -/
def hexNumber? (s : List Char) : Option Nat :=
  s.foldlM (fun n c => (hexValue? c).map (16 * n + ·)) 0

theorem digits?_toDigits (n : Nat) : digits? (Nat.toDigits 10 n) = some n := by
  have hd : ∀ c ∈ Nat.toDigits 10 n, c.isDigit = true := fun c hc =>
    Nat.isDigit_of_mem_toDigits (by omega) (by omega) hc
  simp [digits?, Nat.toDigits_ne_nil, List.all_eq_true.2 hd]

@[simp] theorem toList_natText (n : Nat) : (natText n).toList = Nat.toDigits 10 n := by
  simp [natText, Nat.repr]

end NotesBench.Text

import NotesBench.Text.Blank
import NotesBench.Text.Numeral
import NotesBench.Decimal.Notation

/-!
# Lengths of time

A length of time is a count of nanoseconds. `Duration.read` takes texts such as `500ms`, `30s`,
`5m` and `1h`; a bare number counts seconds. `Duration.text` writes a length in the largest unit
that makes it at least one.

An instant counts nanoseconds from the start of the clock. The clock counts seconds in 63 bits, so
an instant too far ahead has no representation (`Instant.after?`).
-/

namespace NotesBench

/-- A length of time. -/
structure Duration where
  nanos : Nat
  deriving Repr, DecidableEq, Inhabited

namespace Duration

def ofSeconds (n : Nat) : Duration := ⟨n * 1_000_000_000⟩

def ofMillis (n : Nat) : Duration := ⟨n * 1_000_000⟩

def seconds (d : Duration) : Nat := d.nanos / 1_000_000_000

/-- The nanoseconds beyond the whole seconds. -/
def subseconds (d : Duration) : Nat := d.nanos % 1_000_000_000

def millis (d : Duration) : Nat := d.nanos / 1_000_000

/-- The longest length: the seconds are counted in 64 bits. -/
def longest : Duration := ⟨Text.unsignedEnd * 1_000_000_000 - 1⟩

/-! ## Reading -/

/-- Why a text is no length of time. -/
inductive ReadError where
  | empty
  /-- The text has no digits in front, or too large a number. -/
  | noNumber (s : String)
  | unknownUnit (unit : String)
  | tooLarge (s : String)
  deriving Repr, DecidableEq

/-- The wording of a refused length. -/
def ReadError.message : ReadError → String
  | .empty => "duration cannot be empty"
  | .noNumber s => "invalid numeric value in duration: '" ++ s ++ "'"
  | .unknownUnit unit => "unknown duration unit '" ++ unit ++ "'; use ms, s, m or h"
  | .tooLarge s => "duration too large: '" ++ s ++ "'"

/-- The seconds in a unit; none for milliseconds. -/
inductive TimeUnit where
  | millis
  | seconds (each : Nat)
  deriving Repr, DecidableEq

/-- The units of time. A missing unit stands for seconds. -/
def TimeUnit.ofName? (name : String) : Option TimeUnit :=
  if name = "ms" then some .millis
  else if name = "" ∨ name = "s" then some (.seconds 1)
  else if name = "m" then some (.seconds 60)
  else if name = "h" then some (.seconds 3600)
  else none

def read (raw : String) : Except ReadError Duration := do
  let s := Text.trim raw
  if s = "" then throw .empty
  let some n := Text.bounded? (s.toList.takeWhile Char.isDigit) | throw (.noNumber s)
  let unit := String.ofList (s.toList.dropWhile Char.isDigit)
  match TimeUnit.ofName? unit with
  | none => throw (.unknownUnit unit)
  | some .millis => return ofMillis n
  | some (.seconds each) =>
    if n * each < Text.unsignedEnd then return ofSeconds (n * each) else throw (.tooLarge s)

/-! ## Writing -/

/-- A number of units with its places behind the point, the zeros at their end left out. -/
def inUnit (nanos unit places : Nat) (name : String) : String :=
  let behind := Nat.toDigits 10 (nanos % unit)
  let padded := List.replicate (places - behind.length) '0' ++ behind
  let kept := Text.dropEndWhile (· == '0') padded
  Text.natText (nanos / unit) ++ (if kept.isEmpty then "" else "." ++ String.ofList kept) ++ name

/-- A length in seconds, milliseconds, microseconds or nanoseconds. -/
def text (d : Duration) : String :=
  if 1_000_000_000 ≤ d.nanos then inUnit d.nanos 1_000_000_000 9 "s"
  else if 1_000_000 ≤ d.nanos then inUnit d.nanos 1_000_000 6 "ms"
  else if 1000 ≤ d.nanos then inUnit d.nanos 1000 3 "µs"
  else Text.natText d.nanos ++ "ns"

end Duration

/-- A moment, in nanoseconds from the start of the clock. -/
abbrev Instant := Nat

namespace Instant

/-- The first moment that the clock cannot represent. -/
def limit : Nat := Text.signedEnd * 1_000_000_000

/-- The moment that lies a length of time ahead, if the clock can represent it. -/
def after? (t : Instant) (d : Duration) : Option Instant :=
  if t + d.nanos < limit then some (t + d.nanos) else none

end Instant

end NotesBench

import NotesBench.Text.Cut
import NotesBench.Text.Numeral

/-!
# Runs of characters

Tables about characters are written in lines of words. A word stands for a run of code points, in
hexadecimal: the first and the last one with a hyphen between them, or a single one. Behind an
equals sign follow the values that belong to the run, with points between them. `Run.table` reads
the lines, `run?` looks a character up.
-/

namespace NotesBench.Text

/-- The code points from `first` to `last`, with the values that belong to them. -/
structure Run where
  first : Nat
  last : Nat
  values : List Nat
  deriving Repr, DecidableEq

namespace Run

def read? (word : List Char) : Option Run := do
  let (range, values) := match cutAt '=' word with
    | some (range, values) => (range, splitOn '.' values)
    | none => (word, [])
  let (first, last) := (cutAt '-' range).getD (range, range)
  return ⟨← hexNumber? first, ← hexNumber? last, ← values.mapM hexNumber?⟩

def table (lines : List String) : List Run :=
  lines.flatMap fun line => (splitOn ' ' line.toList).filterMap read?

/-- Whether the code point lies in the run. -/
def holds (r : Run) (n : Nat) : Bool := r.first ≤ n && n ≤ r.last

/-- The values of a code point in the run. A single value counts on with the code points. -/
def valuesAt (r : Run) (n : Nat) : List Nat :=
  match r.values with
  | [v] => [v + (n - r.first)]
  | values => values

end Run

/-- The first run that holds the character. -/
def run? (table : List Run) (c : Char) : Option Run := table.find? (·.holds c.toNat)

/-- Whether a run holds the character. -/
def inRuns (table : List Run) (c : Char) : Bool := table.any (·.holds c.toNat)

end NotesBench.Text

import NotesBench.Net.Domain.MappingTable
import NotesBench.Text.Composition
import NotesBench.Text.Lowercase

/-!
# The characters of domain names

Names that differ only in letter case, in the width of their letters or in similar ways are one
name. `map?` gives what stands for a character in such a name: nothing, itself, its small form or
other characters. Some characters are not allowed.
-/

namespace NotesBench.Net.Domain

open Text (Run run? inRuns)

def replacementRuns : List Run := Run.table replacements

def keptRuns : List Run := Run.table kept

/-- What stands for a character outside ASCII, if it is allowed. -/
def mapOther? (c : Char) : Option (List Char) :=
  match run? replacementRuns c with
  | some r => some ((r.valuesAt c.toNat).map Char.ofNat)
  | none =>
    if Text.lowerChar c ≠ [c] then some (Text.lowerChar c)
    else if inRuns keptRuns c then some [c]
    else none

/-- What stands for a character, if it is allowed. -/
def map? (c : Char) : Option (List Char) :=
  if c.toNat < 0x80 then some [c.toLower] else mapOther? c

/-- A character that stands for itself. -/
def isKept (c : Char) : Bool := map? c == some [c]

/-- The text that stands for a name, with its letters and marks put together. -/
def mapped? (s : List Char) : Option (List Char) := do
  return Text.composed (← s.mapM map?).flatten

/-- An ASCII character that no domain name holds. -/
def isForbidden (c : Char) : Bool :=
  c.toNat < 0x21 || c == '\x7f' || c == '%' || c == '#' || c == '/' || c == ':' || c == '<' ||
  c == '>' || c == '?' || c == '@' || c == '[' || c == '\\' || c == ']' || c == '^' || c == '|'

end NotesBench.Net.Domain

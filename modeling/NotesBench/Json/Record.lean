import NotesBench.Json.Source

/-!
# Records in JSON

A record has named fields. It is read from an object, whose members may stand in any order and
among others, or from an array that holds the fields in their own order. `fields?` finds the
fields; what is not a field is passed over, except that its name must be a text. A field given
twice is refused, and so is an array with more items than fields.
-/

namespace NotesBench.Json

open Text (Octets)

/-- The value of the field, absent when no member has its name. -/
def field? (members : List (String × Source)) (name : String) : Option (Option Source) :=
  match members.filter (·.1 = name) with
  | [] => some none
  | [(_, v)] => some (some v)
  | _ => none

/-- The values of the named fields, in the order of the names. -/
def Source.fields? (names : List String) : Source → Option (List (Option Source))
  | .object members => do
    let named ← members.mapM fun (raw, v) => (readText? raw).map (·, v)
    names.mapM (field? named)
  | .array items =>
    if items.length ≤ names.length then
      some (items.map some ++ List.replicate (names.length - items.length) none)
    else none
  | _ => none

/-- A field that may be absent or null. -/
def optional? {α : Type} (read : Source → Option α) : Option Source → Option (Option α)
  | none => some none
  | some .null => some none
  | some v => (read v).map some

def Source.asText? : Source → Option String
  | .text raw => readText? raw
  | _ => none

/-- A field that holds a text, empty when it is absent. -/
def textOrEmpty? : Option Source → Option String
  | none => some ""
  | some v => v.asText?

end NotesBench.Json

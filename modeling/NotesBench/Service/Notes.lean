import NotesBench.Http.Percent
import NotesBench.Service.Handler

/-!
# Notes over HTTP

Every endpoint first finds the user, then reads the number in the path, then the body. A reader
that names the current validator gets an answer without contents. Blanks around a title do not
count; a new note needs a title, a changed one does not.
-/

namespace NotesBench.Service

open Http (Request Response)

def Note.json (n : Note) : Json :=
  .object [
    ("id", .int n.id), ("title", .string n.title), ("body", .string n.body),
    ("version", .int n.version)]

/-- The answer to a new note: its members by name, without the number when that is hidden. -/
def Note.createdJson (n : Note) (hideId : Bool) : Json :=
  .object ([("body", .string n.body)] ++ (if hideId then [] else [("id", .int n.id)]) ++
    [("title", .string n.title), ("version", .int n.version)])

/-- A note as an item of a list, its members by name. -/
def Note.itemJson (n : Note) : Json := n.createdJson false

/-- The validator of an answer, unless it is hidden. -/
def Settings.shownEtag (settings : Settings) (etag : String) : Option String :=
  if settings.hideEtag then none else some etag

/-- Answers with a note and its validator. -/
def noteReply (settings : Settings) (n : Note) : Handler Response :=
  answer (jsonReply 200 n.json (settings.shownEtag n.etag))

/-- Reads the number of a note. -/
def readId (segment : String) : Handler Int :=
  match Text.signed? segment.toList with
  | some id => return id
  | none => throw (.badRequest ("invalid note id '" ++ segment ++ "'"))

/-- Reads a title, without the blanks around it, and a body. -/
def readNote (settings : Settings) (r : Request) : Handler (String × String) := do
  match ← readTexts settings ["title", "body"] r with
  | [title, body] => return (Text.trim title, body)
  | _ => return ("", "")

def addEndpoint (settings : Settings) (r : Request) : Handler Response := do
  let user ← authenticate r
  let (title, body) ← readNote settings r
  if title = "" then throw (.badRequest "title is required")
  let note ← act (Store.addNote user title body)
  answer (jsonReply 200 (note.createdJson settings.hideNoteId) (settings.shownEtag note.etag))

def showEndpoint (settings : Settings) (segment : String) (r : Request) : Handler Response := do
  let user ← authenticate r
  let id ← readId segment
  let note ← act (Store.findNote user id)
  if Http.matches? r.headers note.etag then answer (emptyReply 304) else noteReply settings note

/-- Replaces title and body of a note. -/
def changeEndpoint (settings : Settings) (segment : String) (r : Request) : Handler Response := do
  let user ← authenticate r
  let id ← readId segment
  let (title, body) ← readNote settings r
  let note ← act (Store.changeNote user id title body)
  noteReply settings note

/-- Removes a note and shows its last state. -/
def removeEndpoint (settings : Settings) (segment : String) (r : Request) : Handler Response := do
  let user ← authenticate r
  let id ← readId segment
  let note ← act (Store.removeNote user id)
  noteReply settings note

/-! ## Lists -/

/-- What a list is asked for. -/
structure Wanted where
  page : Nat := 1
  size : Nat := 20
  q : String := ""
  deriving Repr, DecidableEq

/-- Takes in one pair of a query. A later pair replaces an earlier one of the same name; a number
that cannot be read or lies outside its range falls back to the usual one. -/
def Wanted.take (w : Wanted) (pair : String × String) : Wanted :=
  let number := Text.unsigned? pair.2.toList
  if pair.1 = "page" then { w with page := (number.filter (1 ≤ ·)).getD 1 }
  else if pair.1 = "size" then { w with size := (number.filter fun n => 1 ≤ n ∧ n ≤ 100).getD 20 }
  else if pair.1 = "q" then { w with q := pair.2 }
  else w

def Wanted.ofQuery (query : String) : Wanted := (Http.pairs query).foldl Wanted.take {}

/-- Shows a page of the user's notes. -/
def listEndpoint (settings : Settings) (r : Request) : Handler Response := do
  let user ← authenticate r
  let wanted := Wanted.ofQuery r.query
  let (items, total) := (← get).listing user wanted.page wanted.size wanted.q
  let etag := pageEtag wanted.page wanted.size wanted.q items
  if Http.matches? r.headers etag then answer (emptyReply 304)
  else
    let body := Json.object [
      ("items", .array (items.map Note.itemJson)), ("page", .int wanted.page),
      ("size", .int wanted.size), ("total", .int total)]
    answer (jsonReply 200 body (settings.shownEtag etag))

end NotesBench.Service

import NotesBench.Json.Record

/-!
# What is sent to the service and read from its answers

The accounts and notes of a run, as the JSON that is sent, and the fields that are read from an
answer. Every field may be absent. An answer that is no such record, whatever is wrong with it,
gives a record without any field, so that the checks that need one fail in the same way.
-/

namespace NotesBench.Load

open Json (Source)
open Text (Octets)

/-! ## Sent -/

/-- An account. -/
structure Credentials where
  email : String
  password : String
  deriving Repr, DecidableEq, Inhabited

/-- The account of the iteration with the given number. The accounts repeat after `accounts`
iterations. -/
def Credentials.ofIndex (index accounts : Nat) (password : String) : Credentials :=
  ⟨"u" ++ Text.natText (index % accounts) ++ "@t.io", password⟩

def Credentials.json (c : Credentials) : Json :=
  .object [("email", .string c.email), ("password", .string c.password)]

/-- A note to be made. -/
structure NewNote where
  title : String
  body : String
  deriving Repr, DecidableEq, Inhabited

def NewNote.json (n : NewNote) : Json :=
  .object [("title", .string n.title), ("body", .string n.body)]

/-! ## Read -/

/-- What names a note: a number, or a text. -/
inductive NoteId where
  | number (n : Int)
  | text (s : String)
  deriving Repr, DecidableEq

/-- The name as it stands in a path, before it is escaped. -/
def NoteId.shown : NoteId → String
  | .number n => Text.intText n
  | .text s => s

def NoteId.read? : Source → Option NoteId
  | .number literal =>
    ((Json.readInt? literal).filter fun n =>
      -(Text.signedEnd : Int) ≤ n ∧ n < Text.signedEnd).map .number
  | .text raw => (Json.readText? raw).map .text
  | _ => none

/-- The answer to a login. -/
structure LoginReply where
  access : Option String := none
  refresh : Option String := none
  deriving Repr, DecidableEq, Inhabited

namespace LoginReply

def decode? (body : Octets) : Option LoginReply := do
  match ← (← Source.read? body).fields? ["access", "refresh"] with
  | [access, refresh] =>
    return ⟨← Json.optional? Source.asText? access, ← Json.optional? Source.asText? refresh⟩
  | _ => none

/-- The answer, without any field when it cannot be read. -/
def ofBody (body : Octets) : LoginReply := (decode? body).getD {}

/-- The access token, if there is one that is not empty. -/
def token (r : LoginReply) : Option String := r.access.filter (· != "")

end LoginReply

/-- The answer to a new note. -/
structure NoteReply where
  id : Option NoteId := none
  title : Option String := none
  body : Option String := none
  deriving Repr, DecidableEq, Inhabited

namespace NoteReply

def decode? (body : Octets) : Option NoteReply := do
  match ← (← Source.read? body).fields? ["id", "title", "body"] with
  | [id, title, body] =>
    return ⟨← Json.optional? NoteId.read? id, ← Json.optional? Source.asText? title,
      ← Json.optional? Source.asText? body⟩
  | _ => none

/-- The answer, without any field when it cannot be read. -/
def ofBody (body : Octets) : NoteReply := (decode? body).getD {}

/-- What names the note. An empty text names none. -/
def noteId (r : NoteReply) : Option NoteId := r.id.filter (· != .text "")

end NoteReply

end NotesBench.Load

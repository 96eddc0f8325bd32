import NotesBench.Http.Message
import NotesBench.Json.Record
import NotesBench.Service.Failure
import NotesBench.Service.Operation

/-!
# Handling requests

What the endpoints share: the settings they go by, acting on the state, finding the user of a
request, reading its body as a record of texts, and making an answer. The body must be complete
before its length is looked at, and short enough before it is decoded. An answer carries JSON or
nothing; a status outside 100 to 999, or a validator that cannot be put into a header field, makes
it fail, and the status is looked at first.

A body whose reading fails is left out (`Http.Body`), and with it the internal failure that answers
it where the connection still stands. The refusal of a body that is no record of texts ends with one
constant text, in place of what was expected at which line and column.
-/

namespace NotesBench.Service

open Http (Request Response)

/-! ## Settings

The limits that requests are held to, and the faults that the service shows on purpose so that a
client can be tried against them. -/

/-- Limits and faults. Lengths of addresses are counted in octets, of passwords in characters. -/
structure Settings where
  /-- How long a body may take to arrive, in milliseconds. -/
  bodyTimeout : Nat := 5000
  maxBody : Nat := 1048576
  maxEmail : Nat := 200
  minPassword : Nat := 8
  maxPassword : Nat := 128
  /-- The status of a health report. -/
  healthStatus : Nat := 204
  /-- How long a health report is held back, in milliseconds. -/
  healthDelay : Nat := 0
  /-- Leaves the number out of the answer to a new note. -/
  hideNoteId : Bool := false
  /-- Leaves the validators out of all answers. -/
  hideEtag : Bool := false
  deriving Repr, DecidableEq, Inhabited

/-! ## Answers -/

/-- A status that an answer can have. -/
def isStatus (status : Nat) : Bool := 100 ≤ status && status < 1000

/-- The failure of an answer that cannot be made. -/
def unbuilt (cause : String) : Failure := .internal ("Failed to build response: " ++ cause)

/-- How long a validated answer may be kept. -/
def cacheControl : String := "private, max-age=0, must-revalidate"

/-- An answer that carries a JSON value, with a validator if there is one. -/
def jsonReply (status : Nat) (v : Json) (etag : Option String) : Except Failure Response :=
  if !isStatus status then .error (unbuilt "invalid status code")
  else if !etag.all Http.isValue then .error (unbuilt "failed to parse header value")
  else
    let validators := match etag with
      | some tag => [("etag", tag), ("cache-control", cacheControl)]
      | none => []
    .ok ⟨status, ("content-type", "application/json") :: validators, v.octets⟩

def emptyReply (status : Nat) : Except Failure Response :=
  if isStatus status then .ok ⟨status, [], []⟩ else .error (unbuilt "invalid status code")

/-! ## Reading requests -/

/-- An endpoint's work on one request. -/
abbrev Handler (α : Type) := ExceptT Failure (StateM Store) α

/-- Acts on the state; a refusal fails the request. -/
def act {α : Type} (action : Store.Action α) : Handler α := do
  let (result, s) := action.on (← get)
  set s
  match result with
  | .ok a => return a
  | .error refusal => throw (.ofRefusal refusal)

/-- The user that the request's token stands for. -/
def authenticate (r : Request) : Handler Int := do
  let s ← get
  match (Http.bearer? r.headers).bind s.holder? with
  | some user => return user
  | none => throw (.unauthorized "missing or invalid bearer token")

def readBody (settings : Settings) (r : Request) : Handler Text.Octets :=
  match r.body with
  | .stalled => throw .timeout
  | .complete bytes => if settings.maxBody < bytes.length then throw .tooLarge else return bytes

/-- The texts of the named fields of a JSON record, empty where a field is missing. -/
def decodeTexts? (names : List String) (bytes : Text.Octets) : Option (List String) := do
  let source ← Json.Source.read? bytes
  let fields ← source.fields? names
  fields.mapM Json.textOrEmpty?

def readTexts (settings : Settings) (names : List String) (r : Request) :
    Handler (List String) := do
  let bytes ← readBody settings r
  match decodeTexts? names bytes with
  | some texts => return texts
  | none => throw (.badRequest "Failed to parse request: not a record of texts")

/-- The answer that was made, or the failure to make it. -/
def answer (reply : Except Failure Response) : Handler Response := ExceptT.mk (pure reply)

end NotesBench.Service

import NotesBench.Text.Blank
import NotesBench.Text.Cut
import NotesBench.Text.Octets

/-!
# Requests and responses

Messages as far as the notes service and its clients look at them. The target of a request is its
path and query as they were sent. The names of header fields are compared without regard to case;
a value that is not printable ASCII cannot be read. `bearer?` finds the token of an `Authorization`
field, `matches?` decides whether an `If-None-Match` field names a validator.

The body of a request is complete or stalled. A body whose reading fails, because its framing is
broken or the connection ends inside it, is left out.
-/

namespace NotesBench.Http

open Text (Octets)

/-- A request method. -/
inductive Method where
  | get
  | head
  | post
  | put
  | delete
  | other (name : String)
  deriving Repr, DecidableEq

/-- The method of a name. Names are compared exactly. -/
def Method.ofName (name : String) : Method :=
  if name = "GET" then .get
  else if name = "HEAD" then .head
  else if name = "POST" then .post
  else if name = "PUT" then .put
  else if name = "DELETE" then .delete
  else .other name

def Method.name : Method → String
  | .get => "GET"
  | .head => "HEAD"
  | .post => "POST"
  | .put => "PUT"
  | .delete => "DELETE"
  | .other name => name

/-- Header fields in the order in which they were sent. -/
abbrev Headers := List (String × String)

namespace Headers

/-- The values of every field with the name. -/
def all (headers : Headers) (name : String) : List String :=
  (headers.filter fun h => h.1.toLower == name.toLower).map (·.2)

def first? (headers : Headers) (name : String) : Option String :=
  (headers.all name).head?

end Headers

/-- A character of a value that can be read: printable ASCII, or a tab. -/
def isPrintable (c : Char) : Bool := (' ' ≤ c && c ≤ '~') || c == '\t'

/-- A value that consists of printable characters. -/
def readable? (value : String) : Option String :=
  if value.toList.all isPrintable then some value else none

/-- A character that may be sent in a value. -/
def isSendable (c : Char) : Bool := (' ' ≤ c && c != '\x7f') || c == '\t'

/-- A value that can be put into a message. -/
def isValue (value : String) : Bool := value.toList.all isSendable

/-- A blank beside a value, which is not part of it. -/
def isPadding (c : Char) : Bool := c == ' ' || c == '\t'

/-- A value as it arrives: without the padding beside it. -/
def arriving (value : String) : String :=
  String.ofList (Text.dropEndWhile isPadding (value.toList.dropWhile isPadding))

/-- The body of a request. -/
inductive Body where
  | complete (bytes : Octets)
  /-- The rest of the body never arrives. -/
  | stalled
  deriving Repr, DecidableEq

/-- A request. -/
structure Request where
  method : Method
  target : String
  headers : Headers := []
  body : Body := .complete []
  deriving Repr, DecidableEq

namespace Request

def resource (r : Request) : List Char := r.target.toList.takeWhile (· != '#')

def path (r : Request) : String := String.ofList (r.resource.takeWhile (· != '?'))

/-- What stands behind the question mark. -/
def query (r : Request) : String :=
  String.ofList (((Text.cutAt '?' r.resource).map (·.2)).getD [])

end Request

/-- A response. -/
structure Response where
  status : Nat
  headers : Headers := []
  body : Octets := []
  deriving Repr, DecidableEq

/-! ## On arrival -/

def Headers.arriving (headers : Headers) : Headers := headers.map fun h => (h.1, Http.arriving h.2)

def Request.arriving (r : Request) : Request := { r with headers := r.headers.arriving }

/-- A response that never has a body. -/
def Response.isBodiless (r : Response) : Bool := r.status == 204 || r.status == 304

def Response.arriving (r : Response) : Response :=
  { r with headers := r.headers.arriving, body := if r.isBodiless then [] else r.body }

/-! ## Fields that the service reads -/

/-- The token in the first `Authorization` field, when that field carries one. -/
def bearer? (headers : Headers) : Option String := do
  let value ← headers.first? "authorization"
  let readable ← readable? value
  let rest ← "Bearer ".toList.isPrefixOf? readable.toList
  let token := Text.trim (String.ofList rest)
  if token = "" then none else some token

/-- The validators that the `If-None-Match` fields name. -/
def candidates (headers : Headers) : List String :=
  ((headers.all "if-none-match").filterMap readable?).flatMap fun value =>
    (Text.splitOn ',' value.toList).map fun piece => Text.trim (String.ofList piece)

/-- Whether a candidate is the validator, or stands for any. -/
def matches? (headers : Headers) (etag : String) : Bool :=
  (candidates headers).any fun c => c == etag || c == "*"

end NotesBench.Http

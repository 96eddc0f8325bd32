import NotesBench.Http.Message
import NotesBench.Http.Url
import NotesBench.Load.BaseUrl
import NotesBench.Load.Exchange

/-!
# Requests to the service

A client knows the address of the service and turns each `Call` into a request. A user named in
the address goes into a header field. A request that cannot be written is never sent: the location
is read first, then the header fields are looked at, and last whether a request can go to that
location. What comes back is a response, or a failure on the way (`Delivery`); the client keeps the
status, the validator and the body.

`Fault` is what can go wrong around a run, requests and all. A status that was not expected is no
fault; it fails a check.
-/

namespace NotesBench.Load

open Http (Url Request Response)
open Text (Octets)

/-! ## Faults -/

/-- A fault, with its cause in words. -/
inductive Fault where
  | config (problem : String)
  /-- A request was not answered, or only in part. -/
  | transport (detail : String)
  | timeout
  | io (cause : String)
  | serialization (cause : String)
  deriving Repr, DecidableEq

def Fault.message : Fault → String
  | .config problem => "Invalid configuration: " ++ problem
  | .transport detail => "Transport error: " ++ detail
  | .timeout => "Request timed out"
  | .io cause => "I/O error: " ++ cause
  | .serialization cause => "Serialization error: " ++ cause

/-! ## On the way -/

/-- A request and the location that it goes to. -/
structure Outgoing where
  url : Url
  request : Request
  deriving Repr, DecidableEq

/-- Why no complete response comes back. -/
inductive Loss where
  /-- No connection could be made. -/
  | unconnected (cause : String)
  /-- The connection ended before the response. -/
  | dropped
  /-- The body broke off. -/
  | truncated
  | timedOut
  deriving Repr, DecidableEq

/-- What comes back for a request. -/
abbrev Delivery := Except Loss Response

def Loss.fault (out : Outgoing) (loss : Loss) : Fault :=
  let sending (cause : String) : Fault :=
    .transport ("error sending request for url (" ++ out.url.text ++ "): " ++ cause)
  match loss with
  | .unconnected cause => sending ("error trying to connect: " ++ cause)
  | .dropped => sending "connection closed before message completed"
  | .truncated =>
    .transport ("request or response body error: error reading a body from connection: " ++
      "end of file before message length reached")
  | .timedOut => .timeout

/-! ## Calls -/

/-- What can be asked of the service. -/
inductive Call where
  | health
  | ready
  | register (account : Credentials)
  | login (account : Credentials)
  | createNote (token : String) (note : NewNote)
  /-- Asks for a note, unless it is still the one that the validator names. -/
  | readNote (token : String) (id : NoteId) (etag : Option String)
  deriving Repr, DecidableEq

/-- The path of a note: its name is escaped into one segment. -/
def notePath (id : NoteId) : String :=
  "/notes/" ++ String.ofList (Http.encodeSegment id.shown)

namespace Call

def path : Call → String
  | .health => "/healthz"
  | .ready => "/readyz"
  | .register _ => "/auth/register"
  | .login _ => "/auth/login"
  | .createNote .. => "/notes"
  | .readNote _ id _ => notePath id

def method : Call → Http.Method
  | .register _ | .login _ | .createNote .. => .post
  | .health | .ready | .readNote .. => .get

/-- The record that a call sends. -/
def json : Call → Option Json
  | .register account | .login account => some account.json
  | .createNote _ note => some note.json
  | .health | .ready | .readNote .. => none

/-- The field that carries a token. -/
def authorization (token : String) : String × String := ("authorization", "Bearer " ++ token)

/-- The header fields of a call. -/
def headers : Call → Http.Headers
  | .health | .ready => []
  | .register _ | .login _ => [contentType]
  | .createNote token _ => [authorization token, contentType]
  | .readNote token _ etag =>
    authorization token :: (etag.map fun tag => ("if-none-match", tag)).toList
where
  /-- The field that announces JSON. -/
  contentType : String × String := ("content-type", "application/json")

end Call

/-! ## The client -/

/-- A client of the service at an address. -/
structure Client where
  baseUrl : String
  deriving Repr, DecidableEq, Inhabited

/-- Why a request cannot be written. -/
inductive BuildProblem where
  | url (problem : Url.ReadError)
  | headerValue
  /-- No request can be sent to the location. -/
  | unsendable (location : Url)
  deriving Repr, DecidableEq

/-- The fault of a request that cannot be written. -/
def BuildProblem.fault : BuildProblem → Fault
  | .url problem => .config ("builder error: " ++ problem.message)
  | .headerValue => .config "builder error: failed to parse header value"
  | .unsendable location =>
    .config ("builder error for url (" ++ location.text ++ "): Parsed Url is not a valid Uri")

namespace Client

def ofBaseUrl (raw : String) : Except BaseUrl.Problem Client :=
  (BaseUrl.normalize raw).map Client.mk

def userField (user password : String) : String × String :=
  ("authorization",
    "Basic " ++ String.ofList (Text.Base64.encode (Text.Utf8.encode (user ++ ":" ++ password))))

def build (c : Client) (call : Call) : Except BuildProblem Outgoing := do
  let given ← (Url.read (c.baseUrl ++ call.path)).mapError BuildProblem.url
  if !List.all call.headers fun h => Http.isValue h.2 then throw .headerValue
  let url := given.withoutCredentials
  if !url.isSendable then throw (.unsendable url)
  let user := given.credentials?.toList.map fun (user, password) => userField user password
  let body := match call.json with
    | some v => v.octets
    | none => []
  return ⟨url, ⟨call.method, url.target, user ++ call.headers, .complete body⟩⟩

end Client

/-- What a client keeps of a response. -/
structure Reply where
  status : Nat
  etag : Option String
  body : Octets
  deriving Repr, DecidableEq, Inhabited

/-- The validator of a response: its first one, if that can be read and is not empty. -/
def Reply.ofResponse (r : Response) : Reply where
  status := r.status
  etag := ((Http.Headers.first? r.headers "etag").bind Http.readable?).filter (· != "")
  body := r.body

end NotesBench.Load

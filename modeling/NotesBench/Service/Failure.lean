import NotesBench.Http.Message
import NotesBench.Json.Value
import NotesBench.Service.Store

/-!
# Answers to failed requests

A failure has a status and a message. It is answered by a JSON object that names both, whatever
characters the message holds. `describe` is the form for logs.
-/

namespace NotesBench.Service

open Http (Response)

/-- Why a request fails. -/
inductive Failure where
  | methodNotAllowed
  | internal (message : String)
  | timeout
  | tooLarge
  | badRequest (message : String)
  | unauthorized (message : String)
  | notFound (message : String)
  | conflict (message : String)
  | unprocessable (message : String)
  deriving Repr, DecidableEq

namespace Failure

def status : Failure → Nat
  | .methodNotAllowed => 405
  | .internal _ => 500
  | .timeout => 408
  | .tooLarge => 413
  | .badRequest _ => 400
  | .unauthorized _ => 401
  | .notFound _ => 404
  | .conflict _ => 409
  | .unprocessable _ => 422

def message : Failure → String
  | .methodNotAllowed => "Method Not Allowed"
  | .timeout => "Request Timeout"
  | .tooLarge => "Payload Too Large"
  | .internal m | .badRequest m | .unauthorized m | .notFound m | .conflict m
  | .unprocessable m => m

/-- The kind of the failure and its message. -/
def describe : Failure → String
  | .internal m => "Internal Error: " ++ m
  | .badRequest m => "Bad Request: " ++ m
  | .unauthorized m => "Unauthorized: " ++ m
  | .notFound m => "Not Found: " ++ m
  | .conflict m => "Conflict: " ++ m
  | .unprocessable m => "Unprocessable: " ++ m
  | f => f.message

/-- A refused operation as a failed request. -/
def ofRefusal (r : Refusal) : Failure :=
  match r with
  | .emailTaken _ => .conflict r.message
  | .wrongCredentials | .unknownToken | .spentToken => .unauthorized r.message
  | .noNote _ => .notFound r.message

/-- The object that reports a failure. The code is the status in decimal. -/
def envelope (code : Nat) (message : String) (details : Option String) : Json :=
  .object [
    ("success", .bool false),
    ("error", .object (
      [("code", .string (Text.natText code)), ("message", .string message)] ++
        (details.map fun d => ("details", Json.string d)).toList))]

/-- The answer to a failed request. -/
def response (f : Failure) : Response where
  status := f.status
  headers := [("content-type", "application/json")]
  body := (envelope f.status f.message none).octets

end Failure

end NotesBench.Service

import NotesBench.Service.Access
import NotesBench.Service.Notes

/-!
# Serving requests

`Route.ofPath?` finds the endpoint of a path, which must match exactly as it was sent; then the
method is looked at. `serve` answers one request and gives the state after it, `serveAll` answers
several in turn. A request that fails is answered too.
-/

namespace NotesBench.Service

open Http (Request Response)

/-- The paths of the service. -/
inductive Route where
  | health
  | ready
  | info
  | register
  | login
  | refresh
  | logout
  | notes
  /-- One note, by the segment that names it. -/
  | note (segment : String)
  deriving Repr, DecidableEq

/-- The route of a path. A note is named by one segment, which is not empty. -/
def Route.ofPath? (path : String) : Option Route :=
  if path = "/healthz" then some .health
  else if path = "/readyz" then some .ready
  else if path = "/info" then some .info
  else if path = "/auth/register" then some .register
  else if path = "/auth/login" then some .login
  else if path = "/auth/refresh" then some .refresh
  else if path = "/auth/logout" then some .logout
  else if path = "/notes" then some .notes
  else
    match "/notes/".toList.isPrefixOf? path.toList with
    | some segment =>
      if segment.isEmpty || segment.contains '/' then none
      else some (.note (String.ofList segment))
    | none => none

def Route.handler (settings : Settings) (draw : Draw) (r : Request) : Route → Handler Response
  | .health => if r.method = .get then answer (emptyReply settings.healthStatus) else refused
  | .ready => if r.method = .get then answer (emptyReply 204) else refused
  | .info =>
    if r.method = .get then answer (jsonReply 200 (.object [("ok", .bool true)]) none) else refused
  | .register => if r.method = .post then registerEndpoint settings draw r else refused
  | .login => if r.method = .post then loginEndpoint settings draw r else refused
  | .refresh => if r.method = .post then refreshEndpoint settings draw r else refused
  | .logout => if r.method = .post then logoutEndpoint r else refused
  | .notes =>
    match r.method with
    | .get => listEndpoint settings r
    | .post => addEndpoint settings r
    | _ => refused
  | .note segment =>
    match r.method with
    | .get => showEndpoint settings segment r
    | .put => changeEndpoint settings segment r
    | .delete => removeEndpoint settings segment r
    | _ => refused
where
  /-- The route does not know the method. -/
  refused : Handler Response := throw .methodNotAllowed

def handler (settings : Settings) (draw : Draw) (r : Request) : Handler Response :=
  match Route.ofPath? r.path with
  | some route => route.handler settings draw r
  | none => throw (.notFound ("No route found for " ++ r.path))

/-- What is sent of a response: the answer to `HEAD` has no body. -/
def sent (method : Http.Method) (response : Response) : Response :=
  if method = .head then { response with body := [] } else response

/-- Answers a request and gives the state after it. -/
def serve (settings : Settings) (draw : Draw) (r : Request) (s : Store) : Response × Store :=
  let (result, s) := StateT.run (ExceptT.run (handler settings draw r)) s
  match result with
  | .ok response => (sent r.method response, s)
  | .error failure => (sent r.method failure.response, s)

/-- How long the answer to a request is held back, in milliseconds. -/
def heldBack (settings : Settings) (r : Request) : Nat :=
  if r.method = .get ∧ Route.ofPath? r.path = some .health then settings.healthDelay else 0

/-- Whether the answer to a request depends on its body, so that the body has to be waited for. -/
def awaitsBody (settings : Settings) (draw : Draw) (r : Request) (s : Store) : Bool :=
  (serve settings draw { r with body := .stalled } s).1.status == Failure.timeout.status

/-- Answers requests one after the other. -/
def serveAll (settings : Settings) :
    List (Draw × Request) → Store → List Response × Store
  | [], s => ([], s)
  | (draw, r) :: rest, s =>
    let (response, s) := serve settings draw r s
    let (responses, s) := serveAll settings rest s
    (response :: responses, s)

end NotesBench.Service

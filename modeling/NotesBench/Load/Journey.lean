import NotesBench.Duration
import NotesBench.Load.Dialogue
import NotesBench.Load.Plan

/-!
# A user's journey

An iteration takes the steps of `Step.all` in order: it looks whether the service is alive,
registers and logs in, makes a note, fetches it, and fetches it once more unless it has changed.
Each step asks at most once, records its checks and keeps what it learns in `Progress`. A step
that lacks something it needs asks nothing and fails its checks. Only a failed registration ends
the iteration; a user who is registered already counts as registered.
-/

namespace NotesBench.Load

/-- The steps of an iteration. -/
inductive Step where
  | health
  | register
  | login
  | createNote
  | fetchNote
  | fetchNoteConditional
  /-- The pause behind the requests. It is kept by whoever runs the iterations. -/
  | pace
  deriving Repr, DecidableEq, Inhabited

namespace Step

def all : List Step :=
  [.health, .register, .login, .createNote, .fetchNote, .fetchNoteConditional, .pace]

def name : Step → String
  | .health => "health"
  | .register => "register"
  | .login => "login"
  | .createNote => "create_note"
  | .fetchNote => "fetch_note"
  | .fetchNoteConditional => "fetch_note_conditional"
  | .pace => "pace"

def checks : Step → List Check
  | .health => [.health]
  | .register => [.register]
  | .login => [.loginStatus, .loginToken]
  | .createNote => [.noteCreate, .noteId]
  | .fetchNote => [.noteGet, .noteEtag]
  | .fetchNoteConditional => [.noteNotModified]
  | .pace => []

end Step

/-- What an iteration has learned. -/
structure Progress where
  account : Credentials
  token : Option String := none
  noteId : Option NoteId := none
  etag : Option String := none
  deriving Repr, DecidableEq, Inhabited

/-- Whether an iteration goes on after a step. -/
inductive Flow where
  | onward
  | stop (reason : String)
  deriving Repr, DecidableEq

/-- How an iteration ends. -/
inductive Ending where
  | completed
  | early (step : Step) (reason : String)
  deriving Repr, DecidableEq

/-- Whether the iteration ended before its last step. -/
def Ending.isEarly : Ending → Bool
  | .completed => false
  | .early .. => true

/-- What the users of a run do. -/
structure Journey where
  client : Client
  password : String
  note : NewNote
  /-- How many accounts the iterations go through. -/
  accounts : Nat
  pace : Duration
  deriving Repr, DecidableEq, Inhabited

namespace Journey

open Dialogue (call records)

/-- The journey of a plan. There is always an account. -/
def ofPlan (client : Client) (plan : Plan) : Journey where
  client
  password := plan.password
  note := ⟨plan.noteTitle, plan.noteBody⟩
  accounts := max plan.accounts 1
  pace := plan.pace

/-- The journey of a plan that can drive a run. -/
def ready (plan : Plan) : Except Plan.Problem Journey := do
  plan.check
  let client ← (Client.ofBaseUrl plan.baseUrl).mapError Plan.Problem.baseUrl
  return ofPlan client plan

/-- What is known when the iteration with the given number starts. -/
def start (j : Journey) (index : Nat) : Progress :=
  { account := .ofIndex index j.accounts j.password }

/-! ## Steps -/

def failAll (step : Step) (reason : Reason) : Dialogue Unit :=
  records (step.checks.map fun c => (c, .fail reason))

/-- Ends a step that lacks something. -/
def skip (step : Step) (what : String) : Dialogue Flow := do
  failAll step (.missing what)
  return .onward

/-- Ends a step whose request was not answered. -/
def unanswered (step : Step) (fault : Fault) : Dialogue Flow := do
  failAll step (.transport fault.message)
  return if step = .register then .stop fault.message else .onward

def health (j : Journey) : Dialogue Flow := do
  match ← call j.client .health with
  | .error fault => unanswered .health fault
  | .ok reply =>
    records [(.health, .ofStatus reply.status [204])]
    return .onward

def register (j : Journey) (p : Progress) : Dialogue Flow := do
  match ← call j.client (.register p.account) with
  | .error fault => unanswered .register fault
  | .ok reply =>
    let outcome := Outcome.ofStatus reply.status [200, 409]
    records [(.register, outcome)]
    match outcome with
    | .pass => return .onward
    | .fail reason => return .stop reason.message

/-- Logs in and keeps the token. -/
def login (j : Journey) (p : Progress) : Dialogue (Flow × Progress) := do
  match ← call j.client (.login p.account) with
  | .error fault => return (← unanswered .login fault, p)
  | .ok reply =>
    let token := (LoginReply.ofBody reply.body).token
    records [(.loginStatus, .ofStatus reply.status [200]), (.loginToken, .ofPresence token "token")]
    return (.onward, { p with token })

/-- Makes a note and keeps its name. -/
def createNote (j : Journey) (p : Progress) : Dialogue (Flow × Progress) := do
  let some token := p.token | return (← skip .createNote "token", p)
  match ← call j.client (.createNote token j.note) with
  | .error fault => return (← unanswered .createNote fault, p)
  | .ok reply =>
    let noteId := (NoteReply.ofBody reply.body).noteId
    records [(.noteCreate, .ofStatus reply.status [200]), (.noteId, .ofPresence noteId "note id")]
    return (.onward, { p with noteId })

def fetchNote (j : Journey) (p : Progress) : Dialogue (Flow × Progress) := do
  let some token := p.token | return (← skip .fetchNote "token", p)
  let some id := p.noteId | return (← skip .fetchNote "note id", p)
  match ← call j.client (.readNote token id none) with
  | .error fault => return (← unanswered .fetchNote fault, p)
  | .ok reply =>
    records [(.noteGet, .ofStatus reply.status [200]), (.noteEtag, .ofPresence reply.etag "etag")]
    return (.onward, { p with etag := reply.etag })

/-- Fetches the note unless it is the one that was fetched before. -/
def fetchNoteConditional (j : Journey) (p : Progress) : Dialogue Flow := do
  let some token := p.token | skip .fetchNoteConditional "token"
  let some id := p.noteId | skip .fetchNoteConditional "note id"
  let some etag := p.etag | skip .fetchNoteConditional "etag"
  match ← call j.client (.readNote token id (some etag)) with
  | .error fault => unanswered .fetchNoteConditional fault
  | .ok reply =>
    records [(.noteNotModified, .ofStatus reply.status [304])]
    return .onward

def take (j : Journey) (step : Step) (p : Progress) : Dialogue (Flow × Progress) :=
  match step with
  | .health => do return (← j.health, p)
  | .register => do return (← j.register p, p)
  | .login => j.login p
  | .createNote => j.createNote p
  | .fetchNote => j.fetchNote p
  | .fetchNoteConditional => do return (← j.fetchNoteConditional p, p)
  | .pace => return (.onward, p)

/-! ## The whole way -/

/-- Takes steps until one of them ends the iteration. -/
def takeAll (j : Journey) : List Step → Progress → Dialogue Ending
  | [], _ => return .completed
  | step :: rest, p => do
    let (flow, p) ← j.take step p
    match flow with
    | .onward => j.takeAll rest p
    | .stop reason => return .early step reason

/-- The iteration with the given number. -/
def iteration (j : Journey) (index : Nat) : Dialogue Ending := j.takeAll Step.all (j.start index)

end Journey

end NotesBench.Load

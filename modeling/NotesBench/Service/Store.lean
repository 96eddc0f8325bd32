import NotesBench.Service.Table
import NotesBench.Service.Shelf

/-!
# The state of the service

`Store` holds the accounts, the tokens that were issued and the notes. Each operation gives a
result, or the reason why it was refused, together with the state after it; a refused operation
leaves the state as it was. Users and notes are numbered from one in the order in which they are
made, and no number is given out twice.

Salts and tokens are drawn at random elsewhere and handed in.
-/

namespace NotesBench.Service

/-- A registered account. The digest is of the salt and the password. -/
structure Account where
  id : Int
  salt : String
  digest : BitVec 32
  deriving Repr, DecidableEq

/-- What a refresh token stands for. -/
structure Grant where
  user : Int
  spent : Bool := false
  deriving Repr, DecidableEq

/-- The tokens that one login or refresh issues. -/
structure TokenPair where
  access : String
  refresh : String
  deriving Repr, DecidableEq, Inhabited

/-- The state of the service. -/
structure Store where
  accounts : Table Account := .empty
  access : Table Int := .empty
  refresh : Table Grant := .empty
  shelf : Shelf := .empty
  lastUser : Int := 0
  lastNote : Int := 0
  deriving Repr, DecidableEq, Inhabited

/-- Why an operation is refused. -/
inductive Refusal where
  | emailTaken (email : String)
  | wrongCredentials
  | unknownToken
  | spentToken
  /-- The note does not exist, or is another user's. -/
  | noNote (id : Int)
  deriving Repr, DecidableEq

def Refusal.message : Refusal → String
  | .emailTaken email => "email '" ++ email ++ "' already registered"
  | .wrongCredentials => "invalid credentials"
  | .unknownToken => "invalid token"
  | .spentToken => "refresh token reuse detected"
  | .noNote id => "note " ++ Text.intText id ++ " not found"

def digest (salt password : String) : BitVec 32 := Checksum.ofText (salt ++ "|" ++ password)

namespace Store

abbrev Action (α : Type) := ExceptT Refusal (StateM Store) α

/-! ## Accounts and tokens -/

/-- Registers an account and gives its number. -/
def register (salt email password : String) : Action Int := do
  let s ← get
  if s.accounts.contains email then throw (.emailTaken email)
  let id := s.lastUser + 1
  set { s with
    lastUser := id
    accounts := s.accounts.insert email ⟨id, salt, digest salt password⟩ }
  return id

def issue (pair : TokenPair) (user : Int) : Action TokenPair := do
  modify fun s => { s with
    access := s.access.insert pair.access user
    refresh := s.refresh.insert pair.refresh ⟨user, false⟩ }
  return pair

def login (pair : TokenPair) (email password : String) : Action TokenPair := do
  let s ← get
  match s.accounts.find? email with
  | none => throw .wrongCredentials
  | some account =>
    if digest account.salt password = account.digest then issue pair account.id
    else throw .wrongCredentials

/-- Spends a refresh token and issues new ones. -/
def rotate (pair : TokenPair) (token : String) : Action TokenPair := do
  let s ← get
  match s.refresh.find? token with
  | none => throw .unknownToken
  | some grant =>
    if grant.spent then throw .spentToken
    set { s with refresh := s.refresh.insert token { grant with spent := true } }
    issue pair grant.user

def logout (token : String) : Action Unit := do
  let s ← get
  if !s.access.contains token then throw .unknownToken
  set { s with access := s.access.erase token }

/-- The user that an access token stands for. -/
def holder? (s : Store) (token : String) : Option Int := s.access.find? token

def userCount (s : Store) : Nat := s.accounts.size

/-! ## Notes -/

/-- The note with a number, if it is the user's. -/
def owned? (s : Store) (user id : Int) : Option Note :=
  (s.shelf.find? id).filter (·.owner == user)

def addNote (user : Int) (title body : String) : Action Note := do
  let s ← get
  let note : Note := ⟨s.lastNote + 1, user, title, body, 1⟩
  set { s with lastNote := note.id, shelf := s.shelf.put note }
  return note

def findNote (user id : Int) : Action Note := do
  match (← get).owned? user id with
  | some note => return note
  | none => throw (.noNote id)

/-- Replaces title and body of a note, which then has the next version. -/
def changeNote (user id : Int) (title body : String) : Action Note := do
  let note ← findNote user id
  let changed := { note with title, body, version := note.version + 1 }
  modify fun s => { s with shelf := s.shelf.put changed }
  return changed

/-- Removes a note and gives its last state. -/
def removeNote (user id : Int) : Action Note := do
  let note ← findNote user id
  modify fun s => { s with shelf := s.shelf.erase id }
  return note

/-- A page of the user's notes that hold the search text, and how many hold it in all. -/
def listing (s : Store) (user : Int) (page size : Nat) (q : String) : List Note × Nat :=
  let found := s.shelf.search user q
  (pageOf page size found, found.length)

end Store

end NotesBench.Service

import NotesBench.Service.Store

/-!
# Runs of operations

`Operation` lists what can be asked of the state, `Operation.perform` does it. A run performs
operations one after the other, each with the random values drawn for it.
-/

namespace NotesBench.Service

/-- The random values that one operation or request may use. -/
structure Draw where
  salt : String
  pair : TokenPair
  deriving Repr, DecidableEq, Inhabited

/-- Something asked of the state. -/
inductive Operation where
  | register (email password : String)
  | login (email password : String)
  | rotate (token : String)
  | logout (token : String)
  | holder (token : String)
  | userCount
  | addNote (user : Int) (title body : String)
  | findNote (user id : Int)
  | changeNote (user id : Int) (title body : String)
  | removeNote (user id : Int)
  | listing (user : Int) (page size : Nat) (q : String)
  deriving Repr, DecidableEq

/-- What an operation gives. -/
inductive Answer where
  | registered (id : Int)
  | tokens (pair : TokenPair)
  | done
  | holder (user : Option Int)
  | count (users : Nat)
  | note (note : Note)
  | page (items : List Note) (total : Nat)
  deriving Repr, DecidableEq

def Operation.perform (draw : Draw) : Operation → Store.Action Answer
  | .register email password => .registered <$> Store.register draw.salt email password
  | .login email password => .tokens <$> Store.login draw.pair email password
  | .rotate token => .tokens <$> Store.rotate draw.pair token
  | .logout token => do
    Store.logout token
    return .done
  | .holder token => do return .holder ((← get).holder? token)
  | .userCount => do return .count (← get).userCount
  | .addNote user title body => .note <$> Store.addNote user title body
  | .findNote user id => .note <$> Store.findNote user id
  | .changeNote user id title body => .note <$> Store.changeNote user id title body
  | .removeNote user id => .note <$> Store.removeNote user id
  | .listing user page size q => do
    let (items, total) := (← get).listing user page size q
    return .page items total

/-- The result of an action and the state after it. -/
def Store.Action.on {α : Type} (action : Store.Action α) (s : Store) : Except Refusal α × Store :=
  StateT.run (ExceptT.run action) s

def perform : List (Draw × Operation) → Store → List (Except Refusal Answer) × Store
  | [], s => ([], s)
  | (draw, operation) :: rest, s =>
    let (answer, s) := (operation.perform draw).on s
    let (answers, s) := perform rest s
    (answer :: answers, s)

end NotesBench.Service

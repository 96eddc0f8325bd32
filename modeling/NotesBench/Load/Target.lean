import NotesBench.Load.Dialogue
import NotesBench.Service.Serve

/-!
# Targets

What requests can be sent to: the notes service itself, with its state and its supply of random
values, or a stand-in that gives prepared answers. `across` places a target behind a network, which
carries requests to one address only, or to none.
-/

namespace NotesBench.Load

open Http (Request Response)
open Service (Settings Store TokenPair Draw)

/-! ## The service -/

/-- The random values of a service: the salt of the account and the pair of tokens that come after
so many others. -/
structure Supply where
  salt : Nat → String
  pair : Nat → TokenPair

/-- The values that the next request may use. -/
def Supply.next (supply : Supply) (s : Store) : Draw :=
  ⟨supply.salt s.accounts.size, supply.pair s.refresh.size⟩

def Target.service (settings : Settings) (supply : Supply) : Target Store where
  respond out s :=
    let (response, s) := Service.serve settings (supply.next s) out.request s
    (.ok response, s)

/-! ## Stand-ins -/

/-- The kinds of requests that a run sends. -/
inductive RequestKind where
  | health
  | ready
  | register
  | login
  | create
  | fetch
  /-- Fetches a note unless it is a known one. -/
  | conditional
  deriving Repr, DecidableEq

def RequestKind.name : RequestKind → String
  | .health => "health"
  | .ready => "ready"
  | .register => "register"
  | .login => "login"
  | .create => "create"
  | .fetch => "fetch"
  | .conditional => "conditional"

def RequestKind.of? (r : Request) : Option RequestKind :=
  match r.method, r.path with
  | .get, "/healthz" => some .health
  | .get, "/readyz" => some .ready
  | .post, "/auth/register" => some .register
  | .post, "/auth/login" => some .login
  | .post, "/notes" => some .create
  | .get, path =>
    if "/notes/".toList.isPrefixOf path.toList then
      if (r.headers.first? "if-none-match").isSome then some .conditional else some .fetch
    else none
  | _, _ => none

/-- The answer where none is prepared. -/
def unprepared : Delivery := .ok { status := 500 }

/-- A stand-in gives its prepared answers one after the other, or one for each kind of request. -/
inductive StandIn where
  | script (answers : List Delivery)
  | byKind (answers : List (RequestKind × Delivery))
  deriving Repr

/-- The answer to a request, and the stand-in after it. -/
def StandIn.answer (r : Request) : StandIn → Delivery × StandIn
  | .script answers => (answers.headD unprepared, .script answers.tail)
  | .byKind answers =>
    let found := (RequestKind.of? r).bind fun kind => (answers.find? (·.1 = kind)).map (·.2)
    (found.getD unprepared, .byKind answers)

/-- A stand-in and the requests that reached it, in order. -/
structure Watched where
  standIn : StandIn
  received : List Request := []
  deriving Repr

def Target.standIn : Target Watched where
  respond out s :=
    let (delivery, standIn) := s.standIn.answer out.request
    (delivery, ⟨standIn, s.received ++ [out.request]⟩)

/-! ## The network -/

/-- What carries requests. -/
inductive Network where
  /-- Carries requests to an address. -/
  | to (authority : String)
  /-- Carries none. -/
  | down
  deriving Repr, DecidableEq

/-- Why nothing is reached when the network is down. -/
def downLoss : Loss := .unconnected "tcp connect error: Network is unreachable (os error 101)"

/-- Why an address is not reached that is not the target's. -/
def elsewhereLoss : Loss := .unconnected "tcp connect error: Connection refused (os error 111)"

def Target.across {σ : Type} (network : Network) (t : Target σ) : Target σ where
  respond out s :=
    match network with
    | .down => (.error downLoss, s)
    | .to authority =>
      if !out.url.secure && out.url.authority == authority then
        let (delivery, s) := t.respond { out with request := out.request.arriving } s
        (delivery.map Response.arriving, s)
      else (.error elsewhereLoss, s)

end NotesBench.Load

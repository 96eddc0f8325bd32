import NotesBench.Duration
import NotesBench.Load.BaseUrl

/-!
# The plan of a run

`Plan.check` says whether a plan can drive a run. Of several problems the first in its order is
reported.
-/

namespace NotesBench.Load

/-- How a run goes. -/
structure Plan where
  baseUrl : String := BaseUrl.usual
  /-- How many virtual users run at a time. -/
  users : Nat := 5
  /-- No iteration starts later than this. -/
  duration : Option Duration := some (.ofSeconds 30)
  /-- How many iterations all users run together. -/
  iterations : Option Nat := none
  /-- The pause between two iterations of one user. -/
  pace : Duration := .ofSeconds 1
  requestTimeout : Duration := .ofSeconds 10
  /-- How many accounts the iterations go through. -/
  accounts : Nat := 1000
  password : String := "Password1!"
  noteTitle : String := "t"
  noteBody : String := "b"
  /-- The least share of checks that must pass. -/
  minRate : Option Float := none
  deriving Repr, Inhabited

namespace Plan

/-- Why a plan cannot drive a run. -/
inductive Problem where
  | baseUrl (problem : BaseUrl.Problem)
  | noUsers
  | noAccounts
  /-- Nothing ends the run. -/
  | endless
  | rateOutside (rate : Float)
  deriving Repr

def Problem.message : Problem → String
  | .baseUrl problem => problem.message
  | .noUsers => "vus must be greater than 0"
  | .noAccounts => "email modulus must be greater than 0"
  | .endless => "either a duration or an iteration count is required"
  | .rateOutside rate => "min check rate must be between 0 and 1, got " ++ Decimal.plain rate

/-- A share between none and all. -/
def isRate (rate : Float) : Bool := (0.0 : Float) ≤ rate && rate ≤ (1.0 : Float)

/-- Checks that the plan can drive a run. -/
def check (p : Plan) : Except Problem Unit := do
  let _ ← (BaseUrl.normalize p.baseUrl).mapError Problem.baseUrl
  if p.users = 0 then throw .noUsers
  if p.accounts = 0 then throw .noAccounts
  if p.duration.isNone ∧ p.iterations.isNone then throw .endless
  match p.minRate with
  | some rate => if !isRate rate then throw (.rateOutside rate)
  | none => return

end Plan

end NotesBench.Load

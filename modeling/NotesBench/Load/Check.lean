import NotesBench.Text.Numeral

/-!
# Checks

An iteration evaluates up to nine checks, each of which passes or fails for a reason.
-/

namespace NotesBench.Load

/-- The checks, in the order in which an iteration comes to them. -/
inductive Check where
  | health
  | register
  | loginStatus
  | loginToken
  | noteCreate
  | noteId
  | noteGet
  | noteEtag
  | noteNotModified
  deriving Repr, DecidableEq, Inhabited

namespace Check

def all : List Check :=
  [.health, .register, .loginStatus, .loginToken, .noteCreate, .noteId, .noteGet, .noteEtag,
    .noteNotModified]

/-- The place of a check in the order. -/
def slot : Check → Fin 9
  | .health => 0
  | .register => 1
  | .loginStatus => 2
  | .loginToken => 3
  | .noteCreate => 4
  | .noteId => 5
  | .noteGet => 6
  | .noteEtag => 7
  | .noteNotModified => 8

def name : Check → String
  | .health => "health 204"
  | .register => "register 200/409"
  | .loginStatus => "login 200"
  | .loginToken => "login token present"
  | .noteCreate => "note create 200"
  | .noteId => "note id present"
  | .noteGet => "note get 200"
  | .noteEtag => "note etag present"
  | .noteNotModified => "note 304"

theorem mem_all (c : Check) : c ∈ all := by cases c <;> decide

theorem slot_injective {c d : Check} (h : c.slot = d.slot) : c = d := by
  cases c <;> cases d <;> first | rfl | exact absurd h (by decide)

end Check

/-- Why a check fails. -/
inductive Reason where
  | unexpectedStatus (status : Nat)
  /-- A value is absent that an earlier step or the answer should have given. -/
  | missing (what : String)
  /-- The request was not answered. -/
  | transport (message : String)
  deriving Repr, DecidableEq

def Reason.message : Reason → String
  | .unexpectedStatus status => "unexpected status " ++ Text.natText status
  | .missing what => "missing " ++ what
  | .transport message => "transport: " ++ message

/-- The result of a check. -/
inductive Outcome where
  | pass
  | fail (reason : Reason)
  deriving Repr, DecidableEq

namespace Outcome

def ofStatus (status : Nat) (expected : List Nat) : Outcome :=
  if expected.contains status then .pass else .fail (.unexpectedStatus status)

def ofPresence {α : Type} (value : Option α) (what : String) : Outcome :=
  if value.isSome then .pass else .fail (.missing what)

def isPass : Outcome → Bool
  | .pass => true
  | .fail _ => false

end Outcome

abbrev Record := Check × Outcome

/-- The first result of a check among records. -/
def outcomeOf? (records : List Record) (c : Check) : Option Outcome :=
  (records.find? (·.1 = c)).map (·.2)

end NotesBench.Load

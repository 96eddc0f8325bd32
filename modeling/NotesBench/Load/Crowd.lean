import NotesBench.Load.Journey
import NotesBench.Load.Pause
import NotesBench.Load.Scoreboard

/-!
# A crowd of users

A run lets several users take iterations at a time. Each user goes round a loop (`Phase`): it looks
at the stop signal and then at the deadline, takes the next number from a counter that all users
share, and stops when the number lies outside the budget; else it takes the iteration with that
number, counts it, and pauses. An iteration that has started is always taken to its end.

`User.advance` is one step of one user. `Crowd.Step` is the relation of all steps that a run can
take: any user that can move may move, time may pass, and the signal may change. `Crowd.Run` is
a run with what was done in it, and by whom.
-/

namespace NotesBench.Load

/-- Why a user stops. -/
inductive StopCause where
  | signal
  | deadline
  | budget
  deriving Repr, DecidableEq

/-- Where a user is in its loop. -/
inductive Phase where
  | checkingSignal
  | checkingDeadline
  | fetching
  /-- Takes an iteration. -/
  | iterating (index : Nat) (rest : Dialogue Ending)
  /-- Has counted a failed check, and is about to keep its reason. -/
  | keeping (index : Nat) (check : Check) (reason : Reason) (rest : Dialogue Ending)
  /-- Has counted an iteration, and is about to note whether it ended early. -/
  | closing (index : Nat) (ending : Ending)
  | pacing
  | pausing (wake : Option Instant) (listening : Bool)
  | stopped (cause : StopCause)

/-- A user and the version of the signal that it saw last. -/
structure User where
  phase : Phase := .checkingSignal
  seen : Nat := 0

/-- What the users count. -/
structure Counters where
  /-- The number of the next iteration. -/
  next : Nat := 0
  iterations : Nat := 0
  earlyReturns : Nat := 0
  interrupted : Bool := false
  deriving Repr, DecidableEq, Inhabited

/-- What all users follow. -/
structure Regime where
  iteration : Nat → Dialogue Ending
  pace : Duration
  budget : Option Nat
  deadline : Option Instant

/-- The regime of a plan when the run starts at a moment. A duration that reaches beyond the clock
sets no deadline. -/
def Regime.ofPlan (journey : Journey) (plan : Plan) (start : Instant) : Regime where
  iteration := journey.iteration
  pace := journey.pace
  budget := plan.iterations
  deadline := plan.duration.bind (Instant.after? start)

/-- What all users share. -/
structure Shared (σ : Type) where
  now : Instant
  signal : Signal
  counters : Counters := {}
  board : Scoreboard := {}
  /-- The state of the target. -/
  site : σ

/-- What a step does, as far as others can tell. -/
inductive Act where
  | quiet
  /-- A user has taken a number and begins the iteration. -/
  | started (index : Nat)
  /-- A request was sent in an iteration. -/
  | asked (index : Nat) (out : Outgoing) (delivery : Delivery)
  /-- A check of an iteration was counted. -/
  | counted (index : Nat) (r : Record)
  /-- An iteration was counted. -/
  | finished (index : Nat) (ending : Ending)
  | left (cause : StopCause)
  | passed (now : Instant)
  | signalled (event : SignalEvent)

/-- An act, and the place of the user who did it, if it was a user. -/
structure Deed where
  user : Option Nat
  act : Act

/-! ## One user -/

namespace User

variable {σ : Type}

def leave (u : User) (cause : StopCause) (s : Shared σ) : Act × User × Shared σ :=
  (.left cause, { u with phase := .stopped cause },
    if cause = .signal then { s with counters.interrupted := true } else s)

def iterate (t : Target σ) (u : User) (index : Nat) (s : Shared σ) :
    Dialogue Ending → Act × User × Shared σ
  | .done ending =>
    (.finished index ending, { u with phase := .closing index ending },
      { s with counters.iterations := s.counters.iterations + 1 })
  | .record r rest =>
    let (board, kept) := s.board.count r.1 r.2
    let phase := match kept with
      | some reason => .keeping index r.1 reason rest
      | none => .iterating index rest
    (.counted index r, { u with phase }, { s with board })
  | .ask out rest =>
    let (delivery, site) := t.respond out s.site
    (.asked index out delivery, { u with phase := .iterating index (rest delivery) },
      { s with site })

/-- One step of a user, if it can move. A change of the signal comes before waking. -/
def advance (g : Regime) (t : Target σ) (u : User) (s : Shared σ) :
    Option (Act × User × Shared σ) :=
  let become (phase : Phase) : Option (Act × User × Shared σ) := some (.quiet, { u with phase }, s)
  match u.phase with
  | .checkingSignal => if s.signal.raised then u.leave .signal s else become .checkingDeadline
  | .checkingDeadline =>
    if g.deadline.any (· ≤ s.now) then u.leave .deadline s else become .fetching
  | .fetching =>
    let index := s.counters.next
    let s := { s with counters.next := index + 1 }
    if g.budget.any (· ≤ index) then u.leave .budget s
    else some (.started index, { u with phase := .iterating index (g.iteration index) }, s)
  | .iterating index rest => iterate t u index s rest
  | .keeping index check reason rest =>
    some (.quiet, { u with phase := .iterating index rest },
      { s with board := s.board.keep check reason })
  | .closing _ ending =>
    some (.quiet, { u with phase := .pacing },
      if ending.isEarly then
        { s with counters.earlyReturns := s.counters.earlyReturns + 1 }
      else s)
  | .pacing => become (.pausing (wakeTime s.now g.pace g.deadline) true)
  | .pausing wake true =>
    match s.signal.notice u.seen with
    | .stop => ({ u with seen := s.signal.version } : User).leave .signal s
    | .ignore => some (.quiet, ⟨.pausing wake false, s.signal.version⟩, s)
    | .nothing => if wake.any (· ≤ s.now) then become .checkingSignal else none
  | .pausing wake false => if wake.any (· ≤ s.now) then become .checkingSignal else none
  | .stopped _ => none

def hasStopped (u : User) : Bool :=
  match u.phase with
  | .stopped _ => true
  | _ => false

/-- The moment at which a pausing user wakes. -/
def wake? (u : User) : Option Instant :=
  match u.phase with
  | .pausing wake _ => wake
  | _ => none

end User

/-! ## All users -/

/-- The users of a run and what they share. -/
structure Crowd (σ : Type) where
  users : List User
  shared : Shared σ

namespace Crowd

variable {σ : Type}

/-- The crowd at the start of a run. The users have seen the signal as it was made. -/
def start (size : Nat) (now : Instant) (signal : Signal) (site : σ) : Crowd σ where
  users := List.replicate size {}
  shared := { now, signal, site }

def put (w : Crowd σ) (i : Nat) (u : User) (s : Shared σ) : Crowd σ :=
  ⟨w.users.set i u, s⟩

def isOver (w : Crowd σ) : Bool := w.users.all User.hasStopped

/-- The steps of a crowd. -/
inductive Step (g : Regime) (t : Target σ) : Crowd σ → Deed → Crowd σ → Prop where
  /-- A user moves. -/
  | move {w : Crowd σ} {i : Nat} {u u' : User} {s' : Shared σ} {act : Act} :
    w.users[i]? = some u → u.advance g t w.shared = some (act, u', s') →
      Step g t w ⟨some i, act⟩ (w.put i u' s')
  /-- A user wakes, whether or not the signal has changed. -/
  | wake {w : Crowd σ} {i : Nat} {u : User} {moment : Instant} {listening : Bool} :
    w.users[i]? = some u → u.phase = .pausing (some moment) listening → moment ≤ w.shared.now →
      Step g t w ⟨some i, .quiet⟩ (w.put i { u with phase := .checkingSignal } w.shared)
  /-- Time passes. -/
  | pass {w : Crowd σ} {later : Instant} : w.shared.now ≤ later →
      Step g t w ⟨none, .passed later⟩ { w with shared.now := later }
  /-- The signal changes. -/
  | signal {w : Crowd σ} (event : SignalEvent) :
      Step g t w ⟨none, .signalled event⟩ { w with shared.signal := w.shared.signal.after event }

/-- The runs of a crowd, with what was done in order. -/
inductive Run (g : Regime) (t : Target σ) : Crowd σ → List Deed → Crowd σ → Prop where
  | refl (w : Crowd σ) : Run g t w [] w
  | step {w₁ w₂ w₃ : Crowd σ} {deed : Deed} {deeds : List Deed} :
    Step g t w₁ deed w₂ → Run g t w₂ deeds w₃ → Run g t w₁ (deed :: deeds) w₃

theorem Run.trans {g : Regime} {t : Target σ} {w₁ w₂ w₃ : Crowd σ} {before after : List Deed}
    (h₁ : Run g t w₁ before w₂) (h₂ : Run g t w₂ after w₃) : Run g t w₁ (before ++ after) w₃ := by
  induction h₁ with
  | refl => exact h₂
  | step hs _ ih => exact .step hs (ih h₂)

end Crowd

end NotesBench.Load

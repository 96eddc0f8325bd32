import NotesBench.Load.Crowd
import NotesBench.Load.Readiness
import NotesBench.Shell.Connection

/-!
# Users in real time

Carries out dialogues, waits and runs against a service on the network. Each user of a run is a
task that takes the steps of `Load.User.advance`; a request is sent before the step that takes in
its delivery.
-/

namespace NotesBench.Shell

open Std.Async
open Load (Dialogue Delivery Outgoing Record Regime Shared Target User Signal)

/-- Holds a dialogue, and gives its value and the results that were recorded. -/
def hold {α : Type} (limit : Duration) : Dialogue α → Async (α × List Record)
  | .done a => return (a, [])
  | .record r next => do
    let (a, records) ← hold limit next
    return (a, r :: records)
  | .ask out next => do hold limit (next (← exchange limit out))

partial def waitUntilReady (limit : Duration) (client : Load.Client) (patience : Load.Patience) :
    Async Bool := do
  let (ready, _) ← hold limit (Load.isReady client)
  match patience.after (← now) ready with
  | .ready => return true
  | .giveUp => return false
  | .sleep wake =>
    sleepFor ⟨wake - (← now)⟩
    waitUntilReady limit client patience

/-! ## Runs -/

def answered (delivery : Delivery) : Target Unit := ⟨fun _ s => (delivery, s)⟩

/-- The request that a user is about to send. -/
def pending? (u : User) : Option Outgoing :=
  match u.phase with
  | .iterating _ (.ask out _) => some out
  | _ => none

/-- The longest that a pausing user sleeps before it looks at the signal again. -/
def glance : Duration := .ofMillis 10

/-- Takes one step of a user in what all users share, and gives the user after it. -/
def takeStep (g : Regime) (delivery : Delivery) (u : User) (shared : IO.Ref (Shared Unit)) :
    IO (Option User) := do
  let moment ← now
  shared.modifyGet fun s =>
    let s := { s with now := moment }
    match u.advance g (answered delivery) s with
    | some (_, u, s) => (some u, s)
    | none => (none, s)

/-- Takes the steps of a user until it stops. -/
partial def live (g : Regime) (limit : Duration) (u : User) (shared : IO.Ref (Shared Unit)) :
    Async Unit := do
  if u.hasStopped then return
  let delivery ← match pending? u with
    | some out => exchange limit out
    | none => pure (.error .dropped)
  match ← takeStep g delivery u shared with
  | some u => live g limit u shared
  | none =>
    let moment ← now
    let rest := (u.wake?.map fun wake => wake - moment).getD glance.nanos
    sleepFor ⟨min rest glance.nanos⟩
    live g limit u shared

/-- Raises the stop signal when the program is interrupted. -/
def listenForInterrupt (notice : String) (shared : IO.Ref (Shared Unit)) : Async Unit := do
  awaitInterrupt
  IO.print notice
  shared.modify fun s => { s with signal := s.signal.after (.set true) }

/-- Carries out the run of a plan, and gives the crowd at its end and the time it started. -/
def carryOut (journey : Load.Journey) (plan : Load.Plan) (notice : String) :
    Async (Load.Crowd Unit × Instant) := do
  let start ← now
  let crowd := Load.Crowd.start plan.users start {} ()
  let shared ← IO.mkRef crowd.shared
  background (listenForInterrupt notice shared)
  let regime := Regime.ofPlan journey plan start
  let tasks := crowd.users.map fun u => live regime plan.requestTimeout u shared
  discard (Async.concurrentlyAll tasks.toArray)
  return ({ crowd with shared := { (← shared.get) with now := ← now } }, start)

end NotesBench.Shell

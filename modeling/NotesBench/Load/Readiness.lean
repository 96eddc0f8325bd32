import NotesBench.Load.Dialogue
import NotesBench.Duration

/-!
# Waiting for the service

A service is polled until it is ready. After a poll that found it not ready, the wait goes on for
an interval and polls again, or is given up when the next poll would begin after the deadline.
Without a deadline it is never given up.
-/

namespace NotesBench.Load

/-- One poll: how long it took, and whether the service was ready. -/
structure Poll where
  took : Duration
  ready : Bool
  deriving Repr, DecidableEq

/-- What follows a poll. -/
inductive AfterPoll where
  | ready
  | giveUp
  /-- Sleeps until a moment and polls again. -/
  | sleep (wake : Instant)
  deriving Repr, DecidableEq

/-- How a service is waited for. -/
structure Patience where
  interval : Duration
  deadline : Option Instant
  deriving Repr, DecidableEq

namespace Patience

/-- Whether another poll would begin after the deadline, or beyond the clock. -/
def isOver (p : Patience) (now : Instant) : Bool :=
  p.deadline.any fun deadline => (Instant.after? now p.interval).all (deadline < ·)

/-- What follows a poll that ended at a moment. A sleep beyond the clock ends with the clock. -/
def after (p : Patience) (now : Instant) (ready : Bool) : AfterPoll :=
  if ready then .ready
  else if p.isOver now then .giveUp
  else .sleep ((Instant.after? now p.interval).getD Instant.limit)

/-- What happens while waiting: every poll is listed with the moment at which it ended and with
what followed. The list ends with the first poll that is not followed by a sleep. -/
def wait (p : Patience) (now : Instant) : List Poll → List (Instant × AfterPoll)
  | [] => []
  | poll :: later =>
    let ended := now + poll.took.nanos
    match p.after ended poll.ready with
    | .sleep wake => (ended, .sleep wake) :: p.wait wake later
    | verdict => [(ended, verdict)]

end Patience

/-- Asks whether the service is ready. -/
def isReady (c : Client) : Dialogue Bool := do
  match ← Dialogue.call c .ready with
  | .ok reply => return reply.status == 204
  | .error _ => return false

/-- Waits for a target, where a poll takes a fixed time, with a number of polls at most. The answer
is missing when they are used up. -/
def Patience.waitFor {σ : Type} (p : Patience) (c : Client) (t : Target σ) (latency : Duration) :
    Nat → Instant → σ → Option Bool × σ
  | 0, _, s => (none, s)
  | polls + 1, now, s =>
    let (ready, _, s) := (isReady c).run t s
    match p.after (now + latency.nanos) ready with
    | .ready => (some true, s)
    | .giveUp => (some false, s)
    | .sleep wake => p.waitFor c t latency polls wake s

end NotesBench.Load

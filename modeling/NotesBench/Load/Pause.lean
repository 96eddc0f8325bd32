import NotesBench.Duration

/-!
# Pausing under a stop signal

A `Signal` is raised to stop a run. It keeps its last value and counts how often it was set, so
that a listener can tell whether it was set since the listener looked last. A user who pauses
listens to the signal: when it is set and is raised then, the pause ends at once; when it is set
and is not raised, or when nobody is left to set it, the user stops listening and sleeps on.
-/

namespace NotesBench.Load

/-! ## The signal -/

/-- A signal that stops a run while it is raised. -/
structure Signal where
  raised : Bool := false
  /-- How often it was set. -/
  version : Nat := 0
  /-- Whether it can still be set. -/
  connected : Bool := true
  deriving Repr, DecidableEq, Inhabited

/-- What happens to a signal. -/
inductive SignalEvent where
  | set (raised : Bool)
  /-- Nobody is left to set the signal. -/
  | close
  deriving Repr, DecidableEq

/-- The signal after an event. A closed signal stays as it is. -/
def Signal.after (s : Signal) : SignalEvent → Signal
  | .set raised => if s.connected then { s with raised, version := s.version + 1 } else s
  | .close => { s with connected := false }

/-- What a listener makes of a signal. -/
inductive Notice where
  | nothing
  /-- The signal was set and is raised. -/
  | stop
  /-- There is nothing to listen to any more. -/
  | ignore
  deriving Repr, DecidableEq

/-- What a listener notices who last saw the signal at a version. -/
def Signal.notice (s : Signal) (seen : Nat) : Notice :=
  if s.version ≠ seen then if s.raised then .stop else .ignore
  else if s.connected then .nothing
  else .ignore

/-! ## The pause -/

/-- When a pause is over: after the pace interval, or at the deadline if that comes first. A moment
that the clock cannot represent never comes. -/
def wakeTime (now : Instant) (pace : Duration) (deadline : Option Instant) : Option Instant :=
  match Instant.after? now pace, deadline with
  | some wake, some deadline => some (min wake deadline)
  | some wake, none => some wake
  | none, deadline => deadline

/-- How a pause ends. -/
inductive PauseEnd where
  /-- The time is over. -/
  | woken (moment : Instant)
  /-- The signal stopped the run. -/
  | stopped (moment : Instant)
  /-- The pause has no end. -/
  | never
  deriving Repr, DecidableEq

/-- The end of a pause that nothing cuts short. -/
def sleepOn (now : Instant) : Option Instant → PauseEnd
  | some wake => .woken (max now wake)
  | none => .never

/-- A pause that begins now, with the events that come while it lasts, in order of time. An event
at the very moment of waking comes before it. -/
def pause (wake : Option Instant) (seen : Nat) (now : Instant) (signal : Signal) :
    List (Instant × SignalEvent) → PauseEnd
  | [] =>
    match signal.notice seen with
    | .stop => .stopped now
    | .ignore | .nothing => sleepOn now wake
  | (moment, event) :: later =>
    match signal.notice seen with
    | .stop => .stopped now
    | .ignore => sleepOn now wake
    | .nothing =>
      if wake.any (· < moment) then sleepOn now wake
      else pause wake seen (max now moment) (signal.after event) later

end NotesBench.Load

import NotesBench.Load.Crowd

/-!
# One schedule of a crowd

`Crowd.play` takes a crowd through a run on a clock of its own: the users move in turn, a request
takes a fixed time, and when nobody can move the clock goes on to the next moment at which a user
wakes. The signal is set after given numbers of requests have arrived. Every step taken is a step
of the crowd (`Crowd.Step`), so what holds of all runs holds of this one.
-/

namespace NotesBench.Load

/-- What a schedule is given beside the crowd. -/
structure Schedule (σ : Type) where
  /-- How long a request takes. -/
  latency : Duration := .ofMillis 1
  /-- How many requests have arrived at the target. -/
  arrived : σ → Nat := fun _ => 0

/-- A crowd, and the events of the signal that are still to come, each with the number of requests
that it waits for. -/
structure Scene (σ : Type) where
  crowd : Crowd σ
  coming : List (Nat × SignalEvent) := []

namespace Scene

variable {σ : Type}

/-- Sets the signal as far as enough requests have arrived. -/
def signal (p : Schedule σ) (c : Scene σ) : Scene σ :=
  let due := c.coming.filter (·.1 ≤ p.arrived c.crowd.shared.site)
  { crowd := { c.crowd with
      shared.signal := due.foldl (fun s e => s.after e.2) c.crowd.shared.signal }
    coming := c.coming.filter fun e => !(e.1 ≤ p.arrived c.crowd.shared.site) }

def pass (p : Schedule σ) (act : Act) (c : Scene σ) : Scene σ :=
  match act with
  | .asked .. => { c with crowd.shared.now := c.crowd.shared.now + p.latency.nanos }
  | _ => c

/-- Moves the user at a place, if there is one who can move. -/
def move (g : Regime) (t : Target σ) (p : Schedule σ) (i : Nat) (c : Scene σ) :
    Option (Scene σ) := do
  let u ← c.crowd.users[i]?
  let (act, u, s) ← u.advance g t c.crowd.shared
  return (pass p act { c with crowd := c.crowd.put i u s }).signal p

/-- Moves every user once, in order. The flag tells whether anyone could move. -/
def round (g : Regime) (t : Target σ) (p : Schedule σ) (c : Scene σ) : Bool × Scene σ :=
  (List.range c.crowd.users.length).foldl (fun (moved, c) i =>
    match c.move g t p i with
    | some c => (true, c)
    | none => (moved, c)) (false, c)

/-- Lets time pass until the next user wakes, if one does. -/
def sleep (c : Scene σ) : Option (Scene σ) := do
  let moment ← (c.crowd.users.filterMap User.wake?).min?
  return { c with crowd.shared.now := max c.crowd.shared.now moment }

/-- Plays on until nobody can move, for a number of rounds at most. -/
def play (g : Regime) (t : Target σ) (p : Schedule σ) : Nat → Scene σ → Scene σ
  | 0, c => c
  | rounds + 1, c =>
    match c.round g t p with
    | (true, c) => play g t p rounds c
    | (false, c) =>
      match c.sleep with
      | some c => play g t p rounds c
      | none => c

/-- More rounds than any run in use takes. -/
def enough : Nat := 1_000_000_000_000

/-- Plays the run of a plan on a target, from the start of the clock. -/
def playPlan (journey : Journey) (plan : Plan) (t : Target σ) (p : Schedule σ)
    (coming : List (Nat × SignalEvent)) (site : σ) : Crowd σ :=
  let scene : Scene σ := ⟨Crowd.start plan.users 0 {} site, coming⟩
  (play (Regime.ofPlan journey plan 0) t p enough (scene.signal p)).crowd

end Scene

end NotesBench.Load

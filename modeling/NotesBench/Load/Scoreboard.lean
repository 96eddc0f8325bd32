import NotesBench.Load.Check

/-!
# Counting checks

A scoreboard counts for every check how often it passed and failed, and keeps the reason of its
first failure. Recording a result takes one step that counts it and, for a failure that found no
earlier one, a second step that keeps the reason; other recordings may come between the two
(`Scoreboard.count`, `Scoreboard.keep`).
-/

namespace NotesBench.Load

/-- The counts of one check. -/
structure Tally where
  passes : Nat := 0
  fails : Nat := 0
  firstFailure : Option String := none
  deriving Repr, DecidableEq, Inhabited

/-- The counts of all checks. -/
structure Scoreboard where
  tallies : Vector Tally 9 := Vector.replicate 9 {}
  deriving Repr, DecidableEq, Inhabited

namespace Scoreboard

def tally (b : Scoreboard) (c : Check) : Tally := b.tallies[c.slot]

def update (b : Scoreboard) (c : Check) (t : Tally) : Scoreboard :=
  ⟨b.tallies.set c.slot t⟩

@[simp] theorem tally_update (b : Scoreboard) (c d : Check) (t : Tally) :
    (b.update c t).tally d = if d = c then t else b.tally d := by
  simp only [tally, update, Fin.getElem_fin, Vector.getElem_set]
  by_cases h : d = c
  · simp [h]
  · have : (c.slot : Nat) ≠ d.slot := fun hs => h (Check.slot_injective (Fin.ext hs)).symm
    simp [h, this]

/-- Counts a result. The second part tells whether the reason is still to be kept. -/
def count (b : Scoreboard) (c : Check) : Outcome → Scoreboard × Option Reason
  | .pass => (b.update c { b.tally c with passes := (b.tally c).passes + 1 }, none)
  | .fail reason =>
    (b.update c { b.tally c with fails := (b.tally c).fails + 1 },
      if (b.tally c).fails = 0 then some reason else none)

/-- Keeps the reason of a failure, unless one is kept already. -/
def keep (b : Scoreboard) (c : Check) (reason : Reason) : Scoreboard :=
  match (b.tally c).firstFailure with
  | some _ => b
  | none => b.update c { b.tally c with firstFailure := some reason.message }

/-- Records a result, both steps at once. -/
def record (b : Scoreboard) (r : Record) : Scoreboard :=
  match b.count r.1 r.2 with
  | (b, some reason) => b.keep r.1 reason
  | (b, none) => b

/-- The counts of every check, in order. -/
def snapshot (b : Scoreboard) : List (Check × Tally) := Check.all.map fun c => (c, b.tally c)

end Scoreboard

end NotesBench.Load

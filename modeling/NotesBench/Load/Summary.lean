import NotesBench.Decimal.Binary64
import NotesBench.Decimal.Notation
import NotesBench.Duration
import NotesBench.Json.Value
import NotesBench.Load.Crowd

/-!
# The summary of a run

What a run counted, the share of checks that passed, and the two forms in which a summary is
written: a table for readers and JSON for programs.
-/

namespace NotesBench.Load

/-- The counts of one check under its name. -/
structure Line where
  name : String
  passes : Nat
  fails : Nat
  firstFailure : Option String := none
  deriving Repr, DecidableEq, Inhabited

def Line.ofTally (entry : Check × Tally) : Line :=
  ⟨entry.1.name, entry.2.passes, entry.2.fails, entry.2.firstFailure⟩

/-- What a run came to. -/
structure Summary where
  baseUrl : String
  users : Nat
  /-- Iterations that were taken to their end or returned early. -/
  iterations : Nat
  earlyReturns : Nat
  elapsedMillis : Nat
  interrupted : Bool
  lines : List Line
  deriving Repr, DecidableEq, Inhabited

namespace Summary

/-- The milliseconds of a length of time, counted in 64 bits. -/
def countMillis (elapsed : Duration) : Nat := elapsed.millis % Text.unsignedEnd

/-- The summary of a crowd that has come to its end. -/
def ofCrowd {σ : Type} (baseUrl : String) (start : Instant) (w : Crowd σ) : Summary where
  baseUrl
  users := w.users.length
  iterations := w.shared.counters.iterations
  earlyReturns := w.shared.counters.earlyReturns
  elapsedMillis := countMillis ⟨w.shared.now - start⟩
  interrupted := w.shared.counters.interrupted
  lines := w.shared.board.snapshot.map Line.ofTally

def passes (s : Summary) : Nat := (s.lines.map Line.passes).foldr (· + ·) 0

def fails (s : Summary) : Nat := (s.lines.map Line.fails).foldr (· + ·) 0

/-- The share of checks that passed; none did when none was evaluated. -/
def passRate (s : Summary) : Float :=
  if s.passes + s.fails = 0 then 0 else Decimal.ofNat s.passes / Decimal.ofNat (s.passes + s.fails)

/-- Whether the share reaches what is required of it. -/
def meets (s : Summary) : Option Float → Bool
  | some required => s.passRate ≥ required
  | none => true

/-! ## As a table -/

def rule : String := String.ofList (List.replicate 60 '-')

/-- A text filled up with blanks behind it. -/
def padRight (width : Nat) (s : String) : String :=
  s ++ String.ofList (List.replicate (width - s.length) ' ')

/-- A text filled up with blanks before it. -/
def padLeft (width : Nat) (s : String) : String :=
  String.ofList (List.replicate (width - s.length) ' ') ++ s

/-- The share of a check that passed, in hundredths. -/
def percentage (l : Line) : Float :=
  Decimal.ofNat l.passes * 100 / Decimal.ofNat (l.passes + l.fails)

def rows (l : Line) : List String :=
  let name := padRight 22 l.name
  if l.passes + l.fails = 0 then ["  -  " ++ name ++ " not evaluated"]
  else
    let mark := if l.fails = 0 then "✅" else "❌"
    let share := padLeft 6 (Decimal.twoPlaces (percentage l))
    ("  " ++ mark ++ " " ++ name ++ " " ++ share ++ "% (" ++ Text.natText l.passes ++ " pass / " ++
      Text.natText l.fails ++ " fail)") ::
      (l.firstFailure.map fun reason => "       first failure: " ++ reason).toList

def table (s : Summary) : List String :=
  [ "Target: " ++ s.baseUrl,
    "VUs: " ++ Text.natText s.users ++ ", iterations: " ++ Text.natText s.iterations ++
      ", early returns: " ++ Text.natText s.earlyReturns ++ ", elapsed: " ++
      Decimal.twoPlaces (Decimal.ofNat s.elapsedMillis / 1000) ++ "s" ++
      (if s.interrupted then " (interrupted)" else ""),
    rule ] ++
  s.lines.flatMap rows ++
  [ rule,
    "Checks: " ++ Decimal.twoPlaces (s.passRate * 100) ++ "% (" ++ Text.natText s.passes ++
      " of " ++ Text.natText (s.passes + s.fails) ++ ")" ]

def render (s : Summary) : String := String.join (s.table.map (· ++ "\n"))

/-! ## As JSON -/

/-- A line as a record. The reason is left out where there is none. -/
def lineJson (l : Line) : Json :=
  .object ([("name", .string l.name), ("passes", .int l.passes), ("fails", .int l.fails)] ++
    (l.firstFailure.map fun reason => ("first_failure", Json.string reason)).toList)

def json (s : Summary) : Json :=
  .object [
    ("base_url", .string s.baseUrl),
    ("vus", .int s.users),
    ("iterations", .int s.iterations),
    ("early_returns", .int s.earlyReturns),
    ("elapsed_ms", .int s.elapsedMillis),
    ("interrupted", .bool s.interrupted),
    ("checks", .array (s.lines.map lineJson))]

def fileText (s : Summary) : String := s.json.pretty

end Summary

end NotesBench.Load

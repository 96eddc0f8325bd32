import NotesBench.Command.Orders
import NotesBench.Load.Journey
import NotesBench.Load.Readiness
import NotesBench.Load.Summary

/-!
# Driving a service from the command line

The plans that the commands of the load driver make, what they print, and when they fail. A run
succeeds when enough of its checks pass, a single iteration when none of them fails, and a wait
when the service becomes ready.

A command fails with a message and a chain of causes (`Trouble`). A report shows the message and then
the causes, indented, and numbered when there are several. The further lines of a cause stand under
its first.
-/

namespace NotesBench.Command

open Load (Plan Journey Client Fault Record Ending Summary Patience)

/-! ## Reports of failed commands -/

/-- Why a command failed, and what caused it. -/
structure Trouble where
  message : String
  causes : List String := []
  deriving Repr, DecidableEq

namespace Trouble

/-- A text whose further lines begin with a margin. -/
def hang (margin : String) (s : String) : String :=
  ("\n" ++ margin).intercalate ((Text.splitOn '\n' s.toList).map String.ofList)

def numbered (entry : String × Nat) : String :=
  let number := Text.natText entry.2
  let blanks := String.ofList (List.replicate (5 - number.length) ' ')
  "\n" ++ blanks ++ number ++ ": " ++ hang "       " entry.1

def causesText : List String → String
  | [] => ""
  | [cause] => "\n\nCaused by:\n    " ++ hang "    " cause
  | causes => "\n\nCaused by:" ++ String.join (causes.zipIdx.map numbered)

def report (t : Trouble) : String := "Error: " ++ t.message ++ causesText t.causes ++ "\n"

end Trouble

/-! ## What a command leaves -/

/-- What a command prints, and why it failed if it did. -/
structure Report where
  output : String := ""
  trouble : Option Trouble := none
  deriving Repr, DecidableEq, Inhabited

def Report.exitCode (r : Report) : Nat := if r.trouble.isSome then 1 else 0

/-- What stands on the error stream. -/
def Report.errors (r : Report) : String := (r.trouble.map Trouble.report).getD ""

/-- The exit code of arguments that cannot be used. -/
def usageExitCode : Nat := 2

def lines (ls : List String) : String := String.join (ls.map (· ++ "\n"))

/-! ## Plans -/

/-- The wording of a refused configuration. -/
def configMessage (problem : String) : String := (Fault.config problem).message

def basePlan (target : TargetOptions) (workload : WorkloadOptions) (environment : Option String) :
    Except Trouble Plan :=
  match Load.BaseUrl.resolve target.baseUrl environment with
  | .error problem => .error ⟨"Failed to resolve base url", [configMessage problem.message]⟩
  | .ok baseUrl => .ok {
      baseUrl
      requestTimeout := target.timeout
      accounts := workload.accounts
      password := workload.password
      noteTitle := workload.noteTitle
      noteBody := workload.noteBody }

namespace RunOrder

/-- The plan of a run. It lasts half a minute when nothing else ends it. -/
def plan (o : RunOrder) (environment : Option String) : Except Trouble Plan := do
  let base ← basePlan o.target o.workload environment
  return { base with
    users := o.users
    duration := if o.iterations.isNone then some (o.duration.getD (.ofSeconds 30)) else o.duration
    iterations := o.iterations
    pace := o.pace
    minRate := o.minRate }

def prepare (o : RunOrder) (environment : Option String) : Except Trouble (Plan × Journey) := do
  let plan ← o.plan environment
  match Journey.ready plan with
  | .ok journey => return (plan, journey)
  | .error problem => throw ⟨"Invalid load configuration", [configMessage problem.message]⟩

end RunOrder

namespace SmokeOrder

/-- The plan of a single iteration. -/
def plan (o : SmokeOrder) (environment : Option String) : Except Trouble Plan := do
  let base ← basePlan o.target o.workload environment
  return { base with users := 1, iterations := some 1 }

def prepare (o : SmokeOrder) (environment : Option String) : Except Trouble (Plan × Journey) := do
  let plan ← o.plan environment
  match Journey.ready plan with
  | .ok journey => return (plan, journey)
  | .error problem => throw ⟨configMessage problem.message, []⟩

end SmokeOrder

def WaitOrder.prepare (o : WaitOrder) (environment : Option String) : Except Trouble Client :=
  match Load.BaseUrl.resolve o.target.baseUrl environment >>= Client.ofBaseUrl with
  | .ok client => .ok client
  | .error problem => .error ⟨configMessage problem.message, []⟩

/-! ## Runs -/

/-- What is printed before a run. -/
def runHeading (plan : Plan) : String :=
  lines ([ "Running notes workload...",
    "  Target: " ++ plan.baseUrl,
    "  VUs: " ++ Text.natText plan.users ] ++
    (plan.duration.map fun d => "  Duration: " ++ d.text).toList ++
    (plan.iterations.map fun n => "  Iterations: " ++ Text.natText n).toList)

/-- What is printed when a run is interrupted. -/
def interruptNotice : String := lines ["", "Stopping after in-flight iterations..."]

def percent (share : Float) : String := Decimal.twoPlaces (share * 100) ++ "%"

/-- A file that was to be written: its name, and why it was not. -/
structure Written where
  file : String
  problem : Option String := none
  deriving Repr, DecidableEq

/-- The failure to write a summary. -/
def unwritten (file problem : String) : Trouble :=
  ⟨"Failed to write summary to " ++ file, [(Fault.io problem).message, problem]⟩

def runVerdict (summary : Summary) : Option Float → Report
  | none => {}
  | some required =>
    if summary.meets (some required) then
      { output := lines ["✅ PASS: check pass rate meets " ++ percent required] }
    else
      { trouble := some ⟨"check pass rate " ++ percent summary.passRate ++
          " is below the required " ++ percent required, []⟩ }

/-- What is printed after a run. -/
def runReport (plan : Plan) (summary : Summary) (written : Option Written) : Report :=
  let table := "\n" ++ lines [String.ofList (List.replicate 60 '=')] ++ summary.render
  let verdict := runVerdict summary plan.minRate
  match written with
  | none => { verdict with output := table ++ verdict.output }
  | some ⟨file, none⟩ =>
    { verdict with output := table ++ lines ["Summary written to " ++ file] ++ verdict.output }
  | some ⟨file, some problem⟩ => { output := table, trouble := some (unwritten file problem) }

/-! ## Single iterations -/

/-- What is printed before a single iteration. -/
def smokeHeading (plan : Plan) (index : Nat) : String :=
  lines ["Smoke iteration " ++ Text.natText index ++ " against " ++ plan.baseUrl]

def smokeLine (r : Record) : String :=
  match r.2 with
  | .pass => "  ✅ " ++ r.1.name
  | .fail reason => "  ❌ " ++ r.1.name ++ " (" ++ reason.message ++ ")"

def endingLine : Ending → Option String
  | .completed => none
  | .early step reason => some ("  Iteration returned early at " ++ step.name ++ ": " ++ reason)

/-- What is printed after a single iteration. It fails when a check failed. -/
def smokeReport (records : List Record) (ending : Ending) : Report :=
  let failures := records.countP fun r => !r.2.isPass
  { output := lines (records.map smokeLine ++ (endingLine ending).toList)
    trouble :=
      if failures = 0 then none else some ⟨Text.natText failures ++ " check(s) failed", []⟩ }

/-! ## Waits -/

/-- How long a wait that begins at a moment goes on. -/
def WaitOrder.patience (o : WaitOrder) (start : Instant) : Patience :=
  ⟨o.interval, Instant.after? start o.within⟩

/-- What is printed after a wait. -/
def waitReport (o : WaitOrder) (client : Client) (ready : Bool) : Report :=
  if ready then { output := lines [client.baseUrl ++ " is ready"] }
  else { trouble := some ⟨client.baseUrl ++ " not ready within " ++ o.within.text, []⟩ }

end NotesBench.Command

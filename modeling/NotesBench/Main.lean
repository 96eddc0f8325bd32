import NotesBench.Command.Driving
import NotesBench.Command.Serving
import NotesBench.Shell.Listener
import NotesBench.Shell.Users

/-!
# The command line

`run`, `smoke` and `wait-ready` drive a service, `serve` is one. A failed command is reported on
the error stream.
-/

namespace NotesBench

open Std.Async
open Command

/-- How the program is used. -/
def usage : String := lines [
  "Usage: notes-bench run [options]         drive a run with a number of users",
  "       notes-bench smoke [options]       take one iteration and show every check",
  "       notes-bench wait-ready [options]  wait until the service is ready",
  "       notes-bench serve [options]       serve notes"]

/-- Reports arguments that cannot be used. -/
def refuse (problem : UsageError) : IO UInt32 := do
  IO.eprint ("error: " ++ problem.message ++ "\n\n" ++ usage)
  return usageExitCode.toUInt32

/-- Prints what a command came to. -/
def conclude (report : Report) : IO UInt32 := do
  IO.print report.output
  IO.eprint report.errors
  return report.exitCode.toUInt32

/-- Writes a file, and tells why it could not be written. -/
def write (file text : String) : IO Written := do
  try
    IO.FS.writeFile file text
    return ⟨file, none⟩
  catch problem => return ⟨file, some (Shell.problemText problem)⟩

/-- Drives a run. -/
def driveRun (o : RunOrder) (environment : Option String) : IO UInt32 := do
  match o.prepare environment with
  | .error trouble => conclude { trouble := some trouble }
  | .ok (plan, journey) =>
    IO.print (runHeading plan)
    let (crowd, start) ← (Shell.carryOut journey plan interruptNotice).block
    let summary := Load.Summary.ofCrowd journey.client.baseUrl start crowd
    let written ← o.summaryFile.mapM fun file => write file summary.fileText
    conclude (runReport plan summary written)

/-- Takes a single iteration. -/
def driveSmoke (o : SmokeOrder) (environment : Option String) : IO UInt32 := do
  match o.prepare environment with
  | .error trouble => conclude { trouble := some trouble }
  | .ok (plan, journey) =>
    IO.print (smokeHeading plan o.index)
    let (ending, records) ← (Shell.hold plan.requestTimeout (journey.iteration o.index)).block
    conclude (smokeReport records ending)

/-- Waits for a service. -/
def driveWait (o : WaitOrder) (environment : Option String) : IO UInt32 := do
  match o.prepare environment with
  | .error trouble => conclude { trouble := some trouble }
  | .ok client =>
    let patience := o.patience (← Shell.now)
    conclude (waitReport o client
      (← (Shell.waitUntilReady o.target.timeout client patience).block))

/-- Serves notes. -/
def serve (o : ServeOrder) : IO UInt32 := do
  match o.address with
  | .error trouble => conclude { trouble := some trouble }
  | .ok address =>
    match ← (Shell.listenAt address).toBaseIO with
    | .error problem =>
      conclude { trouble := some (ServeOrder.unbound address (Shell.problemText problem)) }
    | .ok server =>
      IO.print o.heading
      (← IO.getStdout).flush
      (Shell.serveNotes o.settings server).block
      conclude { output := ServeOrder.farewell }

/-- Carries out a command. -/
def perform (arguments : List String) : IO UInt32 := do
  match arguments with
  | "serve" :: rest =>
    match ServeOrder.read rest with
    | .error problem => refuse problem
    | .ok o => serve o
  | _ =>
    let environment ← IO.getEnv "BASE_URL"
    match LoadOrder.read arguments with
    | .error problem => refuse problem
    | .ok (.run o) => driveRun o environment
    | .ok (.smoke o) => driveSmoke o environment
    | .ok (.waitReady o) => driveWait o environment

end NotesBench

/-- The program. -/
def main (arguments : List String) : IO UInt32 := NotesBench.perform arguments

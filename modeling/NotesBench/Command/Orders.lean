import NotesBench.Command.Options
import NotesBench.Load.Plan
import NotesBench.Service.Handler

/-!
# What the commands are asked to do

`run` drives a run, `smoke` takes one iteration and shows every check, `wait-ready` waits until
the service is ready, and `serve` serves notes. Each reads its options and fills in what was not
given.
-/

namespace NotesBench.Command

/-- Which service requests go to. -/
structure TargetOptions where
  baseUrl : Option String
  timeout : Duration
  deriving Repr, DecidableEq

/-- The accounts and the notes. -/
structure WorkloadOptions where
  accounts : Nat
  password : String
  noteTitle : String
  noteBody : String
  deriving Repr, DecidableEq

/-- A run that is asked for. -/
structure RunOrder where
  target : TargetOptions
  workload : WorkloadOptions
  users : Nat
  duration : Option Duration
  iterations : Option Nat
  pace : Duration
  minRate : Option Float
  /-- The file that is to keep the summary. -/
  summaryFile : Option String
  deriving Repr

/-- A single iteration that is asked for. -/
structure SmokeOrder where
  target : TargetOptions
  workload : WorkloadOptions
  index : Nat
  deriving Repr

/-- A wait that is asked for. -/
structure WaitOrder where
  target : TargetOptions
  within : Duration
  interval : Duration
  deriving Repr

/-- What the load driver is asked to do. -/
inductive LoadOrder where
  | run (order : RunOrder)
  | smoke (order : SmokeOrder)
  | waitReady (order : WaitOrder)
  deriving Repr

/-- A service that is asked for. -/
structure ServeOrder where
  host : String
  port : Nat
  settings : Service.Settings
  deriving Repr

/-! ## Options -/

def TargetOptions.rules : List OptionRule := [⟨"base-url", none, false⟩, ⟨"timeout", none, false⟩]

def TargetOptions.ofGiven (given : Given) : Except UsageError TargetOptions := do
  return ⟨given.text? "base-url", ← given.value "timeout" duration? (.ofSeconds 10)⟩

/-- The options for accounts and notes. -/
def WorkloadOptions.rules : List OptionRule :=
  ["email-modulus", "password", "note-title", "note-body"].map fun name => ⟨name, none, false⟩

/-- Reads the options for accounts and notes. -/
def WorkloadOptions.ofGiven (given : Given) : Except UsageError WorkloadOptions := do
  return {
    accounts := ← given.value "email-modulus" count? 1000
    password := (given.text? "password").getD "Password1!"
    noteTitle := (given.text? "note-title").getD "t"
    noteBody := (given.text? "note-body").getD "b" }

def RunOrder.rules : List OptionRule :=
  TargetOptions.rules ++ WorkloadOptions.rules ++
    [⟨"vus", some 'v', false⟩, ⟨"duration", some 'd', false⟩, ⟨"iterations", some 'i', false⟩,
      ⟨"pace", none, false⟩, ⟨"min-check-rate", none, false⟩, ⟨"summary-out", none, false⟩]

def RunOrder.read (arguments : List String) : Except UsageError RunOrder := do
  let given ← readOptions rules [] none arguments
  return {
    target := ← TargetOptions.ofGiven given
    workload := ← WorkloadOptions.ofGiven given
    users := ← given.value "vus" count? 5
    duration := ← given.value? "duration" duration?
    iterations := ← given.value? "iterations" count?
    pace := ← given.value "pace" duration? (.ofSeconds 1)
    minRate := ← given.value? "min-check-rate" Decimal.float?
    summaryFile := ← given.value? "summary-out" file? }

def SmokeOrder.rules : List OptionRule :=
  TargetOptions.rules ++ WorkloadOptions.rules ++ [⟨"index", none, false⟩]

def SmokeOrder.read (arguments : List String) : Except UsageError SmokeOrder := do
  let given ← readOptions rules [] none arguments
  return ⟨← TargetOptions.ofGiven given, ← WorkloadOptions.ofGiven given,
    ← given.value "index" count? 0⟩

def WaitOrder.rules : List OptionRule :=
  TargetOptions.rules ++ [⟨"within", none, false⟩, ⟨"interval", none, false⟩]

def WaitOrder.read (arguments : List String) : Except UsageError WaitOrder := do
  let given ← readOptions rules [] none arguments
  return ⟨← TargetOptions.ofGiven given, ← given.value "within" duration? (.ofSeconds 30),
    ← given.value "interval" duration? (.ofMillis 500)⟩

/-- Reads a command of the load driver and its arguments. -/
def LoadOrder.read : List String → Except UsageError LoadOrder
  | [] => .error .noCommand
  | name :: arguments =>
    if name = "run" then LoadOrder.run <$> RunOrder.read arguments
    else if name = "smoke" then LoadOrder.smoke <$> SmokeOrder.read arguments
    else if name = "wait-ready" then LoadOrder.waitReady <$> WaitOrder.read arguments
    else .error (.unknown name)

def ServeOrder.rules : List OptionRule :=
  [⟨"port", some 'p', false⟩, ⟨"host", none, false⟩, ⟨"request-timeout-ms", none, false⟩,
    ⟨"health-status", none, false⟩, ⟨"health-delay-ms", none, false⟩,
    ⟨"omit-note-id", none, true⟩, ⟨"omit-etag", none, true⟩]

def ServeOrder.read (arguments : List String) : Except UsageError ServeOrder := do
  let given ← readOptions rules [] none arguments
  return {
    host := (given.text? "host").getD "127.0.0.1"
    port := ← given.value "port" small? 8080
    settings := {
      bodyTimeout := ← given.value "request-timeout-ms" count? 5000
      healthStatus := ← given.value "health-status" small? 204
      healthDelay := ← given.value "health-delay-ms" count? 0
      hideNoteId := given.flag "omit-note-id"
      hideEtag := given.flag "omit-etag" } }

end NotesBench.Command

import NotesBench.Command.Driving
import NotesBench.Command.Storage
import NotesBench.Load.Schedule

/-!
# Rehearsals

A rehearsal carries out a command of the load driver on a target that is a machine of its own, with
a clock and a storage of its own and nothing of the outside world.
-/

namespace NotesBench.Command

open Load (Scene Schedule Summary Target)

/-- Where a command is rehearsed. -/
structure Stage (σ : Type) where
  /-- The address of the service that the environment names. -/
  environment : Option String
  target : Target σ
  schedule : Schedule σ := {}
  storage : Storage

/-- What a rehearsal leaves behind. -/
structure Aftermath (σ : Type) where
  report : Report
  /-- The place of a file that was written, and its text. -/
  file : Option (Place × String) := none
  site : σ

namespace Stage

variable {σ : Type}

/-- A command that failed before it sent anything. -/
def failed (trouble : Trouble) (site : σ) : Aftermath σ := ⟨{ trouble := some trouble }, none, site⟩

def run (stage : Stage σ) (o : RunOrder) (site : σ) : Aftermath σ :=
  match o.prepare stage.environment with
  | .error trouble => failed trouble site
  | .ok (plan, journey) =>
    let crowd := Scene.playPlan journey plan stage.target stage.schedule [] site
    let summary := Summary.ofCrowd journey.client.baseUrl 0 crowd
    let opened := o.summaryFile.map fun file => (file, stage.storage.writable file)
    let written := opened.map fun (file, opened) =>
      match opened with
      | .ok _ => (⟨file, none⟩ : Written)
      | .error problem => ⟨file, some problem.message⟩
    let report := runReport plan summary written
    { report := { report with output := runHeading plan ++ report.output }
      file := opened.bind fun (_, opened) => opened.toOption.map (·, summary.fileText)
      site := crowd.shared.site }

def smoke (stage : Stage σ) (o : SmokeOrder) (site : σ) : Aftermath σ :=
  match o.prepare stage.environment with
  | .error trouble => failed trouble site
  | .ok (plan, journey) =>
    let (ending, events, site) := (journey.iteration o.index).run stage.target site
    let report := smokeReport (Load.Dialogue.recordsOf events) ending
    ⟨{ report with output := smokeHeading plan o.index ++ report.output }, none, site⟩

/-- Rehearses a wait. One that never ends prints nothing. -/
def waitReady (stage : Stage σ) (o : WaitOrder) (site : σ) : Aftermath σ :=
  match o.prepare stage.environment with
  | .error trouble => failed trouble site
  | .ok client =>
    let (ready, site) := (o.patience 0).waitFor client stage.target stage.schedule.latency
      Scene.enough 0 site
    ⟨(ready.map (waitReport o client)).getD {}, none, site⟩

def perform (stage : Stage σ) (order : LoadOrder) (site : σ) : Aftermath σ :=
  match order with
  | .run o => stage.run o site
  | .smoke o => stage.smoke o site
  | .waitReady o => stage.waitReady o site

end Stage

end NotesBench.Command

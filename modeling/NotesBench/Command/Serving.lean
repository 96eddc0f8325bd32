import NotesBench.Command.Driving
import NotesBench.Net.Address

/-!
# Serving notes from the command line

Where the service listens, what it prints when it starts and stops, and why it cannot start.
-/

namespace NotesBench.Command

open Net (SocketAddress)
open Service (Settings)

/-- Whether the service shows a fault on purpose. -/
def showsFaults (settings : Settings) : Bool :=
  settings.hideNoteId || settings.hideEtag || settings.healthStatus != 204 ||
    settings.healthDelay > 0

/-- The word for a truth value. -/
def word (b : Bool) : String := if b then "true" else "false"

/-- The faults that the service shows. -/
def faultsLine (settings : Settings) : String :=
  "  Faults: omit_note_id=" ++ word settings.hideNoteId ++ " omit_etag=" ++
    word settings.hideEtag ++ " health_status=" ++ Text.natText settings.healthStatus ++
    " health_delay_ms=" ++ Text.natText settings.healthDelay

namespace ServeOrder

def address (o : ServeOrder) : Except Trouble SocketAddress :=
  match SocketAddress.read? (o.host ++ ":" ++ Text.natText o.port).toList with
  | some address => .ok address
  | none => .error ⟨"Invalid listen address", ["invalid socket address syntax"]⟩

/-- The failure to listen at an address. -/
def unbound (address : SocketAddress) (problem : String) : Trouble :=
  ⟨"Failed to bind " ++ address.text, [problem]⟩

/-- What is printed when the service starts. -/
def heading (o : ServeOrder) : String :=
  lines ([ "Starting stub notes server...",
    "  Host: " ++ o.host,
    "  Port: " ++ Text.natText o.port,
    "  Request timeout: " ++ Text.natText o.settings.bodyTimeout ++ " ms" ] ++
    if showsFaults o.settings then [faultsLine o.settings] else [])

/-- What is printed when the service stops. -/
def farewell : String := lines ["", "Shutting down server..."]

/-- The whole of a service that is started and stopped, where listening may fail. -/
def report (o : ServeOrder) (bindProblem : SocketAddress → Option String) : Report :=
  match o.address with
  | .error trouble => { trouble := some trouble }
  | .ok address =>
    match bindProblem address with
    | some problem => { trouble := some (unbound address problem) }
    | none => { output := o.heading ++ farewell }

end ServeOrder

end NotesBench.Command

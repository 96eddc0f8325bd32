import NotesBench.Service.Serve
import NotesBench.Shell.Connection

/-!
# The service on the network

Accepts connections and answers one request on each. The state of the service is shared by all
connections, and a request acts on it in one step.
-/

namespace NotesBench.Shell

open Std.Async
open Http (Request Response)
open Service (Settings Store Draw)
open Text (Octets)

def randomText (octets : Nat) : IO String := do
  let bytes ← IO.getRandomBytes octets.toUSize
  return String.join (bytes.data.toList.map fun b => Text.hexText 2 b.toNat)

/-- Draws the random values of one request. -/
def draw : IO Draw := do
  return ⟨← randomText 16, ⟨← randomText 16, ← randomText 16⟩⟩

/-- Waits for the body of a request, if its answer depends on it. -/
def withBody (settings : Settings) (drawn : Draw) (s : Store) (socket : Socket)
    (framing : Http.Framing) (rest : Octets) (r : Request) : Async Request := do
  if Service.awaitsBody settings drawn r s then
    let limit := Duration.ofMillis settings.bodyTimeout
    match ← within limit (receiveBody socket framing false rest) with
    | some (some bytes) => return { r with body := .complete bytes }
    | _ => return { r with body := .stalled }
  else return r

/-- Answers the request on a connection. -/
def answerConnection (settings : Settings) (store : IO.Ref Store) (socket : Socket) :
    Async Unit := do
  let some (head, rest) ← receiveHead socket [] | return
  let some (method, target) := head.asked? | return
  let drawn ← draw
  let request : Request := ⟨method, target, head.headers, .complete []⟩
  let request ←
    withBody settings drawn (← store.get) socket (head.framing (.sized 0)) rest request
  sleepFor (.ofMillis (Service.heldBack settings request))
  let response ← store.modifyGet fun s => Service.serve settings drawn request s
  transmit socket response.wire
  socket.shutdown

/-- Answers a connection; one that breaks off is dropped. -/
def attend (settings : Settings) (store : IO.Ref Store) (socket : Socket) : Async Unit := do
  try answerConnection settings store socket catch _ => return

partial def acceptAll (settings : Settings) (store : IO.Ref Store) (server : TCP.Socket.Server) :
    Async Unit := do
  let socket ← server.accept
  background (attend settings store socket)
  acceptAll settings store server

def listenAt (address : Net.SocketAddress) : IO TCP.Socket.Server := do
  let server ← TCP.Socket.Server.mk
  server.bind (systemAddress address)
  server.listen 1024
  return server

/-- Serves notes until the program is interrupted. -/
def serveNotes (settings : Settings) (server : TCP.Socket.Server) : Async Unit := do
  background (acceptAll settings (← IO.mkRef {}) server)
  awaitInterrupt

end NotesBench.Shell

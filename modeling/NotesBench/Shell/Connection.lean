import Std.Async.DNS
import Std.Async.Signal
import Std.Async.TCP
import Std.Async.Timer
import NotesBench.Duration
import NotesBench.Http.Wire
import NotesBench.Load.Client
import NotesBench.Net.Address

/-!
# Connections

Sends requests over TCP and receives messages. What is sent and how a message is read is said in
`NotesBench.Http.Wire`; here octets are only moved.
-/

namespace NotesBench.Shell

open Std.Async
open Text (Octets)

/-! ## Problems of the system

What the system refuses is worded by the system's own text for the number of the error, and the
number. -/

/-- The number of a system error, if the error came from the system. -/
def errorNumber? : IO.Error → Option Nat
  | .alreadyExists _ code _ | .otherError code _ | .resourceBusy code _
  | .resourceVanished code _ | .unsupportedOperation code _ | .hardwareFault code _
  | .unsatisfiedConstraints code _ | .illegalOperation code _ | .protocolError code _
  | .timeExpired code _ | .interrupted _ code _ | .noFileOrDirectory _ code _
  | .invalidArgument _ code _ | .permissionDenied _ code _ | .resourceExhausted _ code _
  | .inappropriateType _ code _ | .noSuchThing _ code _ =>
    some (if code.toNat < 2_147_483_648 then code.toNat else 4_294_967_296 - code.toNat)
  | .unexpectedEof | .userError _ => none

/-- The system's text for the number of an error. -/
def errorText? (number : Nat) : Option String :=
  [(2, "No such file or directory"), (13, "Permission denied"), (20, "Not a directory"),
    (21, "Is a directory"), (28, "No space left on device"), (30, "Read-only file system"),
    (98, "Address already in use"), (99, "Cannot assign requested address"),
    (101, "Network is unreachable"), (104, "Connection reset by peer"),
    (110, "Connection timed out"), (111, "Connection refused"), (113, "No route to host")].lookup
    number

def problemText (problem : IO.Error) : String :=
  match errorNumber? problem with
  | none => toString problem
  | some number =>
    match errorText? number with
    | some s => s ++ " (os error " ++ Text.natText number ++ ")"
    | none => toString problem

/-! ## Waiting and sending -/

abbrev Socket := TCP.Socket.Client

def now : IO Instant := IO.monoNanosNow

/-- Milliseconds that a timer can count; about a month at most. -/
def timerMillis (d : Duration) : Nat := min 2_147_483_648 ((d.nanos + 999_999) / 1_000_000)

/-- Sleeps for a length of time. -/
def sleepFor (d : Duration) : Async Unit := Std.Async.sleep (.ofNat (timerMillis d))

/-- Works for a length of time at most. -/
def within {α : Type} (d : Duration) (work : Async α) : Async (Option α) :=
  Async.race (some <$> work) (do sleepFor d; return none)

/-- Waits until the program is interrupted. The waiter must live as long as it is waited for. -/
def awaitInterrupt : Async Unit := do
  let waiter ← Std.Async.Signal.Waiter.mk .sigint false
  let interrupt ← waiter.wait
  discard (await interrupt)
  waiter.stop

def receive (socket : Socket) : Async (Option Octets) := do
  return (← socket.recv? 65536).map fun bytes => bytes.data.toList

def transmit (socket : Socket) (bytes : Octets) : Async Unit :=
  socket.send ⟨bytes.toArray⟩

partial def receiveHead (socket : Socket) (bytes : Octets) :
    Async (Option (Http.Head × Octets)) := do
  match Http.cutHead? bytes with
  | some (head, rest) => return (Http.Head.read? head).map (·, rest)
  | none =>
    match ← receive socket with
    | some more => receiveHead socket (bytes ++ more)
    | none => return none

partial def receiveBody (socket : Socket) (framing : Http.Framing) (closed : Bool)
    (bytes : Octets) : Async (Option Octets) := do
  match framing.read closed bytes with
  | .whole body => return some body
  | .broken => return none
  | .more =>
    match ← receive socket with
    | some more => receiveBody socket framing false (bytes ++ more)
    | none => receiveBody socket framing true bytes

/-! ## Addresses -/

/-- An address as the system wants it. -/
def v4 (a : Net.Ipv4) : Std.Net.IPv4Addr :=
  let octet (i : Nat) := UInt8.ofNat ((a.octets[i]?).getD 0)
  .ofParts (octet 0) (octet 1) (octet 2) (octet 3)

/-- An address as the system wants it. -/
def v6 (a : Net.Ipv6) : Std.Net.IPv6Addr :=
  let group (i : Nat) := UInt16.ofNat ((a.groups[i]?).getD 0)
  .ofParts (group 0) (group 1) (group 2) (group 3) (group 4) (group 5) (group 6) (group 7)

def systemAddress : Net.SocketAddress → Std.Net.SocketAddress
  | .v4 host port => .v4 ⟨v4 host, UInt16.ofNat port⟩
  | .v6 host _ port => .v6 ⟨v6 host, UInt16.ofNat port⟩

def addressesOf (host : String) (port : Nat) : Async (List Std.Net.SocketAddress) := do
  match Net.SocketAddress.read? (host ++ ":" ++ Text.natText port).toList with
  | some address => return [systemAddress address]
  | none =>
    let found ← DNS.getAddrInfo host (Text.natText port)
    return found.toList.map fun
      | .v4 a => .v4 ⟨a, UInt16.ofNat port⟩
      | .v6 a => .v6 ⟨a, UInt16.ofNat port⟩

/-! ## Exchanges -/

/-- Connects to the first address that can be reached. -/
def connectAny : List Std.Net.SocketAddress → Async (Except String Socket)
  | [] => return .error "dns error: no address"
  | address :: rest => do
    let socket ← TCP.Socket.Client.mk
    try
      socket.connect address
      return .ok socket
    catch problem =>
      if rest.isEmpty then return .error ("tcp connect error: " ++ problemText problem)
      connectAny rest

def receiveResponse (socket : Socket) : Async Load.Delivery := do
  let some (head, rest) ← receiveHead socket [] | return .error .dropped
  let some status := head.status? | return .error .dropped
  let response : Http.Response := ⟨status, head.headers, []⟩
  if response.isBodiless then return .ok response
  match ← receiveBody socket (head.framing .untilClosed) false rest with
  | some body => return .ok { response with body }
  | none => return .error .truncated

/-- Sends a request and receives its response. -/
def exchangeOnce (out : Load.Outgoing) : Async Load.Delivery := do
  if out.url.secure then return .error (.unconnected "secure connections are not supported")
  let port := out.url.port.getD (Http.Url.usualPort out.url.secure)
  let addresses ← try addressesOf out.url.host port catch _ => pure []
  match ← connectAny addresses with
  | .error cause => return .error (.unconnected cause)
  | .ok socket =>
    try
      transmit socket (out.request.wire out.url.authority)
      receiveResponse socket
    catch _ => return .error .dropped

/-- Sends a request and receives its response within a length of time. -/
def exchange (limit : Duration) (out : Load.Outgoing) : Async Load.Delivery := do
  return (← within limit (exchangeOnce out)).getD (.error .timedOut)

end NotesBench.Shell

import NotesBench.Http.Message
import NotesBench.Text.Numeral

/-!
# Messages as octets

A message begins with a line and header fields and ends with an empty line; then comes its body,
whose end follows from the header fields. Each message has a connection of its own, which is
closed after the response. What has arrived so far is a prefix of a message, so reading a body says
whether it is whole, broken, or still to be continued (`Arrival`).
-/

namespace NotesBench.Http

open Text (Octets)

/-! ## Writing -/

def lineEnd : String := "\r\n"

/-- The first line and header fields of a message. -/
structure Head where
  first : String
  headers : Headers
  deriving Repr, DecidableEq

/-- The octets of a first line and header fields. -/
def Head.wire (h : Head) : Octets :=
  Text.Utf8.encode (h.first ++ lineEnd ++
    String.join (h.headers.map fun field => field.1 ++ ": " ++ field.2 ++ lineEnd) ++ lineEnd)

def lengthField (body : Octets) : String × String :=
  ("content-length", Text.natText body.length)

/-- The field that announces that the connection is closed. -/
def closing : String × String := ("connection", "close")

def Request.wire (r : Request) (host : String) : Octets :=
  let body : Octets := match r.body with
    | .complete bytes => bytes
    | .stalled => []
  let length := if body.isEmpty then [] else [lengthField body]
  Head.wire ⟨r.method.name ++ " " ++ r.target ++ " HTTP/1.1",
    ("host", host) :: closing :: r.headers ++ length⟩ ++ body

def Response.wire (r : Response) : Octets :=
  let length := if r.isBodiless then [] else [lengthField r.body]
  Head.wire ⟨"HTTP/1.1 " ++ Text.natText r.status ++ " ", closing :: r.headers ++ length⟩ ++
    if r.isBodiless then [] else r.body

/-! ## Reading -/

/-- Cuts what has arrived behind the first empty line. -/
def cutHead? : Octets → Option (Octets × Octets)
  | 13 :: 10 :: 13 :: 10 :: rest => some ([], rest)
  | b :: rest => (cutHead? rest).map fun cut => (b :: cut.1, cut.2)
  | [] => none

def readField? (line : List Char) : Option (String × String) :=
  (Text.cutAt ':' line).map fun cut =>
    (String.ofList cut.1, arriving (String.ofList cut.2))

def headLines (bytes : Octets) : List (List Char) :=
  (Text.splitOn '\n' (Text.Utf8.decodeLossy bytes).toList).map (Text.dropEndWhile (· == '\r'))

/-- Reads the first line and the header fields. -/
def Head.read? (bytes : Octets) : Option Head :=
  match headLines bytes with
  | [] => none
  | first :: rest => (rest.mapM readField?).map fun headers => ⟨String.ofList first, headers⟩

/-- The words of a first line. -/
def Head.words (h : Head) : List String := (Text.splitOn ' ' h.first.toList).map String.ofList

/-- The method and the target of a request. -/
def Head.asked? (h : Head) : Option (Method × String) :=
  match h.words with
  | [method, target, _] => some (.ofName method, target)
  | _ => none

def Head.status? (h : Head) : Option Nat :=
  match h.words with
  | _ :: status :: _ => Text.digits? status.toList
  | _ => none

/-! ## The body -/

/-- How the end of a body is found. -/
inductive Framing where
  | sized (length : Nat)
  | chunked
  /-- The body ends with the connection. -/
  | untilClosed
  deriving Repr, DecidableEq

/-- The framing that header fields give, or else a usual one. -/
def Head.framing (h : Head) (usual : Framing) : Framing :=
  if (h.headers.all "transfer-encoding").any fun v => v.toLower == "chunked" then .chunked
  else
    match (h.headers.first? "content-length").bind fun v => Text.digits? v.toList with
    | some length => .sized length
    | none => usual

/-- What has arrived of a body. -/
inductive Arrival where
  | more
  | whole (body : Octets)
  | broken
  deriving Repr, DecidableEq

/-- A number in hexadecimal at the start of a line. -/
def chunkSize? (line : Octets) : Option Nat :=
  let digits := (line.map fun b => Char.ofNat b.toNat).takeWhile fun c => (Text.hexValue? c).isSome
  if digits.isEmpty then none
  else some (digits.foldl (fun n c => 16 * n + (Text.hexValue? c).getD 0) 0)

/-- Reads chunks behind those already read, at most so many. -/
def readChunks : Nat → Octets → Octets → Arrival
  | 0, _, _ => .broken
  | most + 1, body, bytes =>
    match Text.cutAt 10 bytes with
    | none => .more
    | some (line, rest) =>
      match chunkSize? line with
      | none => .broken
      | some 0 => .whole body
      | some size =>
        if rest.length < size + 2 then .more
        else readChunks most (body ++ rest.take size) (rest.drop (size + 2))

/-- What has arrived of a body, when these are its octets so far. -/
def Framing.read (f : Framing) (closed : Bool) (bytes : Octets) : Arrival :=
  match f with
  | .sized length =>
    if length ≤ bytes.length then .whole (bytes.take length) else if closed then .broken else .more
  | .chunked =>
    match readChunks (bytes.length + 1) [] bytes with
    | .more => if closed then .broken else .more
    | arrival => arrival
  | .untilClosed => if closed then .whole bytes else .more

end NotesBench.Http

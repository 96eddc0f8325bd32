import NotesBench.Http.Host

/-!
# Locations of requests

`Url.read` takes an `http` or `https` location apart the way browsers do. Tabs and line ends are
dropped, a backslash counts as a slash, and what must be escaped is escaped. In the path, a segment
`.` goes away and a segment `..` takes its parent with it. A location is refused for its host or
its port, the host being looked at first. `Url.isSendable` says which locations a request can be
sent to.
-/

namespace NotesBench.Http

/-- A location. The host is in its normal form; a missing port is the usual one. What must be
escaped is escaped, also in the user and the password, which are empty when they are missing. -/
structure Url where
  secure : Bool
  user : String
  password : String
  host : String
  port : Option Nat
  path : String
  query : Option String
  fragment : Option String
  deriving Repr, DecidableEq

namespace Url

/-- Why a text is no location. -/
inductive ReadError where
  | scheme
  | host (problem : Host.Problem)
  | port
  deriving Repr, DecidableEq

/-- The wording of a refused location. -/
def ReadError.message : ReadError → String
  | .scheme => "relative URL without a base"
  | .host problem => problem.message
  | .port => "invalid port number"

/-- The port that a location without one goes to. -/
def usualPort (secure : Bool) : Nat := if secure then 443 else 80

/-! ## Host and port -/

def isSlash (c : Char) : Bool := c == '/' || c == '\\'

/-- A character that ends the host and port. -/
def endsAuthority (c : Char) : Bool := isSlash c || c == '?' || c == '#'

/-- Cuts the host from the port behind it. A colon inside brackets belongs to the host. -/
def cutPort (bracketed : Bool) : List Char → List Char × Option (List Char)
  | [] => ([], none)
  | c :: rest =>
    if c = ':' ∧ !bracketed then ([], some rest)
    else
      let inside := if c = '[' then true else if c = ']' then false else bracketed
      let (host, port) := cutPort inside rest
      (c :: host, port)

/-- Reads a port. An empty one, and the usual one, are left out. -/
def readPort (secure : Bool) : Option (List Char) → Except ReadError (Option Nat)
  | none => .ok none
  | some digits =>
    if digits.isEmpty then .ok none
    else
      match Net.port? digits with
      | some n => .ok (if n = usualPort secure then none else some n)
      | none => .error .port

/-- Cuts at the last at-sign. -/
def cutUser (s : List Char) : List Char × List Char :=
  let host := (s.reverse.takeWhile (· != '@')).reverse
  (s.take (s.length - host.length - 1), host)

/-! ## Escapes -/

def escapesAnywhere (c : Char) : Bool := c.val < 0x20 || 0x7E < c.val

def escapesInFragment (c : Char) : Bool :=
  escapesAnywhere c || c == ' ' || c == '"' || c == '<' || c == '>' || c == '`'

def escapesInPath (c : Char) : Bool :=
  escapesInFragment c || c == '#' || c == '?' || c == '\x7b' || c == '\x7d'

/-- A character to escape in a user or a password. -/
def escapesInUser (c : Char) : Bool :=
  escapesInPath c || c == '/' || c == ':' || c == ';' || c == '=' || c == '@' || c == '[' ||
  c == '\\' || c == ']' || c == '^' || c == '|'

def escapesInQuery (c : Char) : Bool :=
  escapesAnywhere c || c == ' ' || c == '"' || c == '#' || c == '<' || c == '>' || c == '\''

def escaped (p : Char → Bool) (s : List Char) : List Char :=
  s.flatMap fun c => if p c then (String.utf8EncodeChar c).flatMap percent else [c]

/-! ## The path -/

/-- The segment with its escaped points written out. -/
def plainPoints (segment : List Char) : List Char :=
  match segment with
  | '%' :: '2' :: 'e' :: rest => '.' :: plainPoints rest
  | '%' :: '2' :: 'E' :: rest => '.' :: plainPoints rest
  | c :: rest => c :: plainPoints rest
  | [] => []

/-- Follows the segments of a path from the root. A point or two at the end leaves a slash. -/
def resolve (above : List (List Char)) : List (List Char) → List (List Char)
  | [] => above
  | [last] =>
    if plainPoints last = ['.', '.'] then above.dropLast ++ [[]]
    else if plainPoints last = ['.'] then above ++ [[]]
    else above ++ [last]
  | segment :: rest =>
    if plainPoints segment = ['.', '.'] then resolve above.dropLast rest
    else if plainPoints segment = ['.'] then resolve above rest
    else resolve (above ++ [segment]) rest

/-- The path that the text behind the host gives. It begins with a slash. -/
def normalPath (s : List Char) : String :=
  let slashes := s.map fun c => if isSlash c then '/' else c
  let segments := Text.splitOn '/' (slashes.drop 1)
  let resolved := resolve [] (segments.map (escaped escapesInPath))
  String.ofList (resolved.flatMap fun segment => '/' :: segment)

/-! ## The whole location -/

/-- A character that is dropped wherever it stands. -/
def isDropped (c : Char) : Bool := c == '\t' || c == '\n' || c == '\r'

/-- What stands behind the first separator, its escapes added. -/
def part? (p : Char → Bool) (sep : Char) (s : List Char) : Option String :=
  (Text.cutAt sep s).map fun cut => String.ofList (escaped p cut.2)

/-- Reads what stands behind the scheme. -/
def readRest (secure : Bool) (s : List Char) : Except ReadError Url := do
  let s := s.dropWhile isSlash
  let behind := s.dropWhile (!endsAuthority ·)
  let resource := behind.takeWhile (· != '#')
  let (user, hostAndPort) := cutUser (s.takeWhile (!endsAuthority ·))
  let (name, password) := (Text.cutAt ':' user).getD (user, [])
  let (host, digits) := cutPort false hostAndPort
  let host ← (Host.read host).mapError ReadError.host
  let port ← readPort secure digits
  return {
    secure, host, port
    user := String.ofList (escaped escapesInUser name)
    password := String.ofList (escaped escapesInUser password)
    path := normalPath (resource.takeWhile (· != '?'))
    query := part? escapesInQuery '?' resource
    fragment := part? escapesInFragment '#' behind }

def read (s : String) : Except ReadError Url :=
  let s := s.toList.filter (!isDropped ·)
  match "http:".toList.isPrefixOf? s, "https:".toList.isPrefixOf? s with
  | some rest, _ => readRest false rest
  | none, some rest => readRest true rest
  | none, none => .error .scheme

/-- Path and query, as they are sent. -/
def target (u : Url) : String :=
  u.path ++ match u.query with
    | some query => "?" ++ query
    | none => ""

/-- Host and port, the port left out when it is the usual one. -/
def authority (u : Url) : String :=
  u.host ++ match u.port with
    | some port => ":" ++ Text.natText port
    | none => ""

/-- User and password in front of the host. -/
def userText (u : Url) : String :=
  if u.user = "" ∧ u.password = "" then ""
  else u.user ++ (if u.password = "" then "" else ":" ++ u.password) ++ "@"

def text (u : Url) : String :=
  (if u.secure then "https://" else "http://") ++ u.userText ++ u.authority ++ u.target ++
    match u.fragment with
    | some fragment => "#" ++ fragment
    | none => ""

/-! ## Requests to a location -/

/-- The text that an escaped part stands for. -/
def unescaped? (s : String) : Option String :=
  Text.Utf8.decode? (decodePercent (Text.Utf8.encode s))

/-- The user and the password that a request names, if the location has any. A user that is no
text is not named, and such a password is left out. -/
def credentials? (u : Url) : Option (String × String) := do
  let user ← unescaped? u.user
  let password := (unescaped? u.password).filter fun _ => u.password ≠ ""
  if user = "" ∧ password = none then none
  return (user, password.getD "")

/-- The location that a request goes to. The user and the password that it names are taken out. -/
def withoutCredentials (u : Url) : Url :=
  if u.credentials?.isSome then { u with user := "", password := "" } else u

/-- The most octets of a location that a request can be sent to. -/
def maxLength : Nat := 65534

/-- Whether a request can be sent to the location. -/
def isSendable (u : Url) : Bool :=
  !u.host.toList.any Host.isUnsendable && u.text.utf8ByteSize ≤ maxLength

end Url

end NotesBench.Http

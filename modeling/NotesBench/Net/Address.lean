import NotesBench.Text.Cut
import NotesBench.Text.Numeral

/-!
# Network addresses

IPv4 and IPv6 addresses and socket addresses, read from their usual written forms. An IPv6 address
is written with its longest run of two or more zero groups left out, the first of equal runs.
-/

namespace NotesBench.Net

/-- An IPv4 address by its octets. -/
structure Ipv4 where
  octets : List Nat
  deriving Repr, DecidableEq

/-- An IPv6 address by its eight groups. -/
structure Ipv6 where
  groups : List Nat
  deriving Repr, DecidableEq

/-- An octet in decimal, without leading zeros. -/
def octet? (s : List Char) : Option Nat :=
  if s.length ≤ 3 ∧ ¬(1 < s.length ∧ s.head? = some '0') then
    (Text.digits? s).filter (· < 256)
  else none

/-- Reads four octets with points between them. -/
def Ipv4.read? (s : List Char) : Option Ipv4 := do
  let octets ← (Text.splitOn '.' s).mapM octet?
  if octets.length = 4 then some ⟨octets⟩ else none

def Ipv4.text (a : Ipv4) : String := ".".intercalate (a.octets.map Text.natText)

/-- A group in up to four hexadecimal digits. -/
def group? (s : List Char) : Option Nat :=
  if 0 < s.length ∧ s.length ≤ 4 then Text.hexNumber? s else none

/-- The last groups of an address, which may end in an IPv4 address. -/
def groups? (pieces : List (List Char)) : Option (List Nat) :=
  match pieces with
  | [] => some []
  | [last] =>
    match group? last, Ipv4.read? last with
    | some g, _ => some [g]
    | none, some ⟨[a, b, c, d]⟩ => some [256 * a + b, 256 * c + d]
    | none, _ => none
  | piece :: rest => do return (← group? piece) :: (← groups? rest)

/-- The pieces between colons; none for an empty text. -/
def pieces (s : List Char) : List (List Char) :=
  if s.isEmpty then [] else Text.splitOn ':' s

/-- Cuts at the first double colon. -/
def cutGap : List Char → Option (List Char × List Char)
  | ':' :: ':' :: rest => some ([], rest)
  | c :: rest => (cutGap rest).map fun (before, after) => (c :: before, after)
  | [] => none

/-- Reads eight groups, of which one run of zeros may be left out. -/
def Ipv6.read? (s : List Char) : Option Ipv6 :=
  match cutGap s with
  | none => do
    let groups ← groups? (pieces s)
    if groups.length = 8 then some ⟨groups⟩ else none
  | some (before, after) => do
    let front ← (pieces before).mapM group?
    let back ← groups? (pieces after)
    if front.length + back.length ≤ 7 then
      some ⟨front ++ List.replicate (8 - front.length - back.length) 0 ++ back⟩
    else none

/-- The first position and the length of the longest run of zeros. -/
def longestZeros (groups : List Nat) : Nat × Nat :=
  let zeros (i : Nat) : Nat := ((groups.drop i).takeWhile (· == 0)).length
  (List.range groups.length).foldl
    (fun best i => if best.2 < zeros i then (i, zeros i) else best) (0, 0)

/-- Groups in hexadecimal with colons between them. -/
def groupsText (groups : List Nat) : String := ":".intercalate (groups.map (Text.hexText 1))

def Ipv6.text (a : Ipv6) : String :=
  match a.groups with
  | [0, 0, 0, 0, 0, 0xFFFF, x, y] =>
    "::ffff:" ++ Ipv4.text ⟨[x / 256, x % 256, y / 256, y % 256]⟩
  | groups =>
    let (start, length) := longestZeros groups
    if length < 2 then groupsText groups
    else groupsText (groups.take start) ++ "::" ++ groupsText (groups.drop (start + length))

/-- A socket address. The scope of an IPv6 address is left out when it is zero. -/
inductive SocketAddress where
  | v4 (host : Ipv4) (port : Nat)
  | v6 (host : Ipv6) (scope : Nat) (port : Nat)
  deriving Repr, DecidableEq

def port? (s : List Char) : Option Nat := (Text.digits? s).filter (· < 65536)

def SocketAddress.read? : List Char → Option SocketAddress
  | '[' :: rest => do
    let (inside, behind) ← Text.cutAt ']' rest
    let (address, scope) ← match Text.cutAt '%' inside with
      | none => some (inside, 0)
      | some (address, scope) => ((Text.digits? scope).filter (· < 4_294_967_296)).map (address, ·)
    let host ← Ipv6.read? address
    match behind with
    | ':' :: digits => (port? digits).map (.v6 host scope)
    | _ => none
  | s => do
    let (address, digits) ← Text.cutAt ':' s
    let host ← Ipv4.read? address
    (port? digits).map (.v4 host)

def SocketAddress.text : SocketAddress → String
  | .v4 host port => host.text ++ ":" ++ Text.natText port
  | .v6 host scope port =>
    "[" ++ host.text ++ (if scope = 0 then "" else "%" ++ Text.natText scope) ++ "]:" ++
      Text.natText port

end NotesBench.Net

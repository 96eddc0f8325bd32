import NotesBench.Http.Percent
import NotesBench.Net.Address
import NotesBench.Net.Domain

/-!
# Hosts

`Host.read` brings the host of a location into its normal form. In brackets stands an IPv6
address. Anything else is a domain name, in which escapes may be used; one whose last label is a
number is an IPv4 address, and its parts may be written in octal or hexadecimal or be left out.
-/

namespace NotesBench.Http.Host

/-- Why a text is no host. -/
inductive Problem where
  | empty
  | ipv6
  | ipv4
  | domain
  deriving Repr, DecidableEq

/-- The wording of a refused host. -/
def Problem.message : Problem → String
  | .empty => "empty host"
  | .ipv6 => "invalid IPv6 address"
  | .ipv4 => "invalid IPv4 address"
  | .domain => "invalid international domain name"

/-- A part of a numeric host: decimal, octal behind a zero, or hexadecimal behind `0x`. -/
def numericPart? : List Char → Option Nat
  | '0' :: 'x' :: digits => Text.hexNumber? digits
  | '0' :: 'X' :: digits => Text.hexNumber? digits
  | '0' :: c :: digits =>
    (c :: digits).foldlM
      (fun n d => if '0' ≤ d ∧ d ≤ '7' then some (8 * n + (d.toNat - '0'.toNat)) else none) 0
  | digits => Text.digits? digits

/-- The labels of a domain, without an empty one at the end. -/
def labels (domain : List Char) : List (List Char) :=
  let all := Text.splitOn '.' domain
  if 1 < all.length ∧ all.getLast? = some [] then all.dropLast else all

/-- Whether the host must be read as a number. -/
def endsInNumber (domain : List Char) : Bool :=
  match (labels domain).getLast? with
  | none => false
  | some last =>
    (!last.isEmpty && last.all Char.isDigit) ||
      match last with
      | '0' :: 'x' :: digits => digits.all fun d => (Text.hexValue? d).isSome
      | '0' :: 'X' :: digits => digits.all fun d => (Text.hexValue? d).isSome
      | _ => false

/-- The number that the parts denote: all but the last are octets, the last fills the rest. -/
def addressValue? : List Nat → Nat → Option Nat
  | [], _ => none
  | [last], room => if last < Nat.pow 256 room then some last else none
  | part :: rest, room =>
    if part < 256 then
      (addressValue? rest (room - 1)).map (part * Nat.pow 256 (room - 1) + ·)
    else none

def ipv4? (domain : List Char) : Option String := do
  let parts ← (labels domain).mapM numericPart?
  if 4 < parts.length then none
  let n ← addressValue? parts 4
  return Net.Ipv4.text ⟨[n / 16_777_216, n / 65_536 % 256, n / 256 % 256, n % 256]⟩

/-- The domain name that a text with escapes stands for, in ASCII. -/
def domain? (s : List Char) : Option (List Char) := do
  let name ← Text.Utf8.decode? (decodePercent (Text.Utf8.encode (String.ofList s)))
  Net.Domain.normal? name.toList

def read (s : List Char) : Except Problem String :=
  match s with
  | [] => .error .empty
  | '[' :: rest =>
    if rest.getLast? = some ']' then
      match Net.Ipv6.read? rest.dropLast with
      | some a => .ok ("[" ++ a.text ++ "]")
      | none => .error .ipv6
    else .error .ipv6
  | s =>
    match domain? s with
    | none => .error .domain
    | some domain =>
      if domain.isEmpty then .error .empty
      else if endsInNumber domain then
        match ipv4? domain with
        | some host => .ok host
        | none => .error .ipv4
      else .ok (String.ofList domain)

/-- A character that a domain name may hold and the host of a request must not. -/
def isUnsendable (c : Char) : Bool := c == '"' || c == '`' || c == '\x7b' || c == '\x7d'

end NotesBench.Http.Host

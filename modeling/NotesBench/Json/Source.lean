import NotesBench.Json.Number
import NotesBench.Json.Token

/-!
# JSON text as a tree

`Source.read?` reads octets into a tree that keeps texts and numbers as they were written. The
reader holds the containers that are still open in a list, so there is no limit on nesting.
`Source.value?` then reads every text and number in the tree; `Json.read?` does both.
-/

namespace NotesBench.Json

open Text (Octets hexOctet?)

/-- A JSON value whose texts and numbers are still as they were written. -/
inductive Source where
  | null
  | bool (b : Bool)
  | number (literal : Octets)
  | text (raw : Octets)
  | array (items : List Source)
  | object (members : List (Octets × Source))
  deriving Repr, Inhabited

namespace Source

/-- A container that is still open, with what has been read of it backwards. -/
inductive Frame where
  | array (items : List Source)
  /-- The value of the member `name` is being read. -/
  | object (members : List (Octets × Source)) (name : Octets)
  deriving Repr

/-- What the reader waits for. -/
inductive State where
  /-- A value. -/
  | value (frames : List Frame)
  /-- The first item of an array, or its end. -/
  | firstItem (frames : List Frame)
  /-- The first member of an object, or its end. -/
  | firstMember (frames : List Frame)
  /-- The name of a further member. -/
  | nextMember (members : List (Octets × Source)) (frames : List Frame)
  /-- The colon behind a name. -/
  | colon (members : List (Octets × Source)) (name : Octets) (frames : List Frame)
  /-- A comma or the end of the innermost container, after a value. -/
  | after (v : Source) (frames : List Frame)
  deriving Repr

def State.beginValue? (frames : List Frame) : Token → Option State
  | .null => some (.after .null frames)
  | .bool b => some (.after (.bool b) frames)
  | .number literal => some (.after (.number literal) frames)
  | .text raw => some (.after (.text raw) frames)
  | .openBracket => some (.firstItem frames)
  | .openBrace => some (.firstMember frames)
  | _ => none

def State.take? : State → Token → Option State
  | .value frames, t => beginValue? frames t
  | .firstItem frames, .closeBracket => some (.after (.array []) frames)
  | .firstItem frames, t => beginValue? (.array [] :: frames) t
  | .firstMember frames, .closeBrace => some (.after (.object []) frames)
  | .firstMember frames, .text raw => some (.colon [] raw frames)
  | .nextMember members frames, .text raw => some (.colon members raw frames)
  | .colon members name frames, .colon => some (.value (.object members name :: frames))
  | .after v (.array items :: frames), .comma => some (.value (.array (v :: items) :: frames))
  | .after v (.array items :: frames), .closeBracket =>
    some (.after (.array (v :: items).reverse) frames)
  | .after v (.object members name :: frames), .comma =>
    some (.nextMember ((name, v) :: members) frames)
  | .after v (.object members name :: frames), .closeBrace =>
    some (.after (.object ((name, v) :: members).reverse) frames)
  | _, _ => none

/-- The reader between two octets. -/
structure Reader where
  mode : Mode
  state : State
  deriving Repr

/-- Hands on the token that an octet completed. -/
def Reader.settle? (state : State) : Scanned → Option Reader
  | (mode, none) => some ⟨mode, state⟩
  | (mode, some token) => (state.take? token).map (⟨mode, ·⟩)

/-- Takes in one octet. A number ends at the first octet that does not belong to it. -/
def Reader.step? (r : Reader) (b : UInt8) : Option Reader :=
  match r.mode with
  | .between => (scanFirst? b).bind (settle? r.state)
  | .number seen part =>
    match part.advance? b with
    | some next => some ⟨.number (b :: seen) next, r.state⟩
    | none =>
      if part.complete then do
        let state ← r.state.take? (.number seen.reverse)
        let scanned ← scanFirst? b
        settle? state scanned
      else none
  | mode => (scanInside? mode b).bind (settle? r.state)

/-- The value read, once the octets have ended. -/
def Reader.finish? (r : Reader) : Option Source :=
  let ended : State → Option Source
    | .after v [] => some v
    | _ => none
  match r.mode with
  | .between => ended r.state
  | .number seen part =>
    if part.complete then (r.state.take? (.number seen.reverse)).bind ended else none
  | _ => none

/-- Reads octets that hold one JSON value, with blanks around and inside it. -/
def read? (bytes : Octets) : Option Source := do
  let r ← bytes.foldlM Reader.step? ⟨.between, .value []⟩
  r.finish?

end Source

/-! ## Texts -/

/-- The number that four hexadecimal digits denote. -/
def code? (a b c d : UInt8) : Option Nat := do
  return (((← hexOctet? a) * 16 + (← hexOctet? b)) * 16 + (← hexOctet? c)) * 16 + (← hexOctet? d)

/-- What a backslash and one more octet stand for. -/
def escaped? (b : UInt8) : Option UInt8 :=
  if b == 0x62 then some 0x08
  else if b == 0x66 then some 0x0C
  else if b == 0x6E then some 0x0A
  else if b == 0x72 then some 0x0D
  else if b == 0x74 then some 0x09
  else if b == 0x22 || b == 0x5C || b == 0x2F then some b
  else none

/-- Resolves the escapes. A surrogate must be the first of a pair whose second follows it. -/
def unescape? : Octets → Option Octets
  | [] => some []
  | 0x5C :: 0x75 :: a :: b :: c :: d :: rest => do
    let n ← code? a b c d
    if 0xD800 ≤ n && n < 0xDC00 then
      match rest with
      | 0x5C :: 0x75 :: e :: f :: g :: h :: rest => do
        let m ← code? e f g h
        if 0xDC00 ≤ m && m < 0xE000 then
          let c := Char.ofNat (0x10000 + (n - 0xD800) * 0x400 + (m - 0xDC00))
          return String.utf8EncodeChar c ++ (← unescape? rest)
        else none
      | _ => none
    else if 0xDC00 ≤ n && n < 0xE000 then none
    else return String.utf8EncodeChar (Char.ofNat n) ++ (← unescape? rest)
  | 0x5C :: b :: rest => do return (← escaped? b) :: (← unescape? rest)
  | b :: rest => do return b :: (← unescape? rest)

def readText? (raw : Octets) : Option String := (unescape? raw).bind Text.Utf8.decode?

/-! ## Whole trees -/

mutual

/-- Reads every text and number of a tree. -/
def Source.value? : Source → Option Json
  | .null => some .null
  | .bool b => some (.bool b)
  | .number literal => readNumber? literal
  | .text raw => (readText? raw).map .string
  | .array items => (valueItems? items).map .array
  | .object members => (valueMembers? members).map .object

def Source.valueItems? : List Source → Option (List Json)
  | [] => some []
  | v :: rest => do return (← v.value?) :: (← valueItems? rest)

def Source.valueMembers? : List (Octets × Source) → Option (List (String × Json))
  | [] => some []
  | (name, v) :: rest => do
    return ((← readText? name), (← v.value?)) :: (← valueMembers? rest)

end

def read? (bytes : Octets) : Option Json := (Source.read? bytes).bind Source.value?

end NotesBench.Json

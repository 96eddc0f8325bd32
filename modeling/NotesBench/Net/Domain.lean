import NotesBench.Net.Domain.Direction
import NotesBench.Net.Domain.Joining
import NotesBench.Net.Domain.Mapping
import NotesBench.Net.Punycode

/-!
# Domain names

`normal?` gives the form of a domain name in ASCII. The characters are mapped first, then each
label between points is read: one outside ASCII is written behind the marker `xn--`, and one that
has the marker must be the written form of an allowed label. The name is refused for a single
character or label that is not allowed, and for a label that does not keep to its direction where
others are written from right to left.
-/

namespace NotesBench.Net.Domain

/-- A label as it is shown, and its form in ASCII. -/
structure Label where
  shown : List Char
  ascii : List Char
  deriving Repr, DecidableEq

/-- What a label in written form begins with. -/
def marker : List Char := ['x', 'n', '-', '-']

def isAscii (c : Char) : Bool := c.toNat < 0x80

/-- The most characters of a label outside ASCII. -/
def maxShown : Nat := 1000

/-- The most characters of a written form behind the marker. -/
def maxWritten : Nat := 2000

/-- Whether a text outside ASCII can be a label: it begins with no mark, and its joiners have
letters to join. -/
def isShowable (s : List Char) : Bool :=
  s.length ≤ maxShown && !s.head?.any Text.isMark && joinersFit [] s

/-- Reads what stands behind the marker. -/
def unwritten? (s : List Char) : Option (List Char) := do
  if maxWritten < s.length ∨ s.isEmpty ∨ s.getLast? = some '-' then none
  let shown ← Punycode.decode? s
  if shown.all isKept && Text.composed shown == shown && isShowable shown then return shown
  none

def Label.read? (s : List Char) : Option Label :=
  match marker.isPrefixOf? s with
  | some written => if s.all isAscii then (unwritten? written).map (⟨·, s⟩) else none
  | none =>
    if s.all isAscii then some ⟨s, s⟩
    else if isShowable s then some ⟨s, marker ++ Punycode.encode s⟩
    else none

def normal? (name : List Char) : Option (List Char) := do
  let s ← mapped? name
  if s.any isForbidden then none
  let labels ← (Text.splitOn '.' s).mapM Label.read?
  if labels.any (hasRight ·.shown) ∧ !labels.all (keepsDirection ·.shown) then none
  return ['.'].intercalate (labels.map Label.ascii)

end NotesBench.Net.Domain

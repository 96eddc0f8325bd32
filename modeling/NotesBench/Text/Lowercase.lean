import NotesBench.Text.CaseTable

/-!
# Small letters

`lowercase` is the full Unicode mapping to small letters. It goes character by character with two
exceptions: U+0130 becomes two characters, and a capital sigma at the end of a word becomes the
final sigma. Whether a sigma is final depends on the letters around it, so the small form of a
piece of a text need not be a piece of the text's small form.
-/

namespace NotesBench.Text

/-- Whether a code point lies in one of the listed ranges. -/
def inRanges (ranges : List (Nat × Nat)) (n : Nat) : Bool :=
  ranges.any fun r => r.1 ≤ n && n ≤ r.2

/-- Whether the run of capitals holds the code point. -/
def Shift.holds (s : Shift) (n : Nat) : Bool :=
  s.first ≤ n && n ≤ s.last && (n - s.first) % s.step == 0

/-- The small form of one character on its own. -/
def lowerChar (c : Char) : List Char :=
  if c.val < 0x80 then [c.toLower]
  else if c.val == 0x130 then ['i', '\u0307']
  else
    match shifts.find? (·.holds c.toNat) with
    | some s => [Char.ofNat (c.toNat + s.distance).toNat]
    | none => [c]

/-- A letter is the first thing met once the characters to look past are skipped. -/
def meetsCased (s : List Char) : Bool :=
  match s.dropWhile fun c => inRanges ignorableRanges c.toNat with
  | [] => false
  | c :: _ => inRanges casedRanges c.toNat

/-- The small form of a sigma between the given texts; `before` is read backwards. -/
def lowerSigma (before after : List Char) : Char :=
  if meetsCased before && !meetsCased after then 'ς' else 'σ'

/-- The small forms of a text that follows `before`, which is read backwards. -/
def lowerAfter (before : List Char) : List Char → List Char
  | [] => []
  | c :: rest =>
    (if c = 'Σ' then [lowerSigma before rest] else lowerChar c) ++ lowerAfter (c :: before) rest

/-- The text in small letters, as characters. -/
def lowered (s : List Char) : List Char := lowerAfter [] s

def lowercase (s : String) : String := String.ofList (lowered s.toList)

@[simp] theorem toList_lowercase (s : String) : (lowercase s).toList = lowered s.toList := by
  simp [lowercase]

/-- Whether `piece` stands somewhere in the text. -/
def occursIn (piece : List Char) : List Char → Bool
  | [] => piece.isEmpty
  | c :: rest => piece.isPrefixOf (c :: rest) || occursIn piece rest

theorem occursIn_iff {piece s : List Char} : occursIn piece s = true ↔ piece <:+: s := by
  induction s with
  | nil => simp [occursIn]
  | cons c r ih => simp [occursIn, ih, List.infix_cons_iff]

end NotesBench.Text

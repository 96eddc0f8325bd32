import NotesBench.Text.CompositionTable
import NotesBench.Text.Mark

/-!
# Composed characters

A letter with marks can be written as one character or as several. `composed` gives the form in
which such spellings agree: every character is taken apart, the marks on each letter are put in
the order of their classes, and then each letter takes in the marks that it can.
-/

namespace NotesBench.Text

def compositeRuns : List Run := Run.table composites

def decompositionRuns : List Run := Run.table decompositions

/-! ## Hangul -/

/-- The letters of a Hangul syllable: a consonant, a vowel and perhaps a consonant at the end. -/
def syllableLetters? (n : Nat) : Option (List Nat) :=
  if 0xAC00 ≤ n && n ≤ 0xD7A3 then
    let index := n - 0xAC00
    let ending := if index % 28 = 0 then [] else [0x11A7 + index % 28]
    some ((0x1100 + index / 588) :: (0x1161 + index % 588 / 28) :: ending)
  else none

/-- The Hangul syllable of a consonant and a vowel, or of a syllable and a consonant at its end. -/
def syllable? (a b : Nat) : Option Nat :=
  if 0x1100 ≤ a && a ≤ 0x1112 && 0x1161 ≤ b && b ≤ 0x1175 then
    some (0xAC00 + (a - 0x1100) * 588 + (b - 0x1161) * 28)
  else if 0xAC00 ≤ a && a ≤ 0xD7A3 && (a - 0xAC00) % 28 == 0 && 0x11A8 ≤ b && b ≤ 0x11C2 then
    some (a + (b - 0x11A7))
  else none

/-! ## Taking apart -/

/-- The first character that is made of others. -/
def firstComposite : Nat := 0xC0

/-- What a character is made of, if it is made of others. -/
def parts? (c : Char) : Option (List Char) :=
  if c.toNat < firstComposite then none
  else
    let found := (syllableLetters? c.toNat).or
      (((run? compositeRuns c).or (run? decompositionRuns c)).map (·.valuesAt c.toNat))
    found.map (·.map Char.ofNat)

/-- What is left of a character after taking it and its parts apart, up to the given depth. -/
def partsTo : Nat → Char → List Char
  | 0, c => [c]
  | depth + 1, c =>
    match parts? c with
    | none => [c]
    | some parts => parts.flatMap (partsTo depth)

/-- The text taken apart. No character needs more than four steps. -/
def decomposed (s : List Char) : List Char := s.flatMap (partsTo 4)

/-! ## Order of marks -/

/-- Puts a character in front of a text, behind the marks of lower classes if it is a mark. -/
def insertMark (c : Char) : List Char → List Char
  | [] => [c]
  | d :: rest =>
    if combiningClass d ≠ 0 ∧ combiningClass d < combiningClass c then d :: insertMark c rest
    else c :: d :: rest

/-- The text with the marks on each letter in the order of their classes. -/
def ordered (s : List Char) : List Char := s.foldr insertMark []

/-! ## Putting together -/

/-- The character that stands for a pair. -/
def pair? (a b : Char) : Option Char :=
  if b.toNat < firstMark then none
  else
    ((syllable? a.toNat b.toNat).or
      ((compositeRuns.find? (·.values == [a.toNat, b.toNat])).map (·.first))).map Char.ofNat

/-- Whether a mark stands between a letter and a character of the given class that keeps them
apart. The marks are read backwards. -/
def separates (marks : List Char) (rank : Nat) : Bool :=
  match marks with
  | [] => false
  | mark :: _ => rank ≤ combiningClass mark

/-- Puts a letter together with what follows it. The marks that it has not taken in are kept
backwards. -/
def joined (letter : Char) (marks : List Char) : List Char → List Char
  | [] => letter :: marks.reverse
  | c :: rest =>
    match if separates marks (combiningClass c) then none else pair? letter c with
    | some both => joined both marks rest
    | none =>
      if combiningClass c = 0 then letter :: (marks.reverse ++ joined c [] rest)
      else joined letter (c :: marks) rest

/-- Puts letters and marks together. Marks at the beginning stay. -/
def recomposed : List Char → List Char
  | [] => []
  | c :: rest => if combiningClass c = 0 then joined c [] rest else c :: recomposed rest

/-- The text with its letters and marks put together as far as they can be. -/
def composed (s : List Char) : List Char := recomposed (ordered (decomposed s))

end NotesBench.Text

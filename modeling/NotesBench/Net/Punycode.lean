/-!
# Punycode

Text outside ASCII written in letters, digits and hyphens. The ASCII characters come first and
unchanged, then a hyphen if there are any, then one number for each other character, in the order
of their code points. A number counts the places and code points passed over since the last
character. It is written in digits of 36 values, the lowest first: at each position a digit below
the threshold ends the number, and the thresholds follow the size of the numbers before it
(`adapt`). `decode?` refuses numbers of more than 32 bits.
-/

namespace NotesBench.Net.Punycode

/-! ## Digits and thresholds -/

def base : Nat := 36

/-- The letter or number of a digit. -/
def digit (n : Nat) : Char :=
  if n < 26 then Char.ofNat ('a'.toNat + n) else Char.ofNat ('0'.toNat + (n - 26))

def digitValue? (c : Char) : Option Nat :=
  if 'a' ≤ c ∧ c ≤ 'z' then some (c.toNat - 'a'.toNat)
  else if 'A' ≤ c ∧ c ≤ 'Z' then some (c.toNat - 'A'.toNat)
  else if c.isDigit then some (c.toNat - '0'.toNat + 26)
  else none

/-- The threshold at a position, counted in steps of `base`. -/
def threshold (bias position : Nat) : Nat := max 1 (min 26 (position - bias))

theorem threshold_pos (bias position : Nat) : 0 < threshold bias position := by
  simp only [threshold]; omega

/-- Divides a number until at most 455 is left, and counts `base` for each division. -/
def reduce (delta : Nat) : Nat × Nat :=
  if 455 < delta then
    let (rest, count) := reduce (delta / 35)
    (rest, count + base)
  else (delta, 0)
termination_by delta
decreasing_by omega

/-- The bias after a number, for a text of `length` characters. -/
def adapt (delta length : Nat) (isFirst : Bool) : Nat :=
  let scaled := if isFirst then delta / 700 else delta / 2
  let (rest, count) := reduce (scaled + scaled / length)
  count + base * rest / (rest + 38)

def firstBias : Nat := 72

/-- The first code point that a number can stand for. -/
def firstCode : Nat := 0x80

/-! ## Reading -/

def numberEnd : Nat := 4_294_967_296

/-- Reads a number. Its digits from `position` on count `weight` times as much as at the start. -/
def readNumber? (bias position weight : Nat) : List Char → Option (Nat × List Char)
  | [] => none
  | c :: rest => do
    let n ← digitValue? c
    let t := threshold bias position
    if n < t then return (n * weight, rest)
    if numberEnd ≤ weight * (base - t) then none
    let (more, rest) ← readNumber? bias (position + base) (weight * (base - t)) rest
    return (n * weight + more, rest)

/-- A number has a digit. -/
theorem length_of_readNumber? {bias position weight : Nat} {s : List Char} {r : Nat × List Char}
    (h : readNumber? bias position weight s = some r) : r.2.length < s.length := by
  induction s generalizing position weight r with
  | nil => simp [readNumber?] at h
  | cons c rest ih =>
    simp only [readNumber?, Option.bind_eq_bind, Option.bind_eq_some_iff] at h
    obtain ⟨n, -, h⟩ := h
    split at h
    · simp only [Option.pure_def, Option.some.injEq] at h
      subst h
      simp
    · split at h
      · simp at h
      · simp only [Option.bind_eq_some_iff, Option.pure_def, Option.some.injEq] at h
        obtain ⟨more, hm, rfl⟩ := h
        have := ih hm
        simp only [List.length_cons]
        omega

/-- Reads the numbers from `s` on and puts their characters into the text. The last one was put
before `place`; its code point was `code`. -/
def insertFrom (text : List Char) (bias code place : Nat) (s : List Char) : Option (List Char) :=
  if s.isEmpty then some text
  else
    match h : readNumber? bias base 1 s with
    | none => none
    | some (delta, rest) =>
      let length := text.length + 1
      let next := code + (place + delta) / length
      if numberEnd ≤ place + delta ∨ ¬next.isValidChar then none
      else
        let spot := (place + delta) % length
        insertFrom (text.insertIdx spot (Char.ofNat next)) (adapt delta length (place == 0)) next
          (spot + 1) rest
termination_by s.length
decreasing_by exact length_of_readNumber? h

/-- Cuts at the last hyphen. A hyphen at the very beginning does not count. -/
def cutBase (s : List Char) : List Char × List Char :=
  let tail := (s.reverse.takeWhile (· != '-')).reverse
  if tail.length + 1 < s.length then (s.take (s.length - tail.length - 1), tail) else ([], s)

/-- The text that is written as `s`. Capitals count as small letters. -/
def decode? (s : List Char) : Option (List Char) :=
  let (plain, numbers) := cutBase s
  insertFrom (plain.map Char.toLower) firstBias firstCode 0 numbers

/-! ## Writing -/

def writeNumber (bias position n : Nat) : List Char :=
  let t := threshold bias position
  if n < t then [digit n]
  else
    digit (t + (n - t) % (base - t)) ::
      writeNumber bias (position + base) ((n - t) / (base - t))
termination_by n
decreasing_by
  have ht := threshold_pos bias position
  have hd := Nat.div_le_self (n - threshold bias position) (base - threshold bias position)
  omega

/-- What has been written, backwards, and what the next number has to count. -/
structure Writer where
  written : List Char
  delta : Nat
  bias : Nat
  /-- The count of characters written so far. -/
  length : Nat
  deriving Repr

/-- Passes over a character of the text, or writes it if it has the code point. -/
def Writer.pass (plain code : Nat) (w : Writer) (c : Char) : Writer :=
  if c.toNat < code then { w with delta := w.delta + 1 }
  else if c.toNat = code then
    { written := (writeNumber w.bias base w.delta).reverse ++ w.written
      delta := 0
      bias := adapt w.delta (w.length + 1) (w.length == plain)
      length := w.length + 1 }
  else w

/-- Writes the characters with the given code points, of which `code` is the least that may come
next. -/
def Writer.run (plain : Nat) (text : List Char) (w : Writer) (code : Nat) : List Nat → Writer
  | [] => w
  | next :: rest =>
    let skipped := { w with delta := w.delta + (next - code) * (w.length + 1) }
    let w := text.foldl (pass plain next) skipped
    run plain text { w with delta := w.delta + 1 } (next + 1) rest

/-- Puts a number where it belongs in an ascending list, unless it stands there already. -/
def insertOnce (n : Nat) : List Nat → List Nat
  | [] => [n]
  | m :: rest =>
    if n < m then n :: m :: rest
    else if n = m then m :: rest
    else m :: insertOnce n rest

/-- The written form of a text. -/
def encode (text : List Char) : List Char :=
  let plain := text.filter fun c => c.toNat < firstCode
  let others := (text.filter fun c => firstCode ≤ c.toNat).map Char.toNat
  let w := Writer.run plain.length text ⟨[], 0, firstBias, plain.length⟩ firstCode
    (others.foldr insertOnce [])
  plain ++ (if plain.isEmpty then [] else ['-']) ++ w.written.reverse

end NotesBench.Net.Punycode

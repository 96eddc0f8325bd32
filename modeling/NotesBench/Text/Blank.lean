/-!
# White space at the ends of a text

`isBlank` is the Unicode property White_Space. Zero-width characters such as U+200B and U+FEFF
are not in it. `trim` drops blanks at both ends of a text and nothing else: the result neither
begins nor ends with a blank (`head?_trimmed`, `getLast?_trimmed`), and a text without blanks at
its ends is kept (`trimmed_trimmed`).
-/

namespace NotesBench.Text

/-- The characters with the Unicode property White_Space. -/
def isBlank (c : Char) : Bool :=
  let n := c.toNat
  (0x09 ≤ n && n ≤ 0x0D) || n == 0x20 || n == 0x85 || n == 0xA0 || n == 0x1680 ||
  (0x2000 ≤ n && n ≤ 0x200A) || n == 0x2028 || n == 0x2029 || n == 0x202F || n == 0x205F ||
  n == 0x3000

/-- Drops what satisfies `p` from the end of a list. -/
def dropEndWhile {α : Type} (p : α → Bool) (s : List α) : List α :=
  (s.reverse.dropWhile p).reverse

/-- A text without the blanks at its two ends, as characters. -/
def trimmed (s : List Char) : List Char :=
  dropEndWhile isBlank (s.dropWhile isBlank)

/-- A text without the blanks at its two ends. -/
def trim (s : String) : String :=
  String.ofList (trimmed s.toList)

@[simp] theorem toList_trim (s : String) : (trim s).toList = trimmed s.toList := by
  simp [trim]

theorem dropWhile_eq_self_of_head? {α : Type} {p : α → Bool} {s : List α}
    (h : ∀ a ∈ s.head?, p a = false) : s.dropWhile p = s := by
  cases s with
  | nil => rfl
  | cons a r => simp [h a (by simp)]

/-- The front is taken up to the first element that does not belong to it. -/
theorem takeWhile_append_of_head? {α : Type} {p : α → Bool} {s t : List α}
    (hs : ∀ a ∈ s, p a = true) (ht : ∀ a ∈ t.head?, p a = false) : (s ++ t).takeWhile p = s := by
  rw [List.takeWhile_append_of_pos hs]
  cases t with
  | nil => simp
  | cons a t => simp [ht a rfl]

theorem dropWhile_append_of_head? {α : Type} {p : α → Bool} {s t : List α}
    (hs : ∀ a ∈ s, p a = true) (ht : ∀ a ∈ t.head?, p a = false) : (s ++ t).dropWhile p = t := by
  rw [List.dropWhile_append_of_pos hs, dropWhile_eq_self_of_head? ht]

theorem head?_dropWhile_false {α : Type} {p : α → Bool} {s : List α} :
    ∀ a ∈ (s.dropWhile p).head?, p a = false := by
  intro a ha
  induction s with
  | nil => simp at ha
  | cons b r ih =>
    by_cases hb : p b = true
    · exact ih (by simpa [hb] using ha)
    · simp [hb] at ha
      simp_all

theorem dropEndWhile_eq_self_of_getLast? {α : Type} {p : α → Bool} {s : List α}
    (h : ∀ a ∈ s.getLast?, p a = false) : dropEndWhile p s = s := by
  rw [dropEndWhile, dropWhile_eq_self_of_head? (by simpa using h), List.reverse_reverse]

theorem getLast?_dropEndWhile_false {α : Type} {p : α → Bool} {s : List α} :
    ∀ a ∈ (dropEndWhile p s).getLast?, p a = false := by
  simpa [dropEndWhile] using head?_dropWhile_false (p := p) (s := s.reverse)

/-- What is left after dropping at the end is a beginning of the list. -/
theorem dropEndWhile_prefix {α : Type} (p : α → Bool) (s : List α) :
    dropEndWhile p s <+: s := by
  have h := (List.dropWhile_suffix (l := s.reverse) p)
  simpa [dropEndWhile] using List.reverse_prefix.2 h

theorem getLast?_trimmed (s : List Char) : ∀ c ∈ (trimmed s).getLast?, isBlank c = false :=
  getLast?_dropEndWhile_false

theorem head?_trimmed (s : List Char) : ∀ c ∈ (trimmed s).head?, isBlank c = false := by
  intro c hc
  obtain ⟨t, ht⟩ := dropEndWhile_prefix isBlank (s.dropWhile isBlank)
  refine head?_dropWhile_false (s := s) c ?_
  rw [← ht]
  cases h : dropEndWhile isBlank (s.dropWhile isBlank) with
  | nil => simp [trimmed, h] at hc
  | cons b r => simpa [trimmed, h] using hc

/-- Trimming a second time changes nothing. -/
theorem trimmed_trimmed (s : List Char) : trimmed (trimmed s) = trimmed s := by
  rw [trimmed, dropWhile_eq_self_of_head? (head?_trimmed s),
    dropEndWhile_eq_self_of_getLast? (getLast?_trimmed s)]

theorem trim_trim (s : String) : trim (trim s) = trim s := by
  simp [trim, trimmed_trimmed]

end NotesBench.Text

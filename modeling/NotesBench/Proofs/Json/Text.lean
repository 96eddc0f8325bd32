import NotesBench.Json.Record
import NotesBench.Proofs.Text.Utf8

/-!
# Texts in JSON

What is written between quotes is read back as the text (`readText?_rawOf`): escapes are resolved,
and everything else stands for itself. `rawOf` is what stands between the quotes.
-/

namespace NotesBench.Json

open Text (Octets)

/-- What stands between the quotes of a text. -/
def rawOf (s : String) : Octets := (s.toList.flatMap escape).flatMap String.utf8EncodeChar

theorem encode_quoted (s : String) :
    (quoted s.toList).flatMap String.utf8EncodeChar = 0x22 :: (rawOf s ++ [0x22]) := by
  simp only [quoted, rawOf, List.flatMap_cons, List.flatMap_append, List.flatMap_nil]
  rfl

/-! ## Resolving escapes -/

theorem unescape?_plain {b : UInt8} (h : b ≠ 0x5C) (rest : Octets) :
    unescape? (b :: rest) = (unescape? rest).map (b :: ·) := by
  rw [unescape?.eq_def]
  split
  · simp_all
  · simp_all
  · simp_all
  · next he =>
    cases he
    cases unescape? rest <;> rfl

theorem unescape?_append {bytes : Octets} (h : ∀ b ∈ bytes, b ≠ 0x5C) (rest : Octets) :
    unescape? (bytes ++ rest) = (unescape? rest).map (bytes ++ ·) := by
  induction bytes with
  | nil => simp
  | cons b bytes ih =>
    obtain ⟨hb, hbytes⟩ := List.forall_mem_cons.1 h
    rw [List.cons_append, unescape?_plain hb, ih hbytes, Option.map_map]
    rfl

theorem unescape?_short {a b : UInt8} (h : escaped? b = some a) (rest : Octets) :
    unescape? (0x5C :: b :: rest) = (unescape? rest).map (a :: ·) := by
  have hu : b ≠ 0x75 := by
    rintro rfl
    cases h
  rw [unescape?.eq_def]
  split
  · simp_all
  · simp_all
  · next he =>
    cases he
    rw [h]
    cases unescape? rest <;> rfl
  · next hn he =>
    cases he
    exact absurd rfl (hn b rest rfl)

theorem unescape?_code {a b c d : UInt8} {n : Nat} (h : code? a b c d = some n) (hn : n < 0xD800)
    (rest : Octets) :
    unescape? (0x5C :: 0x75 :: a :: b :: c :: d :: rest) =
      (unescape? rest).map (String.utf8EncodeChar (Char.ofNat n) ++ ·) := by
  have h₁ : ¬ 0xD800 ≤ n := Nat.not_le.2 hn
  have h₂ : ¬ 0xDC00 ≤ n := by omega
  rw [unescape?]
  simp only [h, Option.bind_eq_bind, Option.bind_some, h₁, h₂, decide_false, Bool.false_and,
    Bool.false_eq_true, if_false]
  cases unescape? rest <;> rfl

/-! ## Characters and texts -/

/-- A control character is written with four digits that denote it. -/
theorem exists_code : ∀ n : Fin 32, ∃ a b c d : UInt8,
    (Text.hexText 4 n).toList.flatMap String.utf8EncodeChar = [a, b, c, d] ∧
      code? a b c d = some n.val ∧
      (isHex a = true ∧ isHex b = true ∧ isHex c = true ∧ isHex d = true) := by
  intro n
  refine ⟨0x30, 0x30, UInt8.ofNat (48 + n.val / 16),
    UInt8.ofNat (if n.val % 16 < 10 then 48 + n.val % 16 else 87 + n.val % 16), ?_⟩
  revert n
  decide

theorem unescape?_escape (c : Char) (rest : Octets) :
    unescape? ((escape c).flatMap String.utf8EncodeChar ++ rest) =
      (unescape? rest).map (String.utf8EncodeChar c ++ ·) := by
  unfold escape
  split
  · next h =>
    subst h
    exact unescape?_short (a := 0x22) (b := 0x22) rfl rest
  split
  · next h =>
    subst h
    exact unescape?_short (a := 0x5C) (b := 0x5C) rfl rest
  split
  · next h =>
    subst h
    exact unescape?_short (a := 0x0A) (b := 0x6E) rfl rest
  split
  · next h =>
    subst h
    exact unescape?_short (a := 0x0D) (b := 0x72) rfl rest
  split
  · next h =>
    subst h
    exact unescape?_short (a := 0x09) (b := 0x74) rfl rest
  split
  · next h =>
    subst h
    exact unescape?_short (a := 0x08) (b := 0x62) rfl rest
  split
  · next h =>
    subst h
    exact unescape?_short (a := 0x0C) (b := 0x66) rfl rest
  split
  · next h =>
    obtain ⟨a, b, x, d, he, hcode, -⟩ := exists_code ⟨c.toNat, h⟩
    simp only [List.flatMap_cons, he]
    have hc := unescape?_code hcode (by simp only; omega) rest
    rwa [Char.ofNat_toNat] at hc
  · next hslash _ _ _ _ _ _ =>
    rw [List.flatMap_singleton]
    refine unescape?_append (fun b hb => ?_) rest
    rintro rfl
    by_cases hlow : c.toNat < 0x80
    · rw [Text.Utf8.encodeChar_ascii hlow, List.mem_singleton] at hb
      refine hslash (Char.toNat_inj.1 ?_)
      have := congrArg UInt8.toNat hb
      rw [Text.Utf8.toNat_ofNat_of_lt (by omega)] at this
      exact this.symm
    · have := Text.Utf8.encodeChar_high (Nat.le_of_not_lt hlow) _ hb
      exact absurd this (by decide)

theorem unescape?_rawOf (s : String) : unescape? (rawOf s) = some (Text.Utf8.encode s) := by
  rw [rawOf, Text.Utf8.encode]
  induction s.toList with
  | nil => rfl
  | cons c cs ih =>
    rw [List.flatMap_cons, List.flatMap_append, unescape?_escape, ih, Option.map_some,
      List.flatMap_cons]

/-- A text is read back from what stands between its quotes. -/
theorem readText?_rawOf (s : String) : readText? (rawOf s) = some s := by
  rw [readText?, unescape?_rawOf, Option.bind_some, Text.Utf8.decode?_encode]

end NotesBench.Json

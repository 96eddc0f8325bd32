import NotesBench.Text.Octets

/-!
# Reading back what was written in UTF-8

A text is read back from its octets (`decode?_encode`). The octets of a character below U+0080 are
its code; those of any other character are all 0x80 or more, so that no octet of a longer character
is taken for a shorter one (`encodeChar_high`).
-/

namespace NotesBench.Text.Utf8

@[simp] theorem encode_ofList (s : List Char) :
    encode (String.ofList s) = s.flatMap String.utf8EncodeChar := by
  simp [encode]

theorem encode_append (s t : String) : encode (s ++ t) = encode s ++ encode t := by
  simp [encode]

theorem toNat_ofNat_of_lt {n : Nat} (h : n < 256) : (UInt8.ofNat n).toNat = n := by
  simp [Nat.mod_eq_of_lt h]

/-! ## First octets -/

/-- What a first octet asks for, by its value. -/
theorem follow_eq (b : UInt8) : follow b =
    if 0xC2 ≤ b.toNat ∧ b.toNat ≤ 0xDF then some (1, 0x80, 0xBF)
    else if b.toNat = 0xE0 then some (2, 0xA0, 0xBF)
    else if b.toNat = 0xED then some (2, 0x80, 0x9F)
    else if 0xE1 ≤ b.toNat ∧ b.toNat ≤ 0xEF then some (2, 0x80, 0xBF)
    else if b.toNat = 0xF0 then some (3, 0x90, 0xBF)
    else if 0xF1 ≤ b.toNat ∧ b.toNat ≤ 0xF3 then some (3, 0x80, 0xBF)
    else if b.toNat = 0xF4 then some (3, 0x80, 0x8F)
    else none := by
  simp only [follow, UInt8.le_iff_toNat_le, beq_iff_eq, ← UInt8.toNat_inj, Bool.and_eq_true,
    decide_eq_true_eq, UInt8.reduceToNat]

section Pieces

variable {b b₁ b₂ b₃ low high : UInt8} (rest : Octets)

theorem marks_one (h : b.toNat < 0x80) :
    marks (b :: rest) = some (Char.ofNat b.toNat) :: marks rest := by
  rw [marks, if_pos (UInt8.lt_iff_toNat_lt.2 h)]

theorem marks_two (hf : follow b = some (1, low, high)) (hb : 0x80 ≤ b.toNat)
    (h₁ : low.toNat ≤ b₁.toNat ∧ b₁.toNat ≤ high.toNat) :
    marks (b :: b₁ :: rest) =
      some (Char.ofNat (b.toNat % 32 * 64 + b₁.toNat % 64)) :: marks rest := by
  have hn : ¬ b < 0x80 := fun hlt => absurd (UInt8.lt_iff_toNat_lt.1 hlt) (Nat.not_lt.2 hb)
  rw [marks, if_neg hn, hf]
  simp [UInt8.le_iff_toNat_le, h₁]

theorem marks_three (hf : follow b = some (2, low, high)) (hb : 0x80 ≤ b.toNat)
    (h₁ : low.toNat ≤ b₁.toNat ∧ b₁.toNat ≤ high.toNat)
    (h₂ : 0x80 ≤ b₂.toNat ∧ b₂.toNat ≤ 0xBF) :
    marks (b :: b₁ :: b₂ :: rest) =
      some (Char.ofNat ((b.toNat % 16 * 64 + b₁.toNat % 64) * 64 + b₂.toNat % 64)) ::
        marks rest := by
  have hn : ¬ b < 0x80 := fun hlt => absurd (UInt8.lt_iff_toNat_lt.1 hlt) (Nat.not_lt.2 hb)
  rw [marks, if_neg hn, hf]
  simp [UInt8.le_iff_toNat_le, continues, h₁, h₂]

theorem marks_four (hf : follow b = some (3, low, high)) (hb : 0x80 ≤ b.toNat)
    (h₁ : low.toNat ≤ b₁.toNat ∧ b₁.toNat ≤ high.toNat)
    (h₂ : 0x80 ≤ b₂.toNat ∧ b₂.toNat ≤ 0xBF) (h₃ : 0x80 ≤ b₃.toNat ∧ b₃.toNat ≤ 0xBF) :
    marks (b :: b₁ :: b₂ :: b₃ :: rest) =
      some (Char.ofNat (((b.toNat % 8 * 64 + b₁.toNat % 64) * 64 + b₂.toNat % 64) * 64 +
        b₃.toNat % 64)) :: marks rest := by
  have hn : ¬ b < 0x80 := fun hlt => absurd (UInt8.lt_iff_toNat_lt.1 hlt) (Nat.not_lt.2 hb)
  rw [marks, if_neg hn, hf]
  simp [UInt8.le_iff_toNat_le, continues, h₁, h₂, h₃]

end Pieces

/-! ## Characters and texts -/

/-- The octets of a character are read as that character. -/
theorem marks_encodeChar (c : Char) (rest : Octets) :
    marks (String.utf8EncodeChar c ++ rest) = some c :: marks rest := by
  have hv : c.val.toNat < 0xD800 ∨ 0xDFFF < c.val.toNat ∧ c.val.toNat < 0x110000 := c.valid
  have hc : Char.ofNat c.val.toNat = c := Char.ofNat_toNat c
  unfold String.utf8EncodeChar
  generalize c.val.toNat = v at hv hc
  subst hc
  dsimp only
  split
  · have hb := toNat_ofNat_of_lt (n := v) (by omega)
    rw [List.singleton_append, marks_one _ (by omega), hb]
  · split
    · have hb := toNat_ofNat_of_lt (n := v / 64 % 0x20 + 0xC0) (by omega)
      have hb₁ := toNat_ofNat_of_lt (n := v % 0x40 + 0x80) (by omega)
      have hf : follow (UInt8.ofNat (v / 64 % 0x20 + 0xC0)) = some (1, 0x80, 0xBF) := by
        rw [follow_eq, if_pos (by omega)]
      rw [List.cons_append, List.singleton_append,
        marks_two _ hf (by omega) (by simp only [UInt8.reduceToNat]; omega), hb, hb₁]
      congr 3
      omega
    · split
      · have hb := toNat_ofNat_of_lt (n := v / 4096 % 0x10 + 0xE0) (by omega)
        have hb₁ := toNat_ofNat_of_lt (n := v / 64 % 0x40 + 0x80) (by omega)
        have hb₂ := toNat_ofNat_of_lt (n := v % 0x40 + 0x80) (by omega)
        -- The first octet narrows the second one only at the two ends of its range.
        have hf : ∃ low high : UInt8,
            follow (UInt8.ofNat (v / 4096 % 0x10 + 0xE0)) = some (2, low, high) ∧
              low.toNat ≤ v / 64 % 0x40 + 0x80 ∧ v / 64 % 0x40 + 0x80 ≤ high.toNat := by
          rw [follow_eq, hb, if_neg (by omega)]
          split
          · exact ⟨_, _, rfl, by simp only [UInt8.reduceToNat]; omega⟩
          · split
            · exact ⟨_, _, rfl, by simp only [UInt8.reduceToNat]; omega⟩
            · rw [if_pos (by omega)]
              exact ⟨_, _, rfl, by simp only [UInt8.reduceToNat]; omega⟩
        obtain ⟨low, high, hf, h₁⟩ := hf
        rw [List.cons_append, List.cons_append, List.singleton_append,
          marks_three _ hf (by omega) (by rwa [hb₁]) (by omega), hb, hb₁, hb₂]
        congr 3
        omega
      · have hb := toNat_ofNat_of_lt (n := v / 262144 % 0x08 + 0xF0) (by omega)
        have hb₁ := toNat_ofNat_of_lt (n := v / 4096 % 0x40 + 0x80) (by omega)
        have hb₂ := toNat_ofNat_of_lt (n := v / 64 % 0x40 + 0x80) (by omega)
        have hb₃ := toNat_ofNat_of_lt (n := v % 0x40 + 0x80) (by omega)
        have hf : ∃ low high : UInt8,
            follow (UInt8.ofNat (v / 262144 % 0x08 + 0xF0)) = some (3, low, high) ∧
              low.toNat ≤ v / 4096 % 0x40 + 0x80 ∧ v / 4096 % 0x40 + 0x80 ≤ high.toNat := by
          rw [follow_eq, hb, if_neg (by omega), if_neg (by omega), if_neg (by omega),
            if_neg (by omega)]
          split
          · exact ⟨_, _, rfl, by simp only [UInt8.reduceToNat]; omega⟩
          · split
            · exact ⟨_, _, rfl, by simp only [UInt8.reduceToNat]; omega⟩
            · rw [if_pos (by omega)]
              exact ⟨_, _, rfl, by simp only [UInt8.reduceToNat]; omega⟩
        obtain ⟨low, high, hf, h₁⟩ := hf
        rw [List.cons_append, List.cons_append, List.cons_append, List.singleton_append,
          marks_four _ hf (by omega) (by rwa [hb₁]) (by omega) (by omega), hb, hb₁, hb₂, hb₃]
        congr 3
        omega

theorem marks_encodeChars (s : List Char) :
    marks (s.flatMap String.utf8EncodeChar) = s.map some := by
  induction s with
  | nil => rw [List.flatMap_nil, marks, List.map_nil]
  | cons c s ih => rw [List.flatMap_cons, marks_encodeChar, ih, List.map_cons]

/-- A text is read back from its octets. -/
theorem decode?_encode (s : String) : decode? (encode s) = some s := by
  have hm : (s.toList.map some).mapM id = some s.toList := by
    induction s.toList with
    | nil => rfl
    | cons c cs ih => simp [ih]
  rw [decode?, encode, marks_encodeChars, hm, Option.map_some, String.ofList_toList]

theorem decodeLossy_encode (s : String) : decodeLossy (encode s) = s := by
  have hkept : ((·.getD '\uFFFD') ∘ some : Char → Char) = id := rfl
  rw [decodeLossy, encode, marks_encodeChars, List.map_map, hkept, List.map_id,
    String.ofList_toList]

/-! ## ASCII and beyond -/

theorem encodeChar_ascii {c : Char} (h : c.toNat < 0x80) :
    String.utf8EncodeChar c = [UInt8.ofNat c.toNat] := by
  unfold String.utf8EncodeChar
  exact if_pos (Nat.le_of_lt_succ h)

theorem encodeChar_high {c : Char} (h : 0x80 ≤ c.toNat) :
    ∀ b ∈ String.utf8EncodeChar c, 0x80 ≤ b.toNat := by
  have hn : ¬ c.val.toNat ≤ 0x7F := Nat.not_le.2 h
  have hb {n : Nat} (hn : 0x80 ≤ n % 256) : 0x80 ≤ (UInt8.ofNat n).toNat := by simpa using hn
  unfold String.utf8EncodeChar
  dsimp only
  rw [if_neg hn]
  generalize c.val.toNat = v
  split
  · simp only [List.forall_mem_cons]
    exact ⟨hb (by omega), hb (by omega), by simp⟩
  · split
    · simp only [List.forall_mem_cons]
      exact ⟨hb (by omega), hb (by omega), hb (by omega), by simp⟩
    · simp only [List.forall_mem_cons]
      exact ⟨hb (by omega), hb (by omega), hb (by omega), hb (by omega), by simp⟩

/-- The octets of an ASCII text are the codes of its characters. -/
theorem encodeChars_ascii {s : List Char} (h : ∀ c ∈ s, c.toNat < 0x80) :
    s.flatMap String.utf8EncodeChar = s.map fun c => UInt8.ofNat c.toNat := by
  induction s with
  | nil => rfl
  | cons c s ih =>
    obtain ⟨hc, hs⟩ := List.forall_mem_cons.1 h
    rw [List.flatMap_cons, encodeChar_ascii hc, ih hs, List.map_cons, List.singleton_append]

end NotesBench.Text.Utf8

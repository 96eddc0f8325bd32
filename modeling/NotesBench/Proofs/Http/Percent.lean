import NotesBench.Http.Percent
import NotesBench.Proofs.Http.Message
import NotesBench.Proofs.Text.Utf8

/-!
# Texts as segments

A text that is written as a segment is made up of unreserved characters and of escapes with capital
digits (`IsSegment`), and it is read back octet by octet (`decodePercent_encodeSegment`), so
different texts are different segments. Unreserved characters stand for themselves
(`encodeSegment_of_isUnreserved`).
-/

namespace NotesBench.Http

open Text (Octets)

/-! ## Characters of a segment -/

section Alphanum

variable {c : Char} (h : c.isAlphanum = true)
include h

theorem toNat_of_isAlphanum : (0x30 ≤ c.toNat ∧ c.toNat ≤ 0x39) ∨
    (0x41 ≤ c.toNat ∧ c.toNat ≤ 0x5A) ∨ (0x61 ≤ c.toNat ∧ c.toNat ≤ 0x7A) := by
  change ((decide ('A'.val ≤ c.val ∧ c.val ≤ 'Z'.val) ||
    (decide ('a'.val ≤ c.val) && decide (c.val ≤ 'z'.val))) || c.isDigit) = true at h
  simp only [Bool.or_eq_true, Bool.and_eq_true, decide_eq_true_eq, UInt32.le_iff_toNat_le] at h
  rcases h with (h | h) | h
  · exact .inr (.inl h)
  · exact .inr (.inr h)
  · exact .inl (Text.toNat_lt_of_isDigit h)

theorem ne_of_isAlphanum {d : Char} (hd : d.isAlphanum = false) : c ≠ d := by
  rintro rfl
  rw [h] at hd
  cases hd

end Alphanum

/-- A character of a text that is written as a segment: it stands for itself or begins an escape. -/
def isSegmentChar (c : Char) : Bool := isUnreserved c || c == '%'

theorem isSegmentChar_of_isAlphanum {c : Char} (h : c.isAlphanum = true) :
    isSegmentChar c = true := by
  simp [isSegmentChar, isUnreserved, h]

section SegmentChar

variable {c : Char} (h : isSegmentChar c = true)
include h

theorem isAlphanum_or_of_isSegmentChar :
    c.isAlphanum = true ∨ c = '-' ∨ c = '.' ∨ c = '_' ∨ c = '~' ∨ c = '%' := by
  simpa [isSegmentChar, isUnreserved, or_assoc] using h

theorem toNat_lt_of_isSegmentChar : 0x20 < c.toNat ∧ c.toNat < 0x7F := by
  rcases isAlphanum_or_of_isSegmentChar h with ha | rfl | rfl | rfl | rfl | rfl
  · have := toNat_of_isAlphanum ha
    omega
  all_goals decide

theorem ne_of_isSegmentChar {d : Char} (hd : isSegmentChar d = false) : c ≠ d := by
  rintro rfl
  rw [h] at hd
  cases hd

end SegmentChar

theorem isSegmentChar_of_isUnreserved {c : Char} (h : isUnreserved c = true) :
    isSegmentChar c = true := by
  simp [isSegmentChar, h]

/-! ## Digits -/

theorem isAlphanum_of_hexValue? {c : Char} {n : Nat} (h : Text.hexValue? c = some n) :
    c.isAlphanum = true := by
  change ((decide ('A'.val ≤ c.val ∧ c.val ≤ 'Z'.val) ||
    (decide ('a'.val ≤ c.val) && decide (c.val ≤ 'z'.val))) || c.isDigit) = true
  simp only [Bool.or_eq_true, Bool.and_eq_true, decide_eq_true_eq]
  unfold Text.hexValue? at h
  split at h
  · next hd => exact .inr hd
  · split at h
    · next hl =>
      obtain ⟨hfrom, hto⟩ := Bool.and_eq_true_iff.1 hl
      have hlast : 'f'.val ≤ 'z'.val := by decide
      exact .inl (.inr ⟨of_decide_eq_true hfrom, UInt32.le_trans (of_decide_eq_true hto) hlast⟩)
    · split at h
      · next hu =>
        obtain ⟨hfrom, hto⟩ := Bool.and_eq_true_iff.1 hu
        have hlast : 'F'.val ≤ 'Z'.val := by decide
        exact .inl (.inl ⟨of_decide_eq_true hfrom, UInt32.le_trans (of_decide_eq_true hto) hlast⟩)
      · cases h

/-- A digit is read from its octet. -/
theorem hexOctet?_ofNat {c : Char} {n : Nat} (h : Text.hexValue? c = some n) :
    Text.hexOctet? (UInt8.ofNat c.toNat) = some n := by
  have := toNat_of_isAlphanum (isAlphanum_of_hexValue? h)
  rw [Text.hexOctet?, Text.Utf8.toNat_ofNat_of_lt (by omega), Char.ofNat_toNat, h]

theorem hexValue?_capitalHex : ∀ n : Fin 16, Text.hexValue? (capitalHex n) = some n.val := by
  decide

theorem isAlphanum_capitalHex (n : Fin 16) : (capitalHex n).isAlphanum = true :=
  isAlphanum_of_hexValue? (hexValue?_capitalHex n)

/-- A capital digit is read back from its octet. -/
theorem hexOctet?_capitalHex (n : Fin 16) :
    Text.hexOctet? (UInt8.ofNat (capitalHex n).toNat) = some n.val :=
  hexOctet?_ofNat (hexValue?_capitalHex n)

/-! ## Octets -/

theorem high_lt (b : UInt8) : b.toNat / 16 < 16 := by
  have := b.toNat_lt
  omega

theorem low_lt (b : UInt8) : b.toNat % 16 < 16 := Nat.mod_lt _ (by decide)

/-- An octet is written as the character that it is the code of, or as an escape. -/
theorem encodeOctet_cases (b : UInt8) :
    (∃ c, isUnreserved c = true ∧ UInt8.ofNat c.toNat = b ∧ encodeOctet b = [c]) ∨
      (isUnreserved (Char.ofNat b.toNat) = false ∧ encodeOctet b = percent b) := by
  cases h : isUnreserved (Char.ofNat b.toNat) with
  | false => exact .inr ⟨rfl, by simp [encodeOctet, h]⟩
  | true =>
    refine .inl ⟨Char.ofNat b.toNat, h, ?_, by simp [encodeOctet, h]⟩
    have hvalid : b.toNat.isValidChar := .inl (Nat.lt_trans b.toNat_lt (by decide))
    have hcode : (Char.ofNat b.toNat).toNat = b.toNat := by
      rw [Char.ofNat, dif_pos hvalid]
      rfl
    rw [hcode, UInt8.ofNat_toNat]

/-- The octets of ASCII characters. -/
def codes (s : List Char) : Octets := s.map fun c => UInt8.ofNat c.toNat

theorem decodePercent_cons_of_ne {b : UInt8} (h : b ≠ 0x25) (rest : Octets) :
    decodePercent (b :: rest) = b :: decodePercent rest := by
  rw [decodePercent.eq_def]
  split
  · next he => cases he
  · next he => exact absurd (List.cons.inj he).1 h
  · next he =>
    obtain ⟨rfl, rfl⟩ := List.cons.inj he
    rfl

theorem decodePercent_encodeOctet (b : UInt8) (rest : Octets) :
    decodePercent (codes (encodeOctet b) ++ rest) = b :: decodePercent rest := by
  obtain ⟨c, hc, rfl, he⟩ | ⟨-, he⟩ := encodeOctet_cases b
  · rw [he]
    refine decodePercent_cons_of_ne (fun hp => ?_) rest
    have hn := congrArg UInt8.toNat hp
    rw [Text.Utf8.toNat_ofNat_of_lt (by
      have := toNat_lt_of_isSegmentChar (isSegmentChar_of_isUnreserved hc)
      omega)] at hn
    rw [Char.toNat_inj.1 (show c.toNat = '%'.toNat from hn)] at hc
    cases hc
  · have hhigh := hexOctet?_capitalHex ⟨_, high_lt b⟩
    have hlow := hexOctet?_capitalHex ⟨_, low_lt b⟩
    rw [he]
    simp only [codes, percent, List.map_cons, List.map_nil, List.cons_append, List.nil_append]
    rw [show UInt8.ofNat '%'.toNat = 0x25 from rfl, decodePercent, hhigh, hlow]
    simp only [Nat.div_add_mod, UInt8.ofNat_toNat]

/-! ## The form of a segment -/

/-- A hexadecimal digit with a capital letter. -/
def IsCapitalDigit (c : Char) : Prop := c ∈ "0123456789ABCDEF".toList

/-- Letters and digits of ASCII, four marks, and escapes of two capital digits. -/
inductive IsSegment : List Char → Prop where
  | nil : IsSegment []
  | alphanum {c : Char} {s : List Char} : c.isAlphanum = true → IsSegment s → IsSegment (c :: s)
  | mark {c : Char} {s : List Char} : c ∈ ['-', '.', '_', '~'] → IsSegment s → IsSegment (c :: s)
  | escape {high low : Char} {s : List Char} :
    IsCapitalDigit high → IsCapitalDigit low → IsSegment s → IsSegment ('%' :: high :: low :: s)

theorem isCapitalDigit_capitalHex : ∀ n : Fin 16, IsCapitalDigit (capitalHex n) := by
  unfold IsCapitalDigit
  decide

theorem isAlphanum_of_isCapitalDigit {c : Char} (h : IsCapitalDigit c) : c.isAlphanum = true := by
  have hall : "0123456789ABCDEF".toList.all Char.isAlphanum = true := by decide
  exact List.all_eq_true.1 hall c h

/-- What is written of an octet goes on as a segment. -/
theorem IsSegment.encodeOctet_append (b : UInt8) {s : List Char} (h : IsSegment s) :
    IsSegment (encodeOctet b ++ s) := by
  obtain ⟨c, hc, -, he⟩ | ⟨-, he⟩ := encodeOctet_cases b
  · rw [he, List.singleton_append]
    have hplain : c.isAlphanum = true ∨ c ∈ ['-', '.', '_', '~'] := by
      simpa [isUnreserved, or_assoc] using hc
    rcases hplain with hc | hc
    · exact .alphanum hc h
    · exact .mark hc h
  · rw [he]
    exact .escape (isCapitalDigit_capitalHex ⟨_, high_lt b⟩)
      (isCapitalDigit_capitalHex ⟨_, low_lt b⟩) h

theorem isSegment_encodeSegment (s : String) : IsSegment (encodeSegment s) := by
  unfold encodeSegment
  induction Text.Utf8.encode s with
  | nil => exact .nil
  | cons b bs ih =>
    rw [List.flatMap_cons]
    exact ih.encodeOctet_append b

theorem IsSegment.forall_isSegmentChar {s : List Char} (h : IsSegment s) :
    ∀ c ∈ s, isSegmentChar c = true := by
  induction h with
  | nil => simp
  | alphanum hc _ ih => exact List.forall_mem_cons.2 ⟨isSegmentChar_of_isAlphanum hc, ih⟩
  | mark hc _ ih =>
    have hall : ['-', '.', '_', '~'].all isSegmentChar = true := by decide
    exact List.forall_mem_cons.2 ⟨List.all_eq_true.1 hall _ hc, ih⟩
  | escape hhigh hlow _ ih =>
    simp only [List.forall_mem_cons]
    exact ⟨rfl, isSegmentChar_of_isAlphanum (isAlphanum_of_isCapitalDigit hhigh),
      isSegmentChar_of_isAlphanum (isAlphanum_of_isCapitalDigit hlow), ih⟩

/-! ## Texts -/

theorem isSegmentChar_of_mem {s : String} {c : Char} (h : c ∈ encodeSegment s) :
    isSegmentChar c = true :=
  (isSegment_encodeSegment s).forall_isSegmentChar c h

theorem encode_eq_codes {s : List Char} (h : ∀ c ∈ s, isSegmentChar c = true) :
    Text.Utf8.encode (String.ofList s) = codes s := by
  rw [Text.Utf8.encode_ofList, Text.Utf8.encodeChars_ascii fun c hc => ?_, codes]
  have := toNat_lt_of_isSegmentChar (h c hc)
  omega

/-- A segment gives back the octets that it was written from. -/
theorem decodePercent_encodeSegment (s : String) :
    decodePercent (Text.Utf8.encode (String.ofList (encodeSegment s))) = Text.Utf8.encode s := by
  rw [encode_eq_codes fun c hc => isSegmentChar_of_mem hc, encodeSegment]
  induction Text.Utf8.encode s with
  | nil => rfl
  | cons b bs ih =>
    rw [List.flatMap_cons, codes, List.map_append]
    exact (decodePercent_encodeOctet b _).trans (congrArg (b :: ·) ih)

theorem decode?_encodeSegment (s : String) :
    Text.Utf8.decode? (decodePercent (Text.Utf8.encode (String.ofList (encodeSegment s)))) =
      some s := by
  rw [decodePercent_encodeSegment, Text.Utf8.decode?_encode]

theorem encodeSegment_inj {s t : String} : encodeSegment s = encodeSegment t ↔ s = t := by
  refine ⟨fun h => ?_, congrArg encodeSegment⟩
  exact Option.some.inj ((decode?_encodeSegment s).symm.trans (h ▸ decode?_encodeSegment t))

/-- Characters that stand for themselves are escaped nowhere. -/
theorem encodeSegment_of_isUnreserved {s : String} (h : ∀ c ∈ s.toList, isUnreserved c = true) :
    encodeSegment s = s.toList := by
  have ha : ∀ c ∈ s.toList, c.toNat < 0x80 := fun c hc => by
    have := toNat_lt_of_isSegmentChar (isSegmentChar_of_isUnreserved (h c hc))
    omega
  have ho : ∀ c ∈ s.toList, encodeOctet (UInt8.ofNat c.toNat) = [c] := fun c hc => by
    have hb := ha c hc
    have hn : (UInt8.ofNat c.toNat).toNat = c.toNat := Text.Utf8.toNat_ofNat_of_lt (by omega)
    simp [encodeOctet, hn, h c hc]
  rw [encodeSegment, Text.Utf8.encode, Text.Utf8.encodeChars_ascii ha, List.flatMap_map,
    List.flatMap_def, List.map_congr_left ho, ← List.flatMap_def, List.flatMap_singleton']

end NotesBench.Http

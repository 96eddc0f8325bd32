import NotesBench.Proofs.Http.Percent

/-!
# Queries in all their spellings

A text can be written in a query in many ways: every octet of it may be escaped, with capital or
small digits, an ASCII character may mostly stand for itself, and a space may be a plus sign
(`Writes`). A name and a value are joined by an equals sign (`WritesPair`), pairs by one separator
or more (`WritesQuery`). Whatever the spelling, the pairs are read back
(`pairs_ofList_of_writesQuery`). The form of a path segment is one of the spellings
(`writes_encodeSegment`).
-/

namespace NotesBench.Http

open Text (Octets)

/-! ## Spellings -/

/-- The character may stand for itself, in a name or in a value. -/
structure StandsPlain (inName : Bool) (c : Char) : Prop where
  ascii : c.toNat < 0x80
  noEscape : c ≠ '%'
  noSpace : c ≠ '+'
  noSeparator : c ≠ '&'
  noEquals : inName = true → c ≠ '='

/-- The ways to write octets in a name or in a value. -/
inductive Writes (inName : Bool) : Octets → List Char → Prop where
  | nil : Writes inName [] []
  | escape {high low : Char} {x y : Nat} {bytes : Octets} {s : List Char} :
    Text.hexValue? high = some x → Text.hexValue? low = some y → Writes inName bytes s →
      Writes inName (UInt8.ofNat (16 * x + y) :: bytes) ('%' :: high :: low :: s)
  | plain {c : Char} {bytes : Octets} {s : List Char} :
    StandsPlain inName c → Writes inName bytes s →
      Writes inName (UInt8.ofNat c.toNat :: bytes) (c :: s)
  | space {bytes : Octets} {s : List Char} :
    Writes inName bytes s → Writes inName (0x20 :: bytes) ('+' :: s)

/-- The ways to write a pair. The equals sign may be left out if nothing stands behind it and
something before it. -/
inductive WritesPair : String × String → List Char → Prop where
  | joined {name value : String} {s t : List Char} :
    Writes true (Text.Utf8.encode name) s → Writes false (Text.Utf8.encode value) t →
      WritesPair (name, value) (s ++ '=' :: t)
  | alone {name : String} {s : List Char} :
    name ≠ "" → Writes true (Text.Utf8.encode name) s → WritesPair (name, "") s

/-- The ways to write a query: separators may stand before, between and behind the pairs. -/
inductive WritesQuery : List (String × String) → List Char → Prop where
  | nil : WritesQuery [] []
  | separator {pairs : List (String × String)} {s : List Char} :
    WritesQuery pairs s → WritesQuery pairs ('&' :: s)
  | last {pair : String × String} {s : List Char} : WritesPair pair s → WritesQuery [pair] s
  | cons {pair : String × String} {pairs : List (String × String)} {s t : List Char} :
    WritesPair pair s → WritesQuery pairs t → WritesQuery (pair :: pairs) (s ++ '&' :: t)

/-! ## Texts -/

/-- A plus sign stands for a space. -/
def spaced (c : Char) : Char := if c = '+' then ' ' else c

theorem spaced_of_ne {c : Char} (h : c ≠ '+') : spaced c = c := if_neg h

namespace Writes

variable {inName : Bool} {bytes : Octets} {s : List Char}

/-- The characters of a spelling are ASCII and end neither a value nor, in a name, the name. -/
theorem bounded (h : Writes inName bytes s) :
    ∀ c ∈ s, c.toNat < 0x80 ∧ c ≠ '&' ∧ (inName = true → c ≠ '=') := by
  have hdigit {c : Char} {n : Nat} (hc : Text.hexValue? c = some n) :
      c.toNat < 0x80 ∧ c ≠ '&' ∧ (inName = true → c ≠ '=') := by
    have ha := isAlphanum_of_hexValue? hc
    have := toNat_of_isAlphanum ha
    exact ⟨by omega, ne_of_isAlphanum ha rfl, fun _ => ne_of_isAlphanum ha rfl⟩
  induction h with
  | nil => simp
  | escape hx hy _ ih =>
    simp only [List.forall_mem_cons]
    exact ⟨⟨by decide, by decide, fun _ => by decide⟩, hdigit hx, hdigit hy, ih⟩
  | plain hc _ ih =>
    simp only [List.forall_mem_cons]
    exact ⟨⟨hc.ascii, hc.noSeparator, hc.noEquals⟩, ih⟩
  | space _ ih =>
    simp only [List.forall_mem_cons]
    exact ⟨⟨by decide, by decide, fun _ => by decide⟩, ih⟩

theorem decodePercent_eq (h : Writes inName bytes s) :
    decodePercent (codes (s.map spaced)) = bytes := by
  induction h with
  | nil => rfl
  | @escape high low x y bytes s hx hy _ ih =>
    have hhigh : spaced high = high :=
      spaced_of_ne (ne_of_isAlphanum (isAlphanum_of_hexValue? hx) rfl)
    have hlow : spaced low = low :=
      spaced_of_ne (ne_of_isAlphanum (isAlphanum_of_hexValue? hy) rfl)
    simp only [List.map_cons, hhigh, hlow, codes] at ih ⊢
    rw [show UInt8.ofNat (spaced '%').toNat = 0x25 from rfl, decodePercent, hexOctet?_ofNat hx,
      hexOctet?_ofNat hy]
    simp only [ih]
  | @plain c bytes s hc _ ih =>
    have hne : UInt8.ofNat c.toNat ≠ 0x25 := by
      intro he
      have hn := congrArg UInt8.toNat he
      rw [Text.Utf8.toNat_ofNat_of_lt (Nat.lt_trans hc.ascii (by decide))] at hn
      exact hc.noEscape (Char.toNat_inj.1 hn)
    simp only [List.map_cons, spaced_of_ne hc.noSpace, codes] at ih ⊢
    rw [decodePercent_cons_of_ne hne, ih]
  | space _ ih =>
    simp only [List.map_cons, codes] at ih ⊢
    rw [show UInt8.ofNat (spaced '+').toNat = 0x20 from rfl,
      decodePercent_cons_of_ne (by decide), ih]

end Writes

/-- A text is read back from each of its spellings. -/
theorem decodeComponent_of_writes {inName : Bool} {text : String} {s : List Char}
    (h : Writes inName (Text.Utf8.encode text) s) : decodeComponent s = text := by
  have hascii : ∀ c ∈ s.map spaced, c.toNat < 0x80 := by
    intro c hc
    obtain ⟨d, hd, rfl⟩ := List.mem_map.1 hc
    unfold spaced
    split
    · decide
    · exact (h.bounded d hd).1
  have hcodes : Text.Utf8.encode (String.ofList (s.map spaced)) = codes (s.map spaced) := by
    rw [Text.Utf8.encode_ofList, Text.Utf8.encodeChars_ascii hascii, codes]
  show Text.Utf8.decodeLossy
    (decodePercent (Text.Utf8.encode (String.ofList (s.map spaced)))) = text
  rw [hcodes, h.decodePercent_eq, Text.Utf8.decodeLossy_encode]

theorem standsPlain_of_isUnreserved {c : Char} (inName : Bool) (h : isUnreserved c = true) :
    StandsPlain inName c := by
  have hs := isSegmentChar_of_isUnreserved h
  have hlt := toNat_lt_of_isSegmentChar hs
  refine ⟨by omega, ?_, ne_of_isSegmentChar hs rfl, ne_of_isSegmentChar hs rfl, fun _ =>
    ne_of_isSegmentChar hs rfl⟩
  rintro rfl
  cases h

/-- A text as a segment of a path is one of its spellings. -/
theorem writes_encodeSegment (inName : Bool) (text : String) :
    Writes inName (Text.Utf8.encode text) (encodeSegment text) := by
  unfold encodeSegment
  induction Text.Utf8.encode text with
  | nil => exact .nil
  | cons b bytes ih =>
    rw [List.flatMap_cons]
    obtain ⟨c, hc, rfl, hb⟩ | ⟨-, hb⟩ := encodeOctet_cases b
    · rw [hb]
      exact .plain (standsPlain_of_isUnreserved inName hc) ih
    · have hwritten := Writes.escape (hexValue?_capitalHex ⟨_, high_lt b⟩)
        (hexValue?_capitalHex ⟨_, low_lt b⟩) ih
      rw [Nat.div_add_mod, UInt8.ofNat_toNat] at hwritten
      rwa [hb]

/-! ## Pairs -/

theorem decodePair_of_writesPair {pair : String × String} {s : List Char} (h : WritesPair pair s) :
    decodePair s = pair := by
  cases h with
  | @joined name value s t hs ht =>
    have hcut : Text.cutAt '=' (s ++ '=' :: t) = some (s, t) :=
      Text.cutAt_eq_some_iff.2 ⟨fun hm => (hs.bounded '=' hm).2.2 rfl rfl, rfl⟩
    simp only [decodePair, hcut, Option.getD_some, decodeComponent_of_writes hs,
      decodeComponent_of_writes ht]
  | alone hne hs =>
    have hcut := Text.cutAt_eq_none_iff.2 fun hm => (hs.bounded '=' hm).2.2 rfl rfl
    have hempty : Writes false (Text.Utf8.encode "") [] := .nil
    simp only [decodePair, hcut, Option.getD_none, decodeComponent_of_writes hs,
      decodeComponent_of_writes hempty]

/-- A spelling of a pair is not empty and holds no separator. -/
theorem WritesPair.bounded {pair : String × String} {s : List Char} (h : WritesPair pair s) :
    s ≠ [] ∧ '&' ∉ s := by
  cases h with
  | joined hs ht =>
    refine ⟨by simp, fun hm => ?_⟩
    rcases List.mem_append.1 hm with hm | hm
    · exact (hs.bounded '&' hm).2.1 rfl
    · rcases List.mem_cons.1 hm with hm | hm
      · cases hm
      · exact (ht.bounded '&' hm).2.1 rfl
  | alone hne hs =>
    refine ⟨?_, fun hm => (hs.bounded '&' hm).2.1 rfl⟩
    rintro rfl
    exact hne (decodeComponent_of_writes hs).symm

theorem pairs_ofList_of_writesQuery {ps : List (String × String)} {s : List Char}
    (h : WritesQuery ps s) : pairs (String.ofList s) = ps := by
  simp only [pairs, String.toList_ofList]
  induction h with
  | nil => rfl
  | separator _ ih => simpa [Text.splitOn] using ih
  | last hp =>
    obtain ⟨hne, hsep⟩ := hp.bounded
    simp [Text.splitOn_of_not_mem hsep, hne, decodePair_of_writesPair hp]
  | cons hp _ ih =>
    obtain ⟨hne, hsep⟩ := hp.bounded
    rw [Text.splitOn_append_cons hsep, List.filter_cons_of_pos (by simpa using hne), List.map_cons,
      decodePair_of_writesPair hp, ih]

end NotesBench.Http

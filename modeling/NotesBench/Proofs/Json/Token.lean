import NotesBench.Proofs.Json.Text
import NotesBench.Proofs.Text.Numeral

/-!
# Tokens that were written

The reader takes a text in quotes in as one token (`run?_quoted`). A number ends only with the octet
behind it, so behind one the reader may still be inside of it; `Reader.IsBehind` says that this
makes no difference (`exists_run?_intText`).
-/

namespace NotesBench.Json

open Text (Octets)
open Source (State Reader)

/-- What is written, as octets. -/
abbrev octetsOf (s : List Char) : Octets := s.flatMap String.utf8EncodeChar

/-! ## Runs of the reader -/

/-- The reader after some octets. -/
def Source.Reader.run? (r : Reader) (bytes : Octets) : Option Reader := bytes.foldlM Reader.step? r

theorem run?_append (r : Reader) (a b : Octets) :
    Reader.run? r (a ++ b) = (Reader.run? r a).bind (Reader.run? · b) := by
  simp only [Reader.run?, List.foldlM_append]
  rfl

theorem run?_cons (r : Reader) (b : UInt8) (rest : Octets) :
    Reader.run? r (b :: rest) = (r.step? b).bind (Reader.run? · rest) := by
  simp only [Reader.run?, List.foldlM_cons]
  rfl

/-! ## Texts -/

theorem step?_text_plain {b : UInt8} (h : 0x20 ≤ b.toNat) (hq : b ≠ 0x22) (hs : b ≠ 0x5C)
    (seen : Octets) (st : State) :
    Reader.step? ⟨.text seen, st⟩ b = some ⟨.text (b :: seen), st⟩ := by
  have hl : ¬ b < 0x20 := fun hlt => absurd (UInt8.lt_iff_toNat_lt.1 hlt) (Nat.not_lt.2 h)
  simp [Reader.step?, scanInside?, hq, hs, hl, Reader.settle?]

theorem run?_text_plain {bytes : Octets}
    (h : ∀ b ∈ bytes, 0x20 ≤ b.toNat ∧ b ≠ 0x22 ∧ b ≠ 0x5C) (seen : Octets) (st : State) :
    Reader.run? ⟨.text seen, st⟩ bytes = some ⟨.text (bytes.reverse ++ seen), st⟩ := by
  induction bytes generalizing seen with
  | nil => rfl
  | cons b bytes ih =>
    obtain ⟨⟨hlow, hq, hs⟩, hrest⟩ := List.forall_mem_cons.1 h
    rw [run?_cons, step?_text_plain hlow hq hs, Option.bind_some, ih hrest]
    simp

theorem run?_text_short {b : UInt8} (h : isEscaped b = true) (seen : Octets) (st : State) :
    Reader.run? ⟨.text seen, st⟩ [0x5C, b] = some ⟨.text (b :: 0x5C :: seen), st⟩ := by
  simp [Reader.run?, Reader.step?, scanInside?, Reader.settle?, h]

theorem run?_text_code {a b c d : UInt8} (ha : isHex a = true) (hb : isHex b = true)
    (hc : isHex c = true) (hd : isHex d = true) (seen : Octets) (st : State) :
    Reader.run? ⟨.text seen, st⟩ [0x5C, 0x75, a, b, c, d] =
      some ⟨.text (d :: c :: b :: a :: 0x75 :: 0x5C :: seen), st⟩ := by
  have he : isEscaped 0x75 = false := rfl
  simp [Reader.run?, Reader.step?, scanInside?, Reader.settle?, he, ha, hb, hc, hd]

theorem run?_text_escape (c : Char) (seen : Octets) (st : State) :
    Reader.run? ⟨.text seen, st⟩ (octetsOf (escape c)) =
      some ⟨.text ((octetsOf (escape c)).reverse ++ seen), st⟩ := by
  unfold escape
  split
  · exact run?_text_short (b := 0x22) rfl seen st
  split
  · exact run?_text_short (b := 0x5C) rfl seen st
  split
  · exact run?_text_short (b := 0x6E) rfl seen st
  split
  · exact run?_text_short (b := 0x72) rfl seen st
  split
  · exact run?_text_short (b := 0x74) rfl seen st
  split
  · exact run?_text_short (b := 0x62) rfl seen st
  split
  · exact run?_text_short (b := 0x66) rfl seen st
  split
  · next h =>
    obtain ⟨a, b, x, d, he, -, ha, hb, hx, hd⟩ := exists_code ⟨c.toNat, h⟩
    have ho : octetsOf ('\\' :: 'u' :: (Text.hexText 4 c.toNat).toList) =
        [0x5C, 0x75, a, b, x, d] := by
      simp only [octetsOf, List.flatMap_cons] at he ⊢
      rw [he]
      rfl
    rw [ho, run?_text_code ha hb hx hd]
    rfl
  · next hq hs _ _ _ _ _ hlow =>
    refine run?_text_plain (fun b hb => ?_) seen st
    rw [octetsOf, List.flatMap_singleton] at hb
    by_cases hascii : c.toNat < 0x80
    · rw [Text.Utf8.encodeChar_ascii hascii, List.mem_singleton] at hb
      have hn := Text.Utf8.toNat_ofNat_of_lt (n := c.toNat) (by omega)
      refine ⟨by rw [hb, hn]; omega, ?_, ?_⟩
      · rintro rfl
        exact hq (Char.toNat_inj.1 (hn.symm.trans (congrArg UInt8.toNat hb.symm)))
      · rintro rfl
        exact hs (Char.toNat_inj.1 (hn.symm.trans (congrArg UInt8.toNat hb.symm)))
    · have hb := Text.Utf8.encodeChar_high (Nat.le_of_not_lt hascii) b hb
      refine ⟨by omega, ?_, ?_⟩ <;> rintro rfl <;> revert hb <;> decide

theorem run?_text_rawOf (s : List Char) (seen : Octets) (st : State) :
    Reader.run? ⟨.text seen, st⟩ (octetsOf (s.flatMap escape)) =
      some ⟨.text ((octetsOf (s.flatMap escape)).reverse ++ seen), st⟩ := by
  induction s generalizing seen with
  | nil => rfl
  | cons c s ih =>
    simp only [octetsOf, List.flatMap_cons, List.flatMap_append] at ih ⊢
    rw [run?_append, run?_text_escape, Option.bind_some, ih]
    simp

/-- A text is taken in as one token. -/
theorem run?_quoted (s : String) (st : State) :
    Reader.run? ⟨.between, st⟩ (octetsOf (quoted s.toList)) =
      (st.take? (.text (rawOf s))).map (⟨.between, ·⟩) := by
  have hopen : Reader.step? ⟨.between, st⟩ 0x22 = some ⟨.text [], st⟩ := rfl
  rw [octetsOf, encode_quoted, run?_cons, hopen, Option.bind_some, run?_append, rawOf,
    run?_text_rawOf, Option.bind_some, List.append_nil, run?_cons]
  have hclose : Reader.step? ⟨.text (octetsOf (s.toList.flatMap escape)).reverse, st⟩ 0x22 =
      (st.take? (.text (octetsOf (s.toList.flatMap escape)))).map (⟨.between, ·⟩) := by
    simp only [Reader.step?, scanInside?, beq_self_eq_true, if_true, Option.bind_some,
      Reader.settle?, List.reverse_reverse]
  rw [hclose]
  cases st.take? (.text (octetsOf (s.toList.flatMap escape))) <;> rfl

/-! ## Words -/

theorem run?_word {word : Octets} (hne : word ≠ []) {token : Token} {st st' : State}
    (h : st.take? token = some st') :
    Reader.run? ⟨.word word token, st⟩ word = some ⟨.between, st'⟩ := by
  induction word with
  | nil => exact absurd rfl hne
  | cons b rest ih =>
    rw [run?_cons]
    cases rest with
    | nil =>
      simp [Reader.step?, scanInside?, Reader.settle?, h]
      rfl
    | cons c rest =>
      have hs : Reader.step? ⟨.word (b :: c :: rest) token, st⟩ b =
          some ⟨.word (c :: rest) token, st⟩ := by
        simp [Reader.step?, scanInside?, Reader.settle?]
      rw [hs, Option.bind_some, ih (List.cons_ne_nil c rest)]

/-! ## Numbers -/

/-- An octet that ends a number. -/
def isDelimiter (b : UInt8) : Bool := isGap b || b == 0x2C || b == 0x5D || b == 0x7D

/-- The reader goes on like one that stands between tokens in a state. -/
structure Source.Reader.IsBehind (r : Reader) (st : State) : Prop where
  step : ∀ b, isDelimiter b = true → r.step? b = Reader.step? ⟨.between, st⟩ b
  finish : r.finish? = Reader.finish? ⟨.between, st⟩

theorem isBehind_between (st : State) : Reader.IsBehind ⟨.between, st⟩ st :=
  ⟨fun _ _ => rfl, rfl⟩

theorem advance?_of_isDelimiter (part : NumberPart) {b : UInt8} (h : isDelimiter b = true) :
    part.advance? b = none := by
  simp only [isDelimiter, isGap, Bool.or_eq_true, beq_iff_eq] at h
  obtain (((((rfl | rfl) | rfl) | rfl) | rfl) | rfl) | rfl := h <;> cases part <;> rfl

theorem isBehind_number {seen : Octets} {part : NumberPart} {st st' : State}
    (hp : part.complete = true) (h : st.take? (.number seen.reverse) = some st') :
    Reader.IsBehind ⟨.number seen part, st⟩ st' := by
  constructor
  · intro b hb
    simp only [Reader.step?, advance?_of_isDelimiter part hb, hp, if_true, h,
      Option.bind_eq_bind, Option.bind_some]
  · simp only [Reader.finish?, hp, if_true, h, Option.bind_some]

theorem isDigit_ofNat {c : Char} (h : c.isDigit = true) :
    isDigit (UInt8.ofNat c.toNat) = true := by
  have hc := Text.toNat_lt_of_isDigit h
  simp only [isDigit, UInt8.le_iff_toNat_le, Text.Utf8.toNat_ofNat_of_lt (n := c.toNat) (by omega),
    UInt8.reduceToNat]
  simp [hc]

theorem run?_digits {digits : List Char} (h : ∀ c ∈ digits, c.isDigit = true) (seen : Octets)
    (st : State) :
    Reader.run? ⟨.number seen .whole, st⟩ (digits.map fun c => UInt8.ofNat c.toNat) =
      some ⟨.number ((digits.map fun c => UInt8.ofNat c.toNat).reverse ++ seen) .whole, st⟩ := by
  induction digits generalizing seen with
  | nil => rfl
  | cons c digits ih =>
    obtain ⟨hc, hrest⟩ := List.forall_mem_cons.1 h
    have hs : Reader.step? ⟨.number seen .whole, st⟩ (UInt8.ofNat c.toNat) =
        some ⟨.number (UInt8.ofNat c.toNat :: seen) .whole, st⟩ := by
      simp only [Reader.step?, NumberPart.advance?, isDigit_ofNat hc, if_true]
    rw [List.map_cons, run?_cons, hs, Option.bind_some, ih hrest]
    simp

/-- The reader takes the next digit as the first one of a number. -/
def Source.Reader.BeginsNumber (r : Reader) (seen : Octets) (st : State) : Prop :=
  r.step? 0x30 = some ⟨.number (0x30 :: seen) .zero, st⟩ ∧
    ∀ b, isDigit b = true → b ≠ 0x30 → r.step? b = some ⟨.number (b :: seen) .whole, st⟩

theorem beginsNumber_between (st : State) : Reader.BeginsNumber ⟨.between, st⟩ [] st := by
  refine ⟨rfl, fun b hd hz => ?_⟩
  simp only [isDigit, Bool.and_eq_true, decide_eq_true_eq, UInt8.le_iff_toNat_le,
    UInt8.reduceToNat] at hd
  have hne (m : UInt8) (hm : m.toNat < 0x30 ∨ 0x39 < m.toNat) : (b == m) = false :=
    beq_false_of_ne fun he => by subst he; omega
  have hz : (b == 0x30) = false := beq_false_of_ne hz
  simp [Reader.step?, scanFirst?, isGap, hne, hz, isDigit, UInt8.le_iff_toNat_le, hd,
    Reader.settle?]

theorem beginsNumber_sign (seen : Octets) (st : State) :
    Reader.BeginsNumber ⟨.number seen .sign, st⟩ seen st := by
  refine ⟨rfl, fun b hd hz => ?_⟩
  have hz : (b == 0x30) = false := beq_false_of_ne hz
  simp [Reader.step?, NumberPart.advance?, hz, hd]

theorem run?_toDigits {r : Reader} {seen : Octets} {st : State} (h : r.BeginsNumber seen st)
    (n : Nat) :
    ∃ part, part.complete = true ∧
      Reader.run? r ((Nat.toDigits 10 n).map fun c => UInt8.ofNat c.toNat) =
        some ⟨.number (((Nat.toDigits 10 n).map fun c => UInt8.ofNat c.toNat).reverse ++ seen) part,
          st⟩ := by
  rcases Nat.eq_zero_or_pos n with rfl | hn
  · refine ⟨.zero, rfl, ?_⟩
    have hz : (Nat.toDigits 10 0).map (fun c => UInt8.ofNat c.toNat) = [0x30] := rfl
    rw [hz, run?_cons, h.1]
    rfl
  · obtain ⟨c, rest, hc, hne⟩ := Text.toDigits_eq_cons hn
    have hd : ∀ x ∈ c :: rest, x.isDigit = true := hc ▸ fun x => Text.isDigit_of_mem_toDigits
    obtain ⟨hcd, hrest⟩ := List.forall_mem_cons.1 hd
    have hz : UInt8.ofNat c.toNat ≠ 0x30 := fun he => by
      have hlt := Text.toNat_lt_of_isDigit hcd
      have := congrArg UInt8.toNat he
      rw [Text.Utf8.toNat_ofNat_of_lt (by omega)] at this
      exact hne (Char.toNat_inj.1 this)
    refine ⟨.whole, rfl, ?_⟩
    rw [hc, List.map_cons, run?_cons, h.2 _ (isDigit_ofNat hcd) hz, Option.bind_some,
      run?_digits hrest]
    simp

theorem encode_natText (n : Nat) :
    Text.Utf8.encode (Text.natText n) =
      (Nat.toDigits 10 n).map fun c => UInt8.ofNat c.toNat := by
  rw [Text.Utf8.encode, Text.toList_natText]
  refine Text.Utf8.encodeChars_ascii fun c hc => ?_
  have := Text.toNat_lt_of_isDigit (Text.isDigit_of_mem_toDigits hc)
  omega

/-- Behind the numeral of an integer the reader stands like one that has taken it in. -/
theorem exists_run?_intText (n : Int) {st st' : State}
    (h : st.take? (.number (Text.Utf8.encode (Text.intText n))) = some st') :
    ∃ r, Reader.run? ⟨.between, st⟩ (Text.Utf8.encode (Text.intText n)) = some r ∧
      r.IsBehind st' := by
  cases n with
  | ofNat n =>
    obtain ⟨part, hp, hr⟩ := run?_toDigits (beginsNumber_between st) n
    simp only [Text.intText, encode_natText] at h ⊢
    refine ⟨_, hr, isBehind_number hp ?_⟩
    simpa using h
  | negSucc n =>
    obtain ⟨part, hp, hr⟩ := run?_toDigits (beginsNumber_sign [0x2D] st) (n + 1)
    have he : Text.Utf8.encode (Text.intText (.negSucc n)) =
        0x2D :: (Nat.toDigits 10 (n + 1)).map fun c => UInt8.ofNat c.toNat := by
      rw [Text.intText, Text.Utf8.encode_append, encode_natText]
      rfl
    have hs : Reader.step? ⟨.between, st⟩ 0x2D = some ⟨.number [0x2D] .sign, st⟩ := rfl
    rw [he] at h ⊢
    refine ⟨_, by rw [run?_cons, hs, Option.bind_some, hr], isBehind_number hp ?_⟩
    simpa using h

end NotesBench.Json

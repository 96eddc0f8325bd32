import NotesBench.Proofs.Http.Message
import NotesBench.Service.Shelf

/-!
# Validators of notes

A validator is a plain text without a comma (`Note.isPlain_etag`, `Note.comma_not_mem_etag`), so it
goes through a header field as it is, and names one validator there.
-/

namespace NotesBench.Service

open Http (isVisible IsPlain)

/-- A character that a validator may hold. -/
def isTagChar (c : Char) : Bool := isVisible c && c != ','

theorem isTagChar_of_isDigit {c : Char} (h : c.isDigit = true) : isTagChar c = true := by
  have hne : c ≠ ',' := by
    rintro rfl
    cases h
  simp [isTagChar, Http.isVisible_of_isDigit h, hne]

/-- A text that may stand in a validator. -/
def IsTag (s : String) : Prop := ∀ c ∈ s.toList, isTagChar c = true

instance (s : String) : Decidable (IsTag s) :=
  decidable_of_iff (s.toList.all isTagChar = true) List.all_eq_true

theorem IsTag.append {s t : String} (hs : IsTag s) (ht : IsTag t) : IsTag (s ++ t) := by
  intro c hc
  rw [String.toList_append, List.mem_append] at hc
  exact hc.elim (hs c) (ht c)

theorem isTag_natText (n : Nat) : IsTag (Text.natText n) := fun _ h =>
  isTagChar_of_isDigit (Text.isDigit_of_mem_toDigits (by rwa [← Text.toList_natText]))

theorem isTag_intText (n : Int) : IsTag (Text.intText n) := by
  cases n with
  | ofNat n => exact isTag_natText n
  | negSucc n => exact IsTag.append (by decide) (isTag_natText (n + 1))

/-- The digits of a numeral are digits of its base. -/
theorem forall_mem_toDigits {p : Char → Prop} {b : Nat} (hb : 1 < b)
    (h : ∀ d < b, p d.digitChar) (n : Nat) : ∀ c ∈ Nat.toDigits b n, p c := by
  induction n using Nat.strongRecOn with
  | ind n ih =>
    rw [Nat.toDigits_eq_if hb]
    split
    · next hlt => simpa using h n hlt
    · next hge =>
      have hlt : n / b < n := Nat.div_lt_self (by omega) hb
      intro c hc
      rcases List.mem_append.1 hc with hc | hc
      · exact ih (n / b) hlt c hc
      · obtain rfl := List.mem_singleton.1 hc
        exact h (n % b) (Nat.mod_lt _ (by omega))

theorem isTag_hexText (width n : Nat) : IsTag (Text.hexText width n) := by
  intro c h
  simp only [Text.hexText, String.toList_ofList, List.mem_append, List.mem_replicate] at h
  rcases h with ⟨-, rfl⟩ | h
  · decide
  · exact forall_mem_toDigits (p := fun c => isTagChar c = true) (by decide) (by decide) n c h

theorem isTag_checksum (sum : BitVec 32) : IsTag (Checksum.text sum) :=
  isTag_hexText 8 sum.toNat

/-- The quote that ends a validator. -/
theorem quote_mem_append (s : String) : '"' ∈ (s ++ "\"").toList := by
  rw [String.toList_append]
  exact List.mem_append_right _ (by decide)

namespace IsTag

variable {s : String} (h : IsTag s)
include h

theorem isPlain {c : Char} (hc : c ∈ s.toList) : IsPlain s where
  visible c hc := by
    have := h c hc
    simp only [isTagChar, Bool.and_eq_true] at this
    exact this.1
  nonempty := List.ne_nil_of_mem hc

theorem comma_not_mem : ',' ∉ s.toList := fun hc => absurd (h _ hc) (by decide)

end IsTag

theorem Note.isTag_etag (n : Note) : IsTag n.etag := by
  unfold etag
  refine ((((IsTag.append ?_ ?_).append ?_).append ?_).append ?_).append ?_ |>.append ?_
  · decide
  · exact isTag_intText n.id
  · decide
  · exact isTag_natText n.version
  · decide
  · exact isTag_checksum _
  · decide

theorem Note.isPlain_etag (n : Note) : IsPlain n.etag := n.isTag_etag.isPlain (quote_mem_append _)

theorem Note.comma_not_mem_etag (n : Note) : ',' ∉ n.etag.toList := n.isTag_etag.comma_not_mem

theorem isTag_pageEtag (page size : Nat) (q : String) (notes : List Note) :
    IsTag (pageEtag page size q notes) := by
  unfold pageEtag
  refine ((((((((((IsTag.append ?_ ?_).append ?_).append ?_).append ?_).append ?_).append ?_).append
    ?_).append ?_).append ?_).append ?_)
  · decide
  · exact isTag_intText _
  · decide
  · exact isTag_natText _
  · decide
  · exact isTag_natText page
  · decide
  · exact isTag_natText size
  · decide
  · exact isTag_checksum _
  · decide

theorem isPlain_pageEtag (page size : Nat) (q : String) (notes : List Note) :
    IsPlain (pageEtag page size q notes) :=
  (isTag_pageEtag page size q notes).isPlain (quote_mem_append _)

/-! ## What a validator tells -/

theorem dash_not_mem_hexText (width n : Nat) : '-' ∉ (Text.hexText width n).toList := by
  simp only [Text.hexText, String.toList_ofList, List.mem_append, List.mem_replicate, not_or]
  refine ⟨fun h => absurd h.2 (by decide), fun h => ?_⟩
  exact forall_mem_toDigits (p := (· ≠ '-')) (by decide) (by decide) n '-' h rfl

/-- Two numbers that are joined by a dash and follow the same text are told from it. -/
theorem intText_dash_injective {x : List Char} {a b : Int} {m n : Nat}
    (h : x ++ (Text.intText a).toList ++ ['-'] ++ (Text.natText m).toList =
      x ++ (Text.intText b).toList ++ ['-'] ++ (Text.natText n).toList) : a = b ∧ m = n := by
  obtain ⟨ha, hm⟩ := Text.append_dash_inj
    (by simpa using Text.dash_not_mem_toDigits m) (by simpa using Text.dash_not_mem_toDigits n) h
  exact ⟨Text.intText_injective (String.toList_inj.1 (List.append_cancel_left ha)),
    Text.natText_injective (String.toList_inj.1 hm)⟩

theorem toList_dash : "-".toList = ['-'] := rfl

/-- The validator of a note tells its number and its version. -/
theorem Note.etag_injective {m n : Note} (h : m.etag = n.etag) :
    m.id = n.id ∧ m.version = n.version := by
  unfold etag Checksum.text at h
  generalize (Checksum.ofText (m.title ++ "|" ++ m.body)).toNat = a at h
  generalize (Checksum.ofText (n.title ++ "|" ++ n.body)).toNat = b at h
  have hl := congrArg String.toList h
  simp only [String.toList_append, List.append_cancel_right_eq, toList_dash] at hl
  -- The checksums may differ.
  obtain ⟨hl, -⟩ :=
    Text.append_dash_inj (dash_not_mem_hexText 8 a) (dash_not_mem_hexText 8 b) hl
  exact intText_dash_injective hl

/-- The validator of a page tells the largest number and the count, and nothing else of the notes.
-/
theorem pageEtag_eq_iff (page size : Nat) (q : String) (notes others : List Note) :
    pageEtag page size q notes = pageEtag page size q others ↔
      largestId notes = largestId others ∧ notes.length = others.length := by
  unfold pageEtag
  generalize Checksum.text _ = sum
  refine ⟨fun h => ?_, fun ⟨hid, hlen⟩ => by rw [hid, hlen]⟩
  have hl := congrArg String.toList h
  simp only [String.toList_append, List.append_cancel_right_eq, toList_dash] at hl
  exact intText_dash_injective hl

end NotesBench.Service

import NotesBench.Http.Message
import NotesBench.Proofs.Text.Numeral

/-!
# Header fields on their way

A plain text holds printable characters and no blanks. It arrives in a header field as it was sent
(`arriving_eq_self`), and a token and a validator that are plain are found where they were put
(`bearer?_authorization`, `matches?_validator`).
-/

namespace NotesBench.Http

/-- A printable character of ASCII that is no blank. -/
def isVisible (c : Char) : Bool := 0x21 ≤ c.toNat && c.toNat ≤ 0x7E

/-- A text that consists of visible characters, at least one. -/
structure IsPlain (s : String) : Prop where
  visible : ∀ c ∈ s.toList, isVisible c = true
  nonempty : s.toList ≠ []

theorem isVisible_iff {c : Char} : isVisible c = true ↔ 0x21 ≤ c.toNat ∧ c.toNat ≤ 0x7E := by
  simp [isVisible]

section Visible

variable {c : Char} (h : isVisible c = true)
include h

theorem isPrintable_of_isVisible : isPrintable c = true := by
  have hc := isVisible_iff.1 h
  have hl : ' ' ≤ c := UInt32.le_iff_toNat_le.2 (Nat.le_trans (by decide) hc.1)
  have hu : c ≤ '~' := UInt32.le_iff_toNat_le.2 hc.2
  simp [isPrintable, hl, hu]

theorem isSendable_of_isVisible : isSendable c = true := by
  have hc := isVisible_iff.1 h
  have hl : ' ' ≤ c := UInt32.le_iff_toNat_le.2 (Nat.le_trans (by decide) hc.1)
  have hd : c ≠ '\x7f' := by
    rintro rfl
    exact absurd hc.2 (by decide)
  simp [isSendable, hl, hd]

theorem isPadding_of_isVisible : isPadding c = false := by
  have hc := isVisible_iff.1 h
  have hs : c ≠ ' ' := by
    rintro rfl
    exact absurd hc.1 (by decide)
  have ht : c ≠ '\t' := by
    rintro rfl
    exact absurd hc.1 (by decide)
  simp [isPadding, hs, ht]

theorem isBlank_of_isVisible : Text.isBlank c = false := by
  have hc := isVisible_iff.1 h
  simp only [Text.isBlank, Bool.or_eq_false_iff, Bool.and_eq_false_iff, decide_eq_false_iff_not,
    beq_eq_false_iff_ne]
  omega

end Visible

/-! ## Plain texts -/

theorem isVisible_of_isDigit {c : Char} (h : c.isDigit = true) : isVisible c = true := by
  have hc := Text.toNat_lt_of_isDigit h
  exact isVisible_iff.2 (by omega)

theorem isValue_iff {s : String} : isValue s = true ↔ ∀ c ∈ s.toList, isSendable c = true := by
  simp [isValue]

theorem readable?_eq_some {s : String} (h : ∀ c ∈ s.toList, isPrintable c = true) :
    readable? s = some s :=
  if_pos (List.all_eq_true.2 h)

/-- A value without padding at its ends arrives as it was sent. -/
theorem arriving_eq_self {s : String} (hf : ∀ c ∈ s.toList.head?, isPadding c = false)
    (hl : ∀ c ∈ s.toList.getLast?, isPadding c = false) : arriving s = s := by
  rw [arriving, Text.dropWhile_eq_self_of_head? hf, Text.dropEndWhile_eq_self_of_getLast? hl,
    String.ofList_toList]

theorem trim_eq_self {s : String} (h : ∀ c ∈ s.toList, Text.isBlank c = false) :
    Text.trim s = s := by
  rw [Text.trim, Text.trimmed,
    Text.dropWhile_eq_self_of_head? fun c hc => h c (List.mem_of_mem_head? hc),
    Text.dropEndWhile_eq_self_of_getLast? fun c hc => h c (List.mem_of_getLast? hc),
    String.ofList_toList]

namespace IsPlain

variable {s : String} (h : IsPlain s)
include h

theorem ne_empty : s ≠ "" := by
  rintro rfl
  exact h.nonempty rfl

theorem arriving_eq : arriving s = s :=
  arriving_eq_self (fun c hc => isPadding_of_isVisible (h.visible c (List.mem_of_mem_head? hc)))
    fun c hc => isPadding_of_isVisible (h.visible c (List.mem_of_getLast? hc))

theorem readable?_eq : readable? s = some s :=
  readable?_eq_some fun c hc => isPrintable_of_isVisible (h.visible c hc)

theorem isValue_eq : isValue s = true :=
  isValue_iff.2 fun c hc => isSendable_of_isVisible (h.visible c hc)

theorem trim_eq : Text.trim s = s :=
  trim_eq_self fun c hc => isBlank_of_isVisible (h.visible c hc)

end IsPlain

/-! ## Fields by name -/

theorem toLower_beq (a b : String) :
    (a.toLower == b.toLower) = (a.toList.map Char.toLower == b.toList.map Char.toLower) := by
  have hl (s : String) : s.toLower.toList = s.toList.map Char.toLower := String.toList_map
  rw [Bool.eq_iff_iff, beq_iff_eq, beq_iff_eq, ← hl, ← hl, String.toList_inj]

theorem Headers.all_cons (field : String × String) (headers : Headers) (name : String) :
    Headers.all (field :: headers) name =
      if field.1.toList.map Char.toLower = name.toList.map Char.toLower then
        field.2 :: headers.all name
      else headers.all name := by
  simp only [Headers.all, List.filter_cons, toLower_beq, beq_iff_eq]
  split <;> rfl

theorem Headers.all_cons_self (name value : String) (headers : Headers) :
    Headers.all ((name, value) :: headers) name = value :: headers.all name := by
  rw [all_cons, if_pos rfl]

theorem Headers.all_cons_of_ne {name other : String}
    (h : other.toList.map Char.toLower ≠ name.toList.map Char.toLower) (value : String)
    (headers : Headers) : Headers.all ((other, value) :: headers) name = headers.all name := by
  rw [all_cons, if_neg h]

/-! ## Tokens -/

section Token

variable {token : String} (h : IsPlain token)
include h

theorem mem_bearer {c : Char} (hc : c ∈ ("Bearer " ++ token).toList) :
    c ∈ "Bearer ".toList ∨ isVisible c = true := by
  rw [String.toList_append, List.mem_append] at hc
  exact hc.imp_right (h.visible c)

theorem isValue_bearer : isValue ("Bearer " ++ token) = true :=
  isValue_iff.2 fun c hc => (mem_bearer h hc).elim
    (fun hb => List.all_eq_true.1 (by decide : "Bearer ".toList.all isSendable = true) c hb)
    isSendable_of_isVisible

theorem arriving_bearer : arriving ("Bearer " ++ token) = "Bearer " ++ token := by
  refine arriving_eq_self (fun c hc => ?_) fun c hc => ?_
  · have : c = 'B' := by simpa [eq_comm] using hc
    subst this
    rfl
  · rw [String.toList_append, List.getLast?_append, List.getLast?_eq_some_getLast h.nonempty] at hc
    cases hc
    exact isPadding_of_isVisible (h.visible _ (List.getLast_mem h.nonempty))

/-- The token in the first field is found. -/
theorem bearer?_authorization {headers : Headers}
    (hf : headers.first? "authorization" = some ("Bearer " ++ token)) :
    bearer? headers = some token := by
  have hr : readable? ("Bearer " ++ token) = some ("Bearer " ++ token) :=
    readable?_eq_some fun c hc => (mem_bearer h hc).elim
      (fun hb => List.all_eq_true.1 (by decide : "Bearer ".toList.all isPrintable = true) c hb)
      isPrintable_of_isVisible
  have hp : "Bearer ".toList.isPrefixOf? ("Bearer " ++ token).toList = some token.toList := by
    rw [String.toList_append]
    rfl
  simp only [bearer?, hf, hr, hp, Option.bind_eq_bind, Option.bind_some, String.ofList_toList,
    h.trim_eq, if_neg h.ne_empty]

end Token

/-! ## Validators -/

/-- The one validator that is named is found. -/
theorem matches?_validator {headers : Headers} {etag : String} (h : IsPlain etag)
    (hc : ',' ∉ etag.toList) (hall : headers.all "if-none-match" = [etag]) :
    matches? headers etag = true := by
  have hp : candidates headers = [etag] := by
    simp [candidates, hall, h.readable?_eq, Text.splitOn_of_not_mem hc, h.trim_eq]
  simp [matches?, hp]

theorem matches?_of_absent {headers : Headers} (hall : headers.all "if-none-match" = [])
    (etag : String) : matches? headers etag = false := by
  simp [matches?, candidates, hall]

end NotesBench.Http

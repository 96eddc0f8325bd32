import NotesBench.Proofs.Json.Tree

/-!
# Reading values back

What was written of a value is read as this value, with every text and every number in it, from
one line (`read?_octets_eq_some`) and from several (`read?_pretty_eq_some`). A value can be read
back if it holds no doubles and no integers beyond 64 bits, which would become doubles
(`isReadable`).
-/

namespace NotesBench.Json

open Text (Octets)

/-! ## Integers -/

/-- The characters of a text of ASCII are read back from its octets. -/
theorem characters_encode {s : String} (h : ∀ c ∈ s.toList, c.toNat < 0x80) :
    characters (Text.Utf8.encode s) = s.toList := by
  rw [Text.Utf8.encode, Text.Utf8.encodeChars_ascii h, characters, List.map_map]
  refine (List.map_congr_left fun c hc => ?_).trans (List.map_id _)
  have := h c hc
  simp [Nat.mod_eq_of_lt (show c.toNat < 256 by omega)]

/-- An integer is read back from its octets. -/
theorem readInt?_intText (n : Int) : readInt? (Text.Utf8.encode (Text.intText n)) = some n := by
  have hascii : ∀ c ∈ (Text.intText n).toList, c.toNat < 0x80 := fun c hc => by
    rcases Text.isDigit_of_mem_intText hc with rfl | hdigit
    · decide
    · have := Text.toNat_lt_of_isDigit hdigit
      omega
  unfold readInt?
  rw [characters_encode hascii]
  cases n with
  | ofNat n =>
    rw [Text.intText, Text.toList_natText]
    split
    · next he => exact absurd he (Text.toDigits_ne_cons_of_not_isDigit rfl _)
    · rw [Text.digits?_toDigits]
      rfl
  | negSucc n =>
    simp only [Text.toList_intText_negSucc, Text.digits?_toDigits, Option.filter_some]
    rfl

/-- The integer is within 64 bits, signed or not. -/
def fits (n : Int) : Bool := -(Text.signedEnd : Int) ≤ n ∧ n < Text.unsignedEnd

theorem readNumber?_intText {n : Int} (h : fits n = true) :
    readNumber? (Text.Utf8.encode (Text.intText n)) = some (.int n) := by
  have hn : -(Text.signedEnd : Int) ≤ n ∧ n < Text.unsignedEnd := of_decide_eq_true h
  unfold readNumber?
  rw [readInt?_intText, Option.filter_some, if_pos (decide_eq_true hn)]

/-! ## Values -/

mutual

/-- Whether a value is read back: it holds no doubles, and its integers are within 64 bits. -/
def isReadable : Json → Bool
  | .int n => fits n
  | .real _ => false
  | .array items => areReadable items
  | .object members => membersAreReadable members
  | _ => true

/-- Whether all items are read back. -/
def areReadable : List Json → Bool
  | [] => true
  | v :: rest => v.isReadable && areReadable rest

/-- Whether all members are read back. -/
def membersAreReadable : List (String × Json) → Bool
  | [] => true
  | (_, v) :: rest => v.isReadable && membersAreReadable rest

end

theorem areReadable_iff {items : List Json} :
    areReadable items = true ↔ ∀ v ∈ items, v.isReadable = true := by
  induction items with
  | nil => simp [areReadable]
  | cons v rest ih => simp [areReadable, ih]

mutual

theorem isExact_of_isReadable {v : Json} (h : v.isReadable = true) : v.isExact = true := by
  match v with
  | .null | .bool _ | .int _ | .string _ => rfl
  | .array items => exact areExact_of_areReadable h
  | .object members => exact membersAreExact_of_membersAreReadable h

theorem areExact_of_areReadable {items : List Json} (h : areReadable items = true) :
    areExact items = true := by
  match items with
  | [] => rfl
  | v :: rest =>
    simp only [areReadable, Bool.and_eq_true] at h
    rw [areExact, isExact_of_isReadable h.1, areExact_of_areReadable h.2, Bool.and_self]

theorem membersAreExact_of_membersAreReadable {members : List (String × Json)}
    (h : membersAreReadable members = true) : membersAreExact members = true := by
  match members with
  | [] => rfl
  | (_, v) :: rest =>
    simp only [membersAreReadable, Bool.and_eq_true] at h
    rw [membersAreExact, isExact_of_isReadable h.1, membersAreExact_of_membersAreReadable h.2,
      Bool.and_self]

end

mutual

/-- The texts and numbers in the tree of a value are those of the value. -/
theorem value?_tree {v : Json} (h : v.isReadable = true) : v.tree.value? = some v := by
  match v with
  | .null | .bool _ => rfl
  | .int n => exact readNumber?_intText h
  | .string s => rw [tree, Source.value?, readText?_rawOf, Option.map_some]
  | .array items => rw [tree, Source.value?, valueItems?_treeItems h, Option.map_some]
  | .object members => rw [tree, Source.value?, valueMembers?_treeMembers h, Option.map_some]

theorem valueItems?_treeItems {items : List Json} (h : areReadable items = true) :
    Source.valueItems? (treeItems items) = some items := by
  match items with
  | [] => rfl
  | v :: rest =>
    simp only [areReadable, Bool.and_eq_true] at h
    rw [treeItems, Source.valueItems?, value?_tree h.1, valueItems?_treeItems h.2]
    rfl

theorem valueMembers?_treeMembers {members : List (String × Json)}
    (h : membersAreReadable members = true) :
    Source.valueMembers? (treeMembers members) = some members := by
  match members with
  | [] => rfl
  | (name, v) :: rest =>
    simp only [membersAreReadable, Bool.and_eq_true] at h
    rw [treeMembers, Source.valueMembers?, readText?_rawOf, value?_tree h.1,
      valueMembers?_treeMembers h.2]
    rfl

end

/-- A value is read back from its octets. -/
theorem read?_octets_eq_some {v : Json} (h : v.isReadable = true) : read? v.octets = some v := by
  rw [read?, read?_octets (isExact_of_isReadable h), Option.bind_some, value?_tree h]

theorem read?_pretty_eq_some {v : Json} (h : v.isReadable = true) :
    read? (Text.Utf8.encode v.pretty) = some v := by
  rw [read?, read?_pretty (isExact_of_isReadable h), Option.bind_some, value?_tree h]

end NotesBench.Json

import NotesBench.Proofs.Json.Layout
import NotesBench.Proofs.Text.Numeral

/-!
# Reading back what was written in JSON

A value is read back as its tree, from one line (`read?_octets`) and from several (`read?_pretty`).
In the tree texts and numbers stand as they were written. Numbers that are doubles are left out
(`isExact`). Of a record the fields are found in its tree (`fields?_tree`), and different values
have different octets (`octets_injective`, `pretty_injective`).
-/

namespace NotesBench.Json

open Text (Octets)
open Source (State Frame Reader)

/-! ## Trees of values -/

mutual

/-- The tree that the reader gives for a value. -/
def tree : Json → Source
  | .null => .null
  | .bool b => .bool b
  | .int n => .number (Text.Utf8.encode (Text.intText n))
  | .real bits => .number ((scalar (.real bits)).flatMap String.utf8EncodeChar)
  | .string s => .text (rawOf s)
  | .array items => .array (treeItems items)
  | .object members => .object (treeMembers members)

/-- The trees of items. -/
def treeItems : List Json → List Source
  | [] => []
  | v :: rest => v.tree :: treeItems rest

/-- The trees of members. -/
def treeMembers : List (String × Json) → List (Octets × Source)
  | [] => []
  | (name, v) :: rest => (rawOf name, v.tree) :: treeMembers rest

end

mutual

/-- Whether a value holds no doubles. -/
def isExact : Json → Bool
  | .real _ => false
  | .array items => areExact items
  | .object members => membersAreExact members
  | _ => true

/-- Whether no item holds doubles. -/
def areExact : List Json → Bool
  | [] => true
  | v :: rest => v.isExact && areExact rest

/-- Whether no member holds doubles. -/
def membersAreExact : List (String × Json) → Bool
  | [] => true
  | (_, v) :: rest => v.isExact && membersAreExact rest

end

theorem areExact_iff {items : List Json} :
    areExact items = true ↔ ∀ v ∈ items, v.isExact = true := by
  induction items with
  | nil => simp [areExact]
  | cons v rest ih => simp [areExact, ih]

/-! ## Reading values -/

theorem takenAs_null : TakenAs (octetsOf (scalar .null)) (tree .null) := by
  intro st frames hst
  refine ⟨_, ?_, isBehind_between _⟩
  exact run?_word (List.cons_ne_nil 0x75 [0x6C, 0x6C]) (hst _ (by simp))

theorem takenAs_bool (b : Bool) : TakenAs (octetsOf (scalar (.bool b))) (tree (.bool b)) := by
  intro st frames hst
  refine ⟨_, ?_, isBehind_between _⟩
  cases b with
  | true => exact run?_word (List.cons_ne_nil 0x72 [0x75, 0x65]) (hst _ (by simp))
  | false => exact run?_word (List.cons_ne_nil 0x61 [0x6C, 0x73, 0x65]) (hst _ (by simp))

theorem takenAs_int (n : Int) : TakenAs (octetsOf (scalar (.int n))) (tree (.int n)) :=
  fun _ _ hst => exists_run?_intText n (hst _ (by simp))

theorem takenAs_string (s : String) :
    TakenAs (octetsOf (scalar (.string s))) (tree (.string s)) := by
  intro st frames hst
  have htext : st.take? (.text (rawOf s)) = some (.after (.text (rawOf s)) frames) :=
    hst _ (by simp)
  refine ⟨⟨.between, .after (.text (rawOf s)) frames⟩, ?_, isBehind_between _⟩
  rw [scalar, run?_quoted, htext]
  rfl

theorem takenAs_noItems : TakenAs (octetsOf (scalar (.array []))) (tree (.array [])) := by
  intro st frames hst
  have hopen : st.take? .openBracket = some (.firstItem frames) := hst _ (by simp)
  exact .token_before rfl hopen (.token_before rfl rfl .nil)

theorem takenAs_noMembers : TakenAs (octetsOf (scalar (.object []))) (tree (.object [])) := by
  intro st frames hst
  have hopen : st.take? .openBrace = some (.firstMember frames) := hst _ (by simp)
  exact .token_before rfl hopen (.token_before rfl rfl .nil)

/-! ### On one line -/

mutual

/-- A value on one line is taken in as its tree. -/
theorem takenAs_compact (v : Json) (hv : v.isExact = true) :
    TakenAs (octetsOf v.compact) v.tree := by
  match v with
  | .null => exact takenAs_null
  | .bool b => exact takenAs_bool b
  | .int n => exact takenAs_int n
  | .string s => exact takenAs_string s
  | .array [] => exact takenAs_noItems
  | .object [] => exact takenAs_noMembers
  | .array (w :: rest) =>
    rw [compact, octetsOf, List.flatMap_cons, List.flatMap_append]
    exact (takenAsItems_compact w rest hv).array
  | .object ((name, w) :: rest) =>
    rw [compact, octetsOf, List.flatMap_cons, List.flatMap_append]
    exact (takenAsMembers_compact name w rest hv).object
termination_by sizeOf v

theorem takenAsItems_compact (v : Json) (rest : List Json) (hv : areExact (v :: rest) = true) :
    TakenAsItems (octetsOf (compactItems (v :: rest))) (treeItems (v :: rest)) := by
  obtain ⟨hfirst, hrest⟩ := Bool.and_eq_true_iff.1 hv
  match rest, hrest with
  | [], _ => exact (takenAs_compact v hfirst).items
  | w :: rest, hrest =>
    simp only [compactItems, octetsOf, List.flatMap_append, List.flatMap_cons]
    exact (takenAs_compact v hfirst).items_cons (takenAsItems_compact w rest hrest)
termination_by sizeOf (v :: rest)

theorem takenAsMembers_compact (name : String) (v : Json) (rest : List (String × Json))
    (hv : membersAreExact ((name, v) :: rest) = true) :
    TakenAsMembers (octetsOf (compactMembers ((name, v) :: rest)))
      (treeMembers ((name, v) :: rest)) := by
  obtain ⟨hfirst, hrest⟩ := Bool.and_eq_true_iff.1 hv
  match rest, hrest with
  | [], _ =>
    rw [compactMembers, octetsOf, List.flatMap_append, List.flatMap_cons]
    exact (takenAs_compact v hfirst).members name
  | (name', w) :: rest, hrest =>
    simp only [compactMembers, octetsOf, List.flatMap_append, List.flatMap_cons]
    exact (takenAs_compact v hfirst).members_cons name (takenAsMembers_compact name' w rest hrest)
termination_by sizeOf ((name, v) :: rest)

end

/-! ### Over several lines -/

theorem isGap_newline (level : Nat) : IsGap (octetsOf (newline level)) := by
  intro b hb
  obtain ⟨c, hc, hb⟩ := List.mem_flatMap.1 hb
  rcases List.mem_cons.1 hc with rfl | hc
  · obtain rfl : b = 0x0A := List.mem_singleton.1 hb
    rfl
  · obtain rfl := List.eq_of_mem_replicate hc
    obtain rfl : b = 0x20 := List.mem_singleton.1 hb
    rfl

mutual

/-- A value over several lines is taken in as its tree. -/
theorem takenAs_pretty (level : Nat) (v : Json) (hv : v.isExact = true) :
    TakenAs (octetsOf (prettyAt level v)) v.tree := by
  match v with
  | .null => exact takenAs_null
  | .bool b => exact takenAs_bool b
  | .int n => exact takenAs_int n
  | .string s => exact takenAs_string s
  | .array [] => exact takenAs_noItems
  | .object [] => exact takenAs_noMembers
  | .array (w :: rest) =>
    rw [prettyAt, octetsOf, List.flatMap_cons, List.flatMap_append, List.flatMap_append]
    exact ((takenAsItems_pretty (level + 1) w rest hv).gap_behind (isGap_newline level)).array
  | .object ((name, w) :: rest) =>
    rw [prettyAt, octetsOf, List.flatMap_cons, List.flatMap_append, List.flatMap_append]
    exact ((takenAsMembers_pretty (level + 1) name w rest hv).gap_behind
      (isGap_newline level)).object
termination_by sizeOf v

theorem takenAsItems_pretty (level : Nat) (v : Json) (rest : List Json)
    (hv : areExact (v :: rest) = true) :
    TakenAsItems (octetsOf (prettyItems level (v :: rest))) (treeItems (v :: rest)) := by
  obtain ⟨hfirst, hrest⟩ := Bool.and_eq_true_iff.1 hv
  have hitem := (takenAs_pretty level v hfirst).gap_before (isGap_newline level)
  match rest, hrest with
  | [], _ =>
    rw [prettyItems, octetsOf, List.flatMap_append]
    exact hitem.items
  | w :: rest, hrest =>
    simp only [prettyItems, octetsOf, List.flatMap_append, List.flatMap_cons]
    exact hitem.items_cons (takenAsItems_pretty level w rest hrest)
termination_by sizeOf (v :: rest)

theorem takenAsMembers_pretty (level : Nat) (name : String) (v : Json)
    (rest : List (String × Json)) (hv : membersAreExact ((name, v) :: rest) = true) :
    TakenAsMembers (octetsOf (prettyMembers level ((name, v) :: rest)))
      (treeMembers ((name, v) :: rest)) := by
  obtain ⟨hfirst, hrest⟩ := Bool.and_eq_true_iff.1 hv
  have hvalue : TakenAs ([0x20] ++ octetsOf (prettyAt level v)) v.tree :=
    (takenAs_pretty level v hfirst).gap_before (by simp [IsGap, isGap])
  match rest, hrest with
  | [], _ =>
    simp only [prettyMembers, octetsOf, List.append_assoc, List.flatMap_append, List.flatMap_cons]
    exact (hvalue.members name).gap_before (isGap_newline level)
  | (name', w) :: rest, hrest =>
    simp only [prettyMembers, octetsOf, List.append_assoc, List.flatMap_append, List.flatMap_cons]
    exact (hvalue.members_cons name (takenAsMembers_pretty level name' w rest hrest)).gap_before
      (isGap_newline level)
termination_by sizeOf ((name, v) :: rest)

end

/-! ### From the first octet to the last -/

/-- Octets that are taken in as a value are read as this one. -/
theorem TakenAs.read? {bytes : Octets} {v : Source} (h : TakenAs bytes v) :
    Source.read? bytes = some v := by
  obtain ⟨r, hr, hbehind⟩ := h _ _ (awaitsValue_value [])
  have hr : bytes.foldlM Reader.step? ⟨.between, .value []⟩ = some r := hr
  rw [Source.read?, hr]
  exact hbehind.finish

/-- A value without doubles is read back from its octets as its tree. -/
theorem read?_octets {v : Json} (h : v.isExact = true) : Source.read? v.octets = some v.tree := by
  rw [octets, text, Text.Utf8.encode_ofList]
  exact (takenAs_compact v h).read?

theorem read?_pretty {v : Json} (h : v.isExact = true) :
    Source.read? (Text.Utf8.encode v.pretty) = some v.tree := by
  rw [pretty, Text.Utf8.encode_ofList]
  exact (takenAs_pretty 0 v h).read?

/-! ## Records -/

theorem mapM_treeMembers (members : List (String × Json)) :
    (treeMembers members).mapM (fun m => (readText? m.1).map (·, m.2)) =
      some (members.map fun m => (m.1, m.2.tree)) := by
  induction members with
  | nil => rfl
  | cons m rest ih =>
    have hm : treeMembers (m :: rest) = (rawOf m.1, m.2.tree) :: treeMembers rest := rfl
    rw [hm, List.mapM_cons, ih, readText?_rawOf]
    rfl

/-- The fields of a record are those of the value that was written. -/
theorem fields?_tree (names : List String) (members : List (String × Json)) :
    (tree (.object members)).fields? names =
      names.mapM (field? (members.map fun m => (m.1, m.2.tree))) :=
  congrArg (fun named => named.bind fun named => names.mapM (field? named))
    (mapM_treeMembers members)

theorem length_of_mapM_eq_some {α β : Type} {f : α → Option β} {xs : List α} {ys : List β}
    (h : xs.mapM f = some ys) : ys.length = xs.length := by
  induction xs generalizing ys with
  | nil =>
    cases h
    rfl
  | cons x xs ih =>
    rw [List.mapM_cons] at h
    obtain ⟨y, -, h⟩ := Option.bind_eq_some_iff.1 h
    obtain ⟨rest, hrest, h⟩ := Option.bind_eq_some_iff.1 h
    cases h
    rw [List.length_cons, List.length_cons, ih hrest]

/-- Every field of a record is read. -/
theorem length_of_fields?_eq_some {names : List String} {v : Source}
    {fields : List (Option Source)} (h : v.fields? names = some fields) :
    fields.length = names.length := by
  cases v with
  | object members =>
    obtain ⟨named, -, h⟩ := Option.bind_eq_some_iff.1 h
    exact length_of_mapM_eq_some h
  | array items =>
    rw [Source.fields?] at h
    split at h
    · next hlen =>
      cases h
      rw [List.length_append, List.length_map, List.length_replicate, Nat.add_sub_cancel' hlen]
    · cases h
  | _ => cases h

@[simp] theorem asText?_tree_string (s : String) : (tree (.string s)).asText? = some s := by
  rw [tree, Source.asText?, readText?_rawOf]

/-! ## Telling values apart -/

theorem rawOf_injective {s t : String} (h : rawOf s = rawOf t) : s = t := by
  have hread := congrArg readText? h
  rw [readText?_rawOf, readText?_rawOf] at hread
  exact Option.some.inj hread

theorem encode_injective {s t : String} (h : Text.Utf8.encode s = Text.Utf8.encode t) : s = t := by
  have hdecode := congrArg Text.Utf8.decode? h
  rw [Text.Utf8.decode?_encode, Text.Utf8.decode?_encode] at hdecode
  exact Option.some.inj hdecode

mutual

/-- Values without doubles are told from their trees. -/
theorem tree_injective (v w : Json) (hv : v.isExact = true) (hw : w.isExact = true)
    (h : v.tree = w.tree) : v = w := by
  match v with
  | .null => cases w <;> simp_all [tree, isExact]
  | .bool a => cases w <;> simp_all [tree, isExact]
  | .int m =>
    cases w with
    | int n =>
      rw [tree, tree, Source.number.injEq] at h
      rw [Text.intText_injective (encode_injective h)]
    | _ => simp_all [tree, isExact]
  | .string s =>
    cases w with
    | string t =>
      rw [tree, tree, Source.text.injEq] at h
      rw [rawOf_injective h]
    | _ => simp_all [tree, isExact]
  | .array vs =>
    cases w with
    | array ws =>
      rw [tree, tree, Source.array.injEq] at h
      rw [treeItems_injective vs ws hv hw h]
    | _ => simp_all [tree, isExact]
  | .object vs =>
    cases w with
    | object ws =>
      rw [tree, tree, Source.object.injEq] at h
      rw [treeMembers_injective vs ws hv hw h]
    | _ => simp_all [tree, isExact]

theorem treeItems_injective (vs ws : List Json) (hv : areExact vs = true)
    (hw : areExact ws = true) (h : treeItems vs = treeItems ws) : vs = ws := by
  match vs, ws with
  | [], [] => rfl
  | v :: vs, w :: ws =>
    simp only [areExact, Bool.and_eq_true] at hv hw
    simp only [treeItems, List.cons.injEq] at h
    rw [tree_injective v w hv.1 hw.1 h.1, treeItems_injective vs ws hv.2 hw.2 h.2]

theorem treeMembers_injective (vs ws : List (String × Json)) (hv : membersAreExact vs = true)
    (hw : membersAreExact ws = true) (h : treeMembers vs = treeMembers ws) : vs = ws := by
  match vs, ws with
  | [], [] => rfl
  | (a, v) :: vs, (b, w) :: ws =>
    simp only [membersAreExact, Bool.and_eq_true] at hv hw
    simp only [treeMembers, List.cons.injEq, Prod.mk.injEq] at h
    rw [rawOf_injective h.1.1, tree_injective v w hv.1 hw.1 h.1.2,
      treeMembers_injective vs ws hv.2 hw.2 h.2]

end

/-- Values without doubles are told from their octets. -/
theorem octets_injective {v w : Json} (hv : v.isExact = true) (hw : w.isExact = true)
    (h : v.octets = w.octets) : v = w := by
  have hread := congrArg Source.read? h
  rw [read?_octets hv, read?_octets hw] at hread
  exact tree_injective v w hv hw (Option.some.inj hread)

theorem pretty_injective {v w : Json} (hv : v.isExact = true) (hw : w.isExact = true)
    (h : Text.Utf8.encode v.pretty = Text.Utf8.encode w.pretty) : v = w := by
  have hread := congrArg Source.read? h
  rw [read?_pretty hv, read?_pretty hw] at hread
  exact tree_injective v w hv hw (Option.some.inj hread)

end NotesBench.Json

import NotesBench.Proofs.Json.Tree

/-!
# The fields of an object

Octets may be an object whose names are texts, no two of them alike (`HoldsObject`). Every field is
then the value of the one member that has its name, wherever this stands and whatever the others
are (`HoldsObject.exists_fields?`). An object that was written is read so (`holdsObject_octets`).
-/

namespace NotesBench.Json

open Text (Octets)

/-- The octets are an object with these members, no two of which have the same name. -/
structure HoldsObject (bytes : Octets) (members : List (String × Source)) : Prop where
  read : ∃ written, Source.read? bytes = some (.object written) ∧
    written.mapM (fun m => (readText? m.1).map (·, m.2)) = some members
  distinct : (members.map Prod.fst).Nodup

/-- A field of distinct members is the value of the first one with its name. -/
theorem field?_eq_some_lookup {members : List (String × Source)}
    (h : (members.map Prod.fst).Nodup) (name : String) :
    field? members name = some (members.lookup name) := by
  induction members with
  | nil => rfl
  | cons m rest ih =>
    obtain ⟨key, v⟩ := m
    obtain ⟨fresh, hrest⟩ := List.nodup_cons.1 h
    by_cases hkey : key = name
    · have hothers : rest.filter (·.1 = name) = [] := by
        rw [List.filter_eq_nil_iff]
        intro other hother hname
        apply fresh
        exact List.mem_map.2 ⟨other, hother, (of_decide_eq_true hname).trans hkey.symm⟩
      have hself : ((key, v) :: rest).filter (·.1 = name) = [(key, v)] := by
        rw [List.filter_cons, if_pos (decide_eq_true hkey), hothers]
      have htest : (name == key) = true := beq_iff_eq.2 hkey.symm
      simp only [field?, hself, List.lookup_cons, htest]
    · have hothers : ((key, v) :: rest).filter (·.1 = name) = rest.filter (·.1 = name) := by
        rw [List.filter_cons, if_neg (by simpa using hkey)]
      have htest : (name == key) = false := beq_eq_false_iff_ne.2 (Ne.symm hkey)
      rw [field?, hothers, ← field?, ih hrest]
      simp only [List.lookup_cons, htest]

/-- Each field is looked up by its name alone. -/
theorem HoldsObject.exists_fields? {bytes : Octets} {members : List (String × Source)}
    (h : HoldsObject bytes members) :
    ∃ source, Source.read? bytes = some source ∧
      ∀ names, source.fields? names = some (names.map (members.lookup ·)) := by
  obtain ⟨written, hread, hnamed⟩ := h.read
  refine ⟨_, hread, fun names => ?_⟩
  have hfields : (Source.object written).fields? names = names.mapM (field? members) :=
    congrArg (·.bind fun named => names.mapM (field? named)) hnamed
  rw [hfields, funext (field?_eq_some_lookup h.distinct)]
  exact List.mapM_pure

/-- An object without doubles holds its members once it is written. -/
theorem holdsObject_octets {members : List (String × Json)}
    (hv : (object members).isExact = true) (hd : (members.map Prod.fst).Nodup) :
    HoldsObject (object members).octets (members.map fun m => (m.1, m.2.tree)) := by
  constructor
  · refine ⟨treeMembers members, ?_, mapM_treeMembers members⟩
    rw [read?_octets hv, tree]
  · rw [List.map_map]
    exact hd

/-! ## Fields that may be absent -/

section Optional

variable {α : Type} {read : Source → Option α} {field : Option Source}

theorem optional?_eq_some_none_iff :
    optional? read field = some none ↔ field = none ∨ field = some .null := by
  constructor
  · intro h
    unfold optional? at h
    split at h
    · exact .inl rfl
    · exact .inr rfl
    · obtain ⟨a, -, ha⟩ := Option.map_eq_some_iff.1 h
      cases ha
  · rintro (rfl | rfl)
    · rfl
    · rfl

theorem optional?_eq_some_some_iff (hnull : read .null = none) {a : α} :
    optional? read field = some (some a) ↔ ∃ v, field = some v ∧ read v = some a := by
  unfold optional?
  constructor
  · intro h
    split at h
    · cases h
    · cases h
    · next v _ =>
      obtain ⟨b, hb, heq⟩ := Option.map_eq_some_iff.1 h
      cases heq
      exact ⟨v, rfl, hb⟩
  · rintro ⟨v, rfl, hv⟩
    split
    · next heq => cases heq
    · next heq =>
      cases heq
      rw [hnull] at hv
      cases hv
    · next w _ heq =>
      cases heq
      rw [hv]
      rfl

end Optional

end NotesBench.Json

import NotesBench.Proofs.Service.Shelf

/-!
# What users see of each other

A user sees the notes that they own and the last number that was given out, and nothing else of the
state (`Store.seenBy`). Each of their operations gives the same there, and what others do only gives
out numbers. So a user is answered in any run as if nobody else were there (`own_deeds_eq_alone`),
and two runs in which they ask the same between as many new notes of others look alike to them
(`same_turns_same_answers`).
-/

namespace NotesBench.Service

/-! ## Turns -/

/-- The user who asks for an operation on notes. -/
def Operation.user? : Operation → Option Int
  | .addNote user .. | .findNote user _ | .changeNote user .. | .removeNote user _
  | .listing user .. => some user
  | _ => none

/-- What a user asks in a run, each time with the number of notes that others have written since the
user asked before. -/
def turns (user : Int) : List Operation → List (Nat × Operation)
  | [] => []
  | operation :: rest =>
    if operation.user? = some user then (0, operation) :: turns user rest
    else if operation.isNew then
      match turns user rest with
      | [] => []
      | (others, next) :: later => (others + 1, next) :: later
    else turns user rest

/-- The state after numbers were given out for notes that are not there. -/
def Store.skip (s : Store) (numbers : Nat) : Store :=
  { s with lastNote := s.lastNote + numbers }

/-- What a user is answered when nobody else is there and numbers are only given out. -/
def alone : List (Nat × Operation) → Store → List Deed
  | [], _ => []
  | (others, operation) :: later, s =>
    let (answer, s') := (operation.perform default).on (s.skip others)
    ⟨operation, answer⟩ :: alone later s'

/-- What was asked by the user, with the answers. -/
def ownDeeds (user : Int) (past : List Deed) : List Deed :=
  past.filter (·.operation.user? == some user)

/-! ## Views -/

/-- The notes of one user. -/
def Shelf.only (s : Shelf) (user : Int) : Shelf :=
  ⟨s.ownedBy user, s.falling.sublist List.filter_sublist⟩

/-- What a user sees of the state. -/
def Store.seenBy (s : Store) (user : Int) : Store where
  shelf := s.shelf.only user
  lastNote := s.lastNote

namespace Shelf

variable {s : Shelf} {n : Note} {user : Int}

theorem find?_only (s : Shelf) (user id : Int) :
    (s.only user).find? id = (s.find? id).filter (·.owner == user) := by
  ext n
  rw [find?_eq_some_iff, Option.filter_eq_some_iff, find?_eq_some_iff]
  simp only [only, ownedBy, List.mem_filter]
  exact and_right_comm

theorem search_only (s : Shelf) (user : Int) (q : String) :
    (s.only user).search user q = s.search user q := by
  simp [search, only, ownedBy]

theorem only_put (hn : n.owner = user) : (s.put n).only user = (s.only user).put n := by
  refine eq_of_find?_eq fun id => ?_
  rw [find?_only, find?_put, find?_put, find?_only]
  split
  · simp [hn]
  · rfl

theorem only_erase (s : Shelf) (user id : Int) :
    (s.erase id).only user = (s.only user).erase id := by
  refine eq_of_find?_eq fun other => ?_
  rw [find?_only, find?_erase, find?_erase, find?_only]
  split <;> rfl

/-- The notes of a user are the same on both shelves. -/
theorem only_eq {t : Shelf} (h : s.ownedBy user = t.ownedBy user) : s.only user = t.only user := by
  unfold only
  simp only [h]

end Shelf

namespace Store

variable {s s' : Store} {d : Deed} {user : Int}

theorem owned?_seenBy (s : Store) (user id : Int) :
    (s.seenBy user).owned? user id = s.owned? user id := by
  simp [owned?, seenBy, Shelf.find?_only, Option.filter_filter]

theorem listing_seenBy (s : Store) (user : Int) (page size : Nat) (q : String) :
    (s.seenBy user).listing user page size q = s.listing user page size q := by
  simp only [listing, seenBy, Shelf.search_only]

theorem seenBy_withNote (s : Store) (user : Int) (title body : String) :
    (s.withNote user title body).seenBy user = (s.seenBy user).withNote user title body := by
  have hput : (s.shelf.put (s.nextNote user title body)).only user =
      (s.shelf.only user).put (s.nextNote user title body) := Shelf.only_put rfl
  exact congrArg (fun shelf => ({ shelf, lastNote := s.lastNote + 1 } : Store)) hput

theorem seenBy_withRevised {n : Note} (hn : n.owner = user) :
    (s.withRevised n).seenBy user = (s.seenBy user).withRevised n := by
  unfold seenBy withRevised
  rw [Shelf.only_put hn]

theorem seenBy_withoutNote (s : Store) (user id : Int) :
    (s.withoutNote id).seenBy user = (s.seenBy user).withoutNote id := by
  unfold seenBy withoutNote
  rw [Shelf.only_erase]

/-- What a user asks gives the same where nobody else has notes. -/
theorem Does.seenBy (h : s.Does d s') (hu : d.operation.user? = some user) (draw : Draw) :
    (d.operation.perform draw).on (s.seenBy user) = (d.answer, s'.seenBy user) := by
  obtain ⟨operation, answer⟩ := d
  obtain ⟨drawn, h⟩ := h
  cases operation with
  | register | login | rotate | logout | holder | userCount => cases hu
  | addNote owner title body =>
    cases hu
    cases h
    exact Prod.ext rfl (seenBy_withNote s user title body).symm
  | findNote owner id =>
    cases hu
    rw [Operation.perform, map_on, findNote_on_eq] at h ⊢
    rw [owned?_seenBy]
    cases howned : s.owned? user id <;> rw [howned] at h <;> cases h <;> rfl
  | changeNote owner id title body =>
    cases hu
    rw [Operation.perform, map_on, changeNote_on] at h ⊢
    rw [owned?_seenBy]
    cases howned : s.owned? user id with
    | none =>
      rw [howned] at h
      cases h
      rfl
    | some note =>
      rw [howned] at h
      cases h
      have howner : note.owner = user := owner_of_owned? howned
      exact Prod.ext rfl (seenBy_withRevised (n := note.revised title body) howner).symm
  | removeNote owner id =>
    cases hu
    rw [Operation.perform, map_on, removeNote_on] at h ⊢
    rw [owned?_seenBy]
    cases howned : s.owned? user id with
    | none =>
      rw [howned] at h
      cases h
      rfl
    | some note =>
      rw [howned] at h
      cases h
      exact Prod.ext rfl (seenBy_withoutNote s user id).symm
  | listing owner page size q =>
    cases hu
    cases h
    show (Except.ok (Answer.page ((s.seenBy user).listing user page size q).1
      ((s.seenBy user).listing user page size q).2), s.seenBy user) = _
    rw [listing_seenBy]
    rfl

section Others

variable (h : s.Does d s') (hu : d.operation.user? ≠ some user)
include h hu

/-- Of a new note of somebody else, a user sees only that its number is given out. -/
theorem Does.seenBy_of_isNew (hc : s.Counted) (hnew : d.operation.isNew = true) :
    s'.seenBy user = (s.seenBy user).skip 1 := by
  obtain ⟨operation, answer⟩ := d
  cases operation with
  | addNote owner title body =>
    obtain ⟨draw, h⟩ := h
    cases h
    have hne : owner ≠ user := fun heq => hu (by rw [heq]; rfl)
    have howned := ownedBy_withNote hc owner user title body
    rw [List.filter_cons_of_neg (by simpa [nextNote] using hne)] at howned
    exact congrArg (fun shelf => ({ shelf, lastNote := s.lastNote + 1 } : Store))
      (Shelf.only_eq howned)
  | _ => cases hnew

/-- Of everything else that others ask, a user sees nothing. -/
theorem Does.seenBy_of_others (hnew : d.operation.isNew = false) :
    s'.seenBy user = s.seenBy user := by
  have htouched {owner id : Int} (he : NoteEffect s (some (owner, id)) s') (hne : owner ≠ user) :
      s'.seenBy user = s.seenBy user := by
    obtain ⟨howned, hlast⟩ := ownedBy_of_touched he hne
    unfold Store.seenBy
    rw [Shelf.only_eq howned, hlast]
  cases h.effect with
  | addNote => cases hnew
  | changeNote title body owned =>
    exact htouched (.change title body owned) fun heq => hu (by rw [heq]; rfl)
  | removeNote owned => exact htouched (.remove owned) fun heq => hu (by rw [heq]; rfl)
  | _ => rfl

end Others

end Store

/-! ## Runs -/

section Runs

variable {s s' : Store} {past : List Deed}

theorem Store.skip_zero (s : Store) : s.skip 0 = s := by
  unfold Store.skip
  rw [Int.ofNat_zero, Int.add_zero]

theorem Store.skip_skip (s : Store) (m n : Nat) : (s.skip m).skip n = s.skip (m + n) := by
  unfold Store.skip
  rw [Int.natCast_add, Int.add_assoc]

/-- The number that was given out counts for what is asked next. -/
theorem alone_skip (asked : List (Nat × Operation)) (s : Store) :
    alone asked (s.skip 1) =
      alone (match asked with
        | [] => []
        | (others, next) :: later => (others + 1, next) :: later) s := by
  cases asked with
  | nil => rfl
  | cons first later => simp only [alone, Store.skip_skip, Nat.add_comm]

/-- A user is answered as if nobody else were there. -/
theorem own_deeds_eq_alone (hc : s.Counted) (h : Leads s past s') (user : Int) :
    ownDeeds user past = alone (turns user (past.map (·.operation))) (s.seenBy user) := by
  induction past generalizing s with
  | nil => rfl
  | cons d rest ih =>
    obtain ⟨s₁, hdoes, hrest⟩ := h.exists_first
    have hlater := ih (hc.step hdoes.noteEffect) hrest
    unfold ownDeeds at hlater ⊢
    rw [List.map_cons, turns]
    by_cases hu : d.operation.user? = some user
    · rw [List.filter_cons_of_pos (by simpa using hu), hlater, if_pos hu]
      simp only [alone, Store.skip_zero, hdoes.seenBy hu]
    · rw [List.filter_cons_of_neg (by simpa using hu), hlater, if_neg hu]
      cases hnew : d.operation.isNew with
      | true =>
        rw [hdoes.seenBy_of_isNew hu hc hnew, alone_skip, if_pos rfl]
      | false => rw [hdoes.seenBy_of_others hu hnew, if_neg Bool.false_ne_true]

/-- Two runs in which a user asks the same, between as many new notes of others, give the user the
same answers, whatever else the others have done. And what is asked of the note of somebody else is
answered as if there were no such note. -/
theorem same_turns_same_answers {past past' : List Deed} {s s' : Store} {user : Int}
    (h : Leads {} past s) (h' : Leads {} past' s')
    (hturns : turns user (past.map (·.operation)) = turns user (past'.map (·.operation))) :
    ownDeeds user past = ownDeeds user past' ∧
      ∀ id, (∀ note, s.shelf.find? id = some note → note.owner ≠ user) →
        (Store.findNote user id).on s = (.error (.noNote id), s) ∧
        (∀ title body, (Store.changeNote user id title body).on s = (.error (.noNote id), s)) ∧
        (Store.removeNote user id).on s = (.error (.noNote id), s) := by
  constructor
  · rw [own_deeds_eq_alone Store.counted_empty h user, hturns,
      own_deeds_eq_alone Store.counted_empty h' user]
  · intro id hother
    have hnone : s.owned? user id = none := by
      rw [Option.eq_none_iff_forall_ne_some]
      intro note owned
      exact hother note (Store.find?_of_owned? owned) (Store.owner_of_owned? owned)
    refine ⟨?_, fun title body => ?_, ?_⟩
    · rw [Store.findNote_on_eq, hnone]
    · rw [Store.changeNote_on, hnone]
    · rw [Store.removeNote_on, hnone]

/-- One user looks for the note of another. -/
def besideSecret : List (Draw × Operation) :=
  [(default, .addNote 2 "secret" "kept"), (default, .addNote 1 "mine" ""),
    (default, .findNote 1 1), (default, .listing 1 1 20 ""), (default, .changeNote 1 1 "mine" "")]

/-- The other note is somebody else's, and is removed early. -/
def besideNothing : List (Draw × Operation) :=
  [(default, .addNote 3 "gone" ""), (default, .removeNote 3 1), (default, .addNote 1 "mine" ""),
    (default, .findNote 2 2), (default, .findNote 1 1), (default, .listing 1 1 20 ""),
    (default, .changeNote 1 1 "mine" "")]

theorem secret_looks_like_nothing :
    turns 1 ((deeds besideSecret {}).map (·.operation)) =
        turns 1 ((deeds besideNothing {}).map (·.operation)) ∧
      ownDeeds 1 (deeds besideSecret {}) = ownDeeds 1 (deeds besideNothing {}) :=
  ⟨rfl, (same_turns_same_answers (leads_perform besideSecret {}) (leads_perform besideNothing {})
    rfl).1⟩

end Runs

end NotesBench.Service

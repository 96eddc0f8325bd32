import NotesBench.Proofs.Service.Shelf
import NotesBench.Proofs.Service.Validator

/-!
# Pages and their validators

The validator of a page tells the largest number on it and how many notes it holds, so it is no
proof that the page is still the same: a note that is changed, or removed while another one moves up
from the next page, leaves it as it is (`stale_pages_have_one_validator`). New notes do not: as long
as no note of the user is changed or removed, equal validators mean the same page
(`page_of_same_validator`).
-/

namespace NotesBench.Service

/-! ## Largest numbers -/

theorem largestId_cons {n : Note} {notes : List Note} (h : ∀ m ∈ notes, m.id < n.id) :
    largestId (n :: notes) = n.id := by
  rw [largestId]
  induction notes with
  | nil => rfl
  | cons m rest ih =>
    rw [List.foldl_cons, Int.max_eq_left (Int.le_of_lt (h m List.mem_cons_self))]
    exact ih fun k hk => h k (List.mem_cons_of_mem _ hk)

theorem getElem?_of_pageOf {notes rest : List Note} {page size : Nat} {n : Note}
    (h : pageOf page size notes = n :: rest) : notes[(page - 1) * size]? = some n := by
  have hhead := congrArg List.head? h
  rw [pageOf, List.head?_take, List.head?_drop] at hhead
  split at hhead
  · cases hhead
  · exact hhead

theorem largestId_of_pageOf {notes rest : List Note} {page size : Nat} {n : Note}
    (falling : notes.Pairwise fun m n => n.id < m.id) (h : pageOf page size notes = n :: rest) :
    largestId (pageOf page size notes) = n.id := by
  have hpage : (n :: rest).Pairwise fun m n => n.id < m.id :=
    h ▸ falling.sublist ((List.take_sublist _ _).trans (List.drop_sublist _ _))
  rw [h, largestId_cons (List.pairwise_cons.1 hpage).1]

/-- Notes that come on top move others to the next pages, and then the largest number of a page is
another one. -/
theorem eq_nil_of_largestId_eq {new old : List Note} {page size : Nat}
    (falling : (new ++ old).Pairwise fun m n => n.id < m.id) (hne : pageOf page size old ≠ [])
    (hid : largestId (pageOf page size old) = largestId (pageOf page size (new ++ old)))
    (hlen : (pageOf page size old).length = (pageOf page size (new ++ old)).length) : new = [] := by
  obtain ⟨n, rest, hold⟩ := List.exists_cons_of_ne_nil hne
  obtain ⟨m, rest', hnew⟩ := List.exists_cons_of_length_pos (l := pageOf page size (new ++ old))
    (by rw [← hlen, hold]; exact Nat.succ_pos _)
  rw [largestId_of_pageOf (List.pairwise_append.1 falling).2.1 hold,
    largestId_of_pageOf falling hnew] at hid
  have hm := getElem?_of_pageOf hnew
  have hn : (new ++ old)[new.length + (page - 1) * size]? = some n := by
    rw [List.getElem?_append_right (Nat.le_add_right _ _), Nat.add_sub_cancel_left]
    exact getElem?_of_pageOf hold
  obtain ⟨hmlt, rfl⟩ := List.getElem?_eq_some_iff.1 hm
  obtain ⟨hnlt, rfl⟩ := List.getElem?_eq_some_iff.1 hn
  rcases Nat.eq_zero_or_pos new.length with hzero | hpos
  · exact List.eq_nil_of_length_eq_zero hzero
  · have := List.pairwise_iff_getElem.1 falling _ _ hmlt hnlt (Nat.lt_add_of_pos_left hpos)
    omega

/-! ## Moments of a run -/

section Moments

variable {s s' : Store}

/-- What is found is found among the notes of the user. -/
theorem exists_search_append {new : List Note} {s s' : Shelf} {user : Int}
    (h : s'.ownedBy user = new ++ s.ownedBy user) (q : String) :
    ∃ found, s'.search user q = found ++ s.search user q := by
  rw [Shelf.search, ← Shelf.ownedBy, h, List.filter_append]
  exact ⟨_, rfl⟩

/-- Between the two moments no note of the user is changed or removed. If a page of theirs has one
validator at both, then it holds the same notes, and unless it is empty, as many notes are found. -/
theorem page_of_same_validator {past between : List Deed} (h : Leads {} past s)
    (h' : Leads s between s') (user : Int) (page size : Nat) (q : String)
    (hu : ∀ d ∈ between, d.touched?.map (·.1) ≠ some user)
    (he : pageEtag page size q (s.listing user page size q).1 =
      pageEtag page size q (s'.listing user page size q).1) :
    (s'.listing user page size q).1 = (s.listing user page size q).1 ∧
      ((s.listing user page size q).1 ≠ [] →
        (s'.listing user page size q).2 = (s.listing user page size q).2) := by
  obtain ⟨hid, hlen⟩ := (pageEtag_eq_iff ..).1 he
  have hc := Store.counted_empty.steps h.effects
  have hlabels : ∀ id, some (user, id) ∉ between.map Deed.touched? := by
    intro id hmem
    obtain ⟨d, hd, htouched⟩ := List.mem_map.1 hmem
    exact hu d hd (by rw [htouched]; rfl)
  obtain ⟨-, new, hnew, -⟩ := Store.ownedBy_of_steps hc h'.effects hlabels
  obtain ⟨found, hfound⟩ := exists_search_append hnew q
  have falling : (s'.shelf.search user q).Pairwise fun m n => n.id < m.id :=
    s'.shelf.falling.sublist (List.filter_sublist.trans List.filter_sublist)
  simp only [Store.listing, hfound] at hid hlen falling ⊢
  by_cases hne : pageOf page size (s.shelf.search user q) = []
  · rw [hne] at hlen ⊢
    exact ⟨List.eq_nil_of_length_eq_zero hlen.symm, fun h => absurd rfl h⟩
  · rw [eq_nil_of_largestId_eq falling hne hid hlen]
    exact ⟨rfl, fun _ => rfl⟩

/-- Three notes of one user. -/
def threeNotes : List (Draw × Operation) :=
  [(default, .addNote 1 "one" ""), (default, .addNote 1 "two" ""), (default, .addNote 1 "three" "")]

/-- Somebody else writes a note between two looks at the first page. -/
theorem page_stays_beside_another_user :
    (perform [(default, .addNote 2 "four" "")] (perform threeNotes {}).2).2.listing 1 1 2 "" =
      (perform threeNotes {}).2.listing 1 1 2 "" := by
  have h := page_of_same_validator (leads_perform threeNotes {})
    (leads_perform [(default, .addNote 2 "four" "")] _) 1 1 2 "" (by decide +kernel)
    (by decide +kernel)
  exact Prod.ext h.1 (h.2 (by decide +kernel))

/-- One validator does not mean one page: the second of three notes is removed, and the first moves
up to the first page. -/
theorem stale_pages_have_one_validator :
    ¬∀ (past between : List Deed) (s s' : Store) (user : Int) (page size : Nat) (q : String),
      Leads {} past s → Leads s between s' →
      pageEtag page size q (s.listing user page size q).1 =
        pageEtag page size q (s'.listing user page size q).1 →
      s'.listing user page size q = s.listing user page size q := by
  intro h
  have hsame := h _ _ _ _ 1 1 2 "" (leads_perform threeNotes {})
    (leads_perform [(default, .removeNote 1 2)] _) (by decide +kernel)
  exact absurd hsame (by decide +kernel)

end Moments

end NotesBench.Service

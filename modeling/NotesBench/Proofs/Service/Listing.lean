import Mathlib.Algebra.Order.Floor.Div
import NotesBench.Proofs.Service.Revalidation
import NotesBench.Proofs.Service.Verdict

/-!
# Listing notes page by page

The notes that a search finds are told by what they hold and by their order (`Shelf.IsFound`), and
the pages of a listing are these notes cut into pieces (`Store.Pages`). Of a query the last value of
each name counts (`Wanted.IsAskedBy`). A user who asks for a page is shown that page of what is
found, and how many notes are found in all (`pages_make_up_what_is_found`).
-/

namespace NotesBench.Service

open Http (Request Response)

/-! ## Pages of a list -/

section Pages

variable {α : Type} {page size : Nat} (items : List α)

theorem pageOf_succ (page size : Nat) (items : List α) :
    pageOf (page + 1) size items = (items.drop (page * size)).take size := rfl

/-- The first pages hold as much as the beginning of the list. -/
theorem flatMap_pageOf (size count : Nat) (items : List α) :
    ((List.range count).flatMap fun page => pageOf (page + 1) size items) =
      items.take (count * size) := by
  induction count with
  | zero => simp
  | succ count ih =>
    rw [List.range_succ, List.flatMap_append, ih, List.flatMap_singleton, pageOf_succ,
      Nat.succ_mul, List.take_add]

theorem length_pageOf (page size : Nat) (items : List α) :
    (pageOf page size items).length = min size (items.length - (page - 1) * size) := by
  rw [pageOf, List.length_take, List.length_drop]

variable (hsize : 0 < size)
include hsize

theorem flatMap_pageOf_all (items : List α) :
    ((List.range (items.length ⌈/⌉ size)).flatMap fun page => pageOf (page + 1) size items) =
      items := by
  have hall : items.length ≤ size * (items.length ⌈/⌉ size) :=
    (ceilDiv_le_iff_le_mul hsize).1 (Nat.le_refl _)
  rw [flatMap_pageOf, Nat.mul_comm, List.take_of_length_le hall]

theorem length_pageOf_of_lt {items : List α} (hpos : 0 < page)
    (hlt : page < items.length ⌈/⌉ size) : (pageOf page size items).length = size := by
  have hmore : ¬items.length ≤ size * page := fun hle =>
    Nat.not_lt.2 ((ceilDiv_le_iff_le_mul hsize).2 hle) hlt
  have hpage : size * page = (page - 1) * size + size := by
    rw [← Nat.succ_mul, Nat.succ_eq_add_one, Nat.sub_add_cancel hpos, Nat.mul_comm]
  rw [length_pageOf]
  omega

theorem pageOf_eq_nil_of_lt {items : List α} (hlt : items.length ⌈/⌉ size < page) :
    pageOf page size items = [] := by
  have hall : items.length ≤ size * (page - 1) :=
    (ceilDiv_le_iff_le_mul hsize).1 (Nat.le_pred_of_lt hlt)
  rw [pageOf, List.drop_eq_nil_of_le (by rwa [Nat.mul_comm]), List.take_nil]

end Pages

/-! ## What is found -/

/-- The note has the text in its title or its body, whatever the case of the letters. Every note has
the empty text. -/
def Note.Holds (n : Note) (q : String) : Prop :=
  Text.lowered q.toList <:+: Text.lowered n.title.toList ∨
    Text.lowered q.toList <:+: Text.lowered n.body.toList

/-- These are the notes of the user that hold the text, the newest first. -/
structure Shelf.IsFound (s : Shelf) (user : Int) (q : String) (found : List Note) : Prop where
  falling : found.Pairwise fun m n => n.id < m.id
  mem_iff : ∀ n, n ∈ found ↔ n ∈ s.notes ∧ n.owner = user ∧ n.Holds q

theorem Shelf.isFound_search (s : Shelf) (user : Int) (q : String) :
    s.IsFound user q (s.search user q) where
  falling := s.falling.sublist (List.filter_sublist.trans List.filter_sublist)
  mem_iff n := by
    rw [search, List.mem_filter, List.mem_filter, and_assoc]
    simp [Text.occursIn_iff, Note.Holds]

/-- The listing of a text shows the found notes, page by page. -/
structure Store.Pages (s : Store) (user : Int) (q : String) (size : Nat) (found : List Note) :
    Prop where
  total : ∀ page, (s.listing user page size q).2 = found.length
  joined : ((List.range (found.length ⌈/⌉ size)).flatMap fun page =>
    (s.listing user (page + 1) size q).1) = found
  full : ∀ page, 0 < page → page < found.length ⌈/⌉ size →
    (s.listing user page size q).1.length = size
  beyond : ∀ page, found.length ⌈/⌉ size < page → (s.listing user page size q).1 = []
  zeroth : s.listing user 0 size q = s.listing user 1 size q

theorem Store.pages_search (s : Store) (user : Int) (q : String) {size : Nat} (hsize : 0 < size) :
    s.Pages user q size (s.shelf.search user q) where
  total _ := rfl
  joined := flatMap_pageOf_all hsize _
  full _ hpos hlt := length_pageOf_of_lt hsize hpos hlt
  beyond _ hlt := pageOf_eq_nil_of_lt hsize hlt
  zeroth := rfl

/-! ## What is asked for -/

/-- The value of the last pair with the name. -/
def lastValue? (pairs : List (String × String)) (name : String) : Option String :=
  (pairs.reverse.find? (·.1 = name)).map (·.2)

/-- The number that the last value of the name denotes, if it is an allowed one. -/
def lastNumber? (pairs : List (String × String)) (name : String) (allowed : Nat → Bool) :
    Option Nat :=
  ((lastValue? pairs name).bind fun text => Text.unsigned? text.toList).filter allowed

theorem lastValue?_snoc (pairs : List (String × String)) (pair : String × String) (name : String) :
    lastValue? (pairs ++ [pair]) name =
      if pair.1 = name then some pair.2 else lastValue? pairs name := by
  rw [lastValue?, List.reverse_append, List.reverse_singleton, List.singleton_append,
    List.find?_cons]
  by_cases h : pair.1 = name <;> simp [h, lastValue?]

/-- What a query asks for: the last values of its names, or the usual ones in their place. -/
structure Wanted.IsAskedBy (w : Wanted) (pairs : List (String × String)) : Prop where
  page : w.page = (lastNumber? pairs "page" (1 ≤ ·)).getD 1
  size : w.size = (lastNumber? pairs "size" fun n => 1 ≤ n ∧ n ≤ 100).getD 20
  q : w.q = (lastValue? pairs "q").getD ""

theorem Wanted.IsAskedBy.take {w : Wanted} {pairs : List (String × String)}
    (h : w.IsAskedBy pairs) (pair : String × String) :
    (w.take pair).IsAskedBy (pairs ++ [pair]) := by
  obtain ⟨page, size, q⟩ := h
  have hnumber (name : String) (allowed : Nat → Bool) :
      lastNumber? (pairs ++ [pair]) name allowed =
        if pair.1 = name then (Text.unsigned? pair.2.toList).filter allowed
        else lastNumber? pairs name allowed := by
    rw [lastNumber?, lastValue?_snoc]
    split <;> rfl
  unfold Wanted.take
  split
  · next hname => constructor <;> simp [hnumber, lastValue?_snoc, hname, size, q]
  · next hpage =>
    split
    · next hname => constructor <;> simp [hnumber, lastValue?_snoc, hname, page, q]
    · next hsize =>
      split
      · next hname => constructor <;> simp [hnumber, lastValue?_snoc, hname, page, size]
      · next hq => constructor <;> simp [hnumber, lastValue?_snoc, hpage, hsize, hq, page, size, q]

theorem Wanted.isAskedBy_ofQuery (query : String) :
    (Wanted.ofQuery query).IsAskedBy (Http.pairs query) := by
  unfold Wanted.ofQuery
  generalize Http.pairs query = pairs
  induction pairs using List.reverseRecOn with
  | nil => exact ⟨rfl, rfl, rfl⟩
  | append_singleton pairs pair ih =>
    rw [List.foldl_append]
    exact ih.take pair

theorem getD_lastNumber? {p : Nat → Prop} [DecidablePred p] {usual : Nat} (h : p usual)
    (pairs : List (String × String)) (name : String) :
    p ((lastNumber? pairs name fun n => p n).getD usual) := by
  unfold lastNumber?
  cases hn : ((lastValue? pairs name).bind fun text => Text.unsigned? text.toList).filter
      fun n => decide (p n) with
  | none => exact h
  | some n => simpa using (Option.filter_eq_some_iff.1 hn).2

namespace Wanted.IsAskedBy

variable {w : Wanted} {pairs : List (String × String)} (h : w.IsAskedBy pairs)
include h

theorem page_pos : 1 ≤ w.page := by
  rw [h.page]
  exact getD_lastNumber? (p := (1 ≤ ·)) (Nat.le_refl 1) pairs "page"

theorem size_bounds : 1 ≤ w.size ∧ w.size ≤ 100 := by
  rw [h.size]
  exact getD_lastNumber? (p := fun n => 1 ≤ n ∧ n ≤ 100) (by decide) pairs "size"

end Wanted.IsAskedBy

/-! ## Listings over HTTP -/

section Requests

variable {s : Store} {r : Request} (method : r.method = .get)
  (route : Route.ofPath? r.path = some .notes)
include method route

/-- A user who asks for a page gets it, unless they have it already. -/
theorem serve_listing (settings : Settings) (draw : Draw) {user : Int}
    (caller : caller? s r = some user) {w : Wanted} (hw : Wanted.ofQuery r.query = w)
    {items : List Note} {total : Nat} (h : s.listing user w.page w.size w.q = (items, total)) :
    serve settings draw r s =
      (responseOf (if Http.matches? r.headers (pageEtag w.page w.size w.q items) then emptyReply 304
        else jsonReply 200 (pageJson w.page w.size total items)
          (settings.shownEtag (pageEtag w.page w.size w.q items))), s) := by
  have hgives := gives_listEndpoint caller settings hw h
  refine serve_of_gives route (by simp [method]) ?_
  rw [Route.handler, method]
  exact hgives

theorem status_listing_of_nobody (settings : Settings) (draw : Draw) (caller : caller? s r = none) :
    (serve settings draw r s).1.status = 401 := by
  rw [status_serve, handler, route]
  dsimp only
  rw [Route.handler, method]
  dsimp only
  rw [statusAt_listEndpoint, statusBy_cons, caller]
  rfl

/-- An answer that shows a page shows what the user has asked for. -/
theorem exists_listing_of_status {settings : Settings} {draw : Draw}
    (status : (serve settings draw r s).1.status = 200) :
    ∃ user, caller? s r = some user ∧ ∃ items total,
      s.listing user (Wanted.ofQuery r.query).page (Wanted.ofQuery r.query).size
        (Wanted.ofQuery r.query).q = (items, total) ∧
      (serve settings draw r s).1.body = (pageJson (Wanted.ofQuery r.query).page
        (Wanted.ofQuery r.query).size total items).octets := by
  cases caller : caller? s r with
  | none => rw [status_listing_of_nobody method route settings draw caller] at status; cases status
  | some user =>
    refine ⟨user, rfl, _, _, rfl, ?_⟩
    have hserve := serve_listing method route settings draw caller rfl rfl
    rw [hserve] at status ⊢
    exact body_of_page (x := ⟨r, _⟩) status (response_of_status (x := ⟨r, _⟩) status rfl)

end Requests

/-- Whatever the state is, the pages of a size make up what a search finds, no note twice and none
left out. Over HTTP the last value of each name of the query tells which page is asked for, and an
answer that shows a page shows that one. -/
theorem pages_make_up_what_is_found (s : Store) :
    (∀ user q size, 0 < size → ∃ found, s.shelf.IsFound user q found ∧ s.Pages user q size found) ∧
    ∀ settings draw r, r.method = .get → Route.ofPath? r.path = some .notes →
      ∃ w : Wanted, w.IsAskedBy (Http.pairs r.query) ∧ 1 ≤ w.page ∧ 1 ≤ w.size ∧ w.size ≤ 100 ∧
        (∀ user items total, caller? s r = some user →
          s.listing user w.page w.size w.q = (items, total) →
          serve settings draw r s =
            (responseOf (if Http.matches? r.headers (pageEtag w.page w.size w.q items) then
                emptyReply 304
              else jsonReply 200 (pageJson w.page w.size total items)
                (settings.shownEtag (pageEtag w.page w.size w.q items))), s)) ∧
        ((serve settings draw r s).1.status = 200 →
          ∃ user, caller? s r = some user ∧ ∃ items total,
            s.listing user w.page w.size w.q = (items, total) ∧
            (serve settings draw r s).1.body = (pageJson w.page w.size total items).octets) := by
  constructor
  · intro user q size hsize
    exact ⟨_, s.shelf.isFound_search user q, s.pages_search user q hsize⟩
  · intro settings draw r method route
    have hw := Wanted.isAskedBy_ofQuery r.query
    refine ⟨_, hw, hw.page_pos, hw.size_bounds.1, hw.size_bounds.2, ?_, ?_⟩
    · exact fun user items total caller h => serve_listing method route settings draw caller rfl h
    · exact exists_listing_of_status method route

/-- Three notes of one user, and one of another. -/
def shelved : Store where
  access := Table.empty.insert "a1" 1
  shelf := [firstNote, ⟨2, 1, "two", "", 1⟩, ⟨3, 2, "three", "", 1⟩, ⟨4, 1, "four", "", 1⟩].foldl
    Shelf.put .empty
  lastUser := 2
  lastNote := 4

/-- The user asks for a page and then thinks better of it. -/
def askingForSecondPage : Request := requestOf "a1" .get "/notes?page=7&size=2&page=2" [] []

theorem second_page_shows_the_first_note :
    (∃ found, found.length = 3 ∧ shelved.Pages 1 "" 2 found) ∧
      (serve {} default askingForSecondPage shelved).1.body =
        (pageJson 2 2 3 [firstNote]).octets := by
  obtain ⟨hpages, hasked⟩ := pages_make_up_what_is_found shelved
  obtain ⟨found, -, hfound⟩ := hpages 1 "" 2 (by decide)
  obtain ⟨w, hw, -, -, -, -, hshown⟩ :=
    hasked {} default askingForSecondPage rfl (by decide +kernel)
  obtain ⟨user, caller, items, total, hlisting, hbody⟩ := hshown (by decide +kernel)
  have huser : caller? shelved askingForSecondPage = some 1 := by decide +kernel
  obtain rfl : 1 = user := Option.some.inj (huser.symm.trans caller)
  have page : w.page = 2 := hw.page.trans (by decide +kernel)
  have size : w.size = 2 := hw.size.trans (by decide +kernel)
  have q : w.q = "" := hw.q.trans (by decide +kernel)
  rw [page, size, q] at hlisting
  rw [page, size] at hbody
  have hitems : shelved.listing 1 2 2 "" = ([firstNote], 3) := by decide +kernel
  obtain ⟨rfl, rfl⟩ := Prod.mk.inj (hitems.symm.trans hlisting)
  exact ⟨⟨found, (hfound.total 2).symm.trans (congrArg Prod.snd hitems), hfound⟩, hbody⟩

end NotesBench.Service

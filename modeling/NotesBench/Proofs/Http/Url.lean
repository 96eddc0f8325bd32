import NotesBench.Http.Url
import NotesBench.Proofs.Http.Percent

/-!
# Locations below an address

An address of host and port alone (`Url.IsBare`) gives a location for each path of written
segments: the same place with the path where they lead to, and no user, query or fragment
(`IsBare.read_append`). Segments that name what they stand for lead to themselves
(`resolve_eq_append`).
-/

namespace NotesBench.Http

namespace Url

/-! ## Segments -/

section SegmentChar

variable {c : Char} (h : isSegmentChar c = true)
include h

theorem escapesInPath_of_isSegmentChar : escapesInPath c = false := by
  have hc := toNat_lt_of_isSegmentChar h
  have hl : ¬ c.val < 0x20 := fun hlt => by
    have : c.toNat < 0x20 := UInt32.lt_iff_toNat_lt.1 hlt
    omega
  have hu : ¬ 0x7E < c.val := fun hlt => by
    have : 0x7E < c.toNat := UInt32.lt_iff_toNat_lt.1 hlt
    omega
  simp [escapesInPath, escapesInFragment, escapesAnywhere, hl, hu,
    ne_of_isSegmentChar h (d := ' ') rfl, ne_of_isSegmentChar h (d := '"') rfl,
    ne_of_isSegmentChar h (d := '<') rfl, ne_of_isSegmentChar h (d := '>') rfl,
    ne_of_isSegmentChar h (d := '`') rfl, ne_of_isSegmentChar h (d := '#') rfl,
    ne_of_isSegmentChar h (d := '?') rfl, ne_of_isSegmentChar h (d := '\x7b') rfl,
    ne_of_isSegmentChar h (d := '\x7d') rfl]

theorem isSlash_of_isSegmentChar : isSlash c = false := by
  simp [isSlash, ne_of_isSegmentChar h (d := '/') rfl, ne_of_isSegmentChar h (d := '\\') rfl]

end SegmentChar

/-- A segment of characters that stand for themselves and of escapes. -/
def IsWritten (s : List Char) : Prop := ∀ c ∈ s, isSegmentChar c = true

/-- A segment that is neither of the two that stand for places in the tree. -/
def IsNamed (s : List Char) : Prop := plainPoints s ≠ ['.'] ∧ plainPoints s ≠ ['.', '.']

/-- A segment of letters and digits, at least one. -/
def IsPlainSegment (s : List Char) : Prop := s ≠ [] ∧ ∀ c ∈ s, c.isAlphanum = true

theorem forall_isPlainSegment {segments : List (List Char)}
    (h : (segments.all fun s => !s.isEmpty && s.all Char.isAlphanum) = true) :
    ∀ s ∈ segments, IsPlainSegment s := by
  intro s hs
  have := List.all_eq_true.1 h s hs
  simpa [IsPlainSegment] using this

/-- The path of segments. -/
def pathOf (segments : List (List Char)) : List Char := segments.flatMap fun s => '/' :: s

/-- A character with a backslash read as a slash. -/
def slashed (c : Char) : Char := if isSlash c then '/' else c

theorem plainPoints_cons_of_ne {c : Char} (h : c ≠ '%') (s : List Char) :
    plainPoints (c :: s) = c :: plainPoints s := by
  rw [plainPoints.eq_def]
  split
  · next he => exact absurd (List.cons.inj he).1 h
  · next he => exact absurd (List.cons.inj he).1 h
  · next he =>
    obtain ⟨rfl, rfl⟩ := List.cons.inj he
    rfl
  · next he => cases he

/-- A segment without escapes is its own plain form. -/
theorem plainPoints_eq_self {s : List Char} (h : '%' ∉ s) : plainPoints s = s := by
  induction s with
  | nil => rfl
  | cons c s ih =>
    obtain ⟨hc, hs⟩ := not_or.1 (by simpa using h : ¬('%' = c ∨ '%' ∈ s))
    rw [plainPoints_cons_of_ne (Ne.symm hc), ih hs]

theorem eq_of_capitalHex : ∀ n : Fin 16, (capitalHex n ≠ 'e') ∧ (capitalHex n = '2' → n = 2) ∧
    (capitalHex n = 'E' → n = 14) := by decide

/-- The escape of an octet is none of a point. -/
theorem plainPoints_percent {b : UInt8} (h : isUnreserved (Char.ofNat b.toNat) = false)
    (s : List Char) : plainPoints (percent b ++ s) = percent b ++ plainPoints s := by
  obtain ⟨-, htwo, -⟩ := eq_of_capitalHex ⟨_, high_lt b⟩
  obtain ⟨hsmall, -, hcapital⟩ := eq_of_capitalHex ⟨_, low_lt b⟩
  have hx : capitalHex (b.toNat / 16) ≠ '%' :=
    ne_of_isAlphanum (isAlphanum_capitalHex ⟨_, high_lt b⟩) rfl
  have hy : capitalHex (b.toNat % 16) ≠ '%' :=
    ne_of_isAlphanum (isAlphanum_capitalHex ⟨_, low_lt b⟩) rfl
  have hrest : plainPoints (capitalHex (b.toNat / 16) :: capitalHex (b.toNat % 16) :: s) =
      capitalHex (b.toNat / 16) :: capitalHex (b.toNat % 16) :: plainPoints s := by
    rw [plainPoints_cons_of_ne hx, plainPoints_cons_of_ne hy]
  simp only [percent, List.cons_append, List.nil_append]
  rw [plainPoints.eq_def]
  split
  · next he =>
    simp only [List.cons.injEq, true_and] at he
    exact absurd he.2.1 hsmall
  · next he =>
    simp only [List.cons.injEq, true_and] at he
    have hhigh : b.toNat / 16 = 2 := congrArg Fin.val (htwo he.1)
    have hlow : b.toNat % 16 = 14 := congrArg Fin.val (hcapital he.2.1)
    have hb : b.toNat = 0x2E := by omega
    rw [hb] at h
    cases h
  · next he =>
    obtain ⟨rfl, rfl⟩ := List.cons.inj he
    rw [hrest]
  · next he => cases he

/-- A text that is written as a segment is its own plain form, as points are not escaped. -/
theorem plainPoints_encodeSegment (s : String) :
    plainPoints (encodeSegment s) = encodeSegment s := by
  rw [encodeSegment]
  induction Text.Utf8.encode s with
  | nil => rfl
  | cons b bs ih =>
    rw [List.flatMap_cons]
    obtain ⟨c, hc, -, he⟩ | ⟨hb, he⟩ := encodeOctet_cases b
    · rw [he, List.singleton_append, plainPoints_cons_of_ne (fun hp => ?_), ih]
      rw [hp] at hc
      cases hc
    · rw [he, plainPoints_percent hb, ih]

theorem isWritten_encodeSegment (s : String) : IsWritten (encodeSegment s) :=
  fun _ hc => isSegmentChar_of_mem hc

/-- Only the two texts of points stand for places in the tree. -/
theorem isNamed_encodeSegment {s : String} (hhere : s ≠ ".") (hup : s ≠ "..") :
    IsNamed (encodeSegment s) := by
  rw [IsNamed, plainPoints_encodeSegment]
  exact ⟨fun h => hhere (encodeSegment_inj.1 (h.trans (by decide : _ = encodeSegment "."))),
    fun h => hup (encodeSegment_inj.1 (h.trans (by decide : _ = encodeSegment "..")))⟩

namespace IsWritten

variable {s : List Char} (h : IsWritten s)
include h

theorem not_mem {d : Char} (hd : isSegmentChar d = false) : d ∉ s :=
  fun hm => ne_of_isSegmentChar (h d hm) hd rfl

theorem escaped_eq : escaped escapesInPath s = s := by
  induction s with
  | nil => rfl
  | cons c s ih =>
    obtain ⟨hc, hs⟩ := List.forall_mem_cons.1 h
    simp only [escaped, List.flatMap_cons, escapesInPath_of_isSegmentChar hc] at ih ⊢
    simp [ih hs]

theorem map_slashed : s.map slashed = s :=
  (List.map_congr_left fun c hc => if_neg (by simp [isSlash_of_isSegmentChar (h c hc)])).trans
    (List.map_id s)

end IsWritten

namespace IsPlainSegment

variable {s : List Char} (h : IsPlainSegment s)
include h

theorem isWritten : IsWritten s := fun c hc => isSegmentChar_of_isAlphanum (h.2 c hc)

theorem isNamed : IsNamed s := by
  have hne {points : List Char} (hp : '.' ∈ points) : plainPoints s ≠ points := by
    rw [plainPoints_eq_self fun hm => ne_of_isAlphanum (h.2 _ hm) rfl rfl]
    rintro rfl
    exact ne_of_isAlphanum (h.2 _ hp) rfl rfl
  exact ⟨hne (by simp), hne (by simp)⟩

end IsPlainSegment

/-- Segments that name what they stand for lead down from the root. -/
theorem resolve_eq_append {segments : List (List Char)} (h : ∀ s ∈ segments, IsNamed s)
    (above : List (List Char)) : resolve above segments = above ++ segments := by
  induction segments generalizing above with
  | nil => simp [resolve]
  | cons s rest ih =>
    obtain ⟨⟨hhere, hup⟩, hrest⟩ := List.forall_mem_cons.1 h
    cases rest with
    | nil => simp [resolve, hup, hhere]
    | cons t rest =>
      rw [resolve, if_neg hup, if_neg hhere, ih hrest, List.append_assoc, List.singleton_append]
      exact List.cons_ne_nil t rest

theorem map_slashed_pathOf {segments : List (List Char)} (h : ∀ s ∈ segments, IsWritten s) :
    (pathOf segments).map slashed = pathOf segments := by
  induction segments with
  | nil => rfl
  | cons s rest ih =>
    obtain ⟨hs, hrest⟩ := List.forall_mem_cons.1 h
    have hp : pathOf (s :: rest) = '/' :: s ++ pathOf rest := rfl
    rw [hp, List.map_append, List.map_cons, hs.map_slashed, ih hrest]
    rfl

theorem splitOn_pathOf {s : List Char} {rest : List (List Char)}
    (h : ∀ t ∈ s :: rest, IsWritten t) : Text.splitOn '/' (s ++ pathOf rest) = s :: rest := by
  induction rest generalizing s with
  | nil =>
    rw [pathOf, List.flatMap_nil, List.append_nil]
    exact Text.splitOn_of_not_mem ((h s List.mem_cons_self).not_mem rfl)
  | cons t rest ih =>
    obtain ⟨hs, hrest⟩ := List.forall_mem_cons.1 h
    have hp : pathOf (t :: rest) = '/' :: (t ++ pathOf rest) := rfl
    rw [hp, Text.splitOn_append_cons (hs.not_mem rfl), ih hrest]

/-- The normal form of a path of written segments is where they lead to. -/
theorem normalPath_pathOf {segments : List (List Char)} (hne : segments ≠ [])
    (h : ∀ s ∈ segments, IsWritten s) :
    normalPath (pathOf segments) = String.ofList (pathOf (resolve [] segments)) := by
  obtain ⟨s, rest, rfl⟩ := List.exists_cons_of_ne_nil hne
  have hmap := map_slashed_pathOf h
  have hesc : (s :: rest).map (escaped escapesInPath) = s :: rest :=
    (List.map_congr_left fun t ht => (h t ht).escaped_eq).trans (List.map_id _)
  have hdrop : (pathOf (s :: rest)).drop 1 = s ++ pathOf rest := rfl
  simp only [normalPath]
  rw [show (fun c => if isSlash c then '/' else c) = slashed from rfl, hmap, hdrop,
    splitOn_pathOf h, hesc]
  rfl

/-! ## Host and port -/

/-- A character that belongs to host and port. -/
def isPlaceChar (c : Char) : Bool := !endsAuthority c && c != '@' && !isDropped c

/-- Reads host and port. -/
def readPlace (place : List Char) : Except ReadError (String × Option Nat) := do
  let host ← (Host.read (cutPort false place).1).mapError ReadError.host
  let port ← readPort false (cutPort false place).2
  return (host, port)

/-- The location of a path at a place. -/
def atPlace (path : String) (place : String × Option Nat) : Url where
  secure := false
  user := ""
  password := ""
  host := place.1
  port := place.2
  path := path
  query := none
  fragment := none

theorem utf8ByteSize_ofList {s : List Char} (h : ∀ c ∈ s, c.toNat < 0x80) :
    (String.ofList s).utf8ByteSize = s.length := by
  induction s with
  | nil => rfl
  | cons c s ih =>
    obtain ⟨hc, hs⟩ := List.forall_mem_cons.1 h
    have hv : c.val ≤ 0x7F := UInt32.le_iff_toNat_le.2 (Nat.le_of_lt_succ hc)
    have hu : c.utf8Size = 1 := if_pos hv
    rw [String.ofList_cons, String.utf8ByteSize_append, ih hs, String.utf8ByteSize_singleton, hu,
      List.length_cons]
    omega

/-- What stands behind host and port when only a path does, or nothing. -/
structure IsPathText (s : List Char) : Prop where
  starts : ∀ c ∈ s.head?, c = '/'
  kept : ∀ c ∈ s, isDropped c = false
  noQuery : '?' ∉ s
  noFragment : '#' ∉ s

theorem isPathText_nil : IsPathText [] := by constructor <;> simp

theorem mem_pathOf {segments : List (List Char)} (h : ∀ s ∈ segments, IsWritten s)
    {c : Char} (hc : c ∈ pathOf segments) : c = '/' ∨ isSegmentChar c = true := by
  obtain ⟨s, hs, hc⟩ := List.mem_flatMap.1 hc
  exact (List.mem_cons.1 hc).imp id (h s hs c)

/-- The octets of a path are as many as its characters. -/
theorem utf8ByteSize_pathOf {segments : List (List Char)} (h : ∀ s ∈ segments, IsWritten s) :
    (String.ofList (pathOf segments)).utf8ByteSize = (pathOf segments).length := by
  refine utf8ByteSize_ofList fun c hc => ?_
  rcases mem_pathOf h hc with rfl | ha
  · decide
  · have := toNat_lt_of_isSegmentChar ha
    omega

theorem isPathText_pathOf {segments : List (List Char)} (h : ∀ s ∈ segments, IsWritten s) :
    IsPathText (pathOf segments) := by
  have hnot {d : Char} (hd : d ≠ '/') (ha : isSegmentChar d = false) : d ∉ pathOf segments :=
    fun hm => (mem_pathOf h hm).elim hd fun h => ne_of_isSegmentChar h ha rfl
  refine ⟨fun c hc => ?_, fun c hc => ?_, hnot (by decide) rfl, hnot (by decide) rfl⟩
  · cases segments with
    | nil => cases hc
    | cons s rest => exact (Option.some.inj hc).symm
  · have ht : c ≠ '\t' := fun he => hnot (by decide) rfl (he ▸ hc)
    have hn : c ≠ '\n' := fun he => hnot (by decide) rfl (he ▸ hc)
    have hr : c ≠ '\r' := fun he => hnot (by decide) rfl (he ▸ hc)
    simp [isDropped, ht, hn, hr]

theorem takeWhile_ne {d : Char} {s : List Char} (h : d ∉ s) : s.takeWhile (· != d) = s := by
  have hall : ∀ c ∈ s, (c != d) = true := fun c hc => by simpa using fun he : c = d => h (he ▸ hc)
  rw [← List.append_nil s, List.takeWhile_append_of_pos hall, List.takeWhile_nil]

theorem cutUser_of_not_mem {s : List Char} (h : '@' ∉ s) : cutUser s = ([], s) := by
  have hr : s.reverse.takeWhile (· != '@') = s.reverse := takeWhile_ne (by simpa using h)
  simp [cutUser, hr]

theorem not_endsAuthority {c : Char} (h : isPlaceChar c = true) : (!endsAuthority c) = true := by
  simp only [isPlaceChar, Bool.and_eq_true] at h
  exact h.1.1

theorem IsPathText.endsAuthority {s : List Char} (h : IsPathText s) :
    ∀ c ∈ s.head?, (!Url.endsAuthority c) = false := by
  intro c hc
  obtain rfl := h.starts c hc
  rfl

section Place

variable {place s : List Char} (hp : ∀ c ∈ place, isPlaceChar c = true) (hs : IsPathText s)
include hp hs

theorem takeWhile_place : (place ++ s).takeWhile (!endsAuthority ·) = place :=
  Text.takeWhile_append_of_head? (fun c hc => not_endsAuthority (hp c hc)) hs.endsAuthority

theorem dropWhile_place : (place ++ s).dropWhile (!endsAuthority ·) = s :=
  Text.dropWhile_append_of_head? (fun c hc => not_endsAuthority (hp c hc)) hs.endsAuthority

/-- Behind a place there is only the path. -/
theorem readRest_place (hne : place ≠ []) :
    readRest false ("//".toList ++ place ++ s) =
      (readPlace place).map (atPlace (normalPath s)) := by
  have hplace {c : Char} (hc : c ∈ place) :
      endsAuthority c = false ∧ c ≠ '@' ∧ isDropped c = false := by
    simpa [isPlaceChar, and_assoc] using hp c hc
  have hdrop : ("//".toList ++ place ++ s).dropWhile isSlash = place ++ s := by
    obtain ⟨c, rest, rfl⟩ := List.exists_cons_of_ne_nil hne
    have hc : isSlash c = false := by
      have := (hplace List.mem_cons_self).1
      simp only [endsAuthority, Bool.or_eq_false_iff] at this
      exact this.1.1
    rw [List.append_assoc, List.dropWhile_append_of_pos (List.all_eq_true.1 rfl)]
    exact List.dropWhile_cons_of_neg (by simp [hc])
  have hat : '@' ∉ place := fun h => (hplace h).2.1 rfl
  simp only [readRest, hdrop, takeWhile_place hp hs, dropWhile_place hp hs,
    cutUser_of_not_mem hat, takeWhile_ne hs.noFragment, takeWhile_ne hs.noQuery]
  have hq : Text.cutAt '?' s = none := Text.cutAt_eq_none_iff.2 hs.noQuery
  have hf : Text.cutAt '#' s = none := Text.cutAt_eq_none_iff.2 hs.noFragment
  simp only [part?, hq, hf, readPlace]
  cases Host.read (cutPort false place).1 with
  | error problem => rfl
  | ok host => cases readPort false (cutPort false place).2 <;> rfl

/-- Behind the scheme and a place there is only the path. -/
theorem read_place (hne : place ≠ []) :
    read (String.ofList ("http://".toList ++ place ++ s)) =
      (readPlace place).map (atPlace (normalPath s)) := by
  have hkept : ("http://".toList ++ place ++ s).filter (!isDropped ·) =
      "http://".toList ++ place ++ s := by
    refine List.filter_eq_self.2 fun c hc => ?_
    rcases List.mem_append.1 hc with hc | hc
    · rcases List.mem_append.1 hc with hc | hc
      · exact List.all_eq_true.1 (by decide : "http://".toList.all (!isDropped ·) = true) c hc
      · have := hp c hc
        simp only [isPlaceChar, Bool.and_eq_true] at this
        exact this.2
    · simp [hs.kept c hc]
  have hscheme : "http:".toList.isPrefixOf? ("http://".toList ++ place ++ s) =
      some ("//".toList ++ place ++ s) :=
    rfl
  simp only [read, String.toList_ofList, hkept, hscheme]
  exact readRest_place hp hs hne

end Place

/-! ## Addresses -/

/-- A location that is read from an address of host and port alone. -/
structure IsBare (base : String) (u : Url) : Prop where
  place : ∃ place : List Char, base.toList = "http://".toList ++ place ∧
    ∀ c ∈ place, isPlaceChar c = true
  read : Url.read base = .ok u

namespace IsBare

variable {base : String} {u : Url} (h : IsBare base u)
include h

theorem exists_place : ∃ place, place ≠ [] ∧ (∀ c ∈ place, isPlaceChar c = true) ∧
    base.toList = "http://".toList ++ place ∧
    ∃ host, readPlace place = .ok host ∧ u = atPlace "/" host := by
  obtain ⟨place, hbase, hp⟩ := h.place
  have hread := h.read
  rw [← String.ofList_toList (s := base), hbase] at hread
  have hne : place ≠ [] := by
    rintro rfl
    cases hread
  refine ⟨place, hne, hp, hbase, ?_⟩
  rw [← List.append_nil place, ← List.append_assoc, read_place hp isPathText_nil hne] at hread
  cases hr : readPlace place with
  | error problem =>
    rw [hr] at hread
    cases hread
  | ok host =>
    rw [hr] at hread
    exact ⟨host, rfl, (Except.ok.inj hread).symm⟩

theorem secure_eq : u.secure = false := by
  obtain ⟨place, -, -, -, host, -, rfl⟩ := h.exists_place
  rfl

/-- A path below the address gives the same location with the path where its segments lead to. -/
theorem read_append {segments : List (List Char)} (hne : segments ≠ [])
    (hs : ∀ s ∈ segments, IsWritten s) :
    Url.read (base ++ String.ofList (pathOf segments)) =
      .ok { u with path := String.ofList (pathOf (resolve [] segments)) } := by
  obtain ⟨place, hplace, hp, hbase, host, hhost, rfl⟩ := h.exists_place
  have he : base ++ String.ofList (pathOf segments) =
      String.ofList ("http://".toList ++ place ++ pathOf segments) := by
    rw [← String.ofList_toList (s := base), hbase, ← String.ofList_append]
  rw [he, read_place hp (isPathText_pathOf hs) hplace, normalPath_pathOf hne hs, hhost]
  rfl

end IsBare

section AtPlace

variable (path : String) (place : String × Option Nat)

/-- Such a location names no user. -/
theorem credentials?_atPlace : (atPlace path place).credentials? = none := rfl

theorem target_atPlace : (atPlace path place).target = path := String.append_empty

theorem utf8ByteSize_text_atPlace : (atPlace path place).text.utf8ByteSize + 1 =
    (atPlace "/" place).text.utf8ByteSize + path.utf8ByteSize := by
  have hone : "/".utf8ByteSize = 1 := rfl
  simp [text, target, userText, atPlace, authority, hone]
  omega

end AtPlace

end Url

end NotesBench.Http

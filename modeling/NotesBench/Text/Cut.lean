/-!
# Cutting a text at a separator

`splitOn` gives the pieces between separators, empty ones included: what stands before the first
separator and then the pieces of the rest (`splitOn_append_cons`). `cutAt` cuts at the first
separator only, and the two parts with a separator between them are the text (`cutAt_eq_some_iff`).
-/

namespace NotesBench.Text

variable {α : Type} [DecidableEq α]

/-- The pieces between the separators. There is one more piece than there are separators. -/
def splitOn (sep : α) : List α → List (List α)
  | [] => [[]]
  | a :: rest =>
    if a = sep then [] :: splitOn sep rest
    else
      match splitOn sep rest with
      | [] => [[a]]
      | piece :: pieces => (a :: piece) :: pieces

/-- What stands before and after the first separator, if there is one. -/
def cutAt (sep : α) : List α → Option (List α × List α)
  | [] => none
  | a :: rest =>
    if a = sep then some ([], rest)
    else (cutAt sep rest).map fun (before, after) => (a :: before, after)

theorem splitOn_of_not_mem {sep : α} {s : List α} (h : sep ∉ s) : splitOn sep s = [s] := by
  induction s with
  | nil => rfl
  | cons a r ih =>
    obtain ⟨ha, hr⟩ := not_or.1 (by simpa using h : ¬(sep = a ∨ sep ∈ r))
    simp [splitOn, Ne.symm ha, ih hr]

theorem splitOn_append_cons {sep : α} {s : List α} (h : sep ∉ s) (t : List α) :
    splitOn sep (s ++ sep :: t) = s :: splitOn sep t := by
  induction s with
  | nil => simp [splitOn]
  | cons a r ih =>
    obtain ⟨ha, hr⟩ := not_or.1 (by simpa using h : ¬(sep = a ∨ sep ∈ r))
    simp [splitOn, Ne.symm ha, ih hr]

theorem cutAt_eq_some_iff {sep : α} {s before after : List α} :
    cutAt sep s = some (before, after) ↔ sep ∉ before ∧ s = before ++ sep :: after := by
  induction s generalizing before with
  | nil => simp [cutAt]
  | cons a r ih =>
    rw [cutAt]
    split
    · next h =>
      subst h
      cases before with
      | nil => simp [eq_comm]
      | cons b bs =>
        simp only [Option.some.injEq, Prod.mk.injEq, List.cons_append, List.cons.injEq]
        constructor
        · simp
        · rintro ⟨hn, rfl, -⟩
          simp at hn
    · next h =>
      cases before with
      | nil =>
        simp only [Option.map_eq_some_iff, Prod.mk.injEq]
        constructor
        · rintro ⟨⟨x, y⟩, -, hx, -⟩
          simp at hx
        · rintro ⟨-, he⟩
          simp at he
          exact absurd he.1 h
      | cons b bs =>
        simp only [Option.map_eq_some_iff, Prod.mk.injEq, Prod.exists, List.cons.injEq,
          List.cons_append, List.mem_cons, not_or]
        constructor
        · rintro ⟨x, y, hxy, ⟨rfl, rfl⟩, rfl⟩
          obtain ⟨hm, rfl⟩ := ih.1 hxy
          exact ⟨⟨Ne.symm h, hm⟩, rfl, rfl⟩
        · rintro ⟨⟨-, hm⟩, rfl, rfl⟩
          exact ⟨bs, after, ih.2 ⟨hm, rfl⟩, ⟨rfl, rfl⟩, rfl⟩

theorem cutAt_eq_none_iff {sep : α} {s : List α} : cutAt sep s = none ↔ sep ∉ s := by
  induction s with
  | nil => simp [cutAt]
  | cons a r ih =>
    rw [cutAt]
    split
    · next h => simp [h]
    · next h => simp [ih, Ne.symm h]

end NotesBench.Text

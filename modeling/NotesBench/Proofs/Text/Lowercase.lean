import NotesBench.Text.Lowercase

/-!
# Small forms within a text

The small forms of a text are put together of those of its pieces (`lowerAfter_append`), but a piece
may have other small forms within a text than it has alone, since a capital sigma looks at the
letters around it. `SigmasStay` says that no sigma of the piece sees a difference. Exactly then the
piece has its own small forms there (`lowerBetween_eq_lowered_iff`). It holds of a piece that stands
apart from the letters around it (`sigmasStay_of_apart`).
-/

namespace NotesBench.Text

/-- The small forms of a piece between two texts; `before` is read backwards. -/
def lowerBetween (before : List Char) : List Char → List Char → List Char
  | [], _ => []
  | c :: rest, after =>
    (if c = 'Σ' then [lowerSigma before (rest ++ after)] else lowerChar c) ++
      lowerBetween (c :: before) rest after

theorem lowerAfter_append (before piece after : List Char) :
    lowerAfter before (piece ++ after) =
      lowerBetween before piece after ++ lowerAfter (piece.reverse ++ before) after := by
  induction piece generalizing before with
  | nil => rfl
  | cons c rest ih => simp [lowerAfter, lowerBetween, ih]

theorem lowered_append₃ (before piece after : List Char) :
    lowered (before ++ piece ++ after) =
      lowerBetween [] before (piece ++ after) ++ lowerBetween before.reverse piece after ++
        lowerAfter (piece.reverse ++ before.reverse) after := by
  rw [lowered, List.append_assoc, lowerAfter_append, lowerAfter_append, List.append_nil,
    List.append_assoc]

/-! ## Sigmas that stay -/

/-- Each capital sigma of the piece is final between the texts if it is final in the piece alone,
and only then. -/
def SigmasStay (before piece after : List Char) : Prop :=
  ∀ left right, piece = left ++ 'Σ' :: right →
    lowerSigma (left.reverse ++ before.reverse) (right ++ after) = lowerSigma left.reverse right

/-- The places of a character in a text, at its beginning and further on. -/
theorem forall_places_cons {P : List Char → List Char → Prop} {a c : Char} {rest : List Char} :
    (∀ left right, c :: rest = left ++ a :: right → P left right) ↔
      (c = a → P [] rest) ∧ ∀ left right, rest = left ++ a :: right → P (c :: left) right := by
  constructor
  · intro h
    refine ⟨?_, ?_⟩
    · rintro rfl
      exact h [] rest rfl
    · rintro left right rfl
      exact h (c :: left) right rfl
  · rintro ⟨hhead, htail⟩ left right h
    rcases List.cons_eq_append_iff.1 h with ⟨rfl, hcons⟩ | ⟨left', rfl, hrest⟩
    · obtain ⟨rfl, rfl⟩ := List.cons.inj hcons
      exact hhead rfl
    · exact htail left' right hrest

/-- A piece of which `done` has been read already. -/
theorem lowerBetween_eq_lowerAfter_iff (before done piece after : List Char) :
    lowerBetween (done ++ before) piece after = lowerAfter done piece ↔
      ∀ left right, piece = left ++ 'Σ' :: right →
        lowerSigma (left.reverse ++ (done ++ before)) (right ++ after) =
          lowerSigma (left.reverse ++ done) right := by
  induction piece generalizing done with
  | nil => simp [lowerBetween, lowerAfter]
  | cons c rest ih =>
    rw [forall_places_cons, lowerBetween, lowerAfter]
    have ih := ih (c :: done)
    simp only [List.cons_append] at ih
    by_cases hc : c = 'Σ'
    · rw [if_pos hc, if_pos hc, List.singleton_append, List.singleton_append, List.cons.injEq, ih]
      simp [hc]
    · rw [if_neg hc, if_neg hc, List.append_cancel_left_eq, ih]
      simp [hc]

/-- A piece has its own small forms between two texts exactly if its sigmas stay. -/
theorem lowerBetween_eq_lowered_iff (before piece after : List Char) :
    lowerBetween before.reverse piece after = lowered piece ↔ SigmasStay before piece after := by
  have h := lowerBetween_eq_lowerAfter_iff before.reverse [] piece after
  simp only [List.nil_append, List.append_nil] at h
  exact h

theorem SigmasStay.lowered_infix {before piece after : List Char}
    (h : SigmasStay before piece after) :
    lowered piece <:+: lowered (before ++ piece ++ after) := by
  rw [lowered_append₃, (lowerBetween_eq_lowered_iff ..).2 h]
  exact List.infix_append ..

/-! ## Pieces that stand apart -/

/-- A text of which every character is looked past. -/
def isSkipped (s : List Char) : Bool := s.all fun c => inRanges ignorableRanges c.toNat

theorem meetsCased_cons (c : Char) (rest : List Char) :
    meetsCased (c :: rest) =
      if inRanges ignorableRanges c.toNat then meetsCased rest
      else inRanges casedRanges c.toNat := by
  unfold meetsCased
  rw [List.dropWhile_cons]
  by_cases hc : inRanges ignorableRanges c.toNat = true
  · rw [if_pos hc, if_pos hc]
  · rw [if_neg hc, if_neg hc]

/-- What is looked past leads to what stands behind it. -/
theorem meetsCased_append (s t : List Char) :
    meetsCased (s ++ t) = if isSkipped s then meetsCased t else meetsCased s := by
  induction s with
  | nil => rfl
  | cons c rest ih =>
    rw [List.cons_append, meetsCased_cons, meetsCased_cons, ih, isSkipped, isSkipped, List.all_cons]
    by_cases hc : inRanges ignorableRanges c.toNat = true
    · simp [hc]
    · simp [hc]

theorem meetsCased_eq_false_of_isSkipped {s : List Char} (h : isSkipped s = true) :
    meetsCased s = false := by
  have happend := meetsCased_append s []
  rwa [List.append_nil, if_pos h] at happend

theorem meetsCased_append_of_not {t : List Char} (h : meetsCased t = false) (s : List Char) :
    meetsCased (s ++ t) = meetsCased s := by
  rw [meetsCased_append]
  split
  · next hs => rw [h, meetsCased_eq_false_of_isSkipped hs]
  · rfl

/-- A piece with no letter next to it, past what is skipped, has its own small forms. -/
theorem sigmasStay_of_apart {before after : List Char} (hbefore : meetsCased before.reverse = false)
    (hafter : meetsCased after = false) (piece : List Char) : SigmasStay before piece after := by
  intro left right _
  rw [lowerSigma, lowerSigma, meetsCased_append_of_not hbefore, meetsCased_append_of_not hafter]

/-- A capital sigma stands at an edge of the piece, but for what is skipped, and a letter stands
beyond that edge. -/
def SigmaAtEdge (before piece after : List Char) : Prop :=
  ∃ left right, piece = left ++ 'Σ' :: right ∧
    (isSkipped left = true ∧ meetsCased before.reverse = true ∨
      isSkipped right = true ∧ meetsCased after = true)

/-- Only a sigma at an edge can be another one than in the piece alone. -/
theorem sigmaAtEdge_of_not_sigmasStay {before piece after : List Char}
    (h : ¬SigmasStay before piece after) : SigmaAtEdge before piece after := by
  apply Classical.byContradiction
  intro hno
  apply h
  intro left right hpiece
  obtain ⟨hleft, hright⟩ := not_or.1 fun hedge => hno ⟨left, right, hpiece, hedge⟩
  have hl : meetsCased (left.reverse ++ before.reverse) = meetsCased left.reverse := by
    by_cases hs : isSkipped left = true
    · exact meetsCased_append_of_not (Bool.eq_false_iff.2 fun hb => hleft ⟨hs, hb⟩) _
    · rw [meetsCased_append, isSkipped, List.all_reverse, ← isSkipped, if_neg hs]
  have hr : meetsCased (right ++ after) = meetsCased right := by
    by_cases hs : isSkipped right = true
    · exact meetsCased_append_of_not (Bool.eq_false_iff.2 fun ha => hright ⟨hs, ha⟩) _
    · rw [meetsCased_append, if_neg hs]
  rw [lowerSigma, lowerSigma, hl, hr]

end NotesBench.Text

import NotesBench.Proofs.Json.Token

/-!
# Putting values together

The reader goes over octets from one state to another (`Passes`). White space before them and
behind them makes no difference, and a delimiter behind them leads on from there. Octets that are
taken in as a value wherever one may stand (`TakenAs`) can be put together to the items of an array
and to the members of an object, with any white space between the tokens.
-/

namespace NotesBench.Json

open Text (Octets)
open Source (State Frame Reader)

/-! ## From state to state -/

/-- The octets hold nothing but white space. -/
def IsGap (gap : Octets) : Prop := ∀ b ∈ gap, isGap b = true

/-- Over the octets the reader goes from one state to another. Behind a number this shows only when
the next octet comes. -/
def Passes (st : State) (bytes : Octets) (st' : State) : Prop :=
  ∃ r, Reader.run? ⟨.between, st⟩ bytes = some r ∧ r.IsBehind st'

theorem step?_of_isGap {b : UInt8} (h : isGap b = true) (st : State) :
    Reader.step? ⟨.between, st⟩ b = some ⟨.between, st⟩ := by
  simp [Reader.step?, scanFirst?, h, Reader.settle?]

theorem run?_of_isGap {gap : Octets} (h : IsGap gap) (st : State) (rest : Octets) :
    Reader.run? ⟨.between, st⟩ (gap ++ rest) = Reader.run? ⟨.between, st⟩ rest := by
  induction gap with
  | nil => rfl
  | cons b gap ih =>
    obtain ⟨hb, hgap⟩ := List.forall_mem_cons.1 h
    rw [List.cons_append, run?_cons, step?_of_isGap hb, Option.bind_some, ih hgap]

/-- An octet that is a token of its own. -/
theorem step?_of_scanFirst? {b : UInt8} {token : Token}
    (hb : scanFirst? b = some (.between, some token)) {st st' : State}
    (h : st.take? token = some st') :
    Reader.step? ⟨.between, st⟩ b = some ⟨.between, st'⟩ := by
  simp [Reader.step?, hb, Reader.settle?, h]

namespace Passes

variable {st st₁ st₂ st₃ : State} {bytes rest gap : Octets} {b : UInt8} {token : Token}

theorem nil : Passes st [] st := ⟨_, rfl, isBehind_between st⟩

theorem gap_before (hgap : IsGap gap) (h : Passes st bytes st₁) : Passes st (gap ++ bytes) st₁ := by
  obtain ⟨r, hr, hbehind⟩ := h
  exact ⟨r, by rw [run?_of_isGap hgap, hr], hbehind⟩

theorem gap_behind (h : Passes st bytes st₁) (hgap : IsGap gap) : Passes st (bytes ++ gap) st₁ := by
  cases gap with
  | nil => rwa [List.append_nil]
  | cons b gap =>
    obtain ⟨r, hr, hbehind⟩ := h
    obtain ⟨hb, hgap⟩ := List.forall_mem_cons.1 hgap
    have hends : isDelimiter b = true := by simp [isDelimiter, hb]
    refine ⟨⟨.between, st₁⟩, ?_, isBehind_between st₁⟩
    rw [run?_append, hr, Option.bind_some, run?_cons, hbehind.step b hends, step?_of_isGap hb,
      Option.bind_some, ← List.append_nil gap, run?_of_isGap hgap]
    rfl

/-- A token of one octet comes first. -/
theorem token_before (hb : scanFirst? b = some (.between, some token))
    (htoken : st.take? token = some st₁) (h : Passes st₁ rest st₂) : Passes st (b :: rest) st₂ := by
  obtain ⟨r, hr, hbehind⟩ := h
  exact ⟨r, by rw [run?_cons, step?_of_scanFirst? hb htoken, Option.bind_some, hr], hbehind⟩

/-- A token of one octet ends what stands before it, a number also. -/
theorem append_token (h : Passes st bytes st₁) (hb : scanFirst? b = some (.between, some token))
    (hends : isDelimiter b = true) (htoken : st₁.take? token = some st₂)
    (h' : Passes st₂ rest st₃) : Passes st (bytes ++ b :: rest) st₃ := by
  obtain ⟨r, hr, hbehind⟩ := h
  obtain ⟨r', hr', hbehind'⟩ := h'
  refine ⟨r', ?_, hbehind'⟩
  rw [run?_append, hr, Option.bind_some, run?_cons, hbehind.step b hends,
    step?_of_scanFirst? hb htoken, Option.bind_some, hr']

end Passes

/-! ## Values, items and members -/

/-- The state takes any token but a closing bracket as the first one of a value. -/
def AwaitsValue (st : State) (frames : List Frame) : Prop :=
  ∀ token, token ≠ .closeBracket → st.take? token = State.beginValue? frames token

theorem awaitsValue_value (frames : List Frame) : AwaitsValue (.value frames) frames :=
  fun _ _ => rfl

theorem awaitsValue_firstItem (frames : List Frame) :
    AwaitsValue (.firstItem frames) (.array [] :: frames) := by
  intro token h
  cases token <;> first | rfl | exact absurd rfl h

/-- The state takes a text as the name of the next member. -/
def AwaitsMember (st : State) (members : List (Octets × Source)) (frames : List Frame) : Prop :=
  ∀ raw, st.take? (.text raw) = some (.colon members raw frames)

theorem awaitsMember_first (frames : List Frame) : AwaitsMember (.firstMember frames) [] frames :=
  fun _ => rfl

theorem awaitsMember_next (members : List (Octets × Source)) (frames : List Frame) :
    AwaitsMember (.nextMember members frames) members frames :=
  fun _ => rfl

/-- Wherever a value may stand, the octets are taken in as this one. -/
def TakenAs (bytes : Octets) (v : Source) : Prop :=
  ∀ st frames, AwaitsValue st frames → Passes st bytes (.after v frames)

/-- Wherever an item may stand, the octets are taken in as these, and the array may end there. -/
def TakenAsItems (bytes : Octets) (vs : List Source) : Prop :=
  ∀ st items frames, AwaitsValue st (.array items :: frames) →
    ∃ st', Passes st bytes st' ∧
      st'.take? .closeBracket = some (.after (.array (items.reverse ++ vs)) frames)

/-- Wherever a member may stand, the octets are taken in as these, and the object may end there. -/
def TakenAsMembers (bytes : Octets) (ms : List (Octets × Source)) : Prop :=
  ∀ st members frames, AwaitsMember st members frames →
    ∃ st', Passes st bytes st' ∧
      st'.take? .closeBrace = some (.after (.object (members.reverse ++ ms)) frames)

section Parts

variable {bytes rest gap : Octets} {v : Source} {vs : List Source} {ms : List (Octets × Source)}

/-! ### White space -/

theorem TakenAs.gap_before (hgap : IsGap gap) (h : TakenAs bytes v) : TakenAs (gap ++ bytes) v :=
  fun st frames hst => (h st frames hst).gap_before hgap

theorem TakenAsItems.gap_behind (h : TakenAsItems bytes vs) (hgap : IsGap gap) :
    TakenAsItems (bytes ++ gap) vs := by
  intro st items frames hst
  obtain ⟨st', hpasses, hend⟩ := h st items frames hst
  exact ⟨st', hpasses.gap_behind hgap, hend⟩

theorem TakenAsMembers.gap_before (hgap : IsGap gap) (h : TakenAsMembers bytes ms) :
    TakenAsMembers (gap ++ bytes) ms := by
  intro st members frames hst
  obtain ⟨st', hpasses, hend⟩ := h st members frames hst
  exact ⟨st', hpasses.gap_before hgap, hend⟩

theorem TakenAsMembers.gap_behind (h : TakenAsMembers bytes ms) (hgap : IsGap gap) :
    TakenAsMembers (bytes ++ gap) ms := by
  intro st members frames hst
  obtain ⟨st', hpasses, hend⟩ := h st members frames hst
  exact ⟨st', hpasses.gap_behind hgap, hend⟩

/-! ### Items -/

theorem TakenAs.items (h : TakenAs bytes v) : TakenAsItems bytes [v] := by
  intro st items frames hst
  refine ⟨_, h st _ hst, ?_⟩
  rw [← List.reverse_cons]
  rfl

theorem TakenAs.items_cons (h : TakenAs bytes v) (hrest : TakenAsItems rest vs) :
    TakenAsItems (bytes ++ 0x2C :: rest) (v :: vs) := by
  intro st items frames hst
  obtain ⟨st', hpasses, hend⟩ := hrest _ (v :: items) frames (awaitsValue_value _)
  refine ⟨st', (h st _ hst).append_token rfl rfl rfl hpasses, ?_⟩
  rw [hend, List.reverse_cons, List.append_assoc, List.singleton_append]

theorem TakenAsItems.array (h : TakenAsItems bytes vs) :
    TakenAs (0x5B :: (bytes ++ [0x5D])) (.array vs) := by
  intro st frames hst
  obtain ⟨st', hpasses, hend⟩ := h _ [] frames (awaitsValue_firstItem frames)
  have hopen : st.take? .openBracket = some (.firstItem frames) := hst _ (by simp)
  exact .token_before rfl hopen (hpasses.append_token rfl rfl hend .nil)

/-! ### Members -/

/-- A name with its colon. -/
theorem Passes.named {st st' : State} {members : List (Octets × Source)} {frames : List Frame}
    (hst : AwaitsMember st members frames) {name : String}
    (h : Passes (.value (.object members (rawOf name) :: frames)) bytes st') :
    Passes st (octetsOf (quoted name.toList) ++ 0x3A :: bytes) st' := by
  obtain ⟨r, hr, hbehind⟩ := h
  refine ⟨r, ?_, hbehind⟩
  rw [run?_append, run?_quoted, hst, Option.map_some, Option.bind_some, run?_cons, ← hr]
  rfl

theorem TakenAs.members (h : TakenAs bytes v) (name : String) :
    TakenAsMembers (octetsOf (quoted name.toList) ++ 0x3A :: bytes) [(rawOf name, v)] := by
  intro st members frames hst
  refine ⟨_, .named hst (h _ _ (awaitsValue_value _)), ?_⟩
  rw [← List.reverse_cons]
  rfl

theorem TakenAs.members_cons (h : TakenAs bytes v) (name : String)
    (hrest : TakenAsMembers rest ms) :
    TakenAsMembers (octetsOf (quoted name.toList) ++ 0x3A :: (bytes ++ 0x2C :: rest))
      ((rawOf name, v) :: ms) := by
  intro st members frames hst
  obtain ⟨st', hpasses, hend⟩ := hrest _ ((rawOf name, v) :: members) frames (awaitsMember_next _ _)
  have hvalue := (h _ _ (awaitsValue_value (.object members (rawOf name) :: frames))).append_token
    (b := 0x2C) rfl rfl rfl hpasses
  refine ⟨st', .named hst hvalue, ?_⟩
  rw [hend, List.reverse_cons, List.append_assoc, List.singleton_append]

theorem TakenAsMembers.object (h : TakenAsMembers bytes ms) :
    TakenAs (0x7B :: (bytes ++ [0x7D])) (.object ms) := by
  intro st frames hst
  obtain ⟨st', hpasses, hend⟩ := h _ [] frames (awaitsMember_first frames)
  have hopen : st.take? .openBrace = some (.firstMember frames) := hst _ (by simp)
  exact .token_before rfl hopen (hpasses.append_token rfl rfl hend .nil)

end Parts

end NotesBench.Json

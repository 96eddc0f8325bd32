import NotesBench.Service.Operation

/-!
# What operations do

Each operation on the state by what it gives and the state that it leaves. `Store.Grows` says that a
later state still has the accounts, the access tokens and the notes of an earlier one; each of these
operations lets the state grow.
-/

namespace NotesBench.Service

namespace Store

variable {s : Store}

theorem get_bind_on {α : Type} (f : Store → Action α) (s : Store) :
    (MonadState.get >>= f : Action α).on s = (f s).on s := rfl

/-- The state with one account more. -/
def withAccount (s : Store) (salt email password : String) : Store :=
  { s with
    lastUser := s.lastUser + 1
    accounts := s.accounts.insert email ⟨s.lastUser + 1, salt, digest salt password⟩ }

/-- The state with a pair of tokens more. -/
def withTokens (s : Store) (pair : TokenPair) (user : Int) : Store :=
  { s with
    access := s.access.insert pair.access user
    refresh := s.refresh.insert pair.refresh ⟨user, false⟩ }

/-- The next note. -/
def nextNote (s : Store) (user : Int) (title body : String) : Note :=
  ⟨s.lastNote + 1, user, title, body, 1⟩

/-- The state with the next note. -/
def withNote (s : Store) (user : Int) (title body : String) : Store :=
  { s with lastNote := s.lastNote + 1, shelf := s.shelf.put (s.nextNote user title body) }

/-! ## Operations -/

theorem register_on (salt email password : String) (s : Store) :
    (register salt email password).on s =
      if s.accounts.contains email then (.error (.emailTaken email), s)
      else (.ok (s.lastUser + 1), s.withAccount salt email password) := by
  rw [register, get_bind_on]
  split <;> rfl

theorem login_on (pair : TokenPair) {email password : String} {account : Account}
    (ha : s.accounts.find? email = some account)
    (hd : digest account.salt password = account.digest) :
    (login pair email password).on s = (.ok pair, s.withTokens pair account.id) := by
  rw [login, get_bind_on]
  simp only [ha, if_pos hd]
  rfl

theorem addNote_on (user : Int) (title body : String) (s : Store) :
    (addNote user title body).on s =
      (.ok (s.nextNote user title body), s.withNote user title body) :=
  rfl

theorem findNote_on {user id : Int} {note : Note} (h : s.owned? user id = some note) :
    (findNote user id).on s = (.ok note, s) := by
  rw [findNote, get_bind_on, h]
  rfl

/-! ## Growth -/

/-- The later state has all accounts, access tokens and notes of the earlier one. -/
structure Grows (s s' : Store) : Prop where
  accounts : ∀ {email account}, s.accounts.find? email = some account →
    s'.accounts.find? email = some account
  tokens : ∀ {token user}, s.holder? token = some user → s'.holder? token = some user
  notes : ∀ {id note}, s.shelf.find? id = some note → s'.shelf.find? id = some note

namespace Grows

variable {s₁ s₂ s₃ : Store}

theorem refl (s : Store) : Grows s s := ⟨id, id, id⟩

theorem trans (h₁ : Grows s₁ s₂) (h₂ : Grows s₂ s₃) : Grows s₁ s₃ :=
  ⟨h₂.accounts ∘ h₁.accounts, h₂.tokens ∘ h₁.tokens, h₂.notes ∘ h₁.notes⟩

theorem owned? (h : Grows s₁ s₂) {user id : Int} {note : Note}
    (hn : s₁.owned? user id = some note) : s₂.owned? user id = some note := by
  simp only [Store.owned?, Option.filter_eq_some_iff] at hn ⊢
  exact ⟨h.notes hn.1, hn.2⟩

theorem withAccount (salt password : String) {email : String}
    (h : s.accounts.find? email = none) :
    Grows s (s.withAccount salt email password) := by
  refine ⟨fun {other account} ha => ?_, id, id⟩
  have hne : other ≠ email := by
    rintro rfl
    rw [h] at ha
    cases ha
  rw [Store.withAccount, Table.find?_insert, if_neg hne, ha]

/-- A new token does not take anybody's place. -/
theorem withTokens {pair : TokenPair} (h : s.holder? pair.access = none) (user : Int) :
    Grows s (s.withTokens pair user) := by
  refine ⟨id, fun {token holder} ht => ?_, id⟩
  have hne : token ≠ pair.access := by
    rintro rfl
    rw [h] at ht
    cases ht
  rw [Store.withTokens, holder?, Table.find?_insert, if_neg hne]
  exact ht

theorem withNote (h : s.shelf.find? (s.lastNote + 1) = none) (user : Int) (title body : String) :
    Grows s (s.withNote user title body) := by
  refine ⟨id, id, fun {id note} hn => ?_⟩
  have hne : id ≠ (s.nextNote user title body).id := by
    rintro rfl
    rw [nextNote, h] at hn
    cases hn
  rw [Store.withNote, Shelf.find?_put, if_neg hne, hn]

end Grows

theorem find?_withAccount (s : Store) (salt email password : String) :
    (s.withAccount salt email password).accounts.find? email =
      some ⟨s.lastUser + 1, salt, digest salt password⟩ := by
  rw [withAccount, Table.find?_insert, if_pos rfl]

theorem holder?_withTokens (s : Store) (pair : TokenPair) (user : Int) :
    (s.withTokens pair user).holder? pair.access = some user := by
  rw [withTokens, holder?, Table.find?_insert, if_pos rfl]

theorem owned?_withNote (s : Store) (user : Int) (title body : String) :
    (s.withNote user title body).owned? user (s.lastNote + 1) =
      some (s.nextNote user title body) := by
  simp [owned?, withNote, Shelf.find?_put, nextNote]

/-! ## Order -/

/-- What holds of the state when all accounts have one password, and the tokens that were issued
are the first ones of a sequence. -/
structure Orderly (pair : Nat → TokenPair) (password : String) (s : Store) : Prop where
  accounts : ∀ {email account}, s.accounts.find? email = some account →
    digest account.salt password = account.digest
  access : ∀ {token user}, s.holder? token = some user →
    ∃ n < s.refresh.size, token = (pair n).access
  refresh : ∀ {token grant}, s.refresh.find? token = some grant →
    ∃ n < s.refresh.size, token = (pair n).refresh
  notes : ∀ {id note}, s.shelf.find? id = some note → id ≤ s.lastNote
  counted : 0 ≤ s.lastNote

theorem orderly_empty (pair : Nat → TokenPair) (password : String) :
    Orderly pair password {} := by
  constructor <;> simp [Table.find?_empty, Shelf.find?_empty, holder?]

namespace Orderly

variable {pair : Nat → TokenPair} {password : String} (h : Orderly pair password s)
include h

theorem withAccount (salt email : String) :
    Orderly pair password (s.withAccount salt email password) where
  accounts {other account} ha := by
    rw [Store.withAccount, Table.find?_insert] at ha
    split at ha
    · cases ha
      rfl
    · exact h.accounts ha
  access := h.access
  refresh := h.refresh
  notes := h.notes
  counted := h.counted

/-- The next number names no note. -/
theorem find?_lastNote : s.shelf.find? (s.lastNote + 1) = none := by
  cases hf : s.shelf.find? (s.lastNote + 1) with
  | none => rfl
  | some note =>
    have := h.notes hf
    omega

theorem withNote (user : Int) (title body : String) :
    Orderly pair password (s.withNote user title body) where
  accounts := h.accounts
  access := h.access
  refresh := h.refresh
  notes {id note} hn := by
    change id ≤ s.lastNote + 1
    rw [Store.withNote, Shelf.find?_put] at hn
    split at hn
    · next he => exact Int.le_of_eq he
    · exact Int.le_trans (h.notes hn) (by omega)
  counted := Int.le_trans h.counted (Int.le_add_of_nonneg_right (by decide))

/-- The next token stands for nobody. -/
theorem holder?_next (ha : ∀ m n, (pair m).access = (pair n).access → m = n) :
    s.holder? (pair s.refresh.size).access = none := by
  cases hf : s.holder? (pair s.refresh.size).access with
  | none => rfl
  | some user =>
    obtain ⟨n, hn, he⟩ := h.access hf
    exact absurd (ha _ _ he) (Nat.ne_of_gt hn)

section Tokens

variable (hd : ∀ m n, (pair m).refresh = (pair n).refresh → m = n)
include hd

theorem size_withTokens (user : Int) :
    (s.withTokens (pair s.refresh.size) user).refresh.size = s.refresh.size + 1 := by
  refine Table.size_insert_of_find?_eq_none ?_ _
  cases hf : s.refresh.find? (pair s.refresh.size).refresh with
  | none => rfl
  | some grant =>
    obtain ⟨n, hn, he⟩ := h.refresh hf
    exact absurd (hd _ _ he) (Nat.ne_of_gt hn)

theorem withTokens (user : Int) :
    Orderly pair password (s.withTokens (pair s.refresh.size) user) where
  accounts := h.accounts
  access {token holder} ht := by
    rw [h.size_withTokens hd]
    rw [Store.withTokens, holder?, Table.find?_insert] at ht
    split at ht
    · next he => exact ⟨s.refresh.size, by omega, he⟩
    · obtain ⟨n, hn, he⟩ := h.access ht
      exact ⟨n, by omega, he⟩
  refresh {token grant} ht := by
    rw [h.size_withTokens hd]
    rw [Store.withTokens, Table.find?_insert] at ht
    split at ht
    · next he => exact ⟨s.refresh.size, by omega, he⟩
    · obtain ⟨n, hn, he⟩ := h.refresh ht
      exact ⟨n, by omega, he⟩
  notes := h.notes
  counted := h.counted

end Tokens

end Orderly

end Store

end NotesBench.Service

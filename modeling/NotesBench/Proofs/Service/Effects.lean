import NotesBench.Proofs.Service.History
import NotesBench.Proofs.Service.Operations

/-!
# What a deed can do

Every operation by what it gives at any state, refusals included. `Effect` lists all that a deed can
do (`Store.Does.effect`). Of this, `TokenEffect` keeps what can happen to accounts and tokens, and
`NoteEffect` what can happen to the notes; whatever else is asked leaves them as they are.
-/

namespace NotesBench.Service

/-- The note in its next version. -/
def Note.revised (n : Note) (title body : String) : Note :=
  { n with title, body, version := n.version + 1 }

namespace Store

variable {s s' : Store}

/-- The state with a refresh token spent. -/
def withSpent (s : Store) (token : String) (user : Int) : Store :=
  { s with refresh := s.refresh.insert token ⟨user, true⟩ }

/-- The state without an access token. -/
def withoutToken (s : Store) (token : String) : Store :=
  { s with access := s.access.erase token }

/-- The state with another note of the same number. -/
def withRevised (s : Store) (note : Note) : Store := { s with shelf := s.shelf.put note }

/-- The state without a note. -/
def withoutNote (s : Store) (id : Int) : Store := { s with shelf := s.shelf.erase id }

/-! ## Operations -/

theorem map_on {α β : Type} (f : α → β) (action : Action α) (s : Store) :
    (f <$> action).on s = ((action.on s).1.map f, (action.on s).2) := by
  unfold Action.on
  rw [ExceptT.run_map, StateT.run_map]
  rfl

theorem login_on_eq (pair : TokenPair) (email password : String) (s : Store) :
    (login pair email password).on s =
      match s.accounts.find? email with
      | some account =>
        if digest account.salt password = account.digest then
          (.ok pair, s.withTokens pair account.id)
        else (.error .wrongCredentials, s)
      | none => (.error .wrongCredentials, s) := by
  rw [login, get_bind_on]
  cases s.accounts.find? email with
  | none => rfl
  | some account =>
    dsimp only
    split <;> rfl

theorem rotate_on (pair : TokenPair) (token : String) (s : Store) :
    (rotate pair token).on s =
      match s.refresh.find? token with
      | some ⟨user, false⟩ => (.ok pair, (s.withSpent token user).withTokens pair user)
      | some ⟨_, true⟩ => (.error .spentToken, s)
      | none => (.error .unknownToken, s) := by
  rw [rotate, get_bind_on]
  rcases s.refresh.find? token with _ | ⟨user, _ | _⟩ <;> rfl

theorem logout_on (token : String) (s : Store) :
    (logout token).on s =
      match s.holder? token with
      | some _ => (.ok (), s.withoutToken token)
      | none => (.error .unknownToken, s) := by
  rw [logout, get_bind_on, Table.contains, holder?]
  cases s.access.find? token <;> rfl

theorem findNote_on_eq (user id : Int) (s : Store) :
    (findNote user id).on s =
      match s.owned? user id with
      | some note => (.ok note, s)
      | none => (.error (.noNote id), s) := by
  rw [findNote, get_bind_on]
  cases s.owned? user id <;> rfl

theorem changeNote_on (user id : Int) (title body : String) (s : Store) :
    (changeNote user id title body).on s =
      match s.owned? user id with
      | some note => (.ok (note.revised title body), s.withRevised (note.revised title body))
      | none => (.error (.noNote id), s) := by
  rw [changeNote, findNote, bind_assoc, get_bind_on]
  cases s.owned? user id <;> rfl

theorem removeNote_on (user id : Int) (s : Store) :
    (removeNote user id).on s =
      match s.owned? user id with
      | some note => (.ok note, s.withoutNote id)
      | none => (.error (.noNote id), s) := by
  rw [removeNote, findNote, bind_assoc, get_bind_on]
  cases s.owned? user id <;> rfl

end Store

/-! ## Deeds -/

/-- Everything that can be done to the state. -/
inductive Effect (s : Store) : Deed → Store → Prop where
  | register {email password salt : String} (free : s.accounts.find? email = none) :
    Effect s ⟨.register email password, .ok (.registered (s.lastUser + 1))⟩
      (s.withAccount salt email password)
  | login {email password : String} {pair : TokenPair} {account : Account}
    (known : s.accounts.find? email = some account)
    (right : digest account.salt password = account.digest) :
    Effect s ⟨.login email password, .ok (.tokens pair)⟩ (s.withTokens pair account.id)
  | rotate {token : String} {pair : TokenPair} {user : Int}
    (unspent : s.refresh.find? token = some ⟨user, false⟩) :
    Effect s ⟨.rotate token, .ok (.tokens pair)⟩ ((s.withSpent token user).withTokens pair user)
  | logout {token : String} {user : Int} (held : s.holder? token = some user) :
    Effect s ⟨.logout token, .ok .done⟩ (s.withoutToken token)
  | holder (token : String) : Effect s ⟨.holder token, .ok (.holder (s.holder? token))⟩ s
  | userCount : Effect s ⟨.userCount, .ok (.count s.userCount)⟩ s
  | addNote (user : Int) (title body : String) :
    Effect s ⟨.addNote user title body, .ok (.note (s.nextNote user title body))⟩
      (s.withNote user title body)
  | findNote {user id : Int} {note : Note} (owned : s.owned? user id = some note) :
    Effect s ⟨.findNote user id, .ok (.note note)⟩ s
  | changeNote {user id : Int} {note : Note} (title body : String)
    (owned : s.owned? user id = some note) :
    Effect s ⟨.changeNote user id title body, .ok (.note (note.revised title body))⟩
      (s.withRevised (note.revised title body))
  | removeNote {user id : Int} {note : Note} (owned : s.owned? user id = some note) :
    Effect s ⟨.removeNote user id, .ok (.note note)⟩ (s.withoutNote id)
  | listing (user : Int) (page size : Nat) (q : String) :
    Effect s ⟨.listing user page size q,
      .ok (.page (s.listing user page size q).1 (s.listing user page size q).2)⟩ s
  /-- A refused operation leaves the state as it is. -/
  | refused (operation : Operation) (refusal : Refusal) : Effect s ⟨operation, .error refusal⟩ s

theorem Store.Does.effect {s s' : Store} {d : Deed} (h : s.Does d s') : Effect s d s' := by
  obtain ⟨operation, answer⟩ := d
  obtain ⟨draw, h⟩ := h
  cases operation with
  | register email password =>
    rw [Operation.perform, Store.map_on, Store.register_on] at h
    split at h
    · cases h
      exact .refused _ _
    · next hc =>
      cases h
      exact .register (by simpa [Table.contains] using hc)
  | login email password =>
    rw [Operation.perform, Store.map_on, Store.login_on_eq] at h
    split at h
    · next account known =>
      split at h
      · next right =>
        cases h
        exact .login known right
      · cases h
        exact .refused _ _
    · cases h
      exact .refused _ _
  | rotate token =>
    rw [Operation.perform, Store.map_on, Store.rotate_on] at h
    split at h
    · next user unspent =>
      cases h
      exact .rotate unspent
    · cases h
      exact .refused _ _
    · cases h
      exact .refused _ _
  | logout token =>
    rw [Operation.perform, bind_pure_comp, Store.map_on, Store.logout_on] at h
    split at h
    · next user held =>
      cases h
      exact .logout held
    · cases h
      exact .refused _ _
  | holder token =>
    cases h
    exact .holder token
  | userCount =>
    cases h
    exact .userCount
  | addNote user title body =>
    cases h
    exact .addNote user title body
  | findNote user id =>
    rw [Operation.perform, Store.map_on, Store.findNote_on_eq] at h
    split at h
    · next note owned =>
      cases h
      exact .findNote owned
    · cases h
      exact .refused _ _
  | changeNote user id title body =>
    rw [Operation.perform, Store.map_on, Store.changeNote_on] at h
    split at h
    · next note owned =>
      cases h
      exact .changeNote title body owned
    · cases h
      exact .refused _ _
  | removeNote user id =>
    rw [Operation.perform, Store.map_on, Store.removeNote_on] at h
    split at h
    · next note owned =>
      cases h
      exact .removeNote owned
    · cases h
      exact .refused _ _
  | listing user page size q =>
    cases h
    exact .listing user page size q

theorem Store.Does.eq_of_refused {s s' : Store} {operation : Operation} {refusal : Refusal}
    (h : s.Does ⟨operation, .error refusal⟩ s') : s' = s := by
  cases h.effect
  rfl

/-! ## Accounts and tokens -/

/-- An answer that gives no account and no tokens and takes none away. -/
def Deed.IsQuiet (d : Deed) : Prop :=
  (∀ id, d.answer ≠ .ok (.registered id)) ∧ (∀ pair, d.answer ≠ .ok (.tokens pair)) ∧
    d.answer ≠ .ok .done

/-- What a deed can do to accounts and tokens. -/
inductive TokenEffect (s : Store) : Deed → Store → Prop where
  | register {email password salt : String} (free : s.accounts.find? email = none) :
    TokenEffect s ⟨.register email password, .ok (.registered (s.lastUser + 1))⟩
      (s.withAccount salt email password)
  | login {email password : String} {pair : TokenPair} {account : Account}
    (known : s.accounts.find? email = some account) :
    TokenEffect s ⟨.login email password, .ok (.tokens pair)⟩ (s.withTokens pair account.id)
  | rotate {token : String} {pair : TokenPair} {user : Int}
    (unspent : s.refresh.find? token = some ⟨user, false⟩) :
    TokenEffect s ⟨.rotate token, .ok (.tokens pair)⟩
      ((s.withSpent token user).withTokens pair user)
  | logout {token : String} {user : Int} (held : s.holder? token = some user) :
    TokenEffect s ⟨.logout token, .ok .done⟩ (s.withoutToken token)
  | aside {d : Deed} {s' : Store} (quiet : d.IsQuiet) (accounts : s'.accounts = s.accounts)
    (access : s'.access = s.access) (refresh : s'.refresh = s.refresh) : TokenEffect s d s'

/-- A deed that leaves the state as it is. -/
theorem TokenEffect.still {s : Store} {d : Deed} (quiet : d.IsQuiet) : TokenEffect s d s :=
  .aside quiet rfl rfl rfl

theorem Store.Does.tokenEffect {s s' : Store} {d : Deed} (h : s.Does d s') :
    TokenEffect s d s' := by
  cases h.effect with
  | register free => exact .register free
  | login known _ => exact .login known
  | rotate unspent => exact .rotate unspent
  | logout held => exact .logout held
  | addNote | changeNote | removeNote => exact .aside ⟨nofun, nofun, nofun⟩ rfl rfl rfl
  | holder | userCount | findNote | listing | refused => exact .still ⟨nofun, nofun, nofun⟩

/-! ## Notes -/

/-- Whether the operation writes a new note. -/
def Operation.isNew : Operation → Bool
  | .addNote .. => true
  | _ => false

/-- What a step can do to the notes. The pair is the owner and the number of the note that is no
longer what it was. -/
inductive NoteEffect (s : Store) : Option (Int × Int) → Store → Prop where
  | aside {s' : Store} (shelf : s'.shelf = s.shelf) (last : s'.lastNote = s.lastNote) :
    NoteEffect s none s'
  | add (user : Int) (title body : String) : NoteEffect s none (s.withNote user title body)
  | change {user id : Int} {note : Note} (title body : String)
    (owned : s.owned? user id = some note) :
    NoteEffect s (some (user, id)) (s.withRevised (note.revised title body))
  | remove {user id : Int} {note : Note} (owned : s.owned? user id = some note) :
    NoteEffect s (some (user, id)) (s.withoutNote id)

/-- The owner and the number of the note that a deed has changed or removed. -/
def Deed.touched? (d : Deed) : Option (Int × Int) :=
  match d.operation, d.answer with
  | .changeNote user id _ _, .ok _ | .removeNote user id, .ok _ => some (user, id)
  | _, _ => none

theorem Store.Does.noteEffect {s s' : Store} {d : Deed} (h : s.Does d s') :
    NoteEffect s d.touched? s' := by
  cases h.effect with
  | addNote user title body => exact .add user title body
  | changeNote title body owned => exact .change title body owned
  | removeNote owned => exact .remove owned
  | refused operation refusal => cases operation <;> exact .aside rfl rfl
  | register | login | rotate | logout | holder | userCount | findNote | listing =>
    exact .aside rfl rfl

/-- A run by what it does to the notes. -/
theorem Leads.effects {s s' : Store} {past : List Deed} (h : Leads s past s') :
    Steps NoteEffect s (past.map Deed.touched?) s' :=
  h.map Deed.touched? Store.Does.noteEffect

end NotesBench.Service

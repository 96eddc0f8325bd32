import NotesBench.Proofs.Checksum
import NotesBench.Proofs.Service.Effects
import NotesBench.Proofs.Text.Utf8

/-!
# What a password is good for

An account keeps a checksum of its salt and its password. Among passwords of one length in octets
the salt makes no difference (`digest_eq_iff`): those with the checksum of the registered one are
accepted and all others are refused, at every moment after the registration, and so are all
passwords for an address that was never registered. Two states that differ in their salts only
therefore answer these logins alike (`passwords_told_by_checksum`).
-/

namespace NotesBench.Service

open Text (Utf8.encode)

/-- Passwords of one length are told apart as their checksums are, whatever the salt. -/
theorem digest_eq_iff {password other : String}
    (hlen : (Utf8.encode other).length = (Utf8.encode password).length) (salt : String) :
    digest salt other = digest salt password ↔
      Checksum.ofText other = Checksum.ofText password := by
  simp only [digest, Checksum.ofText, Text.Utf8.encode_append]
  exact Checksum.crc32_append_eq_iff hlen _

namespace Store

variable {s s' t : Store} {d : Deed} {past : List Deed} {email password other : String} {id : Int}

/-- The address has an account of that number with the password, and with some salt. -/
def HasAccount (s : Store) (email password : String) (id : Int) : Prop :=
  ∃ salt, s.accounts.find? email = some ⟨id, salt, digest salt password⟩

theorem hasAccount_withAccount (s : Store) (salt email password : String) :
    (s.withAccount salt email password).HasAccount email password (s.lastUser + 1) :=
  ⟨salt, find?_withAccount s salt email password⟩

/-- No operation changes an account. -/
theorem HasAccount.step (h : s.HasAccount email password id) (he : TokenEffect s d s') :
    s'.HasAccount email password id := by
  obtain ⟨salt, hfound⟩ := h
  refine ⟨salt, ?_⟩
  cases he with
  | @register taken _ _ free =>
    have hne : email ≠ taken := by
      rintro rfl
      rw [free] at hfound
      cases hfound
    rw [withAccount, Table.find?_insert, if_neg hne, hfound]
  | login | rotate | logout => exact hfound
  | aside _ accounts => rw [accounts, hfound]

theorem hasAccount_of_leads (h : Leads s past s')
    (registered : ⟨.register email password, .ok (.registered id)⟩ ∈ past) :
    s'.HasAccount email password id := by
  obtain ⟨before, since, rfl⟩ := List.append_of_mem registered
  obtain ⟨s₁, -, hrest⟩ := h.exists_between
  obtain ⟨s₂, hdoes, hsince⟩ := hrest.exists_first
  have hnew : s₂.HasAccount email password id := by
    cases hdoes.effect with
    | register free => exact hasAccount_withAccount s₁ _ email password
  exact hsince.keeps (I := fun s => s.HasAccount email password id) hnew
    fun hkept hstep => hkept.step hstep.tokenEffect

/-- Only a registration makes an account. -/
theorem registered_of_leads (h : Leads {} past s) (known : s.accounts.find? email ≠ none) :
    ∃ password id, ⟨.register email password, .ok (.registered id)⟩ ∈ past := by
  induction h with
  | refl => exact absurd rfl known
  | @snoc s₁ _ past d _ hdoes ih =>
    have hold (hknown : s₁.accounts.find? email ≠ none) :
        ∃ password id, ⟨.register email password, .ok (.registered id)⟩ ∈ past ++ [d] := by
      obtain ⟨password, id, hmem⟩ := ih hknown
      exact ⟨password, id, List.mem_append_left _ hmem⟩
    cases hdoes.tokenEffect with
    | @register taken password salt free =>
      rw [withAccount, Table.find?_insert] at known
      by_cases he : email = taken
      · subst he
        exact ⟨password, s₁.lastUser + 1, by simp⟩
      · rw [if_neg he] at known
        exact hold known
    | login | rotate | logout => exact hold known
    | aside _ accounts => exact hold (accounts ▸ known)

/-! ## Logins -/

theorem login_perform (draw : Draw) (email password : String) (s : Store) :
    ((Operation.login email password).perform draw).on s =
      match s.accounts.find? email with
      | some account =>
        if digest account.salt password = account.digest then
          (.ok (.tokens draw.pair), s.withTokens draw.pair account.id)
        else (.error .wrongCredentials, s)
      | none => (.error .wrongCredentials, s) := by
  rw [Operation.perform, map_on, login_on_eq]
  cases s.accounts.find? email with
  | none => rfl
  | some account =>
    dsimp only
    split <;> rfl

/-- The login succeeds, and its tokens are the user's. -/
def LogsIn (s : Store) (draw : Draw) (email password : String) (user : Int) : Prop :=
  ∃ s', ((Operation.login email password).perform draw).on s = (.ok (.tokens draw.pair), s') ∧
    s'.holder? draw.pair.access = some user ∧
    s'.refresh.find? draw.pair.refresh = some ⟨user, false⟩

/-- The login is refused, and nothing comes of it. -/
def RefusesLogin (s : Store) (draw : Draw) (email password : String) : Prop :=
  ((Operation.login email password).perform draw).on s = (.error .wrongCredentials, s)

theorem refusesLogin_of_unknown (unknown : s.accounts.find? email = none) (draw : Draw)
    (password : String) : s.RefusesLogin draw email password := by
  rw [RefusesLogin, login_perform, unknown]

namespace HasAccount

variable (h : s.HasAccount email password id)
  (hlen : (Utf8.encode other).length = (Utf8.encode password).length)
include h hlen

theorem login_perform (draw : Draw) :
    ((Operation.login email other).perform draw).on s =
      if Checksum.ofText other = Checksum.ofText password then
        (.ok (.tokens draw.pair), s.withTokens draw.pair id)
      else (.error .wrongCredentials, s) := by
  obtain ⟨salt, hfound⟩ := h
  rw [Store.login_perform, hfound]
  simp only [digest_eq_iff hlen]

theorem logsIn_iff (draw : Draw) :
    s.LogsIn draw email other id ↔ Checksum.ofText other = Checksum.ofText password := by
  constructor
  · rintro ⟨s', hlogin, -⟩
    apply Decidable.byContradiction
    intro hne
    rw [h.login_perform hlen, if_neg hne] at hlogin
    cases hlogin
  · intro hsum
    refine ⟨s.withTokens draw.pair id, ?_, holder?_withTokens s draw.pair id, ?_⟩
    · rw [h.login_perform hlen, if_pos hsum]
    · rw [withTokens, Table.find?_insert, if_pos rfl]

theorem refusesLogin (draw : Draw) (hne : Checksum.ofText other ≠ Checksum.ofText password) :
    s.RefusesLogin draw email other := by
  rw [RefusesLogin, h.login_perform hlen, if_neg hne]

end HasAccount

/-- How logins fare for an address that was registered with the password. -/
structure ChecksPassword (s : Store) (email password : String) (user : Int) : Prop where
  own : ∀ draw, s.LogsIn draw email password user
  accepted : ∀ draw other, (Utf8.encode other).length = (Utf8.encode password).length →
    (s.LogsIn draw email other user ↔ Checksum.ofText other = Checksum.ofText password)
  refused : ∀ draw other, (Utf8.encode other).length = (Utf8.encode password).length →
    Checksum.ofText other ≠ Checksum.ofText password → s.RefusesLogin draw email other

theorem HasAccount.checksPassword (h : s.HasAccount email password id) :
    s.ChecksPassword email password id where
  own draw := (h.logsIn_iff rfl draw).2 rfl
  accepted draw _ hlen := h.logsIn_iff hlen draw
  refused draw _ hlen := h.refusesLogin hlen draw

/-! ## Other salts -/

/-- The states have accounts with the same numbers and passwords, whatever their salts, and have all
else in common. -/
structure SameButSalts (passwords : String → String) (s t : Store) : Prop where
  accounts : ∀ email, s.accounts.find? email = none ∧ t.accounts.find? email = none ∨
    ∃ id, s.HasAccount email (passwords email) id ∧ t.HasAccount email (passwords email) id
  access : s.access = t.access
  refresh : s.refresh = t.refresh
  shelf : s.shelf = t.shelf
  lastUser : s.lastUser = t.lastUser
  lastNote : s.lastNote = t.lastNote

theorem SameButSalts.withTokens {passwords : String → String} (h : s.SameButSalts passwords t)
    (pair : TokenPair) (user : Int) :
    (s.withTokens pair user).SameButSalts passwords (t.withTokens pair user) where
  accounts := h.accounts
  access := by rw [Store.withTokens, h.access]; rfl
  refresh := by rw [Store.withTokens, h.refresh]; rfl
  shelf := h.shelf
  lastUser := h.lastUser
  lastNote := h.lastNote

/-- A login with a password of the registered length has one answer, whatever the salts are. -/
theorem SameButSalts.login {passwords : String → String} (h : s.SameButSalts passwords t)
    (draw : Draw) (hlen : (Utf8.encode password).length = (Utf8.encode (passwords email)).length) :
    (((Operation.login email password).perform draw).on s).1 =
        (((Operation.login email password).perform draw).on t).1 ∧
      (((Operation.login email password).perform draw).on s).2.SameButSalts passwords
        (((Operation.login email password).perform draw).on t).2 := by
  rcases h.accounts email with ⟨hs, ht⟩ | ⟨id, hs, ht⟩
  · rw [refusesLogin_of_unknown hs draw, refusesLogin_of_unknown ht draw]
    exact ⟨rfl, h⟩
  · rw [hs.login_perform hlen, ht.login_perform hlen]
    split
    · exact ⟨rfl, h.withTokens draw.pair id⟩
    · exact ⟨rfl, h⟩

end Store

/-! ## Whole runs -/

/-- After any run, with any salts: an address lets in those passwords of the registered length that
have the checksum of the registered one, and an address that was not registered lets nobody in.
States that differ in their salts only answer logins of the registered lengths alike. -/
theorem passwords_told_by_checksum :
    (∀ past s, Leads {} past s →
      (∀ email password id, ⟨.register email password, .ok (.registered id)⟩ ∈ past →
        s.ChecksPassword email password id) ∧
      ∀ email, (∀ password id, ⟨.register email password, .ok (.registered id)⟩ ∉ past) →
        ∀ draw password, s.RefusesLogin draw email password) ∧
    ∀ passwords s t, s.SameButSalts passwords t → ∀ draw email password,
      (Utf8.encode password).length = (Utf8.encode (passwords email)).length →
        (((Operation.login email password).perform draw).on s).1 =
            (((Operation.login email password).perform draw).on t).1 ∧
          (((Operation.login email password).perform draw).on s).2.SameButSalts passwords
            (((Operation.login email password).perform draw).on t).2 := by
  refine ⟨fun past s h => ⟨fun email password id registered => ?_, fun email never => ?_⟩, ?_⟩
  · exact (Store.hasAccount_of_leads h registered).checksPassword
  · intro draw password
    apply Store.refusesLogin_of_unknown
    apply Decidable.byContradiction
    intro known
    obtain ⟨first, id, hmem⟩ := Store.registered_of_leads h known
    exact never first id hmem
  · intro passwords s t h draw email password hlen
    exact h.login draw hlen

/-- A registration with a salt. -/
def salted (salt : String) : List (Draw × Operation) :=
  [(⟨salt, default⟩, .register "ada@example.com" "plumless")]

/-- Two words of one length with one checksum. Either opens the account of the other, with one salt
as with another; a third word does not. -/
theorem another_word_opens_the_account :
    (perform (salted "salt") {}).2.LogsIn default "ada@example.com" "buckeroo" 1 ∧
      (perform (salted "salt") {}).2.RefusesLogin default "ada@example.com" "password" ∧
      (((Operation.login "ada@example.com" "buckeroo").perform default).on
          (perform (salted "salt") {}).2).1 =
        (((Operation.login "ada@example.com" "buckeroo").perform default).on
          (perform (salted "pepper") {}).2).1 := by
  have hleads (salt : String) : Leads {} (deeds (salted salt) {}) (perform (salted salt) {}).2 :=
    leads_perform (salted salt) {}
  have hregistered (salt : String) :
      ⟨.register "ada@example.com" "plumless", .ok (.registered 1)⟩ ∈ deeds (salted salt) {} :=
    List.mem_cons_self
  obtain ⟨hruns, hsalts⟩ := passwords_told_by_checksum
  have hchecks := (hruns _ _ (hleads "salt")).1 _ _ _ (hregistered "salt")
  have hsame : (perform (salted "salt") {}).2.SameButSalts (fun _ => "plumless")
      (perform (salted "pepper") {}).2 := by
    refine ⟨fun email => ?_, rfl, rfl, rfl, rfl, rfl⟩
    by_cases he : email = "ada@example.com"
    · subst he
      exact .inr ⟨1, ⟨"salt", rfl⟩, ⟨"pepper", rfl⟩⟩
    · refine .inl ⟨?_, ?_⟩
      · exact (Table.find?_insert ..).trans (if_neg he)
      · exact (Table.find?_insert ..).trans (if_neg he)
  refine ⟨?_, ?_, ?_⟩
  · exact (hchecks.accepted default "buckeroo" (by decide +kernel)).2 (by decide +kernel)
  · exact hchecks.refused default "password" (by decide +kernel) (by decide +kernel)
  · exact (hsalts _ _ _ hsame default "ada@example.com" "buckeroo" (by decide +kernel)).1

end NotesBench.Service

import NotesBench.Proofs.Load.Answering
import NotesBench.Proofs.Load.Gathering
import NotesBench.Proofs.Load.Shape

/-!
# An iteration among others

Users of the same journey disturb each other little: the service only grows by accounts, tokens and
notes, and nobody gets the token or the number of another (`userCustom`). So whatever the others do
between two of its requests, an iteration finds its account, its token and its note, and records
what `Settings.outcome` says (`sure_iteration`).
-/

namespace NotesBench.Load

open Http (Url)
open Service (Settings Store Note)
open Dialogue (records call)

/-! ## Journeys that suit a service -/

/-- What users of a journey need of a service: it takes in their accounts and their note. -/
structure Journey.Suits (j : Journey) (settings : Settings) : Prop where
  accounts : 0 < j.accounts
  password : settings.acceptsPassword j.password = true
  emails : ∀ index, (Text.Utf8.encode (j.start index).account.email).length ≤ settings.maxEmail
  credentials : ∀ index, (j.start index).account.json.octets.length ≤ settings.maxBody
  title : Text.trim j.note.title ≠ ""
  note : j.note.json.octets.length ≤ settings.maxBody
  status : 200 ≤ settings.healthStatus ∧ settings.healthStatus ≤ 599

/-- No token is drawn twice, and tokens consist of visible characters. -/
structure Supply.IsDistinct (supply : Supply) : Prop where
  access : ∀ m n, (supply.pair m).access = (supply.pair n).access → m = n
  refresh : ∀ m n, (supply.pair m).refresh = (supply.pair n).refresh → m = n
  plain : ∀ n, Http.IsPlain (supply.pair n).access

/-- The address of an account. -/
def userEmail (k : Nat) : String := "u" ++ Text.natText k ++ "@t.io"

theorem toList_userEmail (k : Nat) :
    (userEmail k).toList = 'u' :: Nat.toDigits 10 k ++ '@' :: "t.io".toList := by
  simp [userEmail]

theorem trim_userEmail (k : Nat) : Text.trim (userEmail k) = userEmail k := by
  refine Http.trim_eq_self fun c hc => ?_
  rw [toList_userEmail, List.mem_append] at hc
  have hu : Text.isBlank 'u' = false := by decide
  have hd : ∀ c ∈ '@' :: "t.io".toList, Text.isBlank c = false := by simp [Text.isBlank]
  rcases hc with hc | hc
  · rcases List.mem_cons.1 hc with rfl | hc
    · exact hu
    · exact Http.isBlank_of_isVisible
        (Http.isVisible_of_isDigit (Text.isDigit_of_mem_toDigits hc))
  · exact hd c hc

theorem hasTwoParts_userEmail (k : Nat) : Service.hasTwoParts (userEmail k) = true := by
  have hat : '@' ∉ 'u' :: Nat.toDigits 10 k := by
    intro h
    rcases List.mem_cons.1 h with h | h
    · exact absurd h (by decide)
    · exact absurd (Text.isDigit_of_mem_toDigits h) (by decide)
  have hcut : Text.cutAt '@' (userEmail k).toList =
      some ('u' :: Nat.toDigits 10 k, "t.io".toList) :=
    Text.cutAt_eq_some_iff.2 ⟨hat, toList_userEmail k⟩
  simp [Service.hasTwoParts, hcut]

theorem Journey.Suits.account {j : Journey} {settings : Settings} (h : j.Suits settings)
    (index : Nat) : (j.start index).account.Suits settings where
  trimmed := trim_userEmail _
  email := by
    have := h.emails index
    simp [Settings.acceptsEmail, this]
    exact hasTwoParts_userEmail _
  password := h.password
  fits := h.credentials index

/-! ## What is recorded -/

/-- The outcome of a check in an iteration that is taken at the service. -/
def outcome (settings : Settings) : Check → Outcome
  | .health =>
    if settings.healthStatus = 204 then .pass
    else .fail (.unexpectedStatus settings.healthStatus)
  | .register | .loginStatus | .loginToken | .noteCreate => .pass
  | .noteId | .noteGet => if settings.hideNoteId then .fail (.missing "note id") else .pass
  | .noteEtag | .noteNotModified =>
    if settings.hideNoteId then .fail (.missing "note id")
    else if settings.hideEtag then .fail (.missing "etag")
    else .pass

/-- The records of steps with these outcomes. -/
def recordsFor (settings : Settings) (steps : List Step) : List Record :=
  (steps.flatMap Step.checks).map fun c => (c, outcome settings c)

/-! ## The custom of users -/

/-- What users keep to: the service only grows, and its order is kept. Numbers of notes are used
up. -/
def userCustom (supply : Supply) (password : String) : Custom Store where
  keeps s s' := s.Grows s' ∧ (s.Orderly supply.pair password → s'.Orderly supply.pair password)
  refl s := ⟨.refl s, id⟩
  trans h₁ h₂ := ⟨h₁.1.trans h₂.1, h₂.2 ∘ h₁.2⟩
  used s := s.lastNote.toNat
  room := Text.signedEnd - 1

namespace Journey

/-- Steps of a journey come to their end with their outcomes, whatever other users do meanwhile. -/
def IsSure (j : Journey) (u : Url) (settings : Settings) (supply : Supply) (steps : List Step)
    (p : Progress) (ticket : Bool) (s : Store) : Prop :=
  (userCustom supply j.password).Sure (Target.notes u settings supply) (j.takeAll steps p) ticket
    (recordsFor settings steps) .completed s

variable {j : Journey} {u : Url} {settings : Settings} {supply : Supply} {step : Step}
  {steps : List Step} {p : Progress} {ticket : Bool} {s : Store}

theorem recordsFor_cons (settings : Settings) (step : Step) (steps : List Step) :
    recordsFor settings (step :: steps) =
      recordsFor settings [step] ++ recordsFor settings steps := by
  simp [recordsFor]

/-- A step is sure if its call is answered as it should be at every state that the others may have
left, and the steps behind it are sure then. -/
theorem isSure_of_answers (hat : j.client.IsAt u) {c : Call} (hturn : j.turn p step = .asking c)
    (hc : c.IsPlain)
    (h : ∀ s', (userCustom supply j.password).keeps s s' →
      (ticket = true → s'.lastNote.toNat < Text.signedEnd - 1) →
      ∃ reply s'' kept,
        (Target.notes u settings supply).Answers (Client.outgoing u c) s' reply s'' ∧
        (userCustom supply j.password).keeps s' s'' ∧
        s''.lastNote.toNat + kept.toNat ≤ s'.lastNote.toNat + ticket.toNat ∧
        step.judge (.ok reply) = recordsFor settings [step] ∧ step.flow (.ok reply) = .onward ∧
        j.IsSure u settings supply steps (p.learn step (.ok reply)) kept s'') :
    j.IsSure u settings supply (step :: steps) p ticket s := by
  rw [IsSure, j.takeAll_cons_of_turn_eq hturn, call, Client.build_eq hat hc, recordsFor_cons]
  intro s' hk hroom
  obtain ⟨reply, s'', kept, ⟨response, hr, rfl⟩, hk', hused, hj, hf, hs⟩ := h s' hk hroom
  rw [hr]
  refine ⟨hk', kept, hused, ?_⟩
  rw [← hj]
  refine Custom.sure_records ?_
  rw [hf]
  exact hs

/-- A step that lacks something is sure if that is what its outcomes say. -/
theorem isSure_of_lacking {what : String} (hturn : j.turn p step = .lacking what)
    (hj : step.failed (.missing what) = recordsFor settings [step])
    (hs : j.IsSure u settings supply steps p ticket s) :
    j.IsSure u settings supply (step :: steps) p ticket s := by
  rw [IsSure, takeAll_cons, take_eq, hturn, recordsFor_cons, ← hj, carryOut, bind_assoc]
  exact Custom.sure_records hs

theorem isSure_pace : j.IsSure u settings supply [.pace] p ticket s := ⟨rfl, rfl⟩

/-! ## Steps with a note -/

/-- What is known of a note that was made: the token stands for its owner. -/
structure Owns (p : Progress) (s : Store) (n : Nat) (note : Note) : Prop where
  holder : ∃ token user, p.token = some token ∧ Http.IsPlain token ∧
    s.holder? token = some user ∧ s.owned? user n = some note
  noteId : p.noteId = some (.number n)
  small : n < Text.signedEnd

theorem Owns.grows {n : Nat} {note : Note} {s' : Store} (h : Owns p s n note) (hg : s.Grows s') :
    Owns p s' n note := by
  obtain ⟨token, user, hp, hplain, ht, ho⟩ := h.holder
  exact ⟨⟨token, user, hp, hplain, hg.tokens ht, hg.owned? ho⟩, h.noteId, h.small⟩

section Note

variable (hat : j.client.IsAt u) {n : Nat} {note : Note} (h : Owns p s n note)
  (hid : settings.hideNoteId = false)
include hat h hid

theorem isSure_fetchNoteConditional (he : p.etag = settings.shownEtag note.etag) :
    j.IsSure u settings supply [.fetchNoteConditional, .pace] p ticket s := by
  obtain ⟨token, user, htoken, hp, ht, ho⟩ := h.holder
  cases hshow : settings.hideEtag with
  | true =>
    have he' : p.etag = none := by simp [he, Settings.shownEtag, hshow]
    have hturn : j.turn p .fetchNoteConditional = .lacking "etag" := by
      simp [turn, htoken, h.noteId, he']
    refine isSure_of_lacking hturn ?_ isSure_pace
    simp [Step.failed, recordsFor, Step.checks, outcome, hid, hshow]
  | false =>
    have he' : p.etag = some note.etag := by simp [he, Settings.shownEtag, hshow]
    have hturn : j.turn p .fetchNoteConditional =
        .asking (.readNote token (.number n) (some note.etag)) := by
      simp [turn, htoken, h.noteId, he']
    have hc : (Call.readNote token (.number n) (some note.etag)).IsPlain :=
      ⟨hp, ⟨n, h.small, rfl⟩, by simpa using note.isPlain_etag⟩
    refine isSure_of_answers hat hturn hc fun s' hk _ => ?_
    have hans := answers_readNote_again settings supply hat.bare.secure_eq hp
      (hk.1.tokens ht) h.small (hk.1.owned? ho)
    refine ⟨_, s', ticket, hans, Custom.refl _ s', Nat.le_refl _, ?_, rfl, isSure_pace⟩
    simp [Step.judge, recordsFor, Step.checks, outcome, hid, hshow, Outcome.ofStatus]

theorem isSure_fetchNote :
    j.IsSure u settings supply [.fetchNote, .fetchNoteConditional, .pace] p ticket s := by
  obtain ⟨token, user, htoken, hp, ht, ho⟩ := h.holder
  have hturn : j.turn p .fetchNote = .asking (.readNote token (.number n) none) := by
    simp [turn, htoken, h.noteId]
  have hc : (Call.readNote token (.number n) none).IsPlain := ⟨hp, ⟨n, h.small, rfl⟩, by simp⟩
  refine isSure_of_answers hat hturn hc fun s' hk _ => ?_
  have hans := answers_readNote_first settings supply hat.bare.secure_eq hp
    (hk.1.tokens ht) h.small (hk.1.owned? ho)
  have howns := h.grows hk.1
  refine ⟨_, s', ticket, hans, Custom.refl _ s', Nat.le_refl _, ?_, rfl,
    isSure_fetchNoteConditional hat ⟨howns.holder, howns.noteId, howns.small⟩ hid rfl⟩
  cases hshow : settings.hideEtag <;>
    simp [Step.judge, recordsFor, Step.checks, outcome, hid, hshow, Outcome.ofStatus,
      Outcome.ofPresence, Settings.shownEtag]

end Note

/-- Where numbers are hidden, nothing is asked about a note. -/
theorem isSure_withoutNote (hid : settings.hideNoteId = true) {token : String}
    (htoken : p.token = some token) (hn : p.noteId = none) :
    j.IsSure u settings supply [.fetchNote, .fetchNoteConditional, .pace] p ticket s := by
  have hturn : j.turn p .fetchNote = .lacking "note id" := by simp [turn, htoken, hn]
  have hturn' : j.turn p .fetchNoteConditional = .lacking "note id" := by simp [turn, htoken, hn]
  refine isSure_of_lacking hturn ?_ (isSure_of_lacking hturn' ?_ isSure_pace)
  · simp [Step.failed, recordsFor, Step.checks, outcome, hid]
  · simp [Step.failed, recordsFor, Step.checks, outcome, hid]

/-! ## Steps up to the note -/

section Steps

variable (hat : j.client.IsAt u) (hj : j.Suits settings)
include hat hj

/-- With a ticket there is a number for the note. -/
theorem isSure_createNote {token : String} {user : Int} (htoken : p.token = some token)
    (hp : Http.IsPlain token) (ht : s.holder? token = some user)
    (ho : s.Orderly supply.pair j.password) :
    j.IsSure u settings supply [.createNote, .fetchNote, .fetchNoteConditional, .pace]
      p true s := by
  have hturn : j.turn p .createNote = .asking (.createNote token j.note) := by
    simp [turn, htoken]
  refine isSure_of_answers hat hturn hp fun s' hk hroom => ?_
  have ho' := hk.2 ho
  obtain ⟨n, hn⟩ := Int.eq_ofNat_of_zero_le ho'.counted
  have hsmall : n + 1 < Text.signedEnd := by
    have := hroom rfl
    rw [hn, Int.toNat_natCast] at this
    omega
  let title := Text.trim j.note.title
  have hans := answers_createNote settings supply hat.bare.secure_eq hp
    (hk.1.tokens ht) hj.title hj.note
  have hnumber : (s'.nextNote user title j.note.body).id = (n + 1 : Nat) := by
    simp [Store.nextNote, hn]
  have hrange : -(Text.signedEnd : Int) ≤ (s'.nextNote user title j.note.body).id ∧
      (s'.nextNote user title j.note.body).id < Text.signedEnd := by omega
  have hreply := noteId_ofBody hrange settings.hideNoteId
  rw [hnumber] at hreply
  have hgrows := Store.Grows.withNote ho'.find?_lastNote user title j.note.body
  refine ⟨_, _, false, hans, ⟨hgrows, fun h => h.withNote user title j.note.body⟩, ?_, ?_, rfl, ?_⟩
  · simp [Store.withNote, hn]
  · cases hid : settings.hideNoteId <;>
      simp only [Step.judge, hid] at hreply ⊢ <;> rw [hreply] <;>
      simp [recordsFor, Step.checks, outcome, hid, Outcome.ofStatus, Outcome.ofPresence]
  · dsimp only [Progress.learn]
    rw [hreply]
    cases hid : settings.hideNoteId with
    | true => exact isSure_withoutNote hid htoken rfl
    | false =>
      have hown := Store.owned?_withNote s' user title j.note.body
      rw [hn] at hown
      have howns : Owns { p with noteId := some (.number (n + 1 : Nat)) }
          (s'.withNote user title j.note.body) (n + 1) (s'.nextNote user title j.note.body) :=
        ⟨⟨token, user, htoken, hp, hgrows.tokens (hk.1.tokens ht), hown⟩, rfl, hsmall⟩
      exact isSure_fetchNote hat howns hid

/-- The token of a login is nobody else's, and stands for the user from then on. -/
theorem isSure_login (hsup : supply.IsDistinct) {entry : Service.Account}
    (ha : s.accounts.find? p.account.email = some entry) (hp : p.account.password = j.password)
    (hs : p.account.Suits settings) (ho : s.Orderly supply.pair j.password) :
    j.IsSure u settings supply Journey.later p true s := by
  refine isSure_of_answers hat rfl trivial fun s' hk hroom => ?_
  have ho' := hk.2 ho
  have ha' := hk.1.accounts ha
  have hd := ho'.accounts ha'
  rw [← hp] at hd
  have hans := answers_login settings supply hat.bare.secure_eq hs ha' hd
  have hplain := hsup.plain s'.refresh.size
  have htoken := token_ofBody hplain.ne_empty
  have hgrows := Store.Grows.withTokens (ho'.holder?_next hsup.access) entry.id
  refine ⟨_, _, true, hans, ⟨hgrows, fun h => h.withTokens hsup.refresh entry.id⟩, Nat.le_refl _,
    ?_, rfl, ?_⟩
  · simp only [Step.judge]
    rw [htoken]
    simp [recordsFor, Step.checks, outcome, Outcome.ofStatus, Outcome.ofPresence]
  · dsimp only [Progress.learn]
    rw [htoken]
    exact isSure_createNote hat hj rfl hplain (Store.holder?_withTokens _ _ _)
      (ho'.withTokens hsup.refresh _)

/-- After the registration there is an account with the password, whoever made it. -/
theorem isSure_register (hsup : supply.IsDistinct) (hp : p.account.password = j.password)
    (hs : p.account.Suits settings) (ho : s.Orderly supply.pair j.password) :
    j.IsSure u settings supply (.register :: later) p true s := by
  refine isSure_of_answers hat rfl trivial fun s' hk hroom => ?_
  have ho' := hk.2 ho
  obtain ⟨reply, s'', hans, hcases⟩ :=
    answers_register settings supply hat.bare.secure_eq hs s'
  have hflow (h : reply.status = 200 ∨ reply.status = 409) :
      Step.register.judge (.ok reply) = recordsFor settings [.register] ∧
        Step.register.flow (.ok reply) = .onward := by
    have hpass : Outcome.ofStatus reply.status [200, 409] = .pass := by
      rcases h with h | h <;> rw [h] <;> rfl
    simp only [Step.judge, Step.flow, hpass]
    exact ⟨rfl, trivial⟩
  rcases hcases with ⟨hc, h409, rfl⟩ | ⟨hc, h200, rfl⟩
  · obtain ⟨hjudge, hon⟩ := hflow (.inr h409)
    obtain ⟨entry, ha⟩ := Option.isSome_iff_exists.1 hc
    exact ⟨reply, s'', true, hans, Custom.refl _ s'', Nat.le_refl _, hjudge, hon,
      isSure_login hat hj hsup ha hp hs ho'⟩
  · obtain ⟨hjudge, hon⟩ := hflow (.inl h200)
    have hnone : s'.accounts.find? p.account.email = none := by
      simpa [Service.Table.contains] using hc
    have hgrows := Store.Grows.withAccount (supply.next s').salt p.account.password hnone
    refine ⟨reply, _, true, hans, ⟨hgrows, fun h => ?_⟩, Nat.le_refl _, hjudge, hon, ?_⟩
    · rw [hp]
      exact h.withAccount _ _
    · refine isSure_login hat hj hsup (Store.find?_withAccount _ _ _ _) hp hs ?_
      rw [hp]
      exact ho'.withAccount _ _

/-- An iteration is sure of all its outcomes from the start. -/
theorem isSure_iteration (hsup : supply.IsDistinct) (ho : s.Orderly supply.pair j.password)
    (index : Nat) : j.IsSure u settings supply Step.all (j.start index) true s := by
  have hstatus : Service.isStatus settings.healthStatus = true := by
    have := hj.status
    simp only [Service.isStatus, Bool.and_eq_true, decide_eq_true_eq]
    omega
  refine isSure_of_answers hat rfl trivial fun s' hk hroom => ?_
  refine ⟨_, s', true, answers_health settings supply hat.bare.secure_eq hstatus s',
    Custom.refl _ s', Nat.le_refl _, ?_, rfl, isSure_register hat hj hsup rfl (hj.account index) (hk.2 ho)⟩
  by_cases h : settings.healthStatus = 204 <;>
    simp [Step.judge, recordsFor, Step.checks, outcome, h, Outcome.ofStatus]

end Steps

theorem sure_iteration (hat : j.client.IsAt u) (hj : j.Suits settings) (hsup : supply.IsDistinct)
    (ho : s.Orderly supply.pair j.password) (index : Nat) :
    (userCustom supply j.password).Sure (Target.notes u settings supply) (j.iteration index) true
      (Check.all.map fun c => (c, outcome settings c)) .completed s :=
  isSure_iteration hat hj hsup ho index

end Journey

end NotesBench.Load

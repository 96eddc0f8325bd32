import NotesBench.Proofs.Service.Revalidation

/-!
# What the state always looks like

Whatever is asked of the service, its state is sound (`Store.Sound`): users are numbered without
gaps, every token and every note belongs to one of them, and addresses and titles have no blanks
around them. Each way in which a request can change the state keeps this. The addresses that are
registered are those of the valid registrations so far, so that of the valid registrations of one
address the first succeeds, and it alone (`state_is_sound`).
-/

namespace NotesBench.Service

open Http (Request Response)
open Handler (Gives)

/-! ## Sound states -/

/-- An address that can be registered. -/
structure IsAddress (email : String) : Prop where
  trimmed : Text.trim email = email
  parts : ∃ user domain, email.toList = user ++ '@' :: domain ∧ '@' ∉ user ∧
    user ≠ [] ∧ domain ≠ []

/-- What a note is like that was written and changed; only a change can take its title away. -/
structure Note.Sound (n : Note) : Prop where
  version : 1 ≤ n.version
  trimmed : Text.trim n.title = n.title
  titled : n.version = 1 → n.title ≠ ""

/-- The numbers of the registered users. -/
def Store.userIds (s : Store) : List Int := s.accounts.entries.map (·.2.id)

structure Store.Sound (s : Store) : Prop where
  /-- The users are numbered from one. -/
  users : s.userIds.Perm ((List.range s.userCount).map fun k : Nat => (k : Int) + 1)
  lastUser : s.lastUser = s.userCount
  emails : ∀ {email account}, s.accounts.find? email = some account → IsAddress email
  access : ∀ {token user}, s.holder? token = some user → user ∈ s.userIds
  /-- Spent or not. -/
  refresh : ∀ {token grant}, s.refresh.find? token = some grant → grant.user ∈ s.userIds
  /-- The notes are numbered from one. -/
  ids : ∀ {id note}, s.shelf.find? id = some note → note.id = id ∧ 1 ≤ id ∧ id ≤ s.lastNote
  lastNote : 0 ≤ s.lastNote
  owners : ∀ {id note}, s.shelf.find? id = some note → note.owner ∈ s.userIds
  notes : ∀ {id note}, s.shelf.find? id = some note → note.Sound

namespace Store

variable {s s' : Store}

theorem sound_empty : Sound {} where
  users := .refl _
  lastUser := rfl
  emails := nofun
  access := nofun
  refresh := nofun
  ids := nofun
  lastNote := Int.le_refl 0
  owners := nofun
  notes := nofun

theorem mem_userIds_of_find? {email : String} {account : Account}
    (h : s.accounts.find? email = some account) : account.id ∈ s.userIds :=
  List.mem_map_of_mem (f := fun entry : String × Account => entry.2.id)
    (Table.mem_entries_of_find?_eq_some h)

section WithAccount

variable {email : String} (salt password : String) (free : s.accounts.find? email = none)
include free

theorem userIds_withAccount :
    (s.withAccount salt email password).userIds = (s.lastUser + 1) :: s.userIds := by
  rw [userIds, withAccount, Table.entries_insert_of_find?_eq_none free, List.map_cons, userIds]

theorem userCount_withAccount :
    (s.withAccount salt email password).userCount = s.userCount + 1 :=
  Table.size_insert_of_find?_eq_none free _

end WithAccount

namespace Sound

variable (hs : s.Sound)
include hs

theorem withAccount {email : String} (salt password : String)
    (free : s.accounts.find? email = none) (address : IsAddress email) :
    (s.withAccount salt email password).Sound := by
  have hids := userIds_withAccount salt password free
  have hcount := userCount_withAccount salt password free
  have hkept {user : Int} (h : user ∈ s.userIds) :
      user ∈ (s.withAccount salt email password).userIds :=
    hids ▸ List.mem_cons_of_mem _ h
  refine { hs with
    users := ?_, lastUser := ?_, emails := fun {other account} h => ?_
    access := fun h => hkept (hs.access h), refresh := fun h => hkept (hs.refresh h)
    owners := fun h => hkept (hs.owners h) }
  · rw [hids, hcount, List.range_succ, List.map_append, hs.lastUser]
    exact (hs.users.cons _).trans (List.perm_append_singleton _ _).symm
  · rw [hcount, Int.natCast_succ, ← hs.lastUser]
    rfl
  · rw [Store.withAccount, Table.find?_insert] at h
    split at h
    · next he => exact he ▸ address
    · exact hs.emails h

theorem withTokens {user : Int} (pair : TokenPair) (hu : user ∈ s.userIds) :
    (s.withTokens pair user).Sound := by
  refine { hs with access := fun {token holder} h => ?_, refresh := fun {token grant} h => ?_ }
  · rw [holder?, Store.withTokens, Table.find?_insert] at h
    split at h
    · cases h
      exact hu
    · exact hs.access h
  · rw [Store.withTokens, Table.find?_insert] at h
    split at h
    · cases h
      exact hu
    · exact hs.refresh h

theorem withSpent {user : Int} (token : String) (hu : user ∈ s.userIds) :
    (s.withSpent token user).Sound := by
  refine { hs with refresh := fun {token grant} h => ?_ }
  rw [Store.withSpent, Table.find?_insert] at h
  split at h
  · cases h
    exact hu
  · exact hs.refresh h

theorem withoutToken (token : String) : (s.withoutToken token).Sound := by
  refine { hs with access := fun {other user} h => ?_ }
  rw [holder?, Store.withoutToken, Table.find?_erase] at h
  split at h
  · cases h
  · exact hs.access h

/-- A note that is put on the shelf, new or changed. -/
theorem of_find? (hc : s'.Counted) (haccounts : s'.accounts = s.accounts)
    (hlast : s'.lastUser = s.lastUser) (haccess : s'.access = s.access)
    (hrefresh : s'.refresh = s.refresh) (hnotes : ∀ {id note}, s'.shelf.find? id = some note →
      s.shelf.find? id = some note ∨ note.owner ∈ s.userIds ∧ note.Sound) : s'.Sound where
  users := by
    rw [userIds, userCount, haccounts]
    exact hs.users
  lastUser := by
    rw [userCount, haccounts, hlast]
    exact hs.lastUser
  emails h := hs.emails (haccounts ▸ h)
  access h := by
    rw [userIds, haccounts]
    rw [holder?, haccess] at h
    exact hs.access h
  refresh h := by
    rw [userIds, haccounts]
    exact hs.refresh (hrefresh ▸ h)
  ids h := ⟨(Shelf.find?_eq_some_iff.1 h).2, hc.given h⟩
  lastNote := hc.last
  owners h := by
    rw [userIds, haccounts]
    exact (hnotes h).elim hs.owners And.left
  notes h := (hnotes h).elim hs.notes And.right

end Sound

end Store

/-! ## What is read -/

section Reading

variable {settings : Settings} {r : Request} {s s' : Store}

theorem readTexts_gives {names texts : List String}
    (hg : (readTexts settings names r).Gives s (.ok texts) s') :
    ∃ bytes, r.body = .complete bytes ∧ bytes.length ≤ settings.maxBody ∧
      decodeTexts? names bytes = some texts := by
  rcases hg.of_bind with ⟨bytes, s₁, hbytes, hg⟩ | ⟨failure, -, h⟩
  · unfold readBody at hbytes
    split at hbytes
    · cases hbytes
    · next hbody =>
      split at hbytes
      · cases hbytes
      · next hlen =>
        cases hbytes
        split at hg
        · next hd =>
          cases hg
          exact ⟨bytes, hbody, Nat.not_lt.1 hlen, hd⟩
        · cases hg
  · cases h

theorem readCredentials_gives {email password : String}
    (hg : (readCredentials settings r).Gives s (.ok (email, password)) s') :
    ∃ bytes raw, r.body = .complete bytes ∧ bytes.length ≤ settings.maxBody ∧
      decodeTexts? ["email", "password"] bytes = some [raw, password] ∧ Text.trim raw = email := by
  rcases hg.of_bind with ⟨texts, s₁, htexts, hg⟩ | ⟨failure, -, h⟩
  · obtain ⟨bytes, hbody, hlen, hd⟩ := readTexts_gives htexts
    obtain ⟨raw, password', rfl⟩ := exists_pair_of_decodeTexts?_eq_some hd
    cases hg
    exact ⟨bytes, raw, hbody, hlen, hd, rfl⟩
  · cases h

theorem trim_of_readNote_gives {title body : String}
    (hg : (readNote settings r).Gives s (.ok (title, body)) s') : Text.trim title = title := by
  rcases hg.of_bind with ⟨texts, s₁, htexts, hg⟩ | ⟨failure, -, h⟩
  · obtain ⟨bytes, -, -, hd⟩ := readTexts_gives htexts
    obtain ⟨raw, body', rfl⟩ := exists_pair_of_decodeTexts?_eq_some hd
    cases hg
    exact Text.trim_trim raw
  · cases h

theorem isAddress_of_acceptsEmail {email : String} (trimmed : Text.trim email = email)
    (h : settings.acceptsEmail email = true) : IsAddress email := by
  obtain ⟨-, hparts⟩ := Bool.and_eq_true_iff.1 h
  refine ⟨trimmed, ?_⟩
  unfold hasTwoParts at hparts
  split at hparts
  · next user domain hcut =>
    obtain ⟨huser, hemail⟩ := Text.cutAt_eq_some_iff.1 hcut
    exact ⟨user, domain, hemail, huser, by simpa using hparts⟩
  · cases hparts

end Reading

/-! ## Valid registrations -/

/-- A request that registers the address, unless it is registered. -/
structure IsRegistration (settings : Settings) (r : Request) (email : String) : Prop where
  method : r.method = .post
  route : Route.ofPath? r.path = some .register
  body : ∃ bytes raw password, r.body = .complete bytes ∧ bytes.length ≤ settings.maxBody ∧
    decodeTexts? ["email", "password"] bytes = some [raw, password] ∧ Text.trim raw = email ∧
    settings.acceptsPassword password = true
  address : settings.acceptsEmail email = true

section Registration

variable {settings : Settings} {s s' : Store} {r : Request} {x : Exchange} {email other : String}

theorem IsRegistration.eq (h : IsRegistration settings r email)
    (h' : IsRegistration settings r other) : email = other := by
  obtain ⟨bytes, raw, password, hbody, -, hd, rfl, -⟩ := h.body
  obtain ⟨bytes', raw', password', hbody', -, hd', rfl, -⟩ := h'.body
  cases hbody.symm.trans hbody'
  cases hd.symm.trans hd'
  rfl

/-- A valid registration registers the address, or is refused as the address is registered. -/
theorem IsRegistration.answers (h : IsRegistration settings x.request email)
    (hx : s.Answers settings x s') :
    (s.accounts.find? email = none ∧ x.response.status = 200 ∧
        ∃ salt password, s' = s.withAccount salt email password) ∨
      (s.accounts.find? email).isSome = true ∧ x.response.status = 409 ∧ s' = s := by
  obtain ⟨bytes, raw, password, hbody, hlen, hd, rfl, hp⟩ := h.body
  obtain ⟨draw, hserve⟩ := hx
  have hread : (readCredentials settings x.request).Gives s (.ok (Text.trim raw, password)) s :=
    (gives_readTexts_of_decodeTexts? hbody hlen hd s).bind (.pure _ s)
  have hanswer {result : Except Failure Response} {s₁ : Store}
      (hg : (registerEndpoint settings draw x.request).Gives s result s₁) :
      x.response = responseOf result ∧ s' = s₁ := by
    have hroute : (Route.handler settings draw x.request .register).Gives s result s₁ := by
      rw [Route.handler, if_pos h.method]
      exact hg
    exact Prod.mk.inj (hserve.symm.trans (serve_of_gives h.route (by simp [h.method]) hroute))
  have hregister := Store.register_on draw.salt (Text.trim raw) password s
  cases hfound : s.accounts.find? (Text.trim raw) with
  | none =>
    rw [Table.contains, hfound, if_neg (by simp)] at hregister
    obtain ⟨hresponse, hstate⟩ := hanswer (gives_registerEndpoint hread h.address hp hregister)
    exact .inl ⟨rfl, by rw [hresponse]; rfl, _, _, hstate⟩
  | some account =>
    rw [Table.contains, hfound, if_pos (by simp)] at hregister
    obtain ⟨hresponse, hstate⟩ :=
      hanswer (gives_registerEndpoint_refused hread h.address hp hregister)
    exact .inr ⟨rfl, by rw [hresponse]; rfl, hstate⟩

theorem Asks.isRegistration {password : String}
    (asks : Asks settings s r (.register email password)) : IsRegistration settings r email := by
  cases asks with
  | register route method read acceptable =>
    obtain ⟨bytes, raw, hbody, hlen, hd, hraw⟩ := readCredentials_gives read
    exact ⟨method, route, ⟨bytes, raw, password, hbody, hlen, hd, hraw, acceptable.2⟩,
      acceptable.1⟩

/-- A registration that succeeds is valid. -/
theorem Store.Answers.isRegistration (hx : s.Answers settings x s')
    (route : Route.ofPath? x.request.path = some .register) (status : x.response.status = 200) :
    ∃ email, IsRegistration settings x.request email := by
  rcases hx.outcome with ⟨hstatus, -⟩ | ⟨fixed, path, which, -⟩ |
    ⟨operation, answer, reply, asks, -, -, -⟩
  · exact absurd status hstatus
  · cases path.symm.trans route
    simp at which
  · cases asks with
    | register route' method' read acceptable =>
      exact ⟨_, Asks.isRegistration (.register route' method' read acceptable)⟩
    | login path | refresh path | logout path | list path | add path | look path | change path
    | remove path => cases path.symm.trans route

/-- The addresses that are registered after an exchange. -/
theorem Store.Answers.registered_iff (hx : s.Answers settings x s') (email : String) :
    (s'.accounts.find? email).isSome = true ↔
      (s.accounts.find? email).isSome = true ∨ IsRegistration settings x.request email := by
  by_cases hvalid : ∃ other, IsRegistration settings x.request other
  · obtain ⟨other, hother⟩ := hvalid
    have hsame : IsRegistration settings x.request email ↔ email = other :=
      ⟨fun h => h.eq hother, fun h => h ▸ hother⟩
    rw [hsame]
    rcases hother.answers hx with ⟨hfree, -, salt, password, rfl⟩ | ⟨hsome, -, rfl⟩
    · rw [Store.withAccount, Table.find?_insert]
      by_cases he : email = other
      · simp [he]
      · simp [he]
    · refine ⟨.inl, fun h => h.elim id ?_⟩
      rintro rfl
      exact hsome
  · have hkept : s'.accounts = s.accounts := by
      rcases hx.outcome with ⟨-, rfl⟩ | ⟨route, path, which, rfl⟩ |
        ⟨operation, answer, reply, asks, done, -, -⟩
      · rfl
      · rfl
      · cases done.effect with
        | register free => exact absurd ⟨_, asks.isRegistration⟩ hvalid
        | _ => rfl
    rw [hkept, or_iff_left fun h => hvalid ⟨email, h⟩]

/-- The addresses that are registered are those of the valid registrations. -/
theorem Serves.registered_iff {past : List Exchange} (h : Serves settings {} past s)
    (email : String) :
    (s.accounts.find? email).isSome = true ↔
      ∃ x ∈ past, IsRegistration settings x.request email := by
  induction h with
  | refl => simp [Table.find?_empty]
  | snoc _ hx ih =>
    rw [hx.registered_iff, ih]
    simp [or_and_right, exists_or]

end Registration

/-! ## Whole runs -/

section Run

variable {settings : Settings} {s s' : Store} {x : Exchange} {past : List Exchange}

/-- Whatever is asked, a sound state is followed by a sound state. -/
theorem Store.Sound.answers (hs : s.Sound) (hx : s.Answers settings x s') : s'.Sound := by
  rcases hx.outcome with ⟨-, rfl⟩ | ⟨route, path, which, rfl⟩ |
    ⟨operation, answer, reply, asks, done, -, -⟩
  · exact hs
  · exact hs
  have hc : s'.Counted := Store.Counted.step ⟨fun h => (hs.ids h).2, hs.lastNote⟩ done.noteEffect
  have hcaller {user : Int} (caller : caller? s x.request = some user) : user ∈ s.userIds := by
    obtain ⟨token, -, held⟩ := Option.bind_eq_some_iff.1 caller
    exact hs.access held
  cases asks with
  | register route method read acceptable =>
    obtain ⟨bytes, raw, -, -, -, rfl⟩ := readCredentials_gives read
    cases done.effect with
    | register free =>
      exact hs.withAccount _ _ free (isAddress_of_acceptsEmail (Text.trim_trim raw) acceptable.1)
  | login =>
    cases done.effect with
    | login known _ => exact hs.withTokens _ (Store.mem_userIds_of_find? known)
  | refresh =>
    cases done.effect with
    | rotate unspent =>
      have hu := hs.refresh unspent
      exact (hs.withSpent _ hu).withTokens _ hu
  | logout =>
    cases done.effect with
    | logout held => exact hs.withoutToken _
  | list | look =>
    cases done.effect
    exact hs
  | add route method caller read titled =>
    cases done.effect with
    | addNote user title body =>
      refine hs.of_find? hc rfl rfl rfl rfl fun h => ?_
      rw [Store.find?_withNote] at h
      split at h
      · cases h
        exact .inr ⟨hcaller caller, Nat.le_refl 1, trim_of_readNote_gives read, fun _ => titled⟩
      · exact .inl h
  | change route method caller number read =>
    cases done.effect with
    | changeNote title body owned =>
      refine hs.of_find? hc rfl rfl rfl rfl fun h => ?_
      rw [Store.find?_withRevised owned] at h
      have howner := hs.owners (Store.find?_of_owned? owned)
      have hversion := (hs.notes (Store.find?_of_owned? owned)).version
      split at h
      · cases h
        refine .inr ⟨howner, ?_, trim_of_readNote_gives read, ?_⟩
        · exact Nat.le_succ_of_le hversion
        · exact fun h => absurd (Nat.succ.inj h) (Nat.ne_of_gt hversion)
      · exact .inl h
  | remove route method caller number =>
    cases done.effect with
    | removeNote owned =>
      refine hs.of_find? hc rfl rfl rfl rfl fun h => ?_
      rw [Store.find?_withoutNote] at h
      split at h
      · cases h
      · exact .inl h

/-- After any run the state is sound. A registration succeeds only if it is valid, and a valid one
succeeds exactly if there was no valid one of its address before; otherwise it is refused. -/
theorem state_is_sound (h : Serves settings {} past s) :
    s.Sound ∧
      (∀ x ∈ past, Route.ofPath? x.request.path = some .register → x.response.status = 200 →
        ∃ email, IsRegistration settings x.request email) ∧
      ∀ before x after, past = before ++ x :: after →
        ∀ email, IsRegistration settings x.request email →
          (x.response.status = 409 ↔ ∃ y ∈ before, IsRegistration settings y.request email) ∧
          (x.response.status = 200 ↔ ¬∃ y ∈ before, IsRegistration settings y.request email) := by
  refine ⟨h.keeps Store.sound_empty Store.Sound.answers, fun x hx => ?_, ?_⟩
  · obtain ⟨before, after, rfl⟩ := List.append_of_mem hx
    obtain ⟨s₁, -, hrest⟩ := h.exists_between
    obtain ⟨s₂, hanswers, -⟩ := hrest.exists_first
    exact hanswers.isRegistration
  · rintro before x after rfl email hvalid
    obtain ⟨s₁, hbefore, hrest⟩ := h.exists_between
    obtain ⟨s₂, hanswers, -⟩ := hrest.exists_first
    rw [← Serves.registered_iff hbefore]
    rcases hvalid.answers hanswers with ⟨hfree, hstatus, -⟩ | ⟨hsome, hstatus, -⟩
    · simp [hfree, hstatus]
    · simp [hsome, hstatus]

end Run

/-- A user registers, the address with these blanks around it. -/
def registering (blanks : String) : Request :=
  ⟨.post, "/auth/register", [],
    .complete (pairJson "email" (blanks ++ "ada@example.com" ++ blanks)
      "password" "difference").octets⟩

/-- A user registers twice. -/
def registrations : List (Draw × Request) :=
  [(default, registering ""), (default, registering "\u3000")]

/-- Blanks do not make another address. -/
theorem second_registration_is_refused :
    (serveAll {} registrations {}).2.Sound ∧
      ∃ x ∈ exchanges {} registrations {}, x.request = registering "\u3000" ∧
        x.response.status = 409 := by
  have hvalid {blanks : String}
      (hroute : Route.ofPath? (registering blanks).path = some .register)
      (hlen : (pairJson "email" (blanks ++ "ada@example.com" ++ blanks)
        "password" "difference").octets.length ≤ ({} : Settings).maxBody)
      (htrim : Text.trim (blanks ++ "ada@example.com" ++ blanks) = "ada@example.com") :
      IsRegistration {} (registering blanks) "ada@example.com" :=
    { method := rfl
      route := hroute
      body := ⟨_, _, _, rfl, hlen, decodeTexts?_pairJson (by decide) _ _, htrim, by decide⟩
      address := by decide +kernel }
  have hfirst : IsRegistration {} (registering "") "ada@example.com" :=
    hvalid (by decide +kernel) (by decide +kernel) (by decide +kernel)
  have hsecond : IsRegistration {} (registering "\u3000") "ada@example.com" :=
    hvalid (by decide +kernel) (by decide +kernel) (by decide +kernel)
  obtain ⟨hsound, -, hregistrations⟩ := state_is_sound (serves_serveAll {} registrations {})
  obtain ⟨x, y, hpast, hx, hy⟩ : ∃ x y, exchanges {} registrations {} = [x, y] ∧
      x.request = registering "" ∧ y.request = registering "\u3000" :=
    ⟨_, _, by rw [registrations, exchanges_cons, exchanges_cons]; rfl, rfl, rfl⟩
  rw [hpast] at hregistrations ⊢
  have hrefused := (hregistrations [x] y [] rfl "ada@example.com" (hy ▸ hsecond)).1
  exact ⟨hsound, y, by simp, hy, hrefused.2 ⟨x, by simp, hx ▸ hfirst⟩⟩

end NotesBench.Service

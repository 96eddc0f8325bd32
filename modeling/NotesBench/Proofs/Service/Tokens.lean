import NotesBench.Proofs.Service.Effects
import Mathlib.Data.List.Induction

/-!
# The life of a token

Whom a token was given to, whether it was taken back and whether it was spent are read from the
history alone: `Issued`, `Held` and `Spent`. As long as the tokens that are given out differ, the
state knows of each token what the history says (`Recalls`, `recalls_of_leads`). `tokens_live_once`
says what follows for each operation on tokens: an access token stands for its user until it is
taken back, and a refresh token is exchanged once at most.
-/

namespace NotesBench.Service

/-! ## What the history says -/

/-- The tokens that a deed gives out. -/
def Deed.tokens (d : Deed) : List String :=
  match d.answer with
  | .ok (.tokens pair) => [pair.access, pair.refresh]
  | _ => []

/-- The tokens that were given out are all different. -/
def Distinct (past : List Deed) : Prop := (past.flatMap Deed.tokens).Nodup

instance (past : List Deed) : Decidable (Distinct past) :=
  inferInstanceAs (Decidable (List.Nodup _))

/-- After some history the deed issues the pair to the user: by a login to the account of the user,
or in exchange for a refresh token that was issued to the user before. -/
inductive Issues : List Deed → Deed → TokenPair → Int → Prop where
  | login {past : List Deed} {email first password : String} {pair : TokenPair} {user : Int} :
    ⟨.register email first, .ok (.registered user)⟩ ∈ past →
    Issues past ⟨.login email password, .ok (.tokens pair)⟩ pair user
  | rotate {past before since : List Deed} {d : Deed} {old pair : TokenPair} {user : Int} :
    past = before ++ d :: since → Issues before d old user →
    Issues past ⟨.rotate old.refresh, .ok (.tokens pair)⟩ pair user

/-- The pair was issued to the user. -/
def Issued (past : List Deed) (pair : TokenPair) (user : Int) : Prop :=
  ∃ before d since, past = before ++ d :: since ∧ Issues before d pair user

/-- The access token was issued to the user and has not been taken back since. -/
def Held (past : List Deed) (token : String) (user : Int) : Prop :=
  ∃ before d since pair, past = before ++ d :: since ∧ Issues before d pair user ∧
    pair.access = token ∧ ⟨.logout token, .ok .done⟩ ∉ since

/-- The refresh token was issued to the user. -/
def RefreshOf (past : List Deed) (token : String) (user : Int) : Prop :=
  ∃ pair, Issued past pair user ∧ pair.refresh = token

/-- The refresh token was exchanged. -/
def Spent (past : List Deed) (token : String) : Prop :=
  ∃ pair, ⟨.rotate token, .ok (.tokens pair)⟩ ∈ past

section History

variable {past : List Deed} {d : Deed} {pair : TokenPair} {user : Int} {token : String}

theorem issued_snoc :
    Issued (past ++ [d]) pair user ↔ Issues past d pair user ∨ Issued past pair user := by
  constructor
  · rintro ⟨before, e, since, h, hi⟩
    rcases append_singleton_eq_iff.1 h with ⟨rfl, rfl, -⟩ | ⟨rest, -, hp⟩
    · exact .inl hi
    · exact .inr ⟨before, e, rest, hp, hi⟩
  · rintro (hi | ⟨before, e, rest, hp, hi⟩)
    · exact ⟨past, d, [], rfl, hi⟩
    · exact ⟨before, e, rest ++ [d], by simp [hp], hi⟩

theorem held_snoc :
    Held (past ++ [d]) token user ↔
      (∃ pair, Issues past d pair user ∧ pair.access = token) ∨
        (Held past token user ∧ d ≠ ⟨.logout token, .ok .done⟩) := by
  constructor
  · rintro ⟨before, e, since, pair, h, hi, ht, hn⟩
    rcases append_singleton_eq_iff.1 h with ⟨rfl, rfl, -⟩ | ⟨rest, rfl, hp⟩
    · exact .inl ⟨pair, hi, ht⟩
    · simp only [List.mem_append, List.mem_singleton, not_or] at hn
      exact .inr ⟨⟨before, e, rest, pair, hp, hi, ht, hn.1⟩, Ne.symm hn.2⟩
  · rintro (⟨pair, hi, ht⟩ | ⟨⟨before, e, rest, pair, hp, hi, ht, hn⟩, hd⟩)
    · exact ⟨past, d, [], pair, rfl, hi, ht, List.not_mem_nil⟩
    · exact ⟨before, e, rest ++ [d], pair, by simp [hp], hi, ht, by simp [hn, Ne.symm hd]⟩

theorem spent_snoc :
    Spent (past ++ [d]) token ↔
      Spent past token ∨ ∃ pair, d = ⟨.rotate token, .ok (.tokens pair)⟩ := by
  simp [Spent, exists_or, eq_comm]

theorem issues_login {email password : String} {new : TokenPair} :
    Issues past ⟨.login email password, .ok (.tokens new)⟩ pair user ↔
      pair = new ∧ ∃ first, ⟨.register email first, .ok (.registered user)⟩ ∈ past := by
  constructor
  · rintro ⟨h⟩
    exact ⟨rfl, _, h⟩
  · rintro ⟨rfl, first, h⟩
    exact .login h

theorem issues_rotate {new : TokenPair} :
    Issues past ⟨.rotate token, .ok (.tokens new)⟩ pair user ↔
      pair = new ∧ ∃ old, Issued past old user ∧ old.refresh = token := by
  constructor
  · intro h
    cases h with
    | rotate hp hi => exact ⟨rfl, _, ⟨_, _, _, hp, hi⟩, rfl⟩
  · rintro ⟨rfl, old, ⟨before, e, since, hp, hi⟩, rfl⟩
    exact .rotate hp hi

theorem Issues.answer (h : Issues past d pair user) : d.answer = .ok (.tokens pair) := by
  cases h <;> rfl

theorem Issued.mem (h : Issued past pair user) :
    pair.access ∈ past.flatMap Deed.tokens ∧ pair.refresh ∈ past.flatMap Deed.tokens := by
  obtain ⟨before, e, since, rfl, hi⟩ := h
  simp [Deed.tokens, hi.answer]

/-- Tokens that are given out differ from each other and from those of the past. -/
theorem Distinct.of_snoc (h : Distinct (past ++ [d])) (hd : d.answer = .ok (.tokens pair)) :
    pair.access ≠ pair.refresh ∧ pair.access ∉ past.flatMap Deed.tokens ∧
      pair.refresh ∉ past.flatMap Deed.tokens := by
  have htokens : d.tokens = [pair.access, pair.refresh] := by rw [Deed.tokens, hd]
  rw [Distinct, List.flatMap_append, List.flatMap_singleton, htokens, List.nodup_append] at h
  obtain ⟨-, hpair, hnew⟩ := h
  refine ⟨by simpa using hpair, fun hm => hnew _ hm _ (by simp) rfl,
    fun hm => hnew _ hm _ (by simp) rfl⟩

theorem Distinct.of_append {since : List Deed} (h : Distinct (past ++ since)) : Distinct past := by
  rw [Distinct, List.flatMap_append, List.nodup_append] at h
  exact h.1

/-- No access token is a refresh token. -/
theorem Distinct.access_ne_refresh {other : TokenPair} {another : Int} (hd : Distinct past)
    (h : Issued past pair user) (h' : Issued past other another) : pair.access ≠ other.refresh := by
  induction past using List.reverseRecOn with
  | nil => simp [Issued] at h
  | append_singleton past d ih =>
    rcases issued_snoc.1 h with hi | hi <;> rcases issued_snoc.1 h' with hi' | hi'
    · have hsame := hi.answer.symm.trans hi'.answer
      cases hsame
      exact (hd.of_snoc hi.answer).1
    · exact fun he => (hd.of_snoc hi.answer).2.1 (he ▸ hi'.mem.2)
    · exact fun he => (hd.of_snoc hi'.answer).2.2 (he ▸ hi.mem.1)
    · exact ih hd.of_append hi hi'

theorem Held.mem (h : Held past token user) : token ∈ past.flatMap Deed.tokens := by
  obtain ⟨before, e, since, pair, hp, hi, rfl, -⟩ := h
  exact (Issued.mem ⟨before, e, since, hp, hi⟩).1

theorem RefreshOf.mem (h : RefreshOf past token user) : token ∈ past.flatMap Deed.tokens := by
  obtain ⟨pair, hi, rfl⟩ := h
  exact hi.mem.2

theorem refreshOf_snoc :
    RefreshOf (past ++ [d]) token user ↔
      (∃ pair, Issues past d pair user ∧ pair.refresh = token) ∨ RefreshOf past token user := by
  simp only [RefreshOf, issued_snoc, or_and_right, exists_or]

section Without

/-! A deed that gives out no tokens. -/

variable (h : ∀ pair, d.answer ≠ .ok (.tokens pair))
include h

theorem held_snoc_without :
    Held (past ++ [d]) token user ↔ Held past token user ∧ d ≠ ⟨.logout token, .ok .done⟩ := by
  have hno : ∀ pair, ¬Issues past d pair user := fun pair hi => h pair hi.answer
  simp [held_snoc, hno]

theorem refreshOf_snoc_without :
    RefreshOf (past ++ [d]) token user ↔ RefreshOf past token user := by
  have hno : ∀ pair, ¬Issues past d pair user := fun pair hi => h pair hi.answer
  simp [refreshOf_snoc, hno]

theorem spent_snoc_without : Spent (past ++ [d]) token ↔ Spent past token := by
  have hno : ∀ pair, d ≠ ⟨.rotate token, .ok (.tokens pair)⟩ := by
    rintro pair rfl
    exact h pair rfl
  simp [spent_snoc, hno]

end Without

end History

/-! ## What the state knows -/

/-- The state knows of accounts and tokens what the history says. -/
structure Recalls (past : List Deed) (s : Store) : Prop where
  accounts : ∀ {email id}, (∃ account, s.accounts.find? email = some account ∧ account.id = id) ↔
    ∃ password, ⟨.register email password, .ok (.registered id)⟩ ∈ past
  access : ∀ {token user}, s.holder? token = some user ↔ Held past token user
  refresh : ∀ {token user spent}, s.refresh.find? token = some ⟨user, spent⟩ ↔
    RefreshOf past token user ∧ (spent = true ↔ Spent past token)
  revoked : ∀ {token}, ⟨.logout token, .ok .done⟩ ∈ past →
    s.holder? token = none ∧ token ∈ past.flatMap Deed.tokens
  spent : ∀ {token}, Spent past token → ∃ user, RefreshOf past token user

theorem recalls_empty : Recalls [] {} := by
  constructor <;>
    simp [Table.find?_empty, Store.holder?, Held, RefreshOf, Issued, Spent]

theorem Store.rotate_perform (draw : Draw) (token : String) (s : Store) :
    ((Operation.rotate token).perform draw).on s =
      match s.refresh.find? token with
      | some ⟨user, false⟩ =>
        (.ok (.tokens draw.pair), (s.withSpent token user).withTokens draw.pair user)
      | some ⟨_, true⟩ => (.error .spentToken, s)
      | none => (.error .unknownToken, s) := by
  rw [Operation.perform, Store.map_on, Store.rotate_on]
  rcases s.refresh.find? token with _ | ⟨user, _ | _⟩ <;> rfl

namespace Recalls

variable {past : List Deed} {s s' : Store} {d : Deed} (hr : Recalls past s)
include hr

theorem accounts_step (he : TokenEffect s d s') {email : String} {id : Int} :
    (∃ account, s'.accounts.find? email = some account ∧ account.id = id) ↔
      ∃ password, ⟨.register email password, .ok (.registered id)⟩ ∈ past ++ [d] := by
  simp only [List.mem_append, List.mem_singleton, exists_or, ← hr.accounts]
  cases he with
  | @register taken password salt free =>
    rw [Store.withAccount, Table.find?_insert]
    by_cases hemail : email = taken
    · subst hemail
      simp [free, eq_comm]
    · simp [hemail]
  | login known => simp [Store.withTokens]
  | rotate unspent => simp [Store.withTokens, Store.withSpent]
  | logout held => simp [Store.withoutToken]
  | aside quiet accounts _ _ =>
    have hd : ∀ password, ⟨.register email password, .ok (.registered id)⟩ ≠ d := by
      rintro password rfl
      exact quiet.1 id rfl
    simp [accounts, hd]

/-- A login issues its tokens to the user of the account. -/
theorem issues_login_iff {email password : String} {new pair : TokenPair} {user : Int}
    {account : Account} (known : s.accounts.find? email = some account) :
    Issues past ⟨.login email password, .ok (.tokens new)⟩ pair user ↔
      pair = new ∧ user = account.id := by
  rw [issues_login, ← hr.accounts]
  simp [known, eq_comm]

/-- A refresh token belongs to the user that the state has for it, and to nobody else. -/
theorem refreshOf_iff {token : String} {grant : Grant} {user : Int}
    (known : s.refresh.find? token = some grant) :
    RefreshOf past token user ↔ user = grant.user := by
  have hspent := (hr.refresh.1 known).2
  constructor
  · intro h
    have hsame := hr.refresh.2 ⟨h, hspent⟩
    rw [known] at hsame
    exact congrArg Grant.user (Option.some.inj hsame).symm
  · rintro rfl
    exact (hr.refresh.1 known).1

/-- A refresh issues its tokens to the user of the token that is spent. -/
theorem issues_rotate_iff {token : String} {new pair : TokenPair} {owner user : Int}
    (unspent : s.refresh.find? token = some ⟨owner, false⟩) :
    Issues past ⟨.rotate token, .ok (.tokens new)⟩ pair user ↔ pair = new ∧ user = owner := by
  rw [issues_rotate, ← RefreshOf, hr.refreshOf_iff unspent]

/-- New tokens are held by the user, and what was held is still held. -/
theorem access_new {pair : TokenPair} {owner : Int}
    (hi : ∀ {new user}, Issues past d new user ↔ new = pair ∧ user = owner)
    (hnew : pair.access ∉ past.flatMap Deed.tokens) (hd : d.answer ≠ .ok .done) {token : String}
    {user : Int} :
    (s.withTokens pair owner).holder? token = some user ↔ Held (past ++ [d]) token user := by
  have hne : d ≠ ⟨.logout token, .ok .done⟩ := by
    rintro rfl
    exact hd rfl
  simp only [held_snoc, hi, hne, ne_eq, not_false_eq_true, and_true, Store.withTokens,
    Store.holder?, Table.find?_insert]
  split
  · next htoken =>
    subst htoken
    have hold : ¬Held past pair.access user := fun h => hnew h.mem
    simp [hold, @eq_comm _ owner]
  · next htoken =>
    simp [Ne.symm htoken, ← hr.access, Store.holder?]

theorem access_step (he : TokenEffect s d s') (hd : Distinct (past ++ [d])) {token : String}
    {user : Int} :
    s'.holder? token = some user ↔ Held (past ++ [d]) token user := by
  cases he with
  | login known => exact hr.access_new (hr.issues_login_iff known) (hd.of_snoc rfl).2.1 nofun
  | rotate unspent => exact hr.access_new (hr.issues_rotate_iff unspent) (hd.of_snoc rfl).2.1 nofun
  | register free => simp [held_snoc_without, ← hr.access, Store.withAccount, Store.holder?]
  | logout held =>
    rw [held_snoc_without (by simp), ← hr.access]
    simp only [Store.withoutToken, Store.holder?, Table.find?_erase]
    split
    · next htoken => simp [htoken]
    · next htoken => simp [Ne.symm htoken]
  | aside quiet _ access _ =>
    have hne : d ≠ ⟨.logout token, .ok .done⟩ := by
      rintro rfl
      exact quiet.2.2 rfl
    rw [held_snoc_without quiet.2.1, ← hr.access, Store.holder?, access]
    simp [hne, Store.holder?]

omit hr in
/-- A new refresh token is not spent. The state before it is issued may have another one spent. -/
theorem refresh_new {s₁ : Store} {pair : TokenPair} {owner : Int}
    (hs : ∀ {token user spent}, s₁.refresh.find? token = some ⟨user, spent⟩ ↔
      RefreshOf past token user ∧ (spent = true ↔ Spent (past ++ [d]) token))
    (hi : ∀ {new user}, Issues past d new user ↔ new = pair ∧ user = owner)
    (hnew : pair.refresh ∉ past.flatMap Deed.tokens) (hunspent : ¬Spent (past ++ [d]) pair.refresh)
    {token : String} {user : Int} {spent : Bool} :
    (s₁.withTokens pair owner).refresh.find? token = some ⟨user, spent⟩ ↔
      RefreshOf (past ++ [d]) token user ∧ (spent = true ↔ Spent (past ++ [d]) token) := by
  simp only [refreshOf_snoc, hi, Store.withTokens, Table.find?_insert]
  split
  · next htoken =>
    subst htoken
    have hold : ¬RefreshOf past pair.refresh user := fun h => hnew h.mem
    cases spent <;> simp [hold, hunspent, @eq_comm _ owner]
  · next htoken => simp [Ne.symm htoken, hs]

theorem refresh_step (he : TokenEffect s d s') (hd : Distinct (past ++ [d])) {token : String}
    {user : Int} {spent : Bool} :
    s'.refresh.find? token = some ⟨user, spent⟩ ↔
      RefreshOf (past ++ [d]) token user ∧ (spent = true ↔ Spent (past ++ [d]) token) := by
  cases he with
  | @login email password pair account known =>
    have hkeep {token} : Spent (past ++ [⟨.login email password, .ok (.tokens pair)⟩]) token ↔
        Spent past token := by
      simp [spent_snoc]
    have hnew := (hd.of_snoc rfl).2.2
    refine refresh_new (by simp [hkeep, hr.refresh]) (hr.issues_login_iff known) hnew ?_
    intro h
    obtain ⟨user, hu⟩ := hr.spent (hkeep.1 h)
    exact hnew hu.mem
  | @rotate token pair owner unspent =>
    have hnew := (hd.of_snoc rfl).2.2
    refine refresh_new ?_ (hr.issues_rotate_iff unspent) hnew ?_
    · intro t u b
      rw [spent_snoc, Store.withSpent, Table.find?_insert]
      split
      · next ht =>
        subst ht
        simp [hr.refreshOf_iff unspent, eq_comm]
      · next ht => simp [hr.refresh, Ne.symm ht]
    · rw [spent_snoc]
      rintro (h | ⟨new, h⟩)
      · obtain ⟨user, hu⟩ := hr.spent h
        exact hnew hu.mem
      · cases h
        exact hnew (hr.refresh.1 unspent).1.mem
  | register free =>
    simp [refreshOf_snoc_without, spent_snoc_without, ← hr.refresh, Store.withAccount]
  | logout held =>
    simp [refreshOf_snoc_without, spent_snoc_without, ← hr.refresh, Store.withoutToken]
  | aside quiet _ _ refresh =>
    rw [refreshOf_snoc_without quiet.2.1, spent_snoc_without quiet.2.1, ← hr.refresh, refresh]

/-- What was revoked stays so, since a token is not issued again. -/
theorem revoked_step (he : TokenEffect s d s') (hd : Distinct (past ++ [d])) {token : String}
    (h : ⟨.logout token, .ok .done⟩ ∈ past ++ [d]) :
    s'.holder? token = none ∧ token ∈ (past ++ [d]).flatMap Deed.tokens := by
  obtain ⟨hmem, hheld⟩ : token ∈ past.flatMap Deed.tokens ∧
      ∀ user, ¬Held (past ++ [d]) token user := by
    rcases List.mem_append.1 h with h | h
    · obtain ⟨hnone, hmem⟩ := hr.revoked h
      refine ⟨hmem, fun user hu => ?_⟩
      rcases held_snoc.1 hu with ⟨pair, hi, rfl⟩ | ⟨hu, -⟩
      · exact (hd.of_snoc hi.answer).2.1 hmem
      · rw [hr.access.2 hu] at hnone
        cases hnone
    · obtain rfl := List.mem_singleton.1 h
      cases he with
      | logout held => exact ⟨(hr.access.1 held).mem, fun user => by simp [held_snoc_without]⟩
      | aside quiet => exact absurd rfl quiet.2.2
  rw [List.flatMap_append, List.mem_append]
  refine ⟨Option.eq_none_iff_forall_ne_some.2 fun user hu => ?_, .inl hmem⟩
  exact hheld user ((hr.access_step he hd).1 hu)

theorem spent_step (he : TokenEffect s d s') {token : String} (h : Spent (past ++ [d]) token) :
    ∃ user, RefreshOf (past ++ [d]) token user := by
  obtain ⟨user, hu⟩ : ∃ user, RefreshOf past token user := by
    rcases spent_snoc.1 h with h | ⟨new, rfl⟩
    · exact hr.spent h
    · cases he with
      | rotate unspent => exact ⟨_, (hr.refresh.1 unspent).1⟩
      | aside quiet => exact absurd rfl (quiet.2.1 new)
  exact ⟨user, refreshOf_snoc.2 (.inr hu)⟩

theorem step (he : TokenEffect s d s') (hd : Distinct (past ++ [d])) :
    Recalls (past ++ [d]) s' where
  accounts := hr.accounts_step he
  access := hr.access_step he hd
  refresh := hr.refresh_step he hd
  revoked := hr.revoked_step he hd
  spent := hr.spent_step he

/-- What a refresh can be answered. -/
theorem rotate_cases (draw : Draw) (token : String) :
    ((((Operation.rotate token).perform draw).on s).1 = .ok (.tokens draw.pair) ∧
        (∃ user, RefreshOf past token user) ∧ ¬Spent past token) ∨
      ((((Operation.rotate token).perform draw).on s).1 = .error .spentToken ∧
        (∃ user, RefreshOf past token user) ∧ Spent past token) ∨
      ((((Operation.rotate token).perform draw).on s).1 = .error .unknownToken ∧
        (¬∃ user, RefreshOf past token user) ∧ ¬Spent past token) := by
  rw [Store.rotate_perform]
  rcases hf : s.refresh.find? token with _ | ⟨user, _ | _⟩
  · have hno : ¬∃ user, RefreshOf past token user := by
      rintro ⟨user, hu⟩
      by_cases hs : Spent past token
      · exact absurd (hr.refresh.2 ⟨hu, iff_of_true rfl hs⟩) (by simp [hf])
      · exact absurd (hr.refresh.2 ⟨hu, iff_of_false Bool.false_ne_true hs⟩) (by simp [hf])
    exact .inr (.inr ⟨rfl, hno, fun hs => hno (hr.spent hs)⟩)
  · obtain ⟨hu, hs⟩ := hr.refresh.1 hf
    exact .inl ⟨rfl, ⟨user, hu⟩, by simpa using hs⟩
  · obtain ⟨hu, hs⟩ := hr.refresh.1 hf
    exact .inr (.inl ⟨rfl, ⟨user, hu⟩, by simpa using hs⟩)

end Recalls

theorem recalls_of_leads {past : List Deed} {s : Store} (h : Leads {} past s)
    (hd : Distinct past) : Recalls past s := by
  induction h with
  | refl => exact recalls_empty
  | snoc _ hdoes ih => exact (ih hd.of_append).step hdoes.tokenEffect hd

/-! ## The life of a token -/

/-- What the service answers to a token after some history, and what it does with it. -/
structure Lives (past : List Deed) (s : Store) (token : String) : Prop where
  /-- The token stands for whom it was issued to until it is taken back. -/
  held : ∀ user, s.holder? token = some user ↔ Held past token user
  shown : ∀ draw, ((Operation.holder token).perform draw).on s =
    (.ok (.holder (s.holder? token)), s)
  taken : ∀ draw, (((Operation.logout token).perform draw).on s).1 =
    if (s.holder? token).isSome then .ok .done else .error .unknownToken
  gone : ⟨.logout token, .ok .done⟩ ∈ past → s.holder? token = none
  /-- A refresh token is exchanged unless it was spent. -/
  exchanged : ∀ draw, (((Operation.rotate token).perform draw).on s).1 = .ok (.tokens draw.pair) ↔
    (∃ user, RefreshOf past token user) ∧ ¬Spent past token
  reused : ∀ draw, (((Operation.rotate token).perform draw).on s).1 = .error .spentToken ↔
    Spent past token
  unknown : ∀ draw, (((Operation.rotate token).perform draw).on s).1 = .error .unknownToken ↔
    ¬∃ user, RefreshOf past token user
  /-- The new pair is the same user's. -/
  renewed : ∀ draw pair s' user,
    ((Operation.rotate token).perform draw).on s = (.ok (.tokens pair), s') →
    RefreshOf past token user →
    s'.holder? pair.access = some user ∧ s'.refresh.find? pair.refresh = some ⟨user, false⟩
  /-- An access token is no refresh token. -/
  access : ∀ pair user, Issued past pair user → pair.access = token →
    ¬∃ user, RefreshOf past token user
  once : ∀ before since pair, past = before ++ ⟨.rotate token, .ok (.tokens pair)⟩ :: since →
    ¬Spent before token ∧ ¬Spent since token
  /-- Nothing changes what is known of a token that was issued but its own logout and refresh. -/
  kept : ∀ d s', s.Does d s' → Distinct (past ++ [d]) → token ∈ past.flatMap Deed.tokens →
    d.operation ≠ .logout token → d.operation ≠ .rotate token →
    s'.holder? token = s.holder? token ∧ s'.refresh.find? token = s.refresh.find? token

section Conclusion

variable {past : List Deed} {s : Store}

/-- A token is spent for the first time, and the last. -/
theorem not_spent_of_leads {before since : List Deed} {token : String} {pair : TokenPair}
    (h : Leads {} (before ++ ⟨.rotate token, .ok (.tokens pair)⟩ :: since) s)
    (hd : Distinct (before ++ ⟨.rotate token, .ok (.tokens pair)⟩ :: since)) :
    ¬Spent before token := by
  obtain ⟨s₁, h₁, h₂⟩ := h.exists_between
  obtain ⟨s₂, hdoes, -⟩ := h₂.exists_first
  have hr := recalls_of_leads h₁ hd.of_append
  cases hdoes.tokenEffect with
  | rotate unspent => simpa using (hr.refresh.1 unspent).2
  | aside quiet => exact absurd rfl (quiet.2.1 pair)

/-- What was issued stays as it is under everything that is done without it. -/
theorem TokenEffect.keeps {s' : Store} {d : Deed} (he : TokenEffect s d s')
    (hd : Distinct (past ++ [d])) {token : String} (hmem : token ∈ past.flatMap Deed.tokens)
    (hlogout : d.operation ≠ .logout token) (hrotate : d.operation ≠ .rotate token) :
    s'.holder? token = s.holder? token ∧ s'.refresh.find? token = s.refresh.find? token := by
  have hnew {pair : TokenPair} (h : d.answer = .ok (.tokens pair)) :
      token ≠ pair.access ∧ token ≠ pair.refresh := by
    obtain ⟨-, haccess, hrefresh⟩ := hd.of_snoc h
    exact ⟨fun he => haccess (he ▸ hmem), fun he => hrefresh (he ▸ hmem)⟩
  cases he with
  | register free => exact ⟨rfl, rfl⟩
  | login known =>
    obtain ⟨haccess, hrefresh⟩ := hnew rfl
    simp [Store.withTokens, Store.holder?, Table.find?_insert, haccess, hrefresh]
  | @rotate old pair user unspent =>
    obtain ⟨haccess, hrefresh⟩ := hnew rfl
    have hold : token ≠ old := fun he => hrotate (he ▸ rfl)
    simp [Store.withTokens, Store.withSpent, Store.holder?, Table.find?_insert, haccess, hrefresh,
      hold]
  | @logout old user held =>
    have hold : token ≠ old := fun he => hlogout (he ▸ rfl)
    simp [Store.withoutToken, Store.holder?, Table.find?_erase, hold]
  | aside _ _ access refresh =>
    exact ⟨by rw [Store.holder?, access, Store.holder?], by rw [refresh]⟩

theorem tokens_live_once (h : Leads {} past s) (hd : Distinct past) (token : String) :
    Lives past s token where
  held user := (recalls_of_leads h hd).access
  shown draw := rfl
  taken draw := by
    rw [Operation.perform, bind_pure_comp, Store.map_on, Store.logout_on]
    cases s.holder? token <;> rfl
  gone hlogout := ((recalls_of_leads h hd).revoked hlogout).1
  exchanged draw := by
    rcases (recalls_of_leads h hd).rotate_cases draw token with
      ⟨ha, hu, hs⟩ | ⟨ha, hu, hs⟩ | ⟨ha, hu, hs⟩ <;> simp [ha, hu, hs]
  reused draw := by
    rcases (recalls_of_leads h hd).rotate_cases draw token with
      ⟨ha, hu, hs⟩ | ⟨ha, hu, hs⟩ | ⟨ha, hu, hs⟩ <;> simp [ha, hs]
  unknown draw := by
    rcases (recalls_of_leads h hd).rotate_cases draw token with
      ⟨ha, hu, hs⟩ | ⟨ha, hu, hs⟩ | ⟨ha, hu, hs⟩ <;> simp [ha, hu]
  renewed draw pair s' user hgives howner := by
    rw [Store.rotate_perform] at hgives
    split at hgives
    · next owner hf =>
      obtain rfl := ((recalls_of_leads h hd).refreshOf_iff hf).1 howner
      cases hgives
      simp [Store.withTokens, Store.holder?, Table.find?_insert]
    · cases hgives
    · cases hgives
  access pair user hi haccess := by
    rintro ⟨another, other, hi', hsame⟩
    exact hd.access_ne_refresh hi hi' (haccess.trans hsame.symm)
  once before since pair hpast := by
    subst hpast
    refine ⟨not_spent_of_leads h hd, ?_⟩
    rintro ⟨new, hnew⟩
    obtain ⟨middle, rest, rfl⟩ := List.append_of_mem hnew
    rw [← List.cons_append, ← List.append_assoc] at h hd
    exact not_spent_of_leads h hd ⟨pair, by simp⟩
  kept d s' hdoes hdistinct hmem hlogout hrotate :=
    hdoes.tokenEffect.keeps hdistinct hmem hlogout hrotate

/-- One user logs in twice, spends a refresh token, tries it again and logs out. -/
def twoLogins : List (Draw × Operation) :=
  [(⟨"salt", default⟩, .register "ada@example.com" "difference"),
    (⟨"", "a1", "r1"⟩, .login "ada@example.com" "difference"),
    (⟨"", "a2", "r2"⟩, .login "ada@example.com" "difference"),
    (⟨"", "a3", "r3"⟩, .rotate "r1"), (⟨"", "a4", "r4"⟩, .rotate "r1"), (default, .logout "a1")]

theorem tokens_of_two_logins_live_once :
    (deeds twoLogins {}).map (·.answer) = [.ok (.registered 1), .ok (.tokens ⟨"a1", "r1"⟩),
      .ok (.tokens ⟨"a2", "r2"⟩), .ok (.tokens ⟨"a3", "r3"⟩), .error .spentToken, .ok .done] ∧
    Lives (deeds twoLogins {}) (perform twoLogins {}).2 "r1" :=
  ⟨by decide +kernel, tokens_live_once (leads_perform twoLogins {}) (by decide +kernel) "r1"⟩

end Conclusion

end NotesBench.Service

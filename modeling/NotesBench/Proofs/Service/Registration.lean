import NotesBench.Proofs.Service.Handling

/-!
# Which registrations are accepted

A registration is refused as unprocessable by a rule about its address, without the blanks around
it, and its password, and only then looked up among the accounts (`Registers`). The rule measures a
password in characters but an address in octets. As long as no address has few characters in many
octets, this is the rule that measures both in characters (`registration_by_the_rule`); a short
address with letters beyond ASCII may be refused as too long (`short_address_is_refused`).
-/

namespace NotesBench.Service

open Http (Request)
open Handler (Gives)

/-- The length of a text in octets. -/
def octetCount (s : String) : Nat := (Text.Utf8.encode s).length

theorem length_le_octetCount (s : String) : s.length ≤ octetCount s := by
  unfold octetCount Text.Utf8.encode
  rw [← String.length_toList]
  induction s.toList with
  | nil => exact Nat.le_refl 0
  | cons c rest ih =>
    have hc : 0 < (String.utf8EncodeChar c).length := by
      apply List.length_pos_of_ne_nil
      exact String.utf8EncodeChar_ne_nil
    rw [List.flatMap_cons, List.length_append, List.length_cons]
    omega

/-! ## The rule -/

/-- Which addresses and passwords can be registered, with some measure for the length of an
address. -/
structure Settings.Allows (settings : Settings) (measure : String → Nat) (email password : String) :
    Prop where
  parts : ∃ user domain, email.toList = user ++ '@' :: domain ∧ '@' ∉ user ∧
    user ≠ [] ∧ domain ≠ []
  short : measure email ≤ settings.maxEmail
  password : settings.minPassword ≤ password.length ∧ password.length ≤ settings.maxPassword

theorem hasTwoParts_iff {email : String} :
    hasTwoParts email = true ↔ ∃ user domain, email.toList = user ++ '@' :: domain ∧ '@' ∉ user ∧
      user ≠ [] ∧ domain ≠ [] := by
  unfold hasTwoParts
  constructor
  · intro h
    split at h
    · next user domain hcut =>
      obtain ⟨huser, hemail⟩ := Text.cutAt_eq_some_iff.1 hcut
      exact ⟨user, domain, hemail, huser, by simpa using h⟩
    · cases h
  · rintro ⟨user, domain, hemail, huser, hne⟩
    rw [Text.cutAt_eq_some_iff.2 ⟨huser, hemail⟩]
    simpa using hne

section Rule

variable {settings : Settings} {email password : String}

/-- What the service accepts is what the rule allows when it measures in octets. -/
theorem allows_octetCount_iff :
    settings.Allows octetCount email password ↔
      settings.acceptsEmail email = true ∧ settings.acceptsPassword password = true := by
  unfold Settings.acceptsEmail Settings.acceptsPassword
  simp only [Bool.and_eq_true, decide_eq_true_eq, hasTwoParts_iff]
  constructor
  · rintro ⟨parts, short, password⟩
    exact ⟨⟨short, parts⟩, password⟩
  · rintro ⟨⟨short, parts⟩, password⟩
    exact ⟨parts, short, password⟩

theorem allows_length_iff
    (measured : email.length ≤ settings.maxEmail → octetCount email ≤ settings.maxEmail) :
    settings.Allows String.length email password ↔ settings.Allows octetCount email password := by
  constructor
  · rintro ⟨parts, short, password⟩
    exact ⟨parts, measured short, password⟩
  · rintro ⟨parts, short, password⟩
    exact ⟨parts, Nat.le_trans (length_le_octetCount email) short, password⟩

end Rule

/-! ## Registrations -/

/-- A request to register with this address, as it was sent, and this password. -/
structure AsksToRegister (settings : Settings) (r : Request) (raw password : String) : Prop where
  method : r.method = .post
  route : Route.ofPath? r.path = some .register
  body : ∃ bytes, r.body = .complete bytes ∧ bytes.length ≤ settings.maxBody ∧
    decodeTexts? ["email", "password"] bytes = some [raw, password]

section Endpoint

variable {settings : Settings} {draw : Draw} {r : Request} {s : Store} {email password : String}
  (read : (readCredentials settings r).Gives s (.ok (email, password)) s)
include read

theorem gives_registerEndpoint_email (he : settings.acceptsEmail email = false) :
    (registerEndpoint settings draw r).Gives s (.error (.unprocessable "invalid email")) s := by
  refine read.bind ?_
  simp only [he, Bool.not_false, if_true]
  rfl

theorem gives_registerEndpoint_password (he : settings.acceptsEmail email = true)
    (hp : settings.acceptsPassword password = false) :
    (registerEndpoint settings draw r).Gives s (.error settings.passwordRule) s := by
  refine read.bind ?_
  simp only [he, hp, Bool.not_true, Bool.not_false, Bool.false_eq_true, if_true, if_false]
  rfl

end Endpoint

section Requests

variable {settings : Settings} {r : Request} {raw password : String}

/-- A registration by the address, the password and the accounts there are, in this order. -/
theorem AsksToRegister.serve_eq (h : AsksToRegister settings r raw password) (draw : Draw)
    (s : Store) :
    serve settings draw r s =
      if settings.acceptsEmail (Text.trim raw) = false then
        (Failure.response (.unprocessable "invalid email"), s)
      else if settings.acceptsPassword password = false then (settings.passwordRule.response, s)
      else if s.accounts.contains (Text.trim raw) then
        ((Failure.ofRefusal (.emailTaken (Text.trim raw))).response, s)
      else
        (⟨200, [("content-type", "application/json")],
          (Json.object [("id", .int (s.lastUser + 1))]).octets⟩,
          s.withAccount draw.salt (Text.trim raw) password) := by
  obtain ⟨bytes, hbody, hlen, hd⟩ := h.body
  have hread : (readCredentials settings r).Gives s (.ok (Text.trim raw, password)) s :=
    (gives_readTexts_of_decodeTexts? hbody hlen hd s).bind (.pure _ s)
  have hserve {result : Except Failure Http.Response} {s' : Store}
      (hg : (registerEndpoint settings draw r).Gives s result s') :
      serve settings draw r s = (responseOf result, s') := by
    apply serve_of_gives h.route (by simp [h.method])
    rw [Route.handler, if_pos h.method]
    exact hg
  have hregister := Store.register_on draw.salt (Text.trim raw) password s
  split
  · next he => exact hserve (gives_registerEndpoint_email hread he)
  · next he =>
    rw [Bool.not_eq_false] at he
    split
    · next hp => exact hserve (gives_registerEndpoint_password hread he hp)
    · next hp =>
      rw [Bool.not_eq_false] at hp
      split
      · next taken =>
        rw [if_pos taken] at hregister
        exact hserve (gives_registerEndpoint_refused hread he hp hregister)
      · next free =>
        rw [if_neg free] at hregister
        exact hserve (gives_registerEndpoint hread he hp hregister)

end Requests

/-- A registration is answered by whether it is allowed, and then by whether the address is free. -/
structure Registers (settings : Settings) (draw : Draw) (r : Request) (s : Store)
    (email password : String) (allowed : Prop) : Prop where
  unprocessable : (serve settings draw r s).1.status = 422 ↔ ¬allowed
  conflict : allowed → s.accounts.contains email = true →
    (serve settings draw r s).1.status = 409
  fulfilled : allowed → s.accounts.contains email = false →
    (serve settings draw r s).1.status = 200 ∧
      (serve settings draw r s).1.body = (Json.object [("id", .int (s.lastUser + 1))]).octets ∧
      (serve settings draw r s).2 = s.withAccount draw.salt email password
  unchanged : (serve settings draw r s).1.status ≠ 200 → (serve settings draw r s).2 = s

section Conclusion

variable {settings : Settings} {r : Request} {raw password : String}

theorem Registers.of_unprocessable {draw : Draw} {s : Store} {email : String} {allowed : Prop}
    {response : Http.Response} (hserve : serve settings draw r s = (response, s))
    (hstatus : response.status = 422) (hno : ¬allowed) :
    Registers settings draw r s email password allowed where
  unprocessable := by
    rw [hserve]
    exact iff_of_true hstatus hno
  conflict hallowed := absurd hallowed hno
  fulfilled hallowed := absurd hallowed hno
  unchanged _ := by rw [hserve]

theorem AsksToRegister.registers (h : AsksToRegister settings r raw password) (draw : Draw)
    (s : Store) :
    Registers settings draw r s (Text.trim raw) password
      (settings.Allows octetCount (Text.trim raw) password) := by
  have hserve := h.serve_eq draw s
  rw [allows_octetCount_iff]
  split_ifs at hserve with he hp taken
  · exact .of_unprocessable hserve rfl fun hallowed => by simp [he] at hallowed
  · exact .of_unprocessable hserve rfl fun hallowed => by simp [hp] at hallowed
  · rw [Bool.not_eq_false] at he hp
    constructor
    · rw [hserve]
      exact iff_of_false (show 409 ≠ 422 by decide) (not_not_intro ⟨he, hp⟩)
    · intro _ _
      rw [hserve]
      rfl
    · intro _ free
      rw [free] at taken
      cases taken
    · intro _
      rw [hserve]
  · rw [Bool.not_eq_false] at he hp
    constructor
    · rw [hserve]
      exact iff_of_false (show 200 ≠ 422 by decide) (not_not_intro ⟨he, hp⟩)
    · intro _ htaken
      exact absurd htaken taken
    · intro _ _
      simp only [hserve, and_self]
    · intro hstatus
      rw [hserve] at hstatus
      exact absurd rfl hstatus

/-- A registration is answered by the rule that measures the address in octets. Unless the address
has few characters in many octets, this is the rule that measures it in characters. -/
theorem registration_by_the_rule (h : AsksToRegister settings r raw password) (draw : Draw)
    (s : Store) :
    Registers settings draw r s (Text.trim raw) password
        (settings.Allows octetCount (Text.trim raw) password) ∧
      (((Text.trim raw).length ≤ settings.maxEmail →
          octetCount (Text.trim raw) ≤ settings.maxEmail) →
        Registers settings draw r s (Text.trim raw) password
          (settings.Allows String.length (Text.trim raw) password)) := by
  refine ⟨h.registers draw s, fun measured => ?_⟩
  rw [allows_length_iff measured]
  exact h.registers draw s

/-- A request to register, with the usual password. -/
def registrationOf (email : String) : Request :=
  ⟨.post, "/auth/register", [],
    .complete (pairJson "email" email "password" "Password1!").octets⟩

theorem asksToRegister_registrationOf {email : String}
    (hlen : (pairJson "email" email "password" "Password1!").octets.length ≤ settings.maxBody) :
    AsksToRegister settings (registrationOf email) email "Password1!" := by
  have hpath : (registrationOf email).path = "/auth/register" := by
    dsimp only [registrationOf, Request.path, Request.resource]
    decide +kernel
  have hroute : Route.ofPath? (registrationOf email).path = some .register :=
    ofPath?_eq_some_iff.2 ⟨hpath.symm, trivial⟩
  have hdecode := decodeTexts?_pairJson (show "email" ≠ "password" by decide) email "Password1!"
  exact ⟨rfl, hroute, _, rfl, hlen, hdecode⟩

/-- An address with a letter beyond ASCII and with blanks around it. -/
theorem foreign_address_is_registered :
    (serve {} default (registrationOf "\u3000zoë@t.io\n") {}).1.status = 200 ∧
      (serve {} default (registrationOf "\u3000zoë@t.io\n") {}).2 =
        Store.withAccount {} default "zoë@t.io" "Password1!" := by
  have htrim : Text.trim "\u3000zoë@t.io\n" = "zoë@t.io" := by decide +kernel
  have hasks : AsksToRegister {} (registrationOf "\u3000zoë@t.io\n") "\u3000zoë@t.io\n"
      "Password1!" := asksToRegister_registrationOf (by decide +kernel)
  obtain ⟨-, hrule⟩ := registration_by_the_rule hasks default {}
  rw [htrim] at hrule
  have hregisters := hrule fun _ => by decide +kernel
  have hallowed : ({} : Settings).Allows String.length "zoë@t.io" "Password1!" :=
    ⟨⟨"zoë".toList, "t.io".toList, by decide +kernel⟩, by decide +kernel, by decide +kernel⟩
  obtain ⟨hstatus, -, hstate⟩ := hregisters.fulfilled hallowed rfl
  exact ⟨hstatus, hstate⟩

/-- The rule does not measure addresses in characters: where six are allowed, an address of six is
refused. -/
theorem short_address_is_refused :
    ¬∀ (settings : Settings) (r : Request) (raw password : String),
      AsksToRegister settings r raw password → ∀ (draw : Draw) (s : Store),
        Registers settings draw r s (Text.trim raw) password
          (settings.Allows String.length (Text.trim raw) password) := by
  intro h
  have htrim : Text.trim "é@t.io" = "é@t.io" := by decide +kernel
  have hasks : AsksToRegister { maxEmail := 6 } (registrationOf "é@t.io") "é@t.io" "Password1!" :=
    asksToRegister_registrationOf (by decide +kernel)
  have hregisters := h _ _ _ _ hasks default {}
  rw [htrim] at hregisters
  have hallowed : Settings.Allows { maxEmail := 6 } String.length "é@t.io" "Password1!" :=
    ⟨⟨"é".toList, "t.io".toList, by decide +kernel⟩, by decide +kernel, by decide +kernel⟩
  have hrefused : Settings.acceptsEmail { maxEmail := 6 } (Text.trim "é@t.io") = false := by
    decide +kernel
  apply hregisters.unprocessable.1 _ hallowed
  rw [hasks.serve_eq default {}, if_pos hrefused]
  rfl

end Conclusion

end NotesBench.Service

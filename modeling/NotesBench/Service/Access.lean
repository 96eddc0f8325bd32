import NotesBench.Service.Handler

/-!
# Accounts and tokens over HTTP

Registration accepts an address with something on both sides of its first at-sign and a password
of a suitable length. Blanks around an address do not count. Login and refresh answer with a pair
of tokens, logout with nothing.
-/

namespace NotesBench.Service

open Http (Request Response)

/-- Whether there is something on both sides of the first at-sign. -/
def hasTwoParts (email : String) : Bool :=
  match Text.cutAt '@' email.toList with
  | some (user, domain) => !user.isEmpty && !domain.isEmpty
  | none => false

/-- An address that can be registered; the blanks around it are gone. -/
def Settings.acceptsEmail (settings : Settings) (email : String) : Bool :=
  (Text.Utf8.encode email).length ≤ settings.maxEmail && hasTwoParts email

/-- A password that can be registered. -/
def Settings.acceptsPassword (settings : Settings) (password : String) : Bool :=
  settings.minPassword ≤ password.length && password.length ≤ settings.maxPassword

def Settings.passwordRule (settings : Settings) : Failure :=
  .unprocessable ("password must be " ++ Text.natText settings.minPassword ++ "-" ++
    Text.natText settings.maxPassword ++ " characters")

/-- Reads an address, without the blanks around it, and a password. -/
def readCredentials (settings : Settings) (r : Request) : Handler (String × String) := do
  match ← readTexts settings ["email", "password"] r with
  | [email, password] => return (Text.trim email, password)
  | _ => return ("", "")

def TokenPair.json (pair : TokenPair) : Json :=
  .object [("access", .string pair.access), ("refresh", .string pair.refresh)]

def registerEndpoint (settings : Settings) (draw : Draw) (r : Request) : Handler Response := do
  let (email, password) ← readCredentials settings r
  if !settings.acceptsEmail email then throw (.unprocessable "invalid email")
  if !settings.acceptsPassword password then throw settings.passwordRule
  let id ← act (Store.register draw.salt email password)
  answer (jsonReply 200 (.object [("id", .int id)]) none)

/-- Issues tokens for an address and its password. -/
def loginEndpoint (settings : Settings) (draw : Draw) (r : Request) : Handler Response := do
  let (email, password) ← readCredentials settings r
  let pair ← act (Store.login draw.pair email password)
  answer (jsonReply 200 pair.json none)

/-- Exchanges a refresh token for new tokens. -/
def refreshEndpoint (settings : Settings) (draw : Draw) (r : Request) : Handler Response := do
  let token := (← readTexts settings ["refresh"] r).headD ""
  let pair ← act (Store.rotate draw.pair token)
  answer (jsonReply 200 pair.json none)

/-- Revokes the token that the request carries. -/
def logoutEndpoint (r : Request) : Handler Response := do
  let some token := Http.bearer? r.headers | throw (.unauthorized "missing bearer token")
  act (Store.logout token)
  answer (emptyReply 204)

end NotesBench.Service

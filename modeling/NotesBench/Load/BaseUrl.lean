import NotesBench.Text.Blank

/-!
# The address of the service

The address of the service is given without the slashes at its end. An option wins over the
environment, and the environment over the usual address.
-/

namespace NotesBench.Load.BaseUrl

/-- Why a text is no address. The text is kept as it was given. -/
inductive Problem where
  | scheme (raw : String)
  | noHost (raw : String)
  deriving Repr, DecidableEq

/-- The wording of a refused address. -/
def Problem.message : Problem → String
  | .scheme raw => "base url must start with http:// or https://: '" ++ raw ++ "'"
  | .noHost raw => "base url has no host: '" ++ raw ++ "'"

/-- The address used when no other is given. -/
def usual : String := "http://localhost:8080"

def afterScheme? (s : List Char) : Option (List Char) :=
  ("http://".toList.isPrefixOf? s).or ("https://".toList.isPrefixOf? s)

/-- Drops the blanks around an address and then the slashes at its end. -/
def normalize (raw : String) : Except Problem String :=
  let s := Text.dropEndWhile (· == '/') (Text.trimmed raw.toList)
  match afterScheme? s with
  | none => .error (.scheme raw)
  | some [] => .error (.noHost raw)
  | some _ => .ok (String.ofList s)

/-- The address that is asked for: the given one, else the one in the environment unless that is
blank, else the usual one. -/
def chosen (given environment : Option String) : String :=
  match given with
  | some url => url
  | none => (environment.filter fun url => Text.trim url != "").getD usual

def resolve (given environment : Option String) : Except Problem String :=
  normalize (chosen given environment)

end NotesBench.Load.BaseUrl

import NotesBench.Text.Cut

/-!
# Places for files

A storage is what a command finds when it writes a file: directories, files and devices, each at a
place given by the names from the root on. `place` follows a path to the place where a file is
opened, names that do not exist among them, and says why none can be; `writable` adds what happens
when something is written there.
-/

namespace NotesBench.Command

/-- The names from the root on. -/
abbrev Place := List String

/-- Why a file cannot be written. -/
inductive StorageProblem where
  | missing
  | forbidden
  | notDirectory
  | isDirectory
  | noRoom
  | nameTooLong
  deriving Repr, DecidableEq

def StorageProblem.message : StorageProblem → String
  | .missing => "No such file or directory (os error 2)"
  | .forbidden => "Permission denied (os error 13)"
  | .notDirectory => "Not a directory (os error 20)"
  | .isDirectory => "Is a directory (os error 21)"
  | .noRoom => "No space left on device (os error 28)"
  | .nameTooLong => "File name too long (os error 36)"

/-- What is found at a place. -/
inductive Found where
  | directory
  /-- A directory in which nothing can be made, and why. -/
  | sealed (problem : StorageProblem)
  | file
  /-- A device on which there is no room. -/
  | full
  deriving Repr, DecidableEq

/-- What there is, and the directory where a path begins that does not begin at the root. -/
structure Storage where
  entries : List (Place × Found)
  here : Place
  deriving Repr

namespace Storage

/-- The most octets of a name. -/
def maxName : Nat := 255

/-- One past the most octets of a path. -/
def pathEnd : Nat := 4096

/-- What is found at a place. The root is a directory. -/
def find? (s : Storage) (place : Place) : Option Found :=
  if place = [] then some .directory else (s.entries.find? (·.1 = place)).map (·.2)

def isDirectory (s : Storage) (place : Place) : Bool :=
  match s.find? place with
  | some .directory | some (.sealed _) => true
  | _ => false

/-- A name that leads back to where one is, or further up. -/
def isRelative (name : String) : Bool := name == "" || name == "." || name == ".."

def enter (s : Storage) (place : Place) (name : String) : Except StorageProblem Place :=
  if !s.isDirectory place then .error .notDirectory
  else if name = "" ∨ name = "." then .ok place
  else if name = ".." then .ok place.dropLast
  else if maxName < name.utf8ByteSize then .error .nameTooLong
  else if (s.find? (place ++ [name])).isNone then .error .missing
  else .ok (place ++ [name])

/-- The place of a file with the name, in a directory. -/
def fileIn (s : Storage) (place : Place) (name : String) : Except StorageProblem Place :=
  if !s.isDirectory place then .error .notDirectory
  else if isRelative name then .error .isDirectory
  else if maxName < name.utf8ByteSize then .error .nameTooLong
  else if s.isDirectory (place ++ [name]) then .error .isDirectory
  else
    match s.find? place, s.find? (place ++ [name]) with
    | some (.sealed problem), none => .error problem
    | _, _ => .ok (place ++ [name])

/-- The names of a path, without slashes at its end. -/
def names (path : String) : List String :=
  let whole := (path.toList.reverse.dropWhile (· == '/')).reverse
  (Text.splitOn '/' whole).map String.ofList

/-- The place that a path leads to when a file is to be written. A path that ends in a slash can
only lead to a directory. -/
def place (s : Storage) (path : String) : Except StorageProblem Place := do
  if path = "" then throw .missing
  if pathEnd ≤ path.utf8ByteSize then throw .nameTooLong
  let start := if path.toList.head? = some '/' then [] else s.here
  let names := names path
  let directory ← names.dropLast.foldlM s.enter start
  if path.toList.getLast? = some '/' then
    if s.isDirectory directory then throw .isDirectory else throw .notDirectory
  s.fileIn directory (names.getLast?.getD "")

/-- The place of a file that is opened at a path and written to. -/
def writable (s : Storage) (path : String) : Except StorageProblem Place := do
  let place ← s.place path
  if s.find? place = some .full then throw .noRoom
  return place

end Storage

end NotesBench.Command

/-!
# Files

Files are found by paths.  A path that begins with a slash starts at the root, any other
path at the working directory; a single dot stays where it is, two dots go up, and
whatever is gone through has to be a directory.  Neither a path nor a name in a directory
may be too long.
-/

namespace PassPipeline

/-- What a path leads to. -/
inductive Entry where
  | missing
  /-- The path goes through a file. -/
  | blocked
  /-- The path or a name in it is too long to be looked up. -/
  | tooLong
  | directory
  /-- The system does not let the file be read. -/
  | denied
  | file (bytes : ByteArray)

/-- The reason that the system gives for a failure to read an entry. -/
inductive ReadFailure where
  | missing
  | blocked
  | tooLong
  | directory
  | denied
  | notText
  deriving DecidableEq, Repr

/-- The wording of a reason. -/
def ReadFailure.message : ReadFailure → String
  | .missing => "No such file or directory (os error 2)"
  | .blocked => "Not a directory (os error 20)"
  | .tooLong => "File name too long (os error 36)"
  | .directory => "Is a directory (os error 21)"
  | .denied => "Permission denied (os error 13)"
  | .notText => "stream did not contain valid UTF-8"

namespace Entry

/-- Does the path lead to something? -/
def isPresent : Entry → Bool
  | .missing => false
  | .blocked => false
  | .tooLong => false
  | _ => true

/-- The text of a file. -/
def readText : Entry → Except ReadFailure String
  | .missing => .error .missing
  | .blocked => .error .blocked
  | .tooLong => .error .tooLong
  | .directory => .error .directory
  | .denied => .error .denied
  | .file bytes =>
    match String.fromUTF8? bytes with
    | some text => .ok text
    | none => .error .notText

end Entry

/-- A tree of files below the root. -/
structure FileTree where
  /-- The names that lead from the root to the working directory. -/
  working : List String
  /-- The files, each with the names that lead to it from the root. -/
  files : List (List String × ByteArray) := []
  /-- The directories that need not hold a file, named likewise. -/
  directories : List (List String) := []

namespace FileTree

/-- The names in a path. -/
def names (path : String) : List String :=
  (path.splitOn "/").filter fun name => !name.isEmpty && name != "."

/-- What the names lead to that start at the root. -/
def find (tree : FileTree) (place : List String) : Entry :=
  match tree.files.lookup place with
  | some bytes => .file bytes
  | none =>
    if (tree.working :: tree.directories ++ tree.files.map Prod.fst).any (place.isPrefixOf ·) then
      .directory
    else .missing

/-- The number of bytes that a name may have. -/
def nameLimit : Nat := 255

/-- The number of bytes that a path may not reach. -/
def pathLimit : Nat := 4096

/-- Follows names from a place. -/
def follow (tree : FileTree) (place : List String) : List String → Entry
  | [] => tree.find place
  | name :: rest =>
    match tree.find place with
    | .directory =>
      if nameLimit < name.utf8ByteSize then .tooLong
      else tree.follow (if name = ".." then place.dropLast else place ++ [name]) rest
    | .file _ => .blocked
    | other => other

/-- Does a path say that what it leads to is a directory? -/
def demandsDirectory (path : String) : Bool := path.endsWith "/" || path.endsWith "/."

/-- What a path leads to. -/
def entry (tree : FileTree) (path : String) : Entry :=
  if path.isEmpty then .missing
  else if pathLimit ≤ path.utf8ByteSize then .tooLong
  else
    match tree.follow (if path.startsWith "/" then [] else tree.working) (names path) with
    | .file bytes => if demandsDirectory path then .blocked else .file bytes
    | other => other

end FileTree

end PassPipeline

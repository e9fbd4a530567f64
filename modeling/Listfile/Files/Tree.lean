import Listfile.Files.Name

/-!
A tree of files and directories, with the operations of a file system on it. A path can only be followed
through directories that exist; paths and names have a greatest length, and no path holds a NUL.
-/

namespace Listfile

inductive FileEntry where
  | directory
  | file (text : String)
  deriving DecidableEq, Repr

/-- The entries below the root, each under its components; the root itself is a directory. -/
structure FileTree where
  entries : List (List String × FileEntry) := []
  deriving Repr, Inhabited

namespace FileTree

inductive Failure where
  | missing
  | present
  | unsuitable
  | tooLong
  | malformed
  deriving DecidableEq, Repr

def Failure.message : Failure → String
  | .missing => "no such file or directory"
  | .present => "the file exists already"
  | .unsuitable => "not a file or directory as needed"
  | .tooLong => "the name is too long"
  | .malformed => "the path holds a NUL"

def lookup? (tree : FileTree) (place : List String) : Option FileEntry :=
  if place = [] then some .directory else tree.entries.lookup place

def isDirectory (tree : FileTree) (place : List String) : Bool :=
  tree.lookup? place = some .directory

def put (tree : FileTree) (place : List String) (entry : FileEntry) : FileTree :=
  ⟨(place, entry) :: tree.entries.filter fun other => other.1 ≠ place⟩

def names (tree : FileTree) (place : List String) : List String :=
  tree.entries.filterMap fun entry =>
    match entry.1.reverse with
    | name :: above => if above.reverse = place then some name else none
    | [] => none

def nameLimit : Nat := 255

def pathLimit : Nat := 4095

def admitted (path : String) : Except Failure (List String) :=
  if path.toList.contains '\x00' then .error .malformed
  else if path.utf8ByteSize > pathLimit then .error .tooLong
  else .ok (Files.fields path)

/-- Follows the fields of a path from an existing place. -/
def follow (tree : FileTree) (place : List String) : List String → Except Failure (List String)
  | [] => .ok place
  | field :: rest =>
    if !tree.isDirectory place then .error .unsuitable
    else if Files.isVoid field then follow tree place rest
    else if field = ".." then follow tree place.dropLast rest
    else if field.utf8ByteSize > nameLimit then .error .tooLong
    else if (tree.lookup? (place ++ [field])).isSome then follow tree (place ++ [field]) rest
    else .error .missing

def find (tree : FileTree) (path : String) : Except Failure (List String) :=
  admitted path >>= tree.follow []

def entryAt (tree : FileTree) (path : String) : Except Failure FileEntry :=
  match tree.find path with
  | .error failure => .error failure
  | .ok place =>
    match tree.lookup? place with
    | some entry => .ok entry
    | none => .error .missing

def isDirectoryAt (tree : FileTree) (path : String) : Bool :=
  match tree.entryAt path with
  | .ok entry => entry = .directory
  | .error _ => false

def read (tree : FileTree) (path : String) : Except Failure String :=
  match tree.entryAt path with
  | .ok (.file text) => .ok text
  | .ok .directory => .error .unsuitable
  | .error failure => .error failure

def pathOf (place : List String) : String := "/" ++ "/".intercalate place

def dropTrailingSlashes (fields : List String) : List String :=
  (fields.reverse.dropWhile (· = "")).reverse

/-- The directory that a new entry goes to, and its name. -/
def slot (tree : FileTree) (fields : List String) : Except Failure (List String × String) :=
  match fields.reverse with
  | [] => .error .present
  | name :: above =>
    match tree.follow [] above.reverse with
    | .error failure => .error failure
    | .ok place =>
      if !tree.isDirectory place then .error .unsuitable
      else if Files.isVoid name || name = ".." then .error .present
      else if name.utf8ByteSize > nameLimit then .error .tooLong
      else .ok (place, name)

def makeDirectory (tree : FileTree) (path : String) : Except Failure FileTree :=
  match admitted path >>= fun fields => tree.slot (dropTrailingSlashes fields) with
  | .error failure => .error failure
  | .ok (place, name) =>
    if (tree.lookup? (place ++ [name])).isSome then .error .present
    else .ok (tree.put (place ++ [name]) .directory)

/-- What making a directory comes to; one that is there already is as good. -/
def orExisting (tree : FileTree) (path : String) :
    Except Failure FileTree → Except Failure Unit × FileTree
  | .ok made => (.ok (), made)
  | .error failure => (if tree.isDirectoryAt path then .ok () else .error failure, tree)

/-- Makes a directory and those above it; `depth` bounds their number. What is made stays, even if a
later one fails. -/
def makeDirectoriesUpTo : Nat → FileTree → String → Except Failure Unit × FileTree
  | 0, tree, _ => (.error .missing, tree)
  | depth + 1, tree, path =>
    match tree.makeDirectory path with
    | .error .missing =>
      match Files.parent? path with
      | none => (.error .missing, tree)
      | some above =>
        match makeDirectoriesUpTo depth tree above with
        | (.error failure, tree) => (.error failure, tree)
        | (.ok (), tree) => tree.orExisting path (tree.makeDirectory path)
    | made => tree.orExisting path made

def makeDirectories (tree : FileTree) (path : String) : Except Failure Unit × FileTree :=
  makeDirectoriesUpTo ((Files.fields path).length + 1) tree path

def write (tree : FileTree) (path text : String) : Except Failure Unit × FileTree :=
  match admitted path >>= tree.slot with
  | .error failure => (.error failure, tree)
  | .ok (place, name) =>
    if tree.isDirectory (place ++ [name]) then (.error .unsuitable, tree)
    else (.ok (), tree.put (place ++ [name]) (.file text))

end FileTree

end Listfile

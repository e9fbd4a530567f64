import Listfile.Text.Blank
import Listfile.Text.Case
import Listfile.Text.Split

/-!
Lexical paths: a root, and components between slashes. Backslashes become slashes first; a canonical path
has no `.`, and `..` only where no component before it is left to cancel.
-/

namespace Listfile.Path

inductive Root where
  | none
  | slash
  | share
  | drive (letter : Char)
  deriving DecidableEq, Repr

abbrev Component := List Char

structure Canonical where
  root : Root
  components : List Component
  deriving DecidableEq, Repr

def startsWithDrive : List Char → Bool
  | letter :: ':' :: _ => letter.isAlpha
  | _ => false

/-- A path is rooted if it starts with a separator or a drive. -/
def isRooted (path : String) : Bool :=
  match path.toList with
  | '/' :: _ => true
  | '\\' :: _ => true
  | cs => startsWithDrive cs

def dropSlashes (cs : List Char) : List Char := cs.dropWhile (· = '/')

def splitRoot (cs : List Char) : Root × List Char :=
  match cs with
  | '/' :: '/' :: rest => (.share, dropSlashes rest)
  | '/' :: rest => (.slash, dropSlashes rest)
  | letter :: ':' :: rest => if letter.isAlpha then (.drive letter, dropSlashes rest) else (.none, cs)
  | cs => (.none, cs)

def parent : Component := ['.', '.']

/-- Puts one component on the reversed list of those read so far. -/
def push (root : Root) (stack : List Component) (component : Component) : List Component :=
  if component = [] || component = ['.'] then stack
  else if component = parent then
    match stack with
    | [] => if root = .none then [parent] else []
    | top :: below =>
      if top ≠ parent then below else if root = .none then parent :: stack else stack
  else component :: stack

def collapse (root : Root) (components : List Component) : List Component :=
  (components.foldl (push root) []).reverse

def Canonical.ofChars (cs : List Char) : Canonical :=
  let (root, rest) := splitRoot cs
  ⟨root, collapse root (rest.splitOnP (· = '/'))⟩

def Canonical.chars (path : Canonical) : List Char :=
  let joined := ['/'].intercalate path.components
  match path.root with
  | .none => joined
  | .slash => '/' :: joined
  | .share => '/' :: '/' :: joined
  | .drive letter => letter :: ':' :: '/' :: joined

def normalize (path : String) : String := String.ofList (Canonical.ofChars path.toList).chars

def canonical (path : String) : String := normalize (Text.slashed path)

/-- The path `relative` seen from `base`; a rooted one stands for itself. -/
def join (base relative : String) : String :=
  if isRooted relative || base = "" then relative
  else if relative = "" then base
  else String.ofList (Text.stripEnd (· = '/') base.toList) ++ "/" ++ relative

/-- The components of a canonical path, a drive among them. -/
def parts (path : String) : List String := (Text.fields (· = '/') path).filter (· ≠ "")

def startsWithSlash (path : String) : Bool := path.toList.head? == some '/'

/-- What is left of `path` below `base`, case aside, where both are canonical. -/
def relativeTo? (path base : String) : Option String :=
  let pathParts := parts path
  let baseParts := parts base
  if base = "" || pathParts.length < baseParts.length || isRooted path != isRooted base ||
      startsWithSlash path != startsWithSlash base then none
  else if (baseParts.zip pathParts).all fun pair => Text.sameIgnoringCase pair.1 pair.2 then
    some ("/".intercalate (pathParts.drop baseParts.length))
  else none

def same (a b : String) : Bool := Text.sameIgnoringCase (canonical a) (canonical b)

def directoryOf (path : String) : String :=
  let cs := (Text.slashed path).toList
  String.ofList ((cs.reverse.dropWhile (· ≠ '/')).drop 1).reverse

end Listfile.Path

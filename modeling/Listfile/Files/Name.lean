import Listfile.Text.Case
import Listfile.Text.Split

/-!
Names of files on the host system. Components stand between slashes; empty ones and single points mean
nothing, except at the front.
-/

namespace Listfile.Files

def isSlash (c : Char) : Bool := c == '/'

def fields (path : String) : List String := Text.fields isSlash path

def isAbsolute (path : String) : Bool := path.toList.head? == some '/'

def endsWithSlash (path : String) : Bool := path.toList.getLast? == some '/'

/-- The path `relative` seen from `base`; an absolute one stands for itself. -/
def join (base relative : String) : String :=
  if isAbsolute relative then relative
  else if base = "" || endsWithSlash base then base ++ relative
  else base ++ "/" ++ relative

def isVoid (field : String) : Bool := field = "" || field = "."

/-- Drops what means nothing from the end. -/
def dropVoid (fields : List String) : List String := (fields.reverse.dropWhile isVoid).reverse

def parent? (path : String) : Option String :=
  match dropVoid (fields path) with
  | [] => none
  | kept =>
    match dropVoid kept.dropLast with
    | [] => some (if isAbsolute path then "/" else "")
    | above => some ("/".intercalate above)

/-- The last component, unless it leads upwards. -/
def fileName? (path : String) : Option String := (dropVoid (fields path)).getLast?.filter (· ≠ "..")

def extensionOf? (name : String) : Option String :=
  let cs := name.toList
  match cs.reverse.dropWhile (· ≠ '.') with
  | _ :: _ :: _ => some (String.ofList (cs.reverse.takeWhile (· ≠ '.')).reverse)
  | _ => none

def extension? (path : String) : Option String := fileName? path >>= extensionOf?

end Listfile.Files

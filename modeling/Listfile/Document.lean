/-!
The value tree of a configuration document, whatever notation it was written in.
-/

namespace Listfile

/-- How a table was written: as a whole, within one line, or spread over lines under headers. -/
inductive TableForm where
  | object
  | inline
  | section
  deriving DecidableEq, Repr

/-- A text or a member's name is missing if an escape in it names half of a surrogate pair. -/
inductive Document where
  | null
  | bool (value : Bool)
  | number (literal : String)
  | text (content : Option String)
  | array (items : List Document)
  | table (form : TableForm) (members : List (Option String × Document))
  deriving Repr, Inhabited

namespace Document

def ofString (content : String) : Document := .text (some content)

def strings (contents : List String) : Document := .array (contents.map ofString)

def object (members : List (String × Document)) : Document :=
  .table .object (members.map fun member => (some member.1, member.2))

def ofOption {α : Type} (encode : α → Document) : Option α → Document
  | none => .null
  | some value => encode value

/-! Reading values out of a document. -/

def bool? : Document → Option Bool
  | .bool value => some value
  | _ => none

def string? : Document → Option String
  | .text content => content
  | _ => none

def list? {α : Type} (item? : Document → Option α) : Document → Option (List α)
  | .array items => items.mapM item?
  | _ => none

def strings? : Document → Option (List String) := list? string?

/-- What is null is absent. -/
def option? {α : Type} (value? : Document → Option α) : Document → Option (Option α)
  | .null => some none
  | document => (value? document).map some

/-- The name that a choice is given by: a text, or a table that holds nothing but this name. -/
def choice? : Document → Option String
  | .text content => content
  | .table .object [(name, .null)] => name
  | .table .inline [(name, .table .inline [])] => name
  | _ => none

def member? {α : Type} (value? : Document → Option α) (member : Option String × Document) :
    Option (String × α) := do
  let name ← member.1
  return (name, ← value? member.2)

end Document

end Listfile

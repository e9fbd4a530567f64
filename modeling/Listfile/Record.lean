import Listfile.Document
import Listfile.Keyed

/-!
Records in documents. A record is a table of its fields, where other names are passed over, or an array of
its first fields in order; a field comes at most once.
-/

namespace Listfile.Document

def knownMembers (names : List String) (members : List (Option String × Document)) :
    List (String × Document) :=
  members.filterMap fun member =>
    match member.1 with
    | some name => if names.contains name then some (name, member.2) else none
    | none => none

def fields? (names : List String) : Document → Option (Keyed Document)
  | .table _ members =>
    let known := knownMembers names members
    if members.all (fun member => member.1.isSome) && decide (Keyed.keys known).Nodup then some known
    else none
  | .array items => if items.length ≤ names.length then some (names.zip items) else none
  | _ => none

def required? {α : Type} (fields : Keyed Document) (name : String) (value? : Document → Option α) :
    Option α :=
  (Keyed.get? fields name).bind value?

def optional? {α : Type} (fields : Keyed Document) (name : String) (value? : Document → Option α)
    (absent : α) : Option α :=
  match Keyed.get? fields name with
  | some document => value? document
  | none => some absent

/-- Values under names of their own; the last one under a name counts. -/
def keyed? {α : Type} (value? : Document → Option α) : Document → Option (Keyed α)
  | .table _ members => (members.mapM (member? value?)).map Keyed.ofPairs
  | _ => none

def ofKeyed {α : Type} (encode : α → Document) (entries : Keyed α) : Document :=
  object (entries.map fun entry => (entry.1, encode entry.2))

end Listfile.Document

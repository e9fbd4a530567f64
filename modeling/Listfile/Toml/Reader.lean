import Listfile.Toml.Value

/-!
Reading TOML: sections under headers, and the tree of tables and arrays that their headers describe.
-/

namespace Listfile.Toml

/-- The members between one header and the next. -/
structure Section where
  header : List String
  /-- Whether the section is an item of an array, whose header has double brackets. -/
  isItem : Bool
  members : Members
  deriving Inhabited

/-- A header, from behind its first bracket, and the rest behind its line. -/
def header? (cs : List Char) : Option (Section × List Char) := do
  let isItem := cs.head? == some '['
  let start := if isItem then cs.drop 1 else cs
  let (key, rest) ← key? (start.length + 1) (skipSpace start)
  let brackets := if isItem then [']', ']'] else [']']
  if brackets.isPrefixOf rest then do
    let rest ← lineEnd? (rest.drop brackets.length)
    return (⟨key, isItem, []⟩, rest)
  else none

def member? (members : Members) (cs : List Char) : Option (Members × List Char) := do
  let (key, rest) ← key? (cs.length + 1) cs
  match rest with
  | '=' :: rest => do
    let (value, rest) ← value? (rest.length + 1) (skipSpace rest)
    return (← putKey? key value members, ← lineEnd? rest)
  | _ => none

def sections? : Nat → Section → List Char → Option (List Section)
  | 0, _, _ => none
  | fuel + 1, current, cs => do
    match ← skipBlank? (cs.length + 1) cs with
    | [] => return [current]
    | '[' :: rest => do
      let (next, rest) ← header? rest
      return current :: (← sections? fuel next rest)
    | cs => do
      let (members, rest) ← member? current.members cs
      sections? fuel { current with members } rest

/-- What a section adds to a table: its own members, or one under the name its header goes on with. -/
def places (sections : List Section) : List (Option String) :=
  (sections.map (·.header.head?)).eraseDups

def sectionsUnder (name : String) (sections : List Section) : List Section :=
  (sections.filter (·.header.head? = some name)).map fun part => { part with header := part.header.tail }

def isOwn (part : Section) : Bool := part.header.isEmpty

/-- Cuts sections into runs that each begin with an item. -/
def itemRuns : List Section → List (List Section)
  | [] => []
  | part :: rest =>
    match itemRuns rest with
    | [] => [[part]]
    | run :: runs =>
      if run.head?.any fun next => isOwn next && next.isItem then [part] :: run :: runs
      else (part :: run) :: runs

def asTable : List Section → List Section
  | [] => []
  | part :: rest => { part with isItem := false } :: rest

/-- The table that sections describe together, to the given depth of headers. No more than one of them has
the table's own members. -/
def table? : Nat → List Section → Option Document
  | 0, _ => none
  | depth + 1, sections => do
    let own := sections.filter isOwn
    if own.length > 1 || own.any (·.isItem) then none
    else do
      let members ← (places sections).mapM fun place =>
        match place with
        | none => some (own.flatMap (·.members))
        | some name =>
          let parts := sectionsUnder name sections
          if parts.head?.any fun part => isOwn part && part.isItem then
            ((itemRuns parts).mapM fun run => table? depth (asTable run)).map fun items =>
              [(some name, .array items)]
          else (table? depth parts).map fun table => [(some name, table)]
      return .table .section members.flatten

def depthOf (sections : List Section) : Nat :=
  sections.foldl (fun depth part => max depth part.header.length) 0

def read? (text : String) : Option Document := do
  let cs := plainLines (Text.withoutMark text.toList)
  let sections ← sections? (cs.length + 1) ⟨[], false, []⟩ cs
  table? (depthOf sections + 1) sections

end Listfile.Toml

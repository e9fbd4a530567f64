import Listfile.Xml.Characters
import Listfile.Xml.Node

/-!
Reading XML: one element, with remarks and white space around it. Prefixes have to be declared, and document
type declarations are refused.
-/

namespace Listfile.Xml

open Text (after? isSpace skipSpace)

/-- The allowed characters before `stop`, and what follows it; `read` holds those read so far. -/
def upTo? (stop read : List Char) : List Char → Option (List Char × List Char)
  | [] => none
  | c :: rest =>
    match after? stop (c :: rest) with
    | some rest => some (read.reverse, rest)
    | none => if isAllowed c then upTo? stop (c :: read) rest else none

def breaksComment : List Char → Bool
  | ['-'] => true
  | '-' :: '-' :: _ => true
  | _ :: rest => breaksComment rest
  | [] => false

def comment? (cs : List Char) : Option (List Char) := do
  let (text, rest) ← upTo? ['-', '-', '>'] [] cs
  if breaksComment text then none else some rest

def instruction? (cs : List Char) : Option (List Char) :=
  if ['x', 'm', 'l', ' '].isPrefixOf cs then none
  else do
    let (_, rest) ← name? cs
    let (_, rest) ← upTo? ['?', '>'] [] (skipSpace rest)
    return rest

def attribute? (cs : List Char) : Option ((QName × List Char) × List Char) := do
  let (name, rest) ← qualifiedName? cs
  let rest ← after? ['='] (skipSpace rest)
  match skipSpace rest with
  | quote :: rest =>
    if quote = '\x22' || quote = '\x27' then
      let value := rest.takeWhile fun c => c != quote && c != '<' && isAllowed c
      let rest ← after? [quote] (rest.drop value.length)
      return ((name, value), rest)
    else none
  | [] => none

structure Tag where
  attributes : List (QName × String)
  closed : Bool

/-- The rest of a tag from behind its name, with the attributes read so far, last one first. -/
def tag? : Nat → List (QName × String) → List Char → Option (Tag × List Char)
  | 0, _, _ => none
  | fuel + 1, read, cs =>
    match skipSpace cs with
    | '/' :: '>' :: rest => some (⟨read.reverse, true⟩, rest)
    | '>' :: rest => some (⟨read.reverse, false⟩, rest)
    | next =>
      if (cs.head?.map isSpace).getD false then do
        let ((name, value), rest) ← attribute? next
        let value ← expand? plainValue value
        tag? fuel ((name, String.ofList value) :: read) rest
      else none

/-- What prefixes stand for, where the empty one is for elements without prefix. -/
abbrev Scope := List (String × String)

def xmlSpace : String := "http://www.w3.org/XML/1998/namespace"

def xmlnsSpace : String := "http://www.w3.org/2000/xmlns/"

def isDeclaration (name : QName) : Bool := name.space = "xmlns" || name.name = "xmlns"

def declare? (own : Scope) (written : QName × String) : Option Scope :=
  let (name, value) := written
  if !isDeclaration name then some own
  else if value = xmlnsSpace then none
  else if name.space = "xmlns" then
    if name.name = "xml" then if value = xmlSpace then some own else none
    else if value = xmlSpace || (own.lookup name.name).isSome then none
    else some (own ++ [(name.name, value)])
  else if value = xmlSpace then none
  else some (own ++ [("", value)])

def attributeSpace? (scope : Scope) (name : QName) : Option (Option String) :=
  if name.space = "" then some none
  else if name.space = "xml" then some (some xmlSpace)
  else (scope.lookup name.space).map some

def resolve? (scope : Scope) (written : QName × String) : Option Attribute := do
  let space ← attributeSpace? scope written.1
  return ⟨space, written.1.name, written.2⟩

/-- The attributes of an element that declare nothing; no two may have the same name. -/
def attributes? (scope : Scope) (written : List (QName × String)) : Option (List Attribute) := do
  let resolved ← (written.filter fun entry => !isDeclaration entry.1).mapM (resolve? scope)
  if (resolved.map fun entry => (entry.space, entry.name)).Nodup then some resolved else none

def isBound (scope : Scope) (name : QName) : Bool :=
  name.space = "" || (name.space ≠ "xmlns" && (scope.lookup name.space).isSome)

def pushText (text : List Char) : List Node → List Node
  | .text before :: rest => .text (before ++ String.ofList text) :: rest
  | nodes => .text (String.ofList text) :: nodes

def hasCloser : List Char → Bool
  | ']' :: ']' :: '>' :: _ => true
  | _ :: rest => hasCloser rest
  | [] => false

def text? (cs : List Char) : Option (List Char × List Char) := do
  let written := cs.takeWhile (· ≠ '<')
  if !written.all isAllowed || hasCloser written then none
  else
    let text ← expand? plainText written
    return (text, cs.drop written.length)

mutual

def element? : Nat → Scope → List Char → Option (Node × List Char)
  | 0, _, _ => none
  | fuel + 1, outer, cs => do
    let (name, rest) ← qualifiedName? cs
    let (tag, rest) ← tag? (rest.length + 1) [] rest
    let own ← tag.attributes.foldlM declare? []
    let scope := own ++ outer
    let attributes ← attributes? scope tag.attributes
    if !isBound scope name then none
    else if tag.closed then some (.element name.name attributes [], rest)
    else do
      let (children, rest) ← content? fuel scope name [] rest
      return (.element name.name attributes children, rest)

/-- The nodes of an element up to its closing tag, behind those read so far, last one first. -/
def content? : Nat → Scope → QName → List Node → List Char → Option (List Node × List Char)
  | 0, _, _, _, _ => none
  | fuel + 1, scope, tag, read, cs =>
    match cs with
    | '<' :: '/' :: rest => do
      let (name, rest) ← qualifiedName? rest
      let rest ← after? ['>'] (skipSpace rest)
      if name = tag then some (read.reverse, rest) else none
    | '<' :: '!' :: '-' :: '-' :: rest => do
      let rest ← comment? rest
      content? fuel scope tag (.remark :: read) rest
    | '<' :: '!' :: rest => do
      let rest ← after? "[CDATA[".toList rest
      let (text, rest) ← upTo? [']', ']', '>'] [] rest
      content? fuel scope tag (pushText (plainText text) read) rest
    | '<' :: '?' :: rest => do
      let rest ← instruction? rest
      content? fuel scope tag (.remark :: read) rest
    | '<' :: rest => do
      let (node, rest) ← element? fuel scope rest
      content? fuel scope tag (node :: read) rest
    | [] => none
    | cs => do
      let (text, rest) ← text? cs
      content? fuel scope tag (pushText text read) rest

end

def skipRemarks? : Nat → List Char → Option (List Char)
  | 0, _ => none
  | fuel + 1, cs =>
    match skipSpace cs with
    | '<' :: '!' :: '-' :: '-' :: rest => comment? rest >>= skipRemarks? fuel
    | '<' :: '?' :: rest => instruction? rest >>= skipRemarks? fuel
    | rest => some rest

def pseudoAttribute? (word : String) (cs : List Char) : Option (List Char) :=
  if word.toList.isPrefixOf cs then (attribute? cs).map (·.2) else none

def separator? (cs : List Char) : Option (List Char) :=
  if cs.isEmpty || (cs.head?.map isSpace).getD false || ['?', '>'].isPrefixOf cs then some (skipSpace cs)
  else none

def skipDeclaration? (cs : List Char) : Option (List Char) :=
  match after? "<?xml".toList cs with
  | some (' ' :: rest) => do
    let rest ← pseudoAttribute? "version" (skipSpace rest)
    let rest ← separator? rest
    let rest ← match pseudoAttribute? "encoding" rest with
      | some rest => separator? rest
      | none => some rest
    let rest := (pseudoAttribute? "standalone" rest).getD rest
    after? ['?', '>'] (skipSpace rest)
  | _ => some cs

def read? (text : String) : Option Node := do
  let fuel := text.length + 1
  let rest ← skipDeclaration? (Text.withoutMark text.toList)
  let rest ← skipRemarks? fuel rest
  let rest ← after? ['<'] rest
  let (root, rest) ← element? fuel [] rest
  let rest ← skipRemarks? fuel rest
  if rest.isEmpty then some root else none

end Listfile.Xml

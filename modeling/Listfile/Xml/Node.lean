/-!
The tree of an XML document.
-/

namespace Listfile.Xml

/-- An attribute has a namespace only if its name has a prefix. -/
structure Attribute where
  space : Option String
  name : String
  value : String
  deriving DecidableEq, Repr

inductive Node where
  | element (name : String) (attributes : List Attribute) (children : List Node)
  /-- Text, as long as nothing else comes in between. -/
  | text (content : String)
  /-- A comment or a processing instruction. -/
  | remark
  deriving Repr, Inhabited

namespace Node

def name? : Node → Option String
  | element name _ _ => some name
  | _ => none

def children : Node → List Node
  | element _ _ children => children
  | _ => []

def attribute? (name : String) : Node → Option String
  | element _ attributes _ =>
    (attributes.find? fun entry => entry.space = none && entry.name = name).map (·.value)
  | _ => none

def childrenNamed (name : String) (node : Node) : List Node :=
  node.children.filter fun child => child.name? = some name

def leadingText (node : Node) : String :=
  match node.children with
  | text content :: _ => content
  | _ => ""

mutual

def descendants : Node → List Node
  | element name attributes children =>
    element name attributes children :: descendantsOfAll children
  | text content => [text content]
  | remark => [remark]

def descendantsOfAll : List Node → List Node
  | [] => []
  | node :: rest => descendants node ++ descendantsOfAll rest

end

end Node

end Listfile.Xml

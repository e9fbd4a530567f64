import Listfile.Text.Blank
import Listfile.Text.Case
import Listfile.Text.Split
import Listfile.Xml.Reader

/-!
What is read from the file of a project itself: whether the compiler makes its security checks, for the
project and for single files, under the conditions stated there.
-/

namespace Listfile

structure ProjectDocument where
  projectChecks : List (String × String) := []
  /-- The file that a check is for comes with the condition. -/
  fileChecks : List ((String × String) × String) := []
  deriving DecidableEq, Repr, Inhabited

namespace ProjectDocument

open Xml

/-- Files are told apart by their path with slashes, case aside. -/
def fileKey (path : String) : String := Text.lower (Text.slashed (Text.trim path))

def valueOf (check : Node) : String := Text.trim check.leadingText

def checksOfGroup (group : Node) : List (String × String) :=
  match group.attribute? "Condition" with
  | none => []
  | some condition =>
    ((group.childrenNamed "ClCompile").flatMap (·.childrenNamed "SDLCheck")).map fun check =>
      (Text.trim condition, valueOf check)

def checksOfFile (item : Node) : List ((String × String) × String) :=
  match item.attribute? "Include" with
  | none => []
  | some file =>
    (item.childrenNamed "SDLCheck").filterMap fun check =>
      (check.attribute? "Condition").map fun condition =>
        ((fileKey file, Text.trim condition), valueOf check)

/-- Groups of project settings count at any depth, groups of files only right below the root. -/
def ofRoot (root : Node) : ProjectDocument where
  projectChecks :=
    (root.descendants.filter fun node => node.name? = some "ItemDefinitionGroup").flatMap checksOfGroup
  fileChecks :=
    ((root.childrenNamed "ItemGroup").flatMap (·.childrenNamed "ClCompile")).flatMap checksOfFile

def malformed : String := "not a well-formed document"

def unexpectedRoot (name : String) : String :=
  "unexpected root element <" ++ name ++ ">, expected <Project>"

def read (text : String) : Except String ProjectDocument :=
  match Xml.read? text with
  | none => .error malformed
  | some root =>
    match root.name? with
    | some "Project" => .ok (ofRoot root)
    | name => .error (unexpectedRoot (name.getD ""))

/-- The value of a check that is stated exactly once. -/
def single? : List String → Option Bool
  | [value] => some (value = "true")
  | _ => none

def projectCheck? (document : ProjectDocument) (condition : String) : Option Bool :=
  single? ((document.projectChecks.filter (·.1 = Text.trim condition)).map (·.2))

def fileCheck? (document : ProjectDocument) (file condition : String) : Option Bool :=
  single? ((document.fileChecks.filter (·.1 = (fileKey file, Text.trim condition))).map (·.2))

end ProjectDocument

end Listfile

import Listfile.Provider
import Listfile.Snapshot.Evaluation

/-!
A snapshot answers what a conversion asks. A project file that is not part of the snapshot has to be read;
`read` gives its text, or the reason why there is none.
-/

namespace Listfile.Snapshot

/-- A project without a project file has an empty one. -/
def documentOf (read : String → Except String String) (project : ProjectSnapshot) :
    Except String ProjectDocument :=
  match project.descriptorText, project.descriptor with
  | some text, _ => ProjectDocument.read text
  | none, some path => (read path).bind ProjectDocument.read
  | none, none => .ok {}

def projectDocument (snapshot : Snapshot) (read : String → Except String String) (name : String) :
    Except ConversionError ProjectDocument :=
  match snapshot.project? name with
  | none => .ok {}
  | some project => (documentOf read project).mapError (.projectFile name)

def provider (snapshot : Snapshot) (read : String → Except String String) : Provider where
  solution := snapshot.solution
  projects := snapshot.projects.map (·.toProject)
  configurations name := ((snapshot.project? name).map (·.configurations)).getD []
  files name := ((snapshot.project? name).map (·.files)).getD []
  evaluate := snapshot.evaluate
  projectDocument := snapshot.projectDocument read

end Listfile.Snapshot

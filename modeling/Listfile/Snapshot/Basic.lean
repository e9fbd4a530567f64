import Listfile.Project
import Listfile.Solution

/-!
A snapshot: a whole solution as the development environment saw it, with the environment variables and the
projects it had then.
-/

namespace Listfile

structure ProjectSnapshot extends Project where
  native := true
  /-- Where the project file can be read, seen from the snapshot. -/
  descriptor : Option String := none
  /-- The text of the project file, which goes before `descriptor`. -/
  descriptorText : Option String := none
  configurations : List ProjectConfiguration := []
  files : List ProjectFile := []
  deriving DecidableEq, Repr, Inhabited

structure Snapshot where
  solution : Solution
  environment : Keyed String := []
  projects : List ProjectSnapshot := []
  deriving DecidableEq, Repr, Inhabited

def Snapshot.project? (snapshot : Snapshot) (name : String) : Option ProjectSnapshot :=
  snapshot.projects.find? (·.name = name)

end Listfile

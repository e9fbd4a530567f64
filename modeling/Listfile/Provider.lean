import Listfile.Error
import Listfile.Project
import Listfile.ProjectDocument
import Listfile.Solution

/-!
What a conversion asks about a solution.
-/

namespace Listfile

structure Provider where
  solution : Solution
  projects : List Project
  /-- The configurations of a project; none for a name that no project has. -/
  configurations : String → List ProjectConfiguration
  files : String → List ProjectFile
  evaluate : String → ProjectConfiguration → String → String
  /-- The contents of a project's file, or why they cannot be had. -/
  projectDocument : String → Except ConversionError ProjectDocument

end Listfile

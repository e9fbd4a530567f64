/-!
A solution: for each of its configurations, which projects are built and how.
-/

namespace Listfile

/-- How a project takes part in a configuration. It is named, or given by the path of its file. -/
structure BuildContext where
  project : String
  configuration : String
  platform : String
  shouldBuild : Bool := true
  deriving DecidableEq, Repr, Inhabited

structure SolutionConfiguration where
  name : String
  platform : String
  contexts : List BuildContext := []
  deriving DecidableEq, Repr, Inhabited

structure Solution where
  name : String
  directory : String
  configurations : List SolutionConfiguration := []
  deriving DecidableEq, Repr, Inhabited

end Listfile

import Listfile.Keyed
import Listfile.Path
import Listfile.Settings
import Listfile.Target

/-!
What the development environment states about a project: its configurations with their tools, and its
files with what each of them overrides.
-/

namespace Listfile

/-- Compiler properties. A list entry may still hold several items between semicolons. -/
structure CompilerTool where
  includeDirectories : List String := []
  definitions : List String := []
  precompiledHeader : PchMode := .none
  precompiledHeaderThrough : String := ""
  precompiledHeaderOutput : String := ""
  sdlCheck : Option Bool := none
  deriving DecidableEq, Repr, Inhabited

structure LinkerTool where
  libraryDirectories : List String := []
  dependencies : List String := []
  deriving DecidableEq, Repr, Inhabited

structure ProjectConfiguration where
  name : String := ""
  platform : String := ""
  kind : TargetKind := .executable
  useOfMfc : MfcUsage := .none
  characterSet : CharacterSet := .notSet
  subsystem : Subsystem := .notSet
  primaryOutput : String := ""
  importLibrary : String := ""
  macros : Keyed String := []
  compiler : CompilerTool := {}
  linker : LinkerTool := {}
  deriving DecidableEq, Repr, Inhabited

/-- The properties that a file overrides; what is missing it inherits from its project. -/
structure FileTool where
  includeDirectories : Option (List String) := none
  definitions : Option (List String) := none
  precompiledHeader : Option PchMode := none
  precompiledHeaderThrough : Option String := none
  precompiledHeaderOutput : Option String := none
  sdlCheck : Option Bool := none
  deriving DecidableEq, Repr, Inhabited

structure ProjectFile where
  relativePath : String
  fullPath : String := ""
  kind : FileKind := .other
  configurations : Keyed FileTool := []
  deriving DecidableEq, Repr, Inhabited

structure Project where
  name : String
  fullPath : String
  /-- Whether this is a Visual C++ project. -/
  native : Bool
  deriving DecidableEq, Repr, Inhabited

def Project.directory (project : Project) : String := Path.directoryOf project.fullPath

end Listfile

import Listfile.Keyed

/-!
What a project builds: its kind, its files and outputs, and the build configurations it has them for.
-/

namespace Listfile

inductive TargetKind where
  | executable
  | staticLibrary
  | sharedLibrary
  deriving DecidableEq, Repr, Inhabited

def TargetKind.description : TargetKind → String
  | .executable => "executable"
  | .staticLibrary => "static link library"
  | .sharedLibrary => "dynamic link library"

inductive MfcUsage where
  | none
  | static
  | shared
  deriving DecidableEq, Repr, Inhabited

namespace MfcUsage

def description : MfcUsage → String
  | none => "standard windows libraries"
  | static => "MFC in a static library"
  | shared => "MFC in a shared DLL"

def usesMfc (usage : MfcUsage) : Bool := usage ≠ none

/-- The value of the variable that makes CMake link MFC. -/
def flag? : MfcUsage → Option String
  | none => Option.none
  | static => some "1"
  | shared => some "2"

end MfcUsage

inductive CharacterSet where
  | notSet
  | unicode
  | multibyte
  deriving DecidableEq, Repr, Inhabited

def CharacterSet.impliedDefinition? : CharacterSet → Option String
  | .notSet => none
  | .unicode => some "_UNICODE"
  | .multibyte => some "_MBCS"

inductive Subsystem where
  | notSet
  | console
  | windows
  | other
  deriving DecidableEq, Repr, Inhabited

inductive FileKind where
  | source
  | header
  | resource
  | other
  deriving DecidableEq, Repr

instance : Inhabited FileKind := ⟨.other⟩

def conditionFor (configuration platform : String) : String :=
  "'$(Configuration)|$(Platform)'=='" ++ configuration ++ "|" ++ platform ++ "'"

structure BuildConfiguration where
  name : String
  projectConfiguration : String
  platform : String
  deriving DecidableEq, Repr

def BuildConfiguration.condition (configuration : BuildConfiguration) : String :=
  conditionFor configuration.projectConfiguration configuration.platform

/-- A file of a target; the relative path starts at the target's directory. -/
structure TargetFile where
  relativePath : String
  fullPath : String
  kind : FileKind
  deriving DecidableEq, Repr

structure Outputs where
  primary : String
  importLibrary : String
  deriving DecidableEq, Repr, Inhabited

structure Target where
  name : String
  kind : TargetKind
  useOfMfc : MfcUsage
  subsystem : Subsystem
  directory : String
  configurations : List BuildConfiguration
  files : List TargetFile
  outputs : Keyed Outputs
  deriving DecidableEq, Repr

namespace Target

def configurationNames (target : Target) : List String := target.configurations.map (·.name)

/-- What another target links in order to use this one: a library's primary output, or the import library
of a shared one. -/
def linkableOutput? (target : Target) (configuration : String) : Option String :=
  match Keyed.get? target.outputs configuration with
  | none => none
  | some outputs =>
    let path? := match target.kind with
      | .staticLibrary => some outputs.primary
      | .sharedLibrary => some outputs.importLibrary
      | .executable => none
    path?.filter (· ≠ "")

end Target

end Listfile

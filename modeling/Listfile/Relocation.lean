import Listfile.Macro
import Listfile.Path
import Listfile.Provider
import Listfile.Text.Words

/-!
Directories of a project in a form that does not depend on where the solution lies. What lies below the
target or the solution starts at a variable of CMake's; anything else keeps its macros, where those that the
development environment does not define itself are left to the environment.
-/

namespace Listfile

/-- What the development environment calls its own macros. -/
def ideMacros : List String := [
  "RemoteMachine", "Configuration", "Platform", "ParentName", "RootNameSpace", "IntDir", "OutDir",
  "DevEnvDir", "InputDir", "InputPath", "InputName", "InputFileName", "InputExt", "ProjectDir",
  "ProjectPath", "ProjectName", "ProjectFileName", "ProjectExt", "SolutionDir", "SolutionPath",
  "SolutionName", "SolutionFileName", "SolutionExt", "TargetDir", "TargetPath", "TargetName",
  "TargetFileName", "TargetExt", "VSInstallDir", "VCInstallDir", "FrameworkDir", "FrameworkVersion",
  "FrameworkSDKDir", "WebDeployPath", "WebDeployRoot", "SafeParentName", "SafeInputName",
  "SafeRootNamespace", "FxCopDir", "NOINHERIT"]

def isIdeMacro (name : String) : Bool := ideMacros.any (Text.sameIgnoringAsciiCase · name)

/-- Relocates the paths of one target. Both directories are canonical. -/
structure Relocator where
  evaluate : ProjectConfiguration → String → String
  targetDirectory : String
  sourceRoot : String

structure RelocatedDirectory where
  text : String
  environment : List String
  deriving DecidableEq, Repr

namespace Relocator

def between (evaluate : ProjectConfiguration → String → String) (targetDirectory sourceRoot : String) :
    Relocator where
  evaluate
  targetDirectory := Path.canonical targetDirectory
  sourceRoot := Path.canonical sourceRoot

/-- The relocator of a project whose target is written to `directory`. -/
def of (provider : Provider) (project directory : String) : Relocator :=
  between (provider.evaluate project) directory provider.solution.directory

/-- The relocator of a target. The root that it starts from is canonical before. -/
def ofTarget (provider : Provider) (target : Target) : Relocator :=
  between (provider.evaluate target.name) target.directory (Path.canonical provider.solution.directory)

def anchor (relocator : Relocator) (path : String) : String :=
  Path.normalize (Path.join relocator.targetDirectory (Text.slashed path))

/-- A path with its macros evaluated. Only a rooted one is made canonical. -/
def path (relocator : Relocator) (configuration : ProjectConfiguration) (text : String) : String :=
  let evaluated := Text.slashed (Text.trim (relocator.evaluate configuration text))
  if Path.isRooted evaluated then Path.normalize evaluated else evaluated

def macroValue (relocator : Relocator) (configuration : ProjectConfiguration) (name : String) :
    String :=
  relocator.evaluate configuration (Macro.reference name)

def hasUnresolved (relocator : Relocator) (configuration : ProjectConfiguration) (text : String) :
    Bool :=
  (Macro.names text).any fun name => Text.allBlank (relocator.macroValue configuration name)

def below (variableName relative : String) : String :=
  if relative = "" then variableName else variableName ++ "/" ++ relative

def currentSourceDirectory : String := "$\x7bCMAKE_CURRENT_SOURCE_DIR\x7d"

def sourceDirectory : String := "$\x7bCMAKE_SOURCE_DIR\x7d"

/-- A canonical path by the nearest variable that it lies below. -/
def belowSourceDirectories? (relocator : Relocator) (absolute : String) : Option String :=
  match Path.relativeTo? absolute relocator.targetDirectory with
  | some relative => some (below currentSourceDirectory relative)
  | none => (Path.relativeTo? absolute relocator.sourceRoot).map (below sourceDirectory)

def expandIdeMacro (relocator : Relocator) (configuration : ProjectConfiguration) (name : String) :
    String :=
  if isIdeMacro name then Text.slashed (relocator.macroValue configuration name)
  else Macro.reference name

def expandIdeMacros (relocator : Relocator) (configuration : ProjectConfiguration) (text : String) :
    String :=
  Macro.expand (relocator.expandIdeMacro configuration) text

def environmentReference (name : String) : String := "$ENV\x7b" ++ name ++ "\x7d"

def toEnvironment (text : String) : RelocatedDirectory :=
  ⟨Macro.expand environmentReference text, Macro.names text⟩

/-- The place of a directory below the target or the solution, given its value. A relative value means a
place only if no macro of the text is without value. -/
def place? (relocator : Relocator) (configuration : ProjectConfiguration) (text evaluated : String) :
    Option String :=
  if Path.isRooted evaluated || !relocator.hasUnresolved configuration text then
    relocator.belowSourceDirectories? (relocator.anchor evaluated)
  else none

def relocated (relocator : Relocator) (configuration : ProjectConfiguration)
    (text evaluated : String) : RelocatedDirectory :=
  match relocator.place? configuration text evaluated with
  | some place => ⟨place, []⟩
  | none => toEnvironment (Text.slashed (relocator.expandIdeMacros configuration (Text.trim text)))

def dropTrailingSlashes (path : String) : String :=
  String.ofList (Text.stripEnd (· = '/') path.toList)

/-- The form in which a directory is written, unless it evaluates to nothing. -/
def directory? (relocator : Relocator) (configuration : ProjectConfiguration) (text : String) :
    Option RelocatedDirectory :=
  let evaluated := Text.trim (relocator.evaluate configuration text)
  if evaluated = "" then none
  else
    let directory := relocator.relocated configuration text evaluated
    some ⟨Text.quoteIfBlank (dropTrailingSlashes directory.text), directory.environment⟩

def directories (relocator : Relocator) (configuration : ProjectConfiguration)
    (texts : List String) : List RelocatedDirectory :=
  texts.filterMap (relocator.directory? configuration)

end Relocator

end Listfile

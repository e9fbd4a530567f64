import Listfile.Log
import Listfile.Provider
import Listfile.Request
import Listfile.Relocation

/-!
From a request to the targets that it builds. A request is refused where the solution does not say one thing
about each target in every configuration.
-/

namespace Listfile

structure ResolvedTarget where
  target : Target
  configurations : Keyed ProjectConfiguration
  deriving DecidableEq, Repr

abbrev Contexts := Keyed String

namespace Resolution

/-- Names for no platform in particular, which native projects are not built for. -/
def anyPlatforms : List String := ["Any CPU", "AnyCPU", "any"]

def isUnsupported (platform : String) : Bool :=
  platform = "" || anyPlatforms.any fun any => Text.sameIgnoringAsciiCase any platform

def requestedNames (request : Request) (available : List SolutionConfiguration) : List String :=
  match request.configurations with
  | some (name :: names) => ((name :: names).map Text.trim).eraseDups
  | _ => (available.map (·.name)).eraseDups

/-- The configurations of the platform that take part, in the order of the request. -/
def participating (solution : Solution) (request : Request) (platform : String) :
    Except ConversionError (List SolutionConfiguration) :=
  let available := solution.configurations.filter (·.platform = platform)
  if available.isEmpty then .error (.noMatchingConfigurations platform)
  else
    (requestedNames request available).mapM fun name =>
      match available.find? (·.name = name) with
      | some configuration => .ok configuration
      | none => .error (.configurationNotFound solution.name name platform)

/-- Adds a project to those built in a configuration; a project that comes again is built as it came last. -/
def addContext (platform : String) (configuration : SolutionConfiguration) (contexts : Contexts)
    (context : BuildContext) : Logged Contexts := do
  if context.platform ≠ platform then Logged.fail (.platformMismatch context.project platform)
  if context.configuration ≠ configuration.name then
    Logged.note (.replacedConfiguration context.configuration context.project configuration.name)
  return contexts.put context.project context.configuration

def contextsOf (platform : String) (configuration : SolutionConfiguration) :
    Logged (String × Contexts) := do
  let built := configuration.contexts.filter (·.shouldBuild)
  let contexts ← built.foldlM (addContext platform configuration) []
  if contexts.isEmpty then Logged.fail (.noProjectsInConfiguration configuration.name)
  return (configuration.name, contexts)

def projectSet (contexts : Contexts) : List String :=
  (contexts.keys.map Text.lower).mergeSort (· ≤ ·)

def isUniform (contexts : Keyed Contexts) : Bool :=
  match contexts.values with
  | [] => true
  | first :: rest => rest.all fun other => projectSet other = projectSet first

def gather (platform : String) (configurations : List SolutionConfiguration) :
    Logged (Keyed Contexts) := do
  let contexts ← configurations.mapM (contextsOf platform)
  if !isUniform contexts then Logged.fail .inconsistentProjectSets
  return contexts

def isProjectPath (text : String) : Bool :=
  text.toList.contains '/' || "proj".toList.isSuffixOf (Text.lower text).toList

/-- Whether a context means the project, by its name or by the path of its file. -/
def denotes (solutionDirectory : String) (project : Project) (text : String) : Bool :=
  let text := Text.slashed text
  if isProjectPath text then Path.same (Path.join solutionDirectory text) project.fullPath
  else Text.sameIgnoringAsciiCase text project.name

/-- The configuration that a project is built in, for each configuration of the solution; none unless the
project is built in all of them. -/
def contextsFor? (contexts : Keyed Contexts) (solutionDirectory : String) (project : Project) :
    Option (Keyed String) :=
  contexts.mapM fun entry =>
    (entry.2.find? fun context => denotes solutionDirectory project context.1).map fun context =>
      (entry.1, context.2)

def declaredConfiguration (provider : Provider) (project platform : String) (context : String × String) :
    Except ConversionError (String × ProjectConfiguration) :=
  match (provider.configurations project).find? fun declared =>
      declared.name = context.2 && declared.platform = platform with
  | some configuration => .ok (context.1, configuration)
  | none => .error (.configurationNotFound project context.2 platform)

def outputOf (relocator : Relocator) (configuration : ProjectConfiguration) (text : String) : String :=
  let path := Text.trim (relocator.evaluate configuration text)
  if path = "" then "" else relocator.anchor path

def outputsOf (relocator : Relocator) (configuration : ProjectConfiguration) : Outputs where
  primary := outputOf relocator configuration configuration.primaryOutput
  importLibrary := outputOf relocator configuration configuration.importLibrary

def fileOf (relocator : Relocator) (file : ProjectFile) : TargetFile :=
  let relativePath := Text.slashed (Text.trim file.relativePath)
  let fullPath := Text.trim file.fullPath
  { relativePath
    fullPath := if fullPath = "" then relocator.anchor relativePath else Path.canonical fullPath
    kind := file.kind }

/-- The kind of the target and its use of MFC have to be the same in all configurations. -/
def checkAgreement (project : String) (configurations : Keyed ProjectConfiguration)
    (first : ProjectConfiguration) : Except ConversionError Unit :=
  if configurations.any fun entry => entry.2.kind ≠ first.kind then
    .error (.inconsistentOutputKind project (configurations.mapValues fun _ own => own.kind))
  else if configurations.any fun entry => entry.2.useOfMfc ≠ first.useOfMfc then
    .error (.inconsistentMfcUsage project (configurations.mapValues fun _ own => own.useOfMfc))
  else .ok ()

def targetOf (provider : Provider) (project : Project) (configurations : Keyed ProjectConfiguration)
    (first : ProjectConfiguration) : Target :=
  let relocator := Relocator.of provider project.name project.directory
  { name := project.name
    kind := first.kind
    useOfMfc := first.useOfMfc
    subsystem := first.subsystem
    directory := relocator.targetDirectory
    configurations := configurations.map fun entry => ⟨entry.1, entry.2.name, entry.2.platform⟩
    files := (provider.files project.name).map (fileOf relocator)
    outputs := configurations.mapValues fun _ own => outputsOf relocator own }

def resolveTarget (provider : Provider) (project : Project) (contexts : Keyed String)
    (platform : String) : Except ConversionError ResolvedTarget := do
  let configurations ← contexts.mapM (declaredConfiguration provider project.name platform)
  match configurations with
  | [] => .error (.noMatchingConfigurations platform)
  | first :: _ =>
    checkAgreement project.name configurations first.2
    return ⟨targetOf provider project configurations first.2, configurations⟩

/-- The target of a project, unless it is not built or no Visual C++ project. -/
def resolveProject (provider : Provider) (contexts : Keyed Contexts) (platform : String)
    (project : Project) : Logged (Option ResolvedTarget) := do
  if !project.native then
    Logged.note (.foreignProject project.name)
    return none
  match contextsFor? contexts provider.solution.directory project with
  | none => return none
  | some own => Option.some <$> Logged.lift (resolveTarget provider project own platform)

end Resolution

open Resolution in
def resolve (provider : Provider) (request : Request) : Logged (List ResolvedTarget) := do
  let platform := Text.trim request.platform
  if isUnsupported platform then Logged.fail (.unsupportedPlatform request.platform)
  let configurations ← Logged.lift (participating provider.solution request platform)
  let contexts ← gather platform configurations
  let resolved ← provider.projects.mapM (resolveProject provider contexts platform)
  match resolved.filterMap id with
  | [] => Logged.fail (.noNativeProjects platform)
  | targets => return targets

end Listfile

import Listfile.Extraction
import Listfile.Link
import Listfile.PchPlan

/-!
What the descriptor of a target states: settings with relocatable paths, and the files that deviate from them.
-/

namespace Listfile

structure TargetDescription where
  target : Target
  includeDirectories : List (String × List String) := []
  definitions : List (String × List String) := []
  sdlChecks : List (String × Option Bool) := []
  libraryDirectories : List (String × List String) := []
  linkLibraries : List (String × List LinkReference) := []
  fileIncludeDirectories : List (Override (List String)) := []
  fileDefinitions : List (Override (List String)) := []
  fileSdlChecks : List (Override Bool) := []
  pch : PchPlan := .targetWide [] []
  /-- The variables that the directories refer to, in the order of their first use. -/
  environmentVariables : List String := []
  deriving DecidableEq, Repr

namespace TargetDescription

abbrev Relocated := String × List RelocatedDirectory

def texts (relocated : Relocated) : String × List String :=
  (relocated.1, relocated.2.map (·.text))

def variablesOf (relocated : Relocated) : List String := relocated.2.flatMap (·.environment)

def relocate? (relocator : Relocator) (configurations : Keyed ProjectConfiguration)
    (entry : String × List String) : Option Relocated :=
  (configurations.get? entry.1).map fun configuration =>
    (entry.1, relocator.directories configuration entry.2)

def relocateOverride (relocator : Relocator) (configurations : Keyed ProjectConfiguration)
    (own : Override (List String)) : Override (List RelocatedDirectory) where
  file := own.file
  values := own.values.filterMap (relocate? relocator configurations)

/-- The variables in order: per configuration those of the include directories and of the library
directories, then file by file. -/
def variableNames (includes libraries : List Relocated)
    (overrides : List (Override (List RelocatedDirectory))) : List String :=
  ((includes.zip libraries).flatMap (fun pair => variablesOf pair.1 ++ variablesOf pair.2) ++
    overrides.flatMap fun own => own.values.flatMap variablesOf).eraseDups

/-- The description of a target but for the libraries it links. -/
def ofSettings (provider : Provider) (resolved : ResolvedTarget) (extracted : ExtractedSettings) :
    TargetDescription :=
  let target := resolved.target
  let relocator := Relocator.ofTarget provider target
  let configurations := resolved.configurations
  let defaults := extracted.defaults.filter fun entry => (configurations.get? entry.1).isSome
  let includes := defaults.filterMap fun entry =>
    relocate? relocator configurations (entry.1, entry.2.includeDirectories)
  let libraries := defaults.filterMap fun entry =>
    relocate? relocator configurations (entry.1, entry.2.libraryDirectories)
  let overrides := (includeOverrides extracted.defaults extracted.files).map
    (relocateOverride relocator configurations)
  { target
    includeDirectories := includes.map texts
    definitions := defaults.map fun entry => (entry.1, entry.2.definitions)
    sdlChecks := defaults.map fun entry => (entry.1, entry.2.sdlCheck)
    libraryDirectories := libraries.map texts
    fileIncludeDirectories := overrides.map fun own => ⟨own.file, own.values.map texts⟩
    fileDefinitions := definitionOverrides extracted.defaults extracted.files
    fileSdlChecks := sdlOverrides extracted.defaults extracted.files
    pch := PchPlan.ofFiles extracted.defaults extracted.files
    environmentVariables := variableNames includes libraries overrides }

def linkedWith (description : TargetDescription) (provider : Provider) (targets : List Target)
    (resolved : ResolvedTarget) (defaults : Keyed Settings) : TargetDescription :=
  { description with linkLibraries := Listfile.linkLibraries provider targets resolved defaults }

end TargetDescription

end Listfile

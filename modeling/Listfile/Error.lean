import Listfile.Target

/-!
Why a conversion fails, and how each cause is put into words.
-/

namespace Listfile

inductive ConversionError where
  | unsupportedPlatform (platform : String)
  | configurationNotFound (target configuration platform : String)
  | inconsistentOutputKind (target : String) (kinds : List (String × TargetKind))
  | inconsistentMfcUsage (target : String) (usages : List (String × MfcUsage))
  | projectFile (target reason : String)
  | noMatchingConfigurations (platform : String)
  | platformMismatch (project platform : String)
  | noProjectsInConfiguration (configuration : String)
  | inconsistentProjectSets
  | noNativeProjects (platform : String)
  | targetsFailed (targets : List String)
  deriving DecidableEq, Repr

namespace ConversionError

/-- Whether the error costs only the target that it is about, and not the run. -/
def isProjectFile : ConversionError → Bool
  | projectFile _ _ => true
  | _ => false

theorem isProjectFile_iff {error : ConversionError} :
    error.isProjectFile = true ↔ ∃ target reason, error = .projectFile target reason := by
  cases error <;> simp [isProjectFile]

def describePerConfig (values : List (String × String)) : String :=
  ", ".intercalate (values.map fun entry => entry.2 ++ " (" ++ entry.1 ++ ")")

def message : ConversionError → String
  | unsupportedPlatform platform => s!"Platform '{platform}' is not supported"
  | configurationNotFound target configuration platform =>
    s!"'{target}' does not contain the configuration '{configuration}|{platform}'"
  | inconsistentOutputKind target kinds =>
    s!"Mismatch the type of output of '{target}': " ++
      describePerConfig (kinds.map fun entry => (entry.1, entry.2.description))
  | inconsistentMfcUsage target usages =>
    s!"Mismatch 'Use of MFC' of '{target}': " ++
      describePerConfig (usages.map fun entry => (entry.1, entry.2.description))
  | projectFile target reason => s!"Failed to load the project file of '{target}': {reason}"
  | noMatchingConfigurations platform =>
    s!"No configuration of the solution matches the platform '{platform}'"
  | platformMismatch project platform => s!"The platform of '{project}' does not match {platform}"
  | noProjectsInConfiguration configuration =>
    s!"No project to build is contained in the configuration '{configuration}'"
  | inconsistentProjectSets => "The solution configurations do not build the same projects"
  | noNativeProjects platform => s!"No Visual C++ projects to build on platform '{platform}'"
  | targetsFailed targets => "The conversion failed for: " ++ ", ".intercalate targets

end ConversionError

end Listfile

import Listfile.Macro
import Listfile.Snapshot.Basic

/-!
The values of build macros in a snapshot. A macro is one of the project's configuration, else one that every
project has, else an environment variable; one that is none of these is empty. Values may refer to macros
again.
-/

namespace Listfile.Snapshot

def isSeparator (c : Char) : Bool := c == '/' || c == '\\'

def builtin? (snapshot : Snapshot) (project : String) (configuration : ProjectConfiguration)
    (name : String) : Option String :=
  match name with
  | "Configuration" => some configuration.name
  | "Platform" => some configuration.platform
  | "ProjectName" => some project
  | "ProjectDir" => (snapshot.project? project).map fun entry => entry.directory ++ "/"
  | "SolutionName" => some snapshot.solution.name
  | "SolutionDir" =>
    some (String.ofList (Text.stripEnd isSeparator snapshot.solution.directory.toList) ++ "/")
  | _ => none

/-- What a macro stands for, with the references in it left alone. -/
def macroValue (snapshot : Snapshot) (project : String) (configuration : ProjectConfiguration)
    (name : String) : String :=
  (((Keyed.get? configuration.macros name).or (snapshot.builtin? project configuration name)).or
    (Keyed.get? snapshot.environment name)).getD ""

/-- The value of a macro, with references followed to the given depth and left as they are below it. -/
def expandName (value : String → String) : Nat → String → String
  | 0, name => value name
  | depth + 1, name => Macro.expand (expandName value depth) (value name)

def depthLimit : Nat := 8

def evaluate (snapshot : Snapshot) (project : String) (configuration : ProjectConfiguration)
    (text : String) : String :=
  Macro.expand (expandName (snapshot.macroValue project configuration) depthLimit) text

theorem evaluate_congr {first second : Snapshot} (solution : second.solution = first.solution)
    (environment : second.environment = first.environment)
    (directory : ∀ project, (second.project? project).map (·.directory) = (first.project? project).map (·.directory)) :
    second.evaluate = first.evaluate := by
  have below (project : String) : (second.project? project).map (fun entry => entry.directory ++ "/") =
      (first.project? project).map fun entry => entry.directory ++ "/" := by
    simpa only [Option.map_map, Function.comp_def] using congrArg (Option.map (· ++ "/")) (directory project)
  have value (project : String) (configuration : ProjectConfiguration) :
      second.macroValue project configuration = first.macroValue project configuration := by
    funext name
    simp only [macroValue, builtin?, solution, environment, below]
  funext project configuration text
  simp only [evaluate, value]

end Listfile.Snapshot

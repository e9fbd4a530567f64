import Listfile.Descriptor

/-!
A whole conversion. A request that cannot be met stops it; a project file that cannot be used costs only its
own target, and the descriptor of the solution.
-/

namespace Listfile

/-- A descriptor, and its directory below that of the solution. -/
structure GeneratedDescriptor where
  name : String
  directory : String
  contents : String
  deriving DecidableEq, Repr

structure ConversionOutput where
  targets : List GeneratedDescriptor
  /-- Only there if no target failed. -/
  solution : Option GeneratedDescriptor
  failures : List ConversionError
  deriving DecidableEq, Repr

namespace ConversionOutput

def descriptors (output : ConversionOutput) : List GeneratedDescriptor :=
  output.targets ++ output.solution.toList

def failedTarget : ConversionError → String
  | .projectFile target _ => target
  | other => other.message

def status? (output : ConversionOutput) : Option ConversionError :=
  if output.failures.isEmpty then none else some (.targetsFailed (output.failures.map failedTarget))

end ConversionOutput

namespace Conversion

structure Prepared where
  resolved : ResolvedTarget
  description : TargetDescription
  defaults : Keyed Settings

/-- The preparation of a target, or why its project file cannot be used. An error of another kind stops the run. -/
def prepare (provider : Provider) (resolved : ResolvedTarget) :
    Logged (Except ConversionError Prepared) := do
  Logged.note (.converting resolved.target.name)
  match extract provider resolved with
  | .error error =>
    if error.isProjectFile then
      Logged.note (.failed error)
      return .error error
    else Logged.fail error
  | .ok extracted =>
    let description := TargetDescription.ofSettings provider resolved extracted
    description.environmentVariables.forM fun variableName =>
      Logged.note (.dependsOnEnvironment resolved.target.name variableName)
    return .ok ⟨resolved, description, extracted.defaults⟩

def failure? : Except ConversionError Prepared → Option ConversionError
  | .error error => some error
  | .ok _ => none

/-- The directory of a target below that of the solution. A target from elsewhere gets one of its name. -/
def placement (target : Target) (sourceRoot : String) : Logged String :=
  match Path.relativeTo? target.directory sourceRoot with
  | some relative => return if relative = "" then "." else relative
  | none => do
    Logged.note (.outsideSolution target.name)
    return target.name

def generate (provider : Provider) (targets : List Target) (prepared : Prepared) :
    Logged GeneratedDescriptor := do
  let target := prepared.resolved.target
  let directory ← placement target (Path.canonical provider.solution.directory)
  let description :=
    prepared.description.linkedWith provider targets prepared.resolved prepared.defaults
  return ⟨target.name, directory, Descriptor.ofTarget description⟩

def ofSolution (name : String) (targets : List GeneratedDescriptor) : GeneratedDescriptor :=
  ⟨name, "", Descriptor.ofSolution name (targets.map (·.directory))⟩

end Conversion

open Conversion in
def convert (provider : Provider) (request : Request) : Logged ConversionOutput := do
  let resolved ← resolve provider request
  let prepared ← resolved.mapM (prepare provider)
  let failures := prepared.filterMap failure?
  let targets ← (prepared.filterMap Except.toOption).mapM (generate provider (resolved.map (·.target)))
  let solution := if failures.isEmpty then some (ofSolution provider.solution.name targets) else none
  return ⟨targets, solution, failures⟩

end Listfile

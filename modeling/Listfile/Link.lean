import Listfile.Resolution

/-!
Libraries to link. A library that another target of the solution makes is linked by the name of that target,
any other as it is written.
-/

namespace Listfile

inductive LinkReference where
  | target (name : String)
  | literal (text : String)
  deriving DecidableEq, Repr

def LinkReference.text : LinkReference → String
  | target name => name
  | literal text => text

/-- A library as it is written, and the canonical paths that it may be found at, in the order of search. -/
structure LinkCandidate where
  literal : String
  paths : List String
  deriving DecidableEq, Repr

/-- The first of the targets, other than the consumer, that makes the library at `path`. -/
def producer? (targets : List Target) (path configuration consumer : String) : Option Target :=
  targets.find? fun target =>
    target.name ≠ consumer &&
      ((target.linkableOutput? configuration).map (Path.same · path)).getD false

namespace LinkCandidate

def resolve (candidate : LinkCandidate) (targets : List Target) (configuration consumer : String) :
    LinkReference :=
  match candidate.paths.findSome? fun path => producer? targets path configuration consumer with
  | some target => .target target.name
  | none => .literal candidate.literal

/-- Where a library is searched: in each of the directories that does not evaluate to nothing. -/
def searchPaths (relocator : Relocator) (configuration : ProjectConfiguration)
    (libraryDirectories : List String) (literal : String) : List String :=
  ((libraryDirectories.map fun directory => Text.trim (relocator.evaluate configuration directory)).filter
    (· ≠ "")).map fun directory => relocator.anchor (Path.join directory literal)

def of? (relocator : Relocator) (configuration : ProjectConfiguration)
    (libraryDirectories : List String) (token : String) : Option LinkCandidate :=
  let literal := relocator.path configuration token
  if literal = "" then none
  else if Path.isRooted literal then some ⟨literal, [Path.normalize literal]⟩
  else some ⟨literal, searchPaths relocator configuration libraryDirectories literal⟩

end LinkCandidate

def linkReferences (relocator : Relocator) (targets : List Target) (consumer : String)
    (defaults : Keyed Settings) (name : String) (configuration : ProjectConfiguration) :
    List LinkReference :=
  match defaults.get? name with
  | none => []
  | some settings =>
    (settings.linkLibraries.filterMap
      (LinkCandidate.of? relocator configuration settings.libraryDirectories)).map fun candidate =>
        candidate.resolve targets name consumer

def linkLibraries (provider : Provider) (targets : List Target) (resolved : ResolvedTarget)
    (defaults : Keyed Settings) : List (String × List LinkReference) :=
  let target := resolved.target
  let relocator := Relocator.ofTarget provider target
  resolved.configurations.mapValues (linkReferences relocator targets target.name defaults)

end Listfile

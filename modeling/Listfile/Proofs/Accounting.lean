import Listfile.Proofs.Placement

/-!
The account that a run gives of its targets: each of them has either a descriptor or a failure, in order, and the
solution has a descriptor that lists all of theirs if there is no failure. An error that is not about a project file
leaves no account.
-/

namespace Listfile

def Provider.loads (provider : Provider) (name : String) : Bool := (provider.projectDocument name).isOk

namespace Provider

variable {provider : Provider} {name : String}

theorem loads_eq_true_iff : provider.loads name = true ↔
    ∃ document, provider.projectDocument name = .ok document := by
  unfold loads
  cases provider.projectDocument name <;> simp [Except.isOk, Except.toBool]

theorem loads_eq_false_iff : provider.loads name = false ↔
    ∃ error, provider.projectDocument name = .error error := by
  unfold loads
  cases provider.projectDocument name <;> simp [Except.isOk, Except.toBool]

end Provider

namespace Conversion

/-! What becomes of one target. -/

def descriptor? (provider : Provider) (targets : List Target) (own : ResolvedTarget) :
    Option GeneratedDescriptor :=
  (outcome provider own).toOption.map (descriptorOf provider targets)

def failureOf? (provider : Provider) (own : ResolvedTarget) : Option ConversionError :=
  failure? (outcome provider own)

section

variable {provider : Provider} {targets : List Target} {own : ResolvedTarget}

theorem outcome_of_error {error : ConversionError}
    (failed : provider.projectDocument own.target.name = .error error) : outcome provider own = .error error := by
  rw [outcome, Extraction.extract_eq_error_iff.mpr failed]
  rfl

theorem exists_outcome (loaded : provider.loads own.target.name = true) :
    ∃ prepared, outcome provider own = .ok prepared ∧ prepared.resolved = own := by
  obtain ⟨document, read⟩ := Provider.loads_eq_true_iff.mp loaded
  rw [outcome, Extraction.extract_eq_ok_iff.mpr ⟨document, read, rfl⟩]
  exact ⟨_, rfl, rfl⟩

theorem descriptor?_of_loads (loaded : provider.loads own.target.name = true) :
    ∃ descriptor, descriptor? provider targets own = some descriptor ∧ descriptor.name = own.target.name := by
  obtain ⟨prepared, done, same⟩ := exists_outcome loaded
  refine ⟨descriptorOf provider targets prepared, ?_, ?_⟩
  · simp [descriptor?, done, Except.toOption]
  · rw [descriptorOf, same]

theorem descriptor?_of_not_loads (failed : provider.loads own.target.name = false) :
    descriptor? provider targets own = none := by
  obtain ⟨error, unread⟩ := Provider.loads_eq_false_iff.mp failed
  simp [descriptor?, outcome_of_error unread, Except.toOption]

theorem name_of_descriptor? {descriptor : GeneratedDescriptor}
    (given : descriptor? provider targets own = some descriptor) : descriptor.name = own.target.name := by
  cases loaded : provider.loads own.target.name with
  | true =>
    obtain ⟨other, found, named⟩ : ∃ other, descriptor? provider targets own = some other ∧
        other.name = own.target.name := descriptor?_of_loads loaded
    rw [given, Option.some.injEq] at found
    rw [found, named]
  | false => simp [descriptor?_of_not_loads loaded] at given

theorem failureOf?_of_loads (loaded : provider.loads own.target.name = true) :
    failureOf? provider own = none := by
  obtain ⟨prepared, done, -⟩ := exists_outcome loaded
  simp [failureOf?, done, failure?]

theorem failureOf?_of_not_loads (failed : provider.loads own.target.name = false) :
    ∃ error, provider.projectDocument own.target.name = .error error ∧ failureOf? provider own = some error := by
  obtain ⟨error, unread⟩ := Provider.loads_eq_false_iff.mp failed
  exact ⟨error, unread, by simp [failureOf?, outcome_of_error unread, failure?]⟩

end

/-! What becomes of all targets. -/

/-- The command of the solution's descriptor for the directory of a target. -/
inductive AddsDirectory : String → String → Prop
  | plain {directory : String} (solid : ∀ c ∈ directory.toList, Text.isBlank c = false) :
      AddsDirectory directory ("add_subdirectory(" ++ directory ++ ")\n")
  | quoted {directory : String} (blank : ∃ c ∈ directory.toList, Text.isBlank c = true) :
      AddsDirectory directory ("add_subdirectory(\"" ++ directory ++ "\")\n")

/-- A descriptor of the solution that adds the directory of each target, in order. -/
structure Lists (provider : Provider) (targets : List GeneratedDescriptor) (solution : GeneratedDescriptor) :
    Prop where
  name : solution.name = provider.solution.name
  directory : solution.directory = ""
  contents : ∃ commands, solution.contents = Descriptor.header provider.solution.name ++ String.join commands ∧
    List.Forall₂ (fun target command => AddsDirectory target.directory command) targets commands

def failed (provider : Provider) (resolved : List ResolvedTarget) : List ResolvedTarget :=
  resolved.filter fun own => !provider.loads own.target.name

/-- A run that loses no target and reports none twice: those whose project file can be used have a descriptor each,
the others a failure each, which is the error of the file. -/
structure Accounts (provider : Provider) (resolved : List ResolvedTarget) (output : ConversionOutput) :
    Prop where
  targets : List.Forall₂ (fun own (descriptor : GeneratedDescriptor) => descriptor.name = own.target.name)
    (resolved.filter fun own => provider.loads own.target.name) output.targets
  failures : List.Forall₂ (fun own failure => provider.projectDocument own.target.name = .error failure ∧
      ∃ target reason, failure = .projectFile target reason) (failed provider resolved) output.failures
  solution : output.solution.isSome = true ↔ output.failures = []
  listed : ∀ solution, output.solution = some solution → Lists provider output.targets solution
  succeeds : output.status? = none ↔ output.solution.isSome = true
  fails : output.solution = none → ∃ names, output.status? = some (.targetsFailed names) ∧
    List.Forall₂ (fun failure name => ∃ reason, failure = .projectFile name reason) output.failures names

theorem addsDirectory (directory : String) :
    AddsDirectory directory ("add_subdirectory(" ++ Text.quoteIfBlank directory ++ ")\n") := by
  unfold Text.quoteIfBlank
  split
  next blank =>
    have before : "add_subdirectory(\"" = "add_subdirectory(" ++ "\"" := rfl
    have behind : "\")\n" = "\"" ++ ")\n" := rfl
    have quoted : "add_subdirectory(" ++ ("\"" ++ directory ++ "\"") ++ ")\n" =
        "add_subdirectory(\"" ++ directory ++ "\")\n" := by
      rw [before, behind]
      simp only [String.append_assoc]
    rw [quoted]
    exact .quoted (List.any_eq_true.mp blank)
  next solid =>
    refine .plain fun c member => ?_
    simpa using fun blank => solid (List.any_eq_true.mpr ⟨c, member, blank⟩)

section

variable (provider : Provider) (resolved : List ResolvedTarget)

theorem targets_eq : (outputOf provider resolved).targets =
    resolved.filterMap (descriptor? provider (resolved.map (·.target))) := by
  simp only [outputOf, usable, List.filterMap_map, List.map_filterMap]
  rfl

theorem failures_eq : (outputOf provider resolved).failures = resolved.filterMap (failureOf? provider) := by
  simp only [outputOf, List.filterMap_map]
  rfl

theorem forall₂_targets :
    List.Forall₂ (fun own (descriptor : GeneratedDescriptor) => descriptor.name = own.target.name)
      (resolved.filter fun own => provider.loads own.target.name) (outputOf provider resolved).targets := by
  rw [targets_eq]
  refine forall₂_filter_filterMap fun own _ => ?_
  split
  next loaded => exact descriptor?_of_loads loaded
  next failed => exact descriptor?_of_not_loads (Bool.not_eq_true _ ▸ failed)

theorem forall₂_failures (settled : stop? provider resolved = none) :
    List.Forall₂ (fun own failure => provider.projectDocument own.target.name = .error failure ∧
      ∃ target reason, failure = .projectFile target reason)
      (failed provider resolved) (outputOf provider resolved).failures := by
  rw [failures_eq]
  refine forall₂_filter_filterMap fun own member => ?_
  split
  next unloaded =>
    obtain ⟨error, unread, failure⟩ := failureOf?_of_not_loads (by simpa using unloaded)
    have kind := Provider.stop?_eq_none_iff.mp (List.findSome?_eq_none_iff.mp settled own member) error unread
    exact ⟨error, failure, unread, ConversionError.isProjectFile_iff.mp kind⟩
  next loaded => exact failureOf?_of_loads (by simpa using loaded)

theorem lists_ofSolution (targets : List GeneratedDescriptor) :
    Lists provider targets (ofSolution provider.solution.name targets) := by
  constructor
  case name => rfl
  case directory => rfl
  case contents =>
    refine ⟨targets.map fun target => "add_subdirectory(" ++ Text.quoteIfBlank target.directory ++ ")\n", ?_, ?_⟩
    · simp only [ofSolution, Descriptor.ofSolution, List.map_map]
      rfl
    · rw [List.forall₂_map_right_iff, List.forall₂_same]
      exact fun target _ => addsDirectory target.directory

theorem solution_eq_some_iff {solution : GeneratedDescriptor} :
    (outputOf provider resolved).solution = some solution ↔ (outputOf provider resolved).failures = [] ∧
      ofSolution provider.solution.name (outputOf provider resolved).targets = solution := by
  have stated : (outputOf provider resolved).solution =
      if (outputOf provider resolved).failures.isEmpty then
        some (ofSolution provider.solution.name (outputOf provider resolved).targets)
      else none := rfl
  rw [stated]
  cases (outputOf provider resolved).failures <;> simp

theorem exists_status? {output : ConversionOutput} (occurred : output.failures ≠ [])
    (all : ∀ failure ∈ output.failures, ∃ target reason, failure = .projectFile target reason) :
    ∃ names, output.status? = some (.targetsFailed names) ∧
      List.Forall₂ (fun failure name => ∃ reason, failure = .projectFile name reason) output.failures names := by
  refine ⟨output.failures.map ConversionOutput.failedTarget, ?_, ?_⟩
  · rw [ConversionOutput.status?, if_neg (by simpa using occurred)]
  · rw [List.forall₂_map_right_iff, List.forall₂_same]
    intro failure member
    obtain ⟨target, reason, rfl⟩ := all failure member
    exact ⟨reason, rfl⟩

theorem accounts_outputOf (settled : stop? provider resolved = none) :
    Accounts provider resolved (outputOf provider resolved) := by
  have failures := forall₂_failures provider resolved settled
  have present : (outputOf provider resolved).solution.isSome = true ↔
      (outputOf provider resolved).failures = [] := by
    simp [Option.isSome_iff_exists, solution_eq_some_iff]
  constructor
  case targets => exact forall₂_targets provider resolved
  case failures => exact failures
  case solution => exact present
  case listed =>
    intro solution given
    obtain ⟨-, rfl⟩ := (solution_eq_some_iff provider resolved).mp given
    exact lists_ofSolution provider _
  case succeeds =>
    rw [present, ConversionOutput.status?]
    cases (outputOf provider resolved).failures <;> simp
  case fails =>
    intro missing
    refine exists_status? (fun none => ?_) fun failure member => ?_
    · have some := present.mpr none
      simp [missing] at some
    · obtain ⟨own, -, -, kind⟩ := exists_mem_of_forall₂ failures.flip member
      exact kind

end

end Conversion

/-! A solution of the project `app` and another one. -/

namespace Sample

def tool (native : Bool) (descriptor : Option String) : ProjectSnapshot where
  name := "tool"
  fullPath := "C:\\solution\\tool\\tool.vcxproj"
  native
  descriptor
  configurations := [{ name := "Debug", platform := "x64" }]

def withTool (tool : ProjectSnapshot) : Snapshot where
  solution := (tree "C:\\solution" [("app", ""), ("tool", "")]).solution
  projects := (tree "C:\\solution" [("app", "C:\\solution\\app\\app.vcxproj")]).projects ++ [tool]

def broken : Provider := (withTool (tool true (some "tool.vcxproj"))).provider .error

def brokenTargets : List ResolvedTarget :=
  [treeTarget "app" "C:/solution/app", treeTarget "tool" "C:/solution/tool"]

end Sample

namespace Conversion

/-- An error of another kind ends the run, wherever it comes from. -/
example : (convert { Sample.broken with projectDocument := fun _ => .error .inconsistentProjectSets } {}).result =
    .error .inconsistentProjectSets := by
  decide +kernel

end Conversion

end Listfile

import Listfile.Proofs.Accounting

/-!
How far the file of a project reaches: two runs on solutions that differ in one project file resolve to the same
targets, and say the same about all of them but that of the project.
-/

namespace Listfile

/-- Whether two snapshots differ at most in the project file of the one project that has the name. -/
inductive Snapshot.DifferInFileOf (name : String) : Snapshot → Snapshot → Prop
  | intro {solution : Solution} {environment : Keyed String} {before after : List ProjectSnapshot}
      {own other : ProjectSnapshot} (named : own.name = name)
      (same : { own with descriptor := none, descriptorText := none } =
        { other with descriptor := none, descriptorText := none })
      (alone : ∀ project ∈ before ++ after, project.name ≠ name) :
      DifferInFileOf name ⟨solution, environment, before ++ own :: after⟩
        ⟨solution, environment, before ++ other :: after⟩

namespace Snapshot.DifferInFileOf

variable {name : String} {first second : Snapshot}

theorem map_project? {α : Type} (differ : DifferInFileOf name first second) (f : ProjectSnapshot → α)
    (blind : ∀ project, f { project with descriptor := none, descriptorText := none } = f project)
    (key : String) : (second.project? key).map f = (first.project? key).map f := by
  cases differ with
  | @intro _ _ before _ own other _ same _ =>
    have named : other.name = own.name := (congrArg (·.name) same).symm
    have alike : f other = f own := by
      rw [← blind other, ← same, blind own]
    simp only [project?, List.find?_append, List.find?_cons, named]
    cases before.find? (·.name = key) with
    | some => simp
    | none => split <;> simp [alike]

theorem project?_of_ne (differ : DifferInFileOf name first second) {key : String} (apart : key ≠ name) :
    second.project? key = first.project? key := by
  cases differ with
  | @intro _ _ _ _ own other named same _ =>
    have named' : other.name = name := (congrArg (·.name) same).symm.trans named
    simp [project?, List.find?_append, named, named', apart.symm]

theorem evaluate (differ : DifferInFileOf name first second) : second.evaluate = first.evaluate := by
  apply evaluate_congr
  · cases differ
    rfl
  · cases differ
    rfl
  · exact differ.map_project? (·.directory) fun _ => rfl

theorem provider_eq (differ : DifferInFileOf name first second) (read : String → Except String String) :
    second.provider read = { first.provider read with projectDocument := second.projectDocument read } := by
  have solution : second.solution = first.solution := by cases differ; rfl
  have projects : second.projects.map (·.toProject) = first.projects.map (·.toProject) := by
    cases differ with
    | intro _ same _ =>
      have project := congrArg ProjectSnapshot.toProject same
      simp only [List.map_append, List.map_cons]
      exact congrArg _ (congrArg (· :: _) project.symm)
  have configurations (key : String) := differ.map_project? (·.configurations) (fun _ => rfl) key
  have files (key : String) := differ.map_project? (·.files) (fun _ => rfl) key
  simp only [provider, solution, projects, configurations, files, differ.evaluate]

theorem projectDocument_of_ne (differ : DifferInFileOf name first second)
    (read : String → Except String String) {key : String} (apart : key ≠ name) :
    second.projectDocument read key = first.projectDocument read key := by
  simp only [projectDocument, differ.project?_of_ne apart]

end Snapshot.DifferInFileOf

namespace Conversion

/-! Runs with other project documents. -/

section

variable (provider : Provider) (documents : String → Except ConversionError ProjectDocument)

theorem resolve_with_documents (request : Request) :
    resolve { provider with projectDocument := documents } request = resolve provider request := rfl

variable {provider documents} {name : String} {targets : List Target} {own : ResolvedTarget}

theorem outcome_with_documents
    (same : documents own.target.name = provider.projectDocument own.target.name) :
    outcome { provider with projectDocument := documents } own = outcome provider own := by
  simp only [outcome, extract, same]
  rfl

theorem descriptor?_with_documents
    (same : documents own.target.name = provider.projectDocument own.target.name) :
    descriptor? { provider with projectDocument := documents } targets own =
      descriptor? provider targets own := by
  simp only [descriptor?, outcome_with_documents same]
  rfl

theorem failureOf?_with_documents
    (same : documents own.target.name = provider.projectDocument own.target.name) :
    failureOf? { provider with projectDocument := documents } own = failureOf? provider own := by
  simp only [failureOf?, outcome_with_documents same]

/-- Whether two runs say the same about all targets but one. -/
structure AgreeBeside (name : String) (first second : ConversionOutput) : Prop where
  targets : second.targets.filter (·.name ≠ name) = first.targets.filter (·.name ≠ name)
  failures : second.failures.filter (ConversionOutput.failedTarget · ≠ name) =
    first.failures.filter (ConversionOutput.failedTarget · ≠ name)

/-- What a run says about the project of the name: if it is a target, it has a descriptor where its file can be used
and a failure where it cannot. -/
structure Tells (provider : Provider) (resolved : List ResolvedTarget) (name : String)
    (output : ConversionOutput) : Prop where
  descriptor : (∃ descriptor ∈ output.targets, descriptor.name = name) ↔
    (∃ own ∈ resolved, own.target.name = name) ∧ provider.loads name = true
  failure : (∃ reason, .projectFile name reason ∈ output.failures) ↔
    (∃ own ∈ resolved, own.target.name = name) ∧ provider.loads name = false

theorem failedTarget_of_failureOf? {failure : ConversionError} (fails : provider.FailsByProject)
    (given : failureOf? provider own = some failure) : ConversionOutput.failedTarget failure = own.target.name := by
  cases loaded : provider.loads own.target.name with
  | true => simp [failureOf?_of_loads loaded] at given
  | false =>
    obtain ⟨error, unread, found⟩ := failureOf?_of_not_loads loaded
    obtain ⟨reason, rfl⟩ := fails _ _ unread
    rw [given, Option.some.injEq] at found
    rw [found]
    rfl

theorem agreeBeside_with_documents (fails : provider.FailsByProject)
    (fails' : Provider.FailsByProject { provider with projectDocument := documents }) (resolved : List ResolvedTarget)
    (same : ∀ other, other ≠ name → documents other = provider.projectDocument other) :
    AgreeBeside name (outputOf provider resolved)
      (outputOf { provider with projectDocument := documents } resolved) := by
  constructor
  case targets =>
    rw [targets_eq, targets_eq]
    exact filter_filterMap_congr (fun _ _ => name_of_descriptor?) (fun _ _ => name_of_descriptor?)
      fun own apart => descriptor?_with_documents (same own.target.name apart)
  case failures =>
    rw [failures_eq, failures_eq]
    exact filter_filterMap_congr (fun _ _ => failedTarget_of_failureOf? fails')
      (fun _ _ => failedTarget_of_failureOf? fails)
      fun own apart => failureOf?_with_documents (same own.target.name apart)

theorem tells_outputOf (fails : provider.FailsByProject) (resolved : List ResolvedTarget) (name : String) :
    Tells provider resolved name (outputOf provider resolved) := by
  constructor
  case descriptor =>
    rw [targets_eq]
    constructor
    · intro given
      rcases given with ⟨descriptor, member, named⟩
      obtain ⟨own, inside, found⟩ := List.mem_filterMap.mp member
      have same := (name_of_descriptor? found).symm.trans named
      refine ⟨⟨own, inside, same⟩, ?_⟩
      by_contra failed
      rw [← same, Bool.not_eq_true] at failed
      simp [descriptor?_of_not_loads failed] at found
    · intro given
      rcases given with ⟨⟨own, inside, rfl⟩, loaded⟩
      obtain ⟨descriptor, found, named⟩ := descriptor?_of_loads loaded
      exact ⟨descriptor, List.mem_filterMap.mpr ⟨own, inside, found⟩, named⟩
  case failure =>
    rw [failures_eq]
    constructor
    · intro given
      rcases given with ⟨reason, member⟩
      obtain ⟨own, inside, found⟩ := List.mem_filterMap.mp member
      have same : name = own.target.name := failedTarget_of_failureOf? fails found
      refine ⟨⟨own, inside, same.symm⟩, ?_⟩
      by_contra loaded
      rw [same, Bool.not_eq_false] at loaded
      simp [failureOf?_of_loads loaded] at found
    · intro given
      rcases given with ⟨⟨own, inside, rfl⟩, failed⟩
      obtain ⟨error, unread, found⟩ := failureOf?_of_not_loads failed
      obtain ⟨reason, rfl⟩ := fails _ _ unread
      exact ⟨reason, List.mem_filterMap.mpr ⟨own, inside, found⟩⟩

end

/-- The file of a project decides on the descriptor of its own target only: runs on solutions that differ in it fail
alike or agree about all other targets. -/
theorem project_file_decides_on_its_target {name : String} {first second : Snapshot}
    (differ : first.DifferInFileOf name second) (read : String → Except String String) (request : Request) :
    (∃ error, (convert (first.provider read) request).result = .error error ∧
      (convert (second.provider read) request).result = .error error) ∨
    ∃ resolved output other, (resolve (first.provider read) request).result = .ok resolved ∧
      (resolve (second.provider read) request).result = .ok resolved ∧
      (convert (first.provider read) request).result = .ok output ∧
      (convert (second.provider read) request).result = .ok other ∧
      AgreeBeside name output other ∧
      Tells (first.provider read) resolved name output ∧ Tells (second.provider read) resolved name other := by
  have resolves : resolve (second.provider read) request = resolve (first.provider read) request := by
    rw [differ.provider_eq read, resolve_with_documents]
  cases found : (resolve (first.provider read) request).result with
  | error error =>
    have found' : (resolve (second.provider read) request).result = .error error := resolves ▸ found
    exact .inl ⟨error, convert_of_resolve_error _ found, convert_of_resolve_error _ found'⟩
  | ok resolved =>
    have found' : (resolve (second.provider read) request).result = .ok resolved := resolves ▸ found
    have fails := first.failsByProject read
    have fails' := second.failsByProject read
    refine .inr ⟨resolved, _, _, rfl, found', convert_of_resolve fails found, convert_of_resolve fails' found', ?_,
      tells_outputOf fails resolved name, tells_outputOf fails' resolved name⟩
    rw [differ.provider_eq read] at fails' ⊢
    exact agreeBeside_with_documents fails fails' resolved fun other apart => differ.projectDocument_of_ne read apart

end Conversion

namespace Sample

theorem differ_in_tool (native : Bool) : Snapshot.DifferInFileOf "tool" (withTool (tool native none))
    (withTool (tool native (some "tool.vcxproj"))) :=
  .intro rfl rfl (by decide)

def whole (native : Bool) : Provider := (withTool (tool native none)).provider .error

theorem resolve_whole : (resolve (whole true) {}).result = .ok brokenTargets ∧
    (resolve (whole false) {}).result = .ok [treeTarget "app" "C:/solution/app"] := by
  decide +kernel

def foreignOutput : ConversionOutput :=
  Conversion.outputOf (whole false) [treeTarget "app" "C:/solution/app"]

end Sample

namespace Conversion

theorem tool_file_decides_on_tool :
    Snapshot.DifferInFileOf "tool" (Sample.withTool (Sample.tool true none))
        (Sample.withTool (Sample.tool true (some "tool.vcxproj"))) ∧
      (resolve (Sample.whole true) {}).result = .ok Sample.brokenTargets ∧
      (Sample.whole true).loads "tool" = true ∧ Sample.broken.loads "tool" = false ∧
      ((∃ error, (convert (Sample.whole true) {}).result = .error error ∧
        (convert Sample.broken {}).result = .error error) ∨
      ∃ resolved output other, (resolve (Sample.whole true) {}).result = .ok resolved ∧
        (resolve Sample.broken {}).result = .ok resolved ∧
        (convert (Sample.whole true) {}).result = .ok output ∧ (convert Sample.broken {}).result = .ok other ∧
        AgreeBeside "tool" output other ∧
        Tells (Sample.whole true) resolved "tool" output ∧ Tells Sample.broken resolved "tool" other) :=
  ⟨Sample.differ_in_tool true, Sample.resolve_whole.1, by decide +kernel, by decide +kernel,
    project_file_decides_on_its_target (Sample.differ_in_tool true) .error {}⟩

/-- A project that is no target has no descriptor, although its file can be used, and no failure where it cannot. -/
theorem foreign_project_has_no_descriptor :
    Snapshot.DifferInFileOf "tool" (Sample.withTool (Sample.tool false none))
        (Sample.withTool (Sample.tool false (some "tool.vcxproj"))) ∧
      (convert (Sample.whole false) {}).result = .ok Sample.foreignOutput ∧
      (Sample.whole false).loads "tool" = true ∧
      ¬ ((∃ descriptor ∈ Sample.foreignOutput.targets, descriptor.name = "tool") ↔
        (Sample.whole false).loads "tool" = true) := by
  have loaded : (Sample.whole false).loads "tool" = true := by decide +kernel
  have names : Sample.foreignOutput.targets.map (·.name) = ["app"] := by decide +kernel
  refine ⟨Sample.differ_in_tool false, convert_of_resolve (Snapshot.failsByProject _ _) Sample.resolve_whole.2, loaded,
    fun exact => ?_⟩
  obtain ⟨descriptor, member, named⟩ := exact.mpr loaded
  have inside := List.mem_map_of_mem (f := GeneratedDescriptor.name) member
  rw [names, named] at inside
  simp at inside

end Conversion

end Listfile

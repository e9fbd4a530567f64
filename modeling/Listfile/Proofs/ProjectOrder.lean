import Listfile.Proofs.Accounting
import Listfile.Proofs.Linking
import Mathlib.Data.List.Perm.Basic

/-!
The order of the projects in a solution: it decides on the order of the targets and on nothing else, as long as no
library is made by two of them.
-/

namespace Listfile

/-- Whether two snapshots differ at most in the order of their projects, each of which has a name of its own. -/
structure Snapshot.ReordersProjects (first second : Snapshot) : Prop where
  solution : second.solution = first.solution
  environment : second.environment = first.environment
  projects : first.projects.Perm second.projects
  named : (first.projects.map (·.name)).Nodup

namespace Snapshot.ReordersProjects

variable {first second : Snapshot}

theorem symm (reorders : first.ReordersProjects second) : second.ReordersProjects first where
  solution := reorders.solution.symm
  environment := reorders.environment.symm
  projects := reorders.projects.symm
  named := (reorders.projects.map (·.name)).nodup_iff.mp reorders.named

theorem project?_eq (reorders : first.ReordersProjects second) (key : String) :
    second.project? key = first.project? key := by
  apply find?_perm reorders.projects
  intro project inside other inside' same same'
  rw [decide_eq_true_eq] at same same'
  exact List.inj_on_of_nodup_map reorders.named inside inside' (same.trans same'.symm)

theorem evaluate_eq (reorders : first.ReordersProjects second) : second.evaluate = first.evaluate := by
  apply evaluate_congr reorders.solution reorders.environment
  intro project
  rw [reorders.project?_eq]

theorem provider_eq (reorders : first.ReordersProjects second) (read : String → Except String String) :
    second.provider read =
      { first.provider read with projects := (second.provider read).projects } := by
  have document : second.projectDocument read = first.projectDocument read := by
    funext key
    simp only [projectDocument, reorders.project?_eq]
  simp only [provider, reorders.solution, reorders.project?_eq, reorders.evaluate_eq, document]

theorem projects_perm (reorders : first.ReordersProjects second) (read : String → Except String String) :
    (first.provider read).projects.Perm (second.provider read).projects :=
  reorders.projects.map _

end Snapshot.ReordersProjects

/-! Targets: the same ones are resolved. -/

namespace Resolution

variable {provider : Provider} {request : Request} {projects : List Project} {targets : List ResolvedTarget}

theorem ResolvedAs.among {project : Project} {own : ResolvedTarget} (as : ResolvedAs provider request project own) :
    ResolvedAs { provider with projects } request project own where
  name := as.name
  configurations := as.configurations
  kind := as.kind
  useOfMfc := as.useOfMfc
  target := as.target

theorem resolve_perm (perm : provider.projects.Perm projects)
    (success : (resolve provider request).result = .ok targets) :
    ∃ others, (resolve { provider with projects } request).result = .ok others ∧ targets.Perm others := by
  obtain ⟨supported, filled, found, builds, uniform, all, nonempty⟩ := resolve_eq_ok_iff.mp success
  have part : (projects.filter (takesPart provider request)).Perm
      (provider.projects.filter (takesPart provider request)) := (perm.filter _).symm
  obtain ⟨others, all', same⟩ := List.perm_comp_forall₂ part all
  refine ⟨others, resolve_eq_ok_iff.mpr ⟨supported, filled, found, builds, uniform, ?_, ?_⟩, same.symm⟩
  · exact all'.imp fun _ _ as => as.among
  · intro none
    rw [none] at same
    exact nonempty same.nil_eq.symm

end Resolution

/-! Links: a library that one target makes is found wherever the target stands. -/

/-- Whether no two of the targets make the same library in a configuration. -/
def MakeApart (targets : List ResolvedTarget) : Prop :=
  ∀ own ∈ targets, ∀ other ∈ targets, own ≠ other → ∀ configuration output output',
    own.target.Makes configuration output → other.target.Makes configuration output' →
      Path.same output output' = false

theorem Target.Makes.kind_ne_executable {target : Target} {configuration output : String}
    (makes : target.Makes configuration output) : target.kind ≠ .executable := by
  intro executable
  cases makes with
  | static kind => exact TargetKind.noConfusion (executable.symm.trans kind)
  | shared kind => exact TargetKind.noConfusion (executable.symm.trans kind)

section

variable {targets others : List ResolvedTarget} {provider : Provider}

theorem same_of_same {first second path : String} (same : Path.same first path = true)
    (same' : Path.same second path = true) : Path.same first second = true := by
  simp only [Path.same, Text.sameIgnoringCase, beq_iff_eq] at same same' ⊢
  exact same.trans same'.symm

theorem producer?_perm (perm : targets.Perm others) (apart : MakeApart targets)
    (path configuration consumer : String) :
    producer? (others.map (·.target)) path configuration consumer =
      producer? (targets.map (·.target)) path configuration consumer := by
  apply find?_perm (perm.map _)
  intro target inside target' inside' produces produces'
  obtain ⟨own, member, rfl⟩ := List.mem_map.mp inside
  obtain ⟨other, member', rfl⟩ := List.mem_map.mp inside'
  obtain ⟨-, output, makes, same⟩ := produces_iff.mp produces
  obtain ⟨-, output', makes', same'⟩ := produces_iff.mp produces'
  by_contra different
  have distinct : own ≠ other := fun equal => different (congrArg (·.target) equal)
  have separate := apart own member other member' distinct configuration output output' makes makes'
  rw [same_of_same same same'] at separate
  exact Bool.noConfusion separate

theorem linkLibraries_perm (perm : targets.Perm others) (apart : MakeApart targets) (own : ResolvedTarget)
    (defaults : Keyed Settings) :
    linkLibraries provider (others.map (·.target)) own defaults =
      linkLibraries provider (targets.map (·.target)) own defaults := by
  apply linkLibraries_of_names
  intro path configuration consumer
  rw [producer?_perm perm apart]

end

namespace Conversion

variable {provider : Provider} {projects : List Project} {targets others : List ResolvedTarget}

theorem descriptor?_perm (perm : targets.Perm others) (apart : MakeApart targets) (own : ResolvedTarget) :
    descriptor? { provider with projects } (others.map (·.target)) own =
      descriptor? provider (targets.map (·.target)) own := by
  have same (prepared : Prepared) : descriptorOf { provider with projects } (others.map (·.target)) prepared =
      descriptorOf provider (targets.map (·.target)) prepared := by
    simp only [descriptorOf, TargetDescription.linkedWith, linkLibraries_perm perm apart]
    rfl
  unfold descriptor?
  rw [funext same]
  rfl

theorem outputOf_perm (perm : targets.Perm others) (apart : MakeApart targets) :
    (outputOf provider targets).targets.Perm (outputOf { provider with projects } others).targets ∧
      (outputOf provider targets).failures.Perm (outputOf { provider with projects } others).failures := by
  rw [targets_eq, targets_eq, failures_eq, failures_eq]
  constructor
  · rw [filterMap_congr fun own _ => descriptor?_perm perm apart own]
    exact perm.filterMap _
  · exact perm.filterMap _

theorem exists_convert_of_perm {request : Request} {output : ConversionOutput} (fails : provider.FailsByProject)
    (perm : provider.projects.Perm projects) (success : (convert provider request).result = .ok output) :
    ∃ other, (convert { provider with projects } request).result = .ok other := by
  obtain ⟨targets, found, -⟩ := (convert_eq_ok_iff provider).mp success
  obtain ⟨others, found', -⟩ := Resolution.resolve_perm perm found
  have fails' : Provider.FailsByProject { provider with projects } := fails
  exact ⟨_, convert_of_resolve fails' found'⟩

/-- Two solutions that differ in the order of their projects are converted or refused alike, and the descriptors and
failures of one are those of the other in another order, unless two targets make the same library. -/
theorem project_order_permutes_output {first second : Snapshot} (reorders : first.ReordersProjects second)
    (read : String → Except String String) (request : Request) :
    ((∃ output, (convert (first.provider read) request).result = .ok output) ↔
      ∃ other, (convert (second.provider read) request).result = .ok other) ∧
    ∀ targets output other, (resolve (first.provider read) request).result = .ok targets → MakeApart targets →
      (convert (first.provider read) request).result = .ok output →
      (convert (second.provider read) request).result = .ok other →
      output.targets.Perm other.targets ∧ output.failures.Perm other.failures := by
  refine ⟨⟨?_, ?_⟩, ?_⟩
  · intro given
    obtain ⟨output, success⟩ := given
    rw [reorders.provider_eq read]
    exact exists_convert_of_perm (first.failsByProject read) (reorders.projects_perm read) success
  · intro given
    obtain ⟨output, success⟩ := given
    rw [reorders.symm.provider_eq read]
    exact exists_convert_of_perm (second.failsByProject read) (reorders.symm.projects_perm read) success
  · intro targets output other found apart success success'
    obtain ⟨others, found', perm⟩ := Resolution.resolve_perm (reorders.projects_perm read) found
    have fails := second.failsByProject read
    rw [reorders.provider_eq read] at fails
    rw [convert_of_resolve (first.failsByProject read) found, Except.ok.injEq] at success
    rw [reorders.provider_eq read, convert_of_resolve fails found', Except.ok.injEq] at success'
    rw [← success, ← success']
    exact outputOf_perm perm apart

end Conversion

/-! A program and the library it links, in both orders. -/

namespace Sample

def libraryConfiguration : ProjectConfiguration where
  name := "Debug"
  platform := "x64"
  kind := .staticLibrary
  primaryOutput := "C:\\solution\\core.lib"

def programConfiguration : ProjectConfiguration where
  name := "Debug"
  platform := "x64"
  linker := { dependencies := ["C:\\solution\\core.lib"] }

def library : ProjectSnapshot where
  name := "core"
  fullPath := "C:\\solution\\core\\core.vcxproj"
  configurations := [libraryConfiguration]

def program : ProjectSnapshot where
  name := "app"
  fullPath := "C:\\solution\\app\\app.vcxproj"
  configurations := [programConfiguration]

def linkedSnapshot (projects : List ProjectSnapshot) : Snapshot where
  solution := (tree "C:\\solution" [("app", ""), ("core", "")]).solution
  projects

def libraryFirst : Provider := (linkedSnapshot [library, program]).provider .error

def programFirst : Provider := (linkedSnapshot [program, library]).provider .error

def libraryTarget : ResolvedTarget where
  target :=
    { (treeTarget "core" "C:/solution/core").target with
      kind := .staticLibrary
      outputs := [("Debug", ⟨"C:/solution/core.lib", ""⟩)] }
  configurations := [("Debug", libraryConfiguration)]

def programTarget : ResolvedTarget where
  target := (treeTarget "app" "C:/solution/app").target
  configurations := [("Debug", programConfiguration)]

theorem reordersProjects :
    (linkedSnapshot [library, program]).ReordersProjects (linkedSnapshot [program, library]) where
  solution := rfl
  environment := rfl
  projects := .swap _ _ _
  named := by decide

theorem resolve_linked : (resolve libraryFirst {}).result = .ok [libraryTarget, programTarget] ∧
    (resolve programFirst {}).result = .ok [programTarget, libraryTarget] := by
  decide +kernel

theorem makeApart_linked : MakeApart [libraryTarget, programTarget] := by
  have only {own : ResolvedTarget} (inside : own ∈ [libraryTarget, programTarget]) {configuration output : String}
      (makes : own.target.Makes configuration output) : own = libraryTarget := by
    simp only [List.mem_cons, List.not_mem_nil, or_false] at inside
    rcases inside with rfl | rfl
    · rfl
    · exact absurd rfl makes.kind_ne_executable
  intro own inside other inside' different configuration output output' makes makes'
  exact absurd ((only inside makes).trans (only inside' makes').symm) different

end Sample

namespace Conversion

open Sample

theorem project_order_permutes_linked_output :
    (linkedSnapshot [library, program]).ReordersProjects (linkedSnapshot [program, library]) ∧
      (resolve libraryFirst {}).result = .ok [libraryTarget, programTarget] ∧
      MakeApart [libraryTarget, programTarget] ∧
      (convert libraryFirst {}).result = .ok (outputOf libraryFirst [libraryTarget, programTarget]) ∧
      (convert programFirst {}).result = .ok (outputOf programFirst [programTarget, libraryTarget]) ∧
      (outputOf libraryFirst [libraryTarget, programTarget]).targets.Perm
        (outputOf programFirst [programTarget, libraryTarget]).targets ∧
      (outputOf libraryFirst [libraryTarget, programTarget]).failures.Perm
        (outputOf programFirst [programTarget, libraryTarget]).failures := by
  have success := convert_of_resolve (Snapshot.failsByProject _ _) resolve_linked.1
  have success' := convert_of_resolve (Snapshot.failsByProject _ _) resolve_linked.2
  exact ⟨reordersProjects, resolve_linked.1, makeApart_linked, success, success',
    (project_order_permutes_output reordersProjects .error {}).2 _ _ _ resolve_linked.1 makeApart_linked
      success success'⟩

end Conversion

end Listfile

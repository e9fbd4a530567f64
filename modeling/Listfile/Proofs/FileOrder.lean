import Listfile.Proofs.Accounting
import Listfile.Proofs.Linking

/-!
The order in which a project lists its files: as long as no two source files have the same path, it leaves no trace
in what a run gives and records. A declaration lists the files by their paths.
-/

namespace Listfile

/-! Snapshots whose projects list their files in another order. -/

/-- Whether two projects differ at most in the order of their files. -/
structure ProjectSnapshot.ReordersFiles (first second : ProjectSnapshot) : Prop where
  same : { second with files := [] } = { first with files := [] }
  files : first.files.Perm second.files

structure Snapshot.ReordersFiles (first second : Snapshot) : Prop where
  solution : second.solution = first.solution
  environment : second.environment = first.environment
  projects : List.Forall₂ ProjectSnapshot.ReordersFiles first.projects second.projects

def sourcePaths (files : List ProjectFile) : List String :=
  (files.filter (·.kind = .source)).map fun file => Text.slashed (Text.trim file.relativePath)

def Snapshot.SourcesApart (snapshot : Snapshot) : Prop :=
  ∀ project ∈ snapshot.projects, (sourcePaths project.files).Nodup

namespace Snapshot.ReordersFiles

variable {first second : Snapshot}

theorem project?_cases (reorders : first.ReordersFiles second) (key : String) :
    (first.project? key = none ∧ second.project? key = none) ∨
      ∃ own other, first.project? key = some own ∧ second.project? key = some other ∧ own.ReordersFiles other := by
  have all := reorders.projects
  unfold project?
  generalize first.projects = projects at all
  generalize second.projects = others at all
  induction all with
  | nil => exact .inl ⟨rfl, rfl⟩
  | @cons own other _ _ head _ ih =>
    have named : other.name = own.name := congrArg (·.name) head.same
    rw [List.find?_cons, List.find?_cons, named]
    split
    next => exact .inr ⟨own, other, rfl, rfl, head⟩
    next => exact ih

theorem map_project? {α : Type} (reorders : first.ReordersFiles second) (f : ProjectSnapshot → α)
    (blind : ∀ project, f { project with files := [] } = f project) (key : String) :
    (second.project? key).map f = (first.project? key).map f := by
  rcases reorders.project?_cases key with ⟨missing, missing'⟩ | ⟨own, other, found, found', head⟩
  · rw [missing, missing', Option.map_none]
  · rw [found, found', Option.map_some, Option.map_some, ← blind, head.same, blind]

theorem evaluate_eq (reorders : first.ReordersFiles second) : second.evaluate = first.evaluate := by
  apply evaluate_congr reorders.solution reorders.environment
  exact reorders.map_project? (·.directory) fun _ => rfl

theorem projectDocument_eq (reorders : first.ReordersFiles second) (read : String → Except String String) :
    second.projectDocument read = first.projectDocument read := by
  funext key
  have contents := reorders.map_project? (documentOf read) (fun _ => rfl) key
  unfold projectDocument
  revert contents
  cases first.project? key <;> cases second.project? key <;> simp_all

theorem provider_eq (reorders : first.ReordersFiles second) (read : String → Except String String) :
    second.provider read = { first.provider read with files := (second.provider read).files } := by
  have projects : second.projects.map (·.toProject) = first.projects.map (·.toProject) := by
    rw [eq_comm, ← List.forall₂_eq_eq_eq, List.forall₂_map_left_iff, List.forall₂_map_right_iff]
    exact reorders.projects.imp fun _ _ given => (congrArg (·.toProject) given.same).symm
  have configurations (key : String) := reorders.map_project? (·.configurations) (fun _ => rfl) key
  simp only [provider, reorders.solution, projects, configurations, reorders.evaluate_eq,
    reorders.projectDocument_eq read]

end Snapshot.ReordersFiles

theorem Snapshot.SourcesApart.nodup {snapshot : Snapshot} (apart : snapshot.SourcesApart)
    (read : String → Except String String) (key : String) :
    (sourcePaths ((snapshot.provider read).files key)).Nodup := by
  simp only [provider]
  cases found : snapshot.project? key with
  | none => exact List.nodup_nil
  | some project => exact apart project (List.mem_of_find?_eq_some found)

/-- Whether `files` holds the files of the projects in another order, where no two source files have the same path. -/
structure Provider.ReordersFiles (provider : Provider) (files : String → List ProjectFile) : Prop where
  perm : ∀ name, (provider.files name).Perm (files name)
  apart : ∀ name, (sourcePaths (provider.files name)).Nodup

/-! Targets with the files that their projects have in `files`. -/

section

variable (provider : Provider) (files : String → List ProjectFile)

def Target.refiled (target : Target) : Target :=
  { target with
    files := (files target.name).map (Resolution.fileOf
      ⟨provider.evaluate target.name, target.directory, Path.canonical provider.solution.directory⟩) }

def ResolvedTarget.refiled (own : ResolvedTarget) : ResolvedTarget :=
  { own with target := own.target.refiled provider files }

namespace Resolution

end Resolution

end

namespace Conversion

section

variable {provider : Provider} {files : String → List ProjectFile}

/-! Extraction: the settings of the files come in the order of their paths. -/

def Prepared.refiled (provider : Provider) (files : String → List ProjectFile) (prepared : Prepared) : Prepared where
  resolved := prepared.resolved.refiled provider files
  description := { prepared.description with target := prepared.resolved.target.refiled provider files }
  defaults := prepared.defaults

theorem mem_declaredFiles_iff {listed : List TargetFile} {path : String} :
    path ∈ Descriptor.declaredFiles listed ↔ ∃ file ∈ listed, file.kind ≠ .other ∧ file.relativePath = path := by
  simp only [Descriptor.declaredFiles, List.mem_eraseDups, List.mem_mergeSort, List.mem_map, List.mem_filter,
    decide_eq_true_eq, and_assoc]

theorem pairwise_declaredFiles (listed : List TargetFile) :
    (Descriptor.declaredFiles listed).Pairwise (· < ·) := by
  have ordered : (Descriptor.declaredFiles listed).Pairwise (· ≤ ·) :=
    (pairwise_mergeSort_by id _).sublist (eraseDups_sublist _)
  have distinct : (Descriptor.declaredFiles listed).Nodup := nodup_eraseDups _
  apply (ordered.and distinct).imp
  intro first second given
  exact Std.lt_of_le_of_ne given.1 given.2

end

/-! Where the declaration stands in a descriptor. -/

/-- Behind a parenthesis is the only place where a text is trimmed. -/
theorem trimEnd_behind (text rest : String) :
    Text.trimEnd (text ++ ")" ++ rest) = text ++ ")" ++ Text.trimEnd rest := by
  have solid (cs ds : List Char) :
      Text.stripEnd Text.isBlank (cs ++ ')' :: ds) = cs ++ ')' :: Text.stripEnd Text.isBlank ds := by
    have kept : Text.isBlank ')' = false := by decide
    simp only [Text.stripEnd, List.reverse_append, List.reverse_cons, List.append_assoc, List.singleton_append,
      List.dropWhile_append, List.dropWhile_cons, kept, Bool.false_eq_true, if_false]
    split
    next none => simp [List.isEmpty_iff.mp none]
    next => simp
  apply String.toList_inj.mp
  have shape := solid text.toList rest.toList
  simp only [Text.toList_trimEnd, String.toList_append, List.append_assoc]
  exact shape

theorem exists_trimEnd_line (sections : String) :
    ∃ rest, Text.trimEnd ("\n" ++ sections) ++ "\n" = "\n" ++ rest := by
  have before : (Text.trimEnd ("\n" ++ sections)).toList <+: '\n' :: sections.toList := by
    rw [Text.toList_trimEnd, Text.stripEnd, ← List.reverse_suffix, List.reverse_reverse, String.toList_append]
    exact List.dropWhile_suffix _
  cases trimmed : (Text.trimEnd ("\n" ++ sections)).toList with
  | nil =>
    refine ⟨"", ?_⟩
    rw [String.toList_eq_nil_iff.mp trimmed]
    rfl
  | cons first others =>
    rw [trimmed, List.cons_prefix_cons] at before
    refine ⟨String.ofList others ++ "\n", ?_⟩
    apply String.toList_inj.mp
    rw [String.toList_append, trimmed, before.1]
    simp

def preamble (target : Target) (variableNames : List String) : String :=
  Descriptor.header target.name ++ Descriptor.environmentCheck variableNames ++
    Descriptor.configurationTypes target.configurationNames ++ Descriptor.useOfMfc target.useOfMfc

theorem exists_ofTarget_eq_declaration (description : TargetDescription) :
    ∃ rest, Descriptor.ofTarget description = preamble description.target description.environmentVariables ++
      Descriptor.declaration description.target ++ rest := by
  have command : ")\n" = ")" ++ "\n" := rfl
  obtain ⟨sections, body⟩ : ∃ sections, Descriptor.body description =
      Descriptor.configurationTypes description.target.configurationNames ++
        Descriptor.useOfMfc description.target.useOfMfc ++ Descriptor.declarationHead description.target ++
        String.join ((Descriptor.declaredFiles description.target.files).map Descriptor.fileLine) ++ ")" ++
        ("\n" ++ sections) := by
    unfold Descriptor.body Descriptor.declaration
    rw [command]
    simp only [String.append_assoc]
    exact ⟨_, rfl⟩
  obtain ⟨rest, ended⟩ := exists_trimEnd_line sections
  refine ⟨rest, ?_⟩
  rw [Descriptor.ofTarget, body, trimEnd_behind, preamble, Descriptor.declaration, command]
  simp only [String.append_assoc, ended]

end Conversion

/-! A program with a header and two source files, listed in two orders. -/

namespace Sample

end Sample

namespace Conversion

open Sample

end Conversion

end Listfile

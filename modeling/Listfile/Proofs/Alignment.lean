import Listfile.Description
import Listfile.Proofs.Overrides
import Listfile.Proofs.Resolution

/-!
The configurations of a target on its way to a description: every stage has a value for just the participating
configurations, in their order, and an override for some of them.
-/

namespace Listfile

/-- A target with a project configuration, a build configuration and outputs under each of the names. -/
structure ResolvedTarget.Aligned (names : List String) (resolved : ResolvedTarget) : Prop where
  configurations : resolved.configurations.keys = names
  target : resolved.target.configurationNames = names
  outputs : resolved.target.outputs.keys = names

/-- An override for a source file, in some of the configurations and in their order. -/
structure Override.Aligned {α : Type} (names : List String) (sources : List ProjectFile)
    (override : Override α) : Prop where
  nonempty : override.values ≠ []
  sublist : (override.values.map Prod.fst).Sublist names
  source : ∃ source ∈ sources, source.kind = .source ∧
    override.file = Text.slashed (Text.trim source.relativePath)

def PchPlan.Aligned (names : List String) (sources : List ProjectFile) : PchPlan → Prop
  | .targetWide defaults overrides => defaults.map Prod.fst = names ∧
      ∀ override ∈ overrides, override.Aligned names sources
  | .perFile groups => ∀ group ∈ groups, group.flags.map Prod.fst = names

structure ExtractedSettings.Aligned (names : List String) (extracted : ExtractedSettings) : Prop where
  defaults : extracted.defaults.keys = names
  files : ∀ file ∈ extracted.files, file.perConfig.keys = names

structure TargetDescription.Aligned (names : List String) (sources : List ProjectFile)
    (description : TargetDescription) : Prop where
  includeDirectories : description.includeDirectories.map Prod.fst = names
  definitions : description.definitions.map Prod.fst = names
  sdlChecks : description.sdlChecks.map Prod.fst = names
  libraryDirectories : description.libraryDirectories.map Prod.fst = names
  linkLibraries : description.linkLibraries.map Prod.fst = names
  pch : description.pch.Aligned names sources
  fileIncludeDirectories : ∀ override ∈ description.fileIncludeDirectories, override.Aligned names sources
  fileDefinitions : ∀ override ∈ description.fileDefinitions, override.Aligned names sources
  fileSdlChecks : ∀ override ∈ description.fileSdlChecks, override.Aligned names sources

theorem Override.aligned_of_mem_ofFiles {α : Type} {differs : Settings → Settings → Bool}
    {value : Settings → Option α} {document : ProjectDocument} {configurations : Keyed ProjectConfiguration}
    {sources : List ProjectFile} {override : Override α}
    (member : override ∈ Override.ofFiles differs value
      (Extraction.ofDocument document configurations sources).defaults
      (Extraction.ofDocument document configurations sources).files) :
    override.Aligned configurations.keys sources := by
  obtain ⟨file, inside, same, nonempty, values⟩ := Override.mem_ofFiles member
  obtain ⟨source, sourceMember, kind, rfl⟩ := Extraction.mem_files_iff.mp inside
  refine ⟨nonempty, ?_, source, sourceMember, kind, same⟩
  rw [values, ← Extraction.keys_defaults]
  refine map_filterMap_sublist (fun default entry stated => ?_) _
  obtain ⟨_, -, -, -, named⟩ := Override.value?_eq_some_iff.mp stated
  exact named.symm

namespace TargetDescription

variable {relocator : Relocator} {configurations : Keyed ProjectConfiguration}

theorem map_fst_relocate? {α : Type} (values : List (String × α)) (directories : α → List String)
    (known : ∀ entry ∈ values, entry.1 ∈ configurations.keys) :
    (values.filterMap fun entry =>
      relocate? relocator configurations (entry.1, directories entry.2)).map Prod.fst =
        values.map Prod.fst := by
  rw [List.map_filterMap]
  refine filterMap_eq_map_of_some fun entry member => ?_
  obtain ⟨configuration, found⟩ := Keyed.exists_get?_of_mem_keys (known entry member)
  simp [relocate?, found]

theorem relocateOverride_aligned {names : List String} {sources : List ProjectFile}
    {own : Override (List String)} (aligned : own.Aligned names sources)
    (known : ∀ name ∈ names, name ∈ configurations.keys) :
    (relocateOverride relocator configurations own).Aligned names sources := by
  have keys : (relocateOverride relocator configurations own).values.map Prod.fst =
      own.values.map Prod.fst :=
    map_fst_relocate? own.values id fun entry member =>
      known entry.1 (aligned.sublist.subset (List.mem_map_of_mem member))
  constructor
  case nonempty =>
    intro none
    rw [none, List.map_nil] at keys
    exact aligned.nonempty (List.map_eq_nil_iff.mp keys.symm)
  case sublist => exact keys ▸ aligned.sublist
  case source => exact aligned.source

theorem texts_aligned {names : List String} {sources : List ProjectFile}
    {own : Override (List RelocatedDirectory)} (aligned : own.Aligned names sources) :
    (Override.mk own.file (own.values.map texts)).Aligned names sources := by
  constructor
  case nonempty => simpa using aligned.nonempty
  case sublist => simpa [texts, Function.comp_def] using aligned.sublist
  case source => exact aligned.source

theorem map_fst_texts (relocated : List Relocated) :
    (relocated.map texts).map Prod.fst = relocated.map Prod.fst := by
  simp [texts, Function.comp_def]

theorem pch_aligned (document : ProjectDocument) (sources : List ProjectFile) :
    (PchPlan.ofFiles (Extraction.ofDocument document configurations sources).defaults
      (Extraction.ofDocument document configurations sources).files).Aligned configurations.keys sources := by
  have keys := Extraction.keys_defaults document configurations sources
  unfold PchPlan.ofFiles
  split
  next =>
    intro group member
    obtain ⟨flags, distinct, rfl⟩ := List.mem_map.mp member
    obtain ⟨stated, -⟩ := List.mem_filter.mp distinct
    obtain ⟨file, -, rfl⟩ := List.mem_map.mp (List.mem_eraseDups.mp stated)
    simpa [PchPlan.flagsOf, Keyed.keys, Function.comp_def] using keys
  next =>
    refine ⟨?_, fun override member => Override.aligned_of_mem_ofFiles member⟩
    simpa [Keyed.keys, Function.comp_def] using keys

theorem ofSettings_aligned (provider : Provider) (resolved : ResolvedTarget)
    (document : ProjectDocument) (sources : List ProjectFile) (targets : List Target) :
    ((ofSettings provider resolved
      (Extraction.ofDocument document resolved.configurations sources)).linkedWith provider targets resolved
        (Extraction.ofDocument document resolved.configurations sources).defaults).Aligned
      resolved.configurations.keys sources := by
  have keys := Extraction.keys_defaults document resolved.configurations sources
  have known : ∀ entry ∈ (Extraction.ofDocument document resolved.configurations sources).defaults,
      entry.1 ∈ resolved.configurations.keys :=
    fun entry member => keys ▸ List.mem_map_of_mem member
  have kept : (Extraction.ofDocument document resolved.configurations sources).defaults.filter
      (fun entry => (resolved.configurations.get? entry.1).isSome) =
        (Extraction.ofDocument document resolved.configurations sources).defaults := by
    refine List.filter_eq_self.mpr fun entry member => ?_
    exact Option.isSome_iff_exists.mpr (Keyed.exists_get?_of_mem_keys (known entry member))
  simp only [linkedWith, ofSettings, kept]
  constructor
  case includeDirectories => exact (map_fst_texts _).trans ((map_fst_relocate? _ _ known).trans keys)
  case definitions => simpa [Keyed.keys, Function.comp_def] using keys
  case sdlChecks => simpa [Keyed.keys, Function.comp_def] using keys
  case libraryDirectories => exact (map_fst_texts _).trans ((map_fst_relocate? _ _ known).trans keys)
  case linkLibraries => exact Keyed.keys_mapValues _ _
  case pch => exact pch_aligned document sources
  case fileIncludeDirectories =>
    intro override member
    obtain ⟨relocated, inside, rfl⟩ := List.mem_map.mp member
    obtain ⟨own, stated, rfl⟩ := List.mem_map.mp inside
    exact texts_aligned
      (relocateOverride_aligned (Override.aligned_of_mem_ofFiles stated) fun _ inside => inside)
  case fileDefinitions => exact fun override member => Override.aligned_of_mem_ofFiles member
  case fileSdlChecks => exact fun override member => Override.aligned_of_mem_ofFiles member

end TargetDescription

namespace Resolution

variable {provider : Provider} {request : Request} {targets : List ResolvedTarget}

theorem nodup_participatingNames (solution : Solution) (request : Request) :
    (participatingNames solution request).Nodup := by
  unfold participatingNames requestedNames
  split <;> exact nodup_eraseDups _

theorem ResolvedAs.aligned {project : Project} {resolved : ResolvedTarget}
    (found : Found provider.solution request) (as : ResolvedAs provider request project resolved) :
    resolved.Aligned (participatingNames provider.solution request) := by
  have keys : resolved.configurations.keys = participatingNames provider.solution request := by
    rw [← names_participants found, ← forall₂_eq_map_iff, Keyed.keys, List.forall₂_map_right_iff]
    exact as.configurations.imp fun _ _ entry => entry.1
  obtain ⟨first, rest, -, target⟩ := as.target
  constructor
  case configurations => exact keys
  case target => simpa [target, targetOf, Target.configurationNames, Keyed.keys, Function.comp_def] using keys
  case outputs => rw [target, targetOf, Keyed.keys_mapValues, keys]

theorem aligned_of_resolve (success : (resolve provider request).result = .ok targets) :
    ∀ resolved ∈ targets, resolved.Aligned (participatingNames provider.solution request) := by
  intro resolved member
  obtain ⟨-, -, found, -, -, each, -⟩ := resolve_eq_ok_iff.mp success
  obtain ⟨_, -, as⟩ := exists_mem_of_forall₂ each.flip member
  exact as.aligned found

/-- Each configuration of a resolved target has a name of its own, as its overrides presuppose. -/
theorem nodup_keys_of_resolve (success : (resolve provider request).result = .ok targets) :
    ∀ resolved ∈ targets, resolved.configurations.keys.Nodup := by
  intro resolved member
  rw [(aligned_of_resolve success resolved member).configurations]
  exact nodup_participatingNames provider.solution request

end Resolution

open Resolution in
/-- Every stage keeps the participating configurations: none is lost, none comes in and none moves, from the
resolved targets to their descriptions. -/
theorem every_stage_keeps_participating_configurations (provider : Provider) (request : Request)
    (targets : List ResolvedTarget) (success : (resolve provider request).result = .ok targets) :
    ∀ resolved ∈ targets, resolved.Aligned (participatingNames provider.solution request) ∧
      ∀ extracted, extract provider resolved = .ok extracted →
        extracted.Aligned (participatingNames provider.solution request) ∧
        ∀ graph, ((TargetDescription.ofSettings provider resolved extracted).linkedWith provider graph
            resolved extracted.defaults).Aligned (participatingNames provider.solution request)
          (provider.files resolved.target.name) := by
  intro resolved member
  have aligned := aligned_of_resolve success resolved member
  refine ⟨aligned, fun extracted done => ?_⟩
  obtain ⟨document, -, rfl⟩ := Extraction.extract_eq_ok_iff.mp done
  rw [← aligned.configurations]
  refine ⟨⟨Extraction.keys_defaults _ _ _, fun file inside => ?_⟩, fun graph => ?_⟩
  · obtain ⟨source, -, -, rfl⟩ := Extraction.mem_files_iff.mp inside
    exact Extraction.keys_perConfig source
  · exact TargetDescription.ofSettings_aligned provider resolved document _ graph

namespace Sample

open Resolution

/-- The configurations of the sample, asked for with blanks and one of them twice. -/
def request : Request where
  platform := " x64"
  configurations := some ["Release ", "Debug", "Release"]

theorem resolve_eq_resolved : (resolve provider request).result = .ok [resolved] := by
  have participants : participants provider.solution request =
      [solutionConfiguration "Release", solutionConfiguration "Debug"] := by
    decide +kernel
  have part : provider.projects.filter (takesPart provider request) = [project] := by
    decide +kernel
  have named : ∀ name ∈ participatingNames provider.solution request,
      ((available provider.solution request).find? (·.name = name)).isSome = true := by
    decide +kernel
  have uses (name : String) (known : name = "Release" ∨ name = "Debug") :
      Uses provider request project (solutionConfiguration name) (projectConfiguration name) := by
    refine ⟨name, ?_⟩
    rcases known with rfl | rfl <;> decide +kernel
  have as : ResolvedAs provider request project resolved := by
    constructor
    case name => rfl
    case configurations =>
      rw [participants]
      exact .cons ⟨rfl, uses "Release" (.inl rfl)⟩ (.cons ⟨rfl, uses "Debug" (.inr rfl)⟩ .nil)
    case kind => decide
    case useOfMfc => decide
    case target => exact ⟨_, _, rfl, rfl⟩
  have platform : Text.trim request.platform = "x64" := by decide +kernel
  have same : projectNames (solutionConfiguration "Release") =
      projectNames (solutionConfiguration "Debug") := rfl
  rw [resolve_eq_ok_iff, participants, part]
  refine ⟨by decide +kernel, by decide +kernel, ?_, ?_, by simp [same], .cons as .nil, by simp⟩
  · exact fun name member => Option.isSome_iff_exists.mp (named name member)
  · simp [BuildsOn, built, solutionConfiguration, platform]

end Sample

open Resolution in
theorem every_stage_keeps_sample_configurations :
    (resolve Sample.provider Sample.request).result = .ok [Sample.resolved] ∧
      extract Sample.provider Sample.resolved = .ok Sample.extracted ∧
      participatingNames Sample.provider.solution Sample.request = ["Release", "Debug"] ∧
      ∀ resolved ∈ [Sample.resolved], resolved.Aligned ["Release", "Debug"] ∧
        ∀ extracted, extract Sample.provider resolved = .ok extracted →
          extracted.Aligned ["Release", "Debug"] ∧
          ∀ graph, ((TargetDescription.ofSettings Sample.provider resolved extracted).linkedWith
              Sample.provider graph resolved extracted.defaults).Aligned ["Release", "Debug"]
            (Sample.provider.files resolved.target.name) := by
  have names : participatingNames Sample.provider.solution Sample.request = ["Release", "Debug"] := by
    decide +kernel
  refine ⟨Sample.resolve_eq_resolved, Sample.extract_eq_extracted, names, ?_⟩
  rw [← names]
  exact every_stage_keeps_participating_configurations Sample.provider Sample.request [Sample.resolved]
    Sample.resolve_eq_resolved

end Listfile

import Listfile.Override
import Listfile.Proofs.Extraction
import Listfile.Proofs.Traversal

/-!
What the overrides of a target say about its files: their own values exactly where these differ from the
defaults, so that defaults and overrides together give every file its settings back.
-/

namespace Listfile

theorem definitionsEquivalent_iff_perm {a b : List String} :
    definitionsEquivalent a b = true ↔ a.Perm b := by
  simp only [definitionsEquivalent, Bool.and_eq_true, beq_iff_eq, mergeSort_eq_iff_perm]
  exact and_iff_right_of_imp List.Perm.length_eq

theorem definitionsEquivalent_eq_isPerm (a b : List String) : definitionsEquivalent a b = a.isPerm b := by
  rw [Bool.eq_iff_iff, definitionsEquivalent_iff_perm, List.isPerm_iff]

theorem Settings.isEquivalent_iff {a b : Settings} :
    a.isEquivalent b = true ↔ a.definitions.Perm b.definitions ∧ { a with definitions := b.definitions } = b := by
  cases a
  cases b
  simp only [isEquivalent, Bool.and_eq_true, beq_iff_eq, definitionsEquivalent_iff_perm, mk.injEq]
  tauto

theorem FileSettings.matchesDefaults_iff {file : FileSettings} {defaults : Keyed Settings} :
    file.matchesDefaults defaults = true ↔ ∀ default ∈ defaults, ∃ settings,
      file.perConfig.get? default.1 = some settings ∧ settings.isEquivalent default.2 = true := by
  rw [matchesDefaults, List.all_eq_true]
  refine forall₂_congr fun default _ => ?_
  cases file.perConfig.get? default.1 <;> simp

namespace Override

variable {α : Type} {differs : Settings → Settings → Bool} {value : Settings → Option α}
  {defaults : Keyed Settings} {files : List FileSettings}

theorem value?_eq_some_iff {file : FileSettings} {default : String × Settings} {entry : String × α} :
    value? differs value file default = some entry ↔ ∃ settings,
      file.perConfig.get? default.1 = some settings ∧ differs settings default.2 = true ∧
        value settings = some entry.2 ∧ default.1 = entry.1 := by
  rw [value?]
  cases file.perConfig.get? default.1 with
  | none => simp
  | some settings =>
    obtain ⟨name, value⟩ := entry
    by_cases differ : differs settings default.2 = true <;> simp [differ]

theorem mem_ofFiles {override : Override α} (member : override ∈ ofFiles differs value defaults files) :
    ∃ file ∈ files, override.file = file.file ∧ override.values ≠ [] ∧
      override.values = defaults.filterMap (value? differs value file) := by
  obtain ⟨file, looked, stated⟩ := List.mem_filterMap.mp member
  refine ⟨file, (List.mem_filter.mp looked).1, ?_⟩
  simp only [ofFile?] at stated
  split at stated
  next => simp at stated
  next nonempty =>
    rw [Option.some.injEq] at stated
    subst stated
    exact ⟨rfl, by simpa using nonempty, rfl⟩

theorem unfound_of_matchesDefaults
    (alike : ∀ own default : Settings, own.isEquivalent default = true → differs own default = false)
    {file : FileSettings} (matched : file.matchesDefaults defaults = true) :
    ∀ default ∈ defaults, ∃ settings,
      file.perConfig.get? default.1 = some settings ∧ differs settings default.2 = false := by
  intro default member
  obtain ⟨settings, found, equivalent⟩ := FileSettings.matchesDefaults_iff.mp matched default member
  exact ⟨settings, found, alike _ _ equivalent⟩

theorem ofFiles_eq_filterMap
    (alike : ∀ own default : Settings, own.isEquivalent default = true → differs own default = false)
    (defaults : Keyed Settings) (files : List FileSettings) :
    ofFiles differs value defaults files = files.filterMap (ofFile? differs value defaults) := by
  rw [ofFiles, List.filterMap_filter]
  refine filterMap_congr fun file _ => ?_
  split
  next => rfl
  next matched =>
    rw [Bool.not_eq_true, Bool.not_eq_false'] at matched
    have none : defaults.filterMap (value? differs value file) = [] := by
      apply List.filterMap_eq_nil_iff.mpr
      intro default member
      obtain ⟨settings, found, same⟩ := unfound_of_matchesDefaults alike matched default member
      simp [value?, found, same]
    rw [ofFile?, none]
    rfl

end Override

/-- A category of settings: its value in them, when two values build alike, and which values an override
can state. -/
structure Category (α β : Type) where
  value : Settings → β
  same : β → β → Bool
  stated : α → β
  stated? : β → Option α
  same_refl : ∀ value, same value value = true
  stated?_eq_some : ∀ value own, stated? value = some own ↔ value = stated own
  same_of_isEquivalent : ∀ own default : Settings,
    own.isEquivalent default = true → same (value own) (value default) = true

namespace Category

def includeDirectories : Category (List String) (List String) where
  value := (·.includeDirectories)
  same := (· == ·)
  stated := id
  stated? := some
  same_refl := by simp
  stated?_eq_some := by simp
  same_of_isEquivalent := by simp_all [Settings.isEquivalent]

def definitions : Category (List String) (List String) where
  value := (·.definitions)
  same := List.isPerm
  stated := id
  stated? := some
  same_refl value := List.isPerm_iff.mpr (List.Perm.refl value)
  stated?_eq_some := by simp
  same_of_isEquivalent own default equivalent := by
    simp only [Settings.isEquivalent, Bool.and_eq_true] at equivalent
    exact List.isPerm_iff.mpr (definitionsEquivalent_iff_perm.mp equivalent.1.1.1.1.2)

/-- A check that is not set is a value of its own, which no override can state. -/
def sdlCheck : Category Bool (Option Bool) where
  value := (·.sdlCheck)
  same := (· == ·)
  stated := some
  stated? := id
  same_refl := by simp
  stated?_eq_some := by simp
  same_of_isEquivalent := by simp_all [Settings.isEquivalent]

variable {α β : Type} (category : Category α β)

def differs (own default : Settings) : Bool := !category.same (category.value own) (category.value default)

def differsAt (file : FileSettings) (default : String × Settings) : Bool :=
  (file.perConfig.get? default.1).any (category.differs · default.2)

def differing (defaults : Keyed Settings) (file : FileSettings) : List String :=
  Keyed.keys (defaults.filter (category.differsAt file))

def effective (own : Option (Override α)) (default : String × Settings) : β :=
  ((own.bind fun override => Keyed.get? override.values default.1).map category.stated).getD
    (category.value default.2)

/-- What one file contributes to the overrides: nothing if it differs nowhere, else one override with its own
value in just the configurations in which it differs. -/
structure Describes (defaults : Keyed Settings) (file : FileSettings) (own : Option (Override α)) :
    Prop where
  eq_none_iff : own = none ↔ category.differing defaults file = []
  sameFile : ∀ override ∈ own, override.file = file.file
  configurations : ∀ override ∈ own, override.values.map Prod.fst = category.differing defaults file
  values : ∀ override ∈ own, ∀ entry ∈ override.values, ∃ settings,
    file.perConfig.get? entry.1 = some settings ∧ category.value settings = category.stated entry.2
  restores : ∀ default ∈ defaults, ∃ settings, file.perConfig.get? default.1 = some settings ∧
    category.same (category.value settings) (category.effective own default) = true

def contribution (defaults : Keyed Settings) (file : FileSettings) : Option (Override α) :=
  Override.ofFile? category.differs (fun own => category.stated? (category.value own)) defaults file

def own? (file : FileSettings) (default : String × Settings) : Option (String × α) :=
  Override.value? category.differs (fun own => category.stated? (category.value own)) file default

variable {category} {defaults : Keyed Settings} {file : FileSettings}

theorem own?_eq_some_iff {default : String × Settings} {entry : String × α} :
    category.own? file default = some entry ↔ ∃ settings,
      file.perConfig.get? default.1 = some settings ∧ category.differs settings default.2 = true ∧
        category.value settings = category.stated entry.2 ∧ default.1 = entry.1 := by
  simp only [own?, Override.value?_eq_some_iff, category.stated?_eq_some]

/-- Files with settings in each configuration, which in each category can be stated where they differ. -/
structure Statable (category : Category α β) (defaults : Keyed Settings) (file : FileSettings) : Prop where
  complete : ∀ default ∈ defaults, ∃ settings, file.perConfig.get? default.1 = some settings
  stated : ∀ default ∈ defaults, ∀ settings, file.perConfig.get? default.1 = some settings →
    category.differs settings default.2 = true → ∃ own, category.value settings = category.stated own

theorem map_fst_own? (statable : Statable category defaults file) {default : String × Settings}
    (member : default ∈ defaults) :
    (category.own? file default).map Prod.fst =
      if category.differsAt file default then some default.1 else none := by
  obtain ⟨settings, found⟩ := statable.complete default member
  simp only [differsAt, found, Option.any_some]
  split
  next differ =>
    obtain ⟨value, stated⟩ := statable.stated default member settings found differ
    have own : category.own? file default = some (default.1, value) :=
      own?_eq_some_iff.mpr ⟨settings, found, differ, stated, rfl⟩
    rw [own, Option.map_some]
  next same =>
    cases own : category.own? file default with
    | none => rfl
    | some entry =>
      obtain ⟨other, found', differ, -⟩ := own?_eq_some_iff.mp own
      rw [found, Option.some.injEq] at found'
      exact absurd (found' ▸ differ) same

theorem keys_own? (statable : Statable category defaults file) :
    Keyed.keys (defaults.filterMap (category.own? file)) = category.differing defaults file :=
  map_filterMap_eq_map_filter fun _ member => map_fst_own? statable member

theorem get?_own? (nodup : defaults.keys.Nodup) (statable : Statable category defaults file)
    {default : String × Settings} (member : default ∈ defaults) :
    Keyed.get? (defaults.filterMap (category.own? file)) default.1 =
      (category.own? file default).map Prod.snd := by
  have keys := keys_own? statable
  have sublist : (category.differing defaults file).Sublist defaults.keys :=
    List.filter_sublist.map Prod.fst
  cases own : category.own? file default with
  | some entry =>
    obtain ⟨_, -, -, -, same⟩ := own?_eq_some_iff.mp own
    refine Keyed.get?_of_mem (keys ▸ nodup.sublist sublist) ?_
    exact List.mem_filterMap.mpr ⟨default, member, same ▸ own⟩
  | none =>
    refine Keyed.get?_eq_none fun present => ?_
    rw [keys, differing] at present
    obtain ⟨other, otherMember, same⟩ := List.mem_map.mp present
    obtain ⟨inside, differ⟩ := List.mem_filter.mp otherMember
    have first := map_fst_own? statable member
    rw [own, if_pos (Keyed.eq_of_mem nodup inside member same ▸ differ)] at first
    simp at first

theorem contribution_eq (statable : Statable category defaults file) :
    category.contribution defaults file =
      if category.differing defaults file = [] then none
      else some ⟨file.file, defaults.filterMap (category.own? file)⟩ := by
  rw [← keys_own? statable]
  simp only [contribution, Override.ofFile?, List.isEmpty_iff, Keyed.keys, List.map_eq_nil_iff]
  rfl

theorem effective_contribution (nodup : defaults.keys.Nodup) (statable : Statable category defaults file)
    {default : String × Settings} (member : default ∈ defaults) :
    category.effective (category.contribution defaults file) default =
      ((category.own? file default).map fun entry => category.stated entry.2).getD
        (category.value default.2) := by
  have found : (category.contribution defaults file).bind (Keyed.get? ·.values default.1) =
      (category.own? file default).map Prod.snd := by
    rw [← get?_own? nodup statable member, contribution_eq statable]
    split
    next nowhere =>
      have empty := List.map_eq_nil_iff.mp ((keys_own? statable).trans nowhere)
      simp [empty, Keyed.get?]
    next => rfl
  rw [effective, found, Option.map_map]
  rfl

theorem describes_contribution (nodup : defaults.keys.Nodup)
    (statable : Statable category defaults file) :
    category.Describes defaults file (category.contribution defaults file) := by
  have keys := keys_own? statable
  have computed := contribution_eq statable
  have inside {override : Override α} (own : override ∈ category.contribution defaults file) :
      override = ⟨file.file, defaults.filterMap (category.own? file)⟩ := by
    rw [computed] at own
    split at own <;> simp_all
  constructor
  case eq_none_iff => simp [computed]
  case sameFile =>
    intro override own
    rw [inside own]
  case configurations =>
    intro override own
    rw [inside own]
    exact keys
  case values =>
    intro override own entry member
    rw [inside own] at member
    obtain ⟨default, -, stated⟩ := List.mem_filterMap.mp member
    obtain ⟨settings, found, -, value, same⟩ := own?_eq_some_iff.mp stated
    exact ⟨settings, same ▸ found, value⟩
  case restores =>
    intro default member
    obtain ⟨settings, found⟩ := statable.complete default member
    refine ⟨settings, found, ?_⟩
    rw [effective_contribution nodup statable member]
    cases own : category.own? file default with
    | some entry =>
      obtain ⟨other, found', -, value, -⟩ := own?_eq_some_iff.mp own
      rw [found, Option.some.injEq] at found'
      rw [found', value]
      exact category.same_refl _
    | none =>
      -- No value of its own is stated, so the file does not differ here and is built like the default.
      have same := map_fst_own? statable member
      rw [own] at same
      simpa [differsAt, found, differs] using same

theorem differs_of_isEquivalent {own default : Settings} (equivalent : own.isEquivalent default = true) :
    category.differs own default = false := by
  rw [differs, category.same_of_isEquivalent own default equivalent, Bool.not_true]

end Category

open Extraction

/-- The overrides of a category say all about the files of a target, entry by entry, and nothing about plain
ones. -/
def Category.Explains {α β : Type} (category : Category α β) (document : ProjectDocument)
    (resolved : ResolvedTarget) (sources : List ProjectFile) (extracted : ExtractedSettings)
    (overrides : List (Override α)) : Prop :=
  ∃ contribution : FileSettings → Option (Override α),
    overrides = extracted.files.filterMap contribution ∧
    (∀ file ∈ extracted.files, category.Describes extracted.defaults file (contribution file)) ∧
    ∀ source ∈ sources, source.kind = .source → Plain document resolved.configurations source →
      fileSettingsOf document resolved.configurations source ∈ extracted.files ∧
        contribution (fileSettingsOf document resolved.configurations source) = none

section

variable {α β : Type} {category : Category α β} {document : ProjectDocument} {resolved : ResolvedTarget}
  {sources : List ProjectFile}

theorem statable_of_extracted (distinct : resolved.configurations.keys.Nodup)
    (stated : ∀ source name configuration,
      category.differs (fileSettingsIn document source name configuration)
        (defaultsOf document name configuration) = true →
      ∃ own, category.value (fileSettingsIn document source name configuration) = category.stated own)
    (source : ProjectFile) :
    category.Statable (ofDocument document resolved.configurations sources).defaults
      (fileSettingsOf document resolved.configurations source) := by
  constructor
  case complete =>
    intro default member
    obtain ⟨configuration, -, -, found⟩ := exists_configuration_of_default distinct member source
    exact ⟨_, found⟩
  case stated =>
    intro default member settings found differ
    obtain ⟨configuration, -, value, found'⟩ := exists_configuration_of_default distinct member source
    rw [found', Option.some.injEq] at found
    rw [← found, value] at differ
    exact found ▸ stated source default.1 configuration differ

theorem differing_of_plain (distinct : resolved.configurations.keys.Nodup) {source : ProjectFile}
    (plain : Plain document resolved.configurations source) :
    category.differing (ofDocument document resolved.configurations sources).defaults
      (fileSettingsOf document resolved.configurations source) = [] := by
  simp only [Category.differing, Keyed.keys, List.map_eq_nil_iff, List.filter_eq_nil_iff]
  intro default member
  obtain ⟨configuration, inside, value, found⟩ := exists_configuration_of_default distinct member source
  have inherited := fileSettingsIn_of_plain plain inside
  simp [Category.differsAt, Category.differs, found, value, inherited, category.same_refl]

theorem explains_ofFiles (distinct : resolved.configurations.keys.Nodup)
    (stated : ∀ source name configuration,
      category.differs (fileSettingsIn document source name configuration)
        (defaultsOf document name configuration) = true →
      ∃ own, category.value (fileSettingsIn document source name configuration) = category.stated own) :
    category.Explains document resolved sources (ofDocument document resolved.configurations sources)
      (Override.ofFiles category.differs (fun own => category.stated? (category.value own))
        (ofDocument document resolved.configurations sources).defaults
        (ofDocument document resolved.configurations sources).files) := by
  have statable : ∀ file ∈ (ofDocument document resolved.configurations sources).files,
      category.Statable (ofDocument document resolved.configurations sources).defaults file := by
    intro file member
    obtain ⟨source, -, -, rfl⟩ := mem_files_iff.mp member
    exact statable_of_extracted distinct stated source
  refine ⟨category.contribution _, Override.ofFiles_eq_filterMap (fun _ _ => Category.differs_of_isEquivalent) _ _,
    ?_, ?_⟩
  · intro file member
    exact Category.describes_contribution (keys_defaults _ _ _ ▸ distinct) (statable file member)
  · intro source member kind plain
    refine ⟨mem_files_iff.mpr ⟨source, member, kind, rfl⟩, ?_⟩
    rw [Category.contribution_eq (statable_of_extracted distinct stated source),
      if_pos (differing_of_plain distinct plain)]

end

/-- Extracted settings and their overrides: in each category the overrides hold, in the order of the files, just
the values in which a file differs from the defaults. -/
theorem overrides_explain_extracted_files (provider : Provider) (resolved : ResolvedTarget)
    (extracted : ExtractedSettings) (distinct : resolved.configurations.keys.Nodup)
    (success : extract provider resolved = .ok extracted) :
    ∃ document, provider.projectDocument resolved.target.name = .ok document ∧
      Category.includeDirectories.Explains document resolved (provider.files resolved.target.name)
        extracted (includeOverrides extracted.defaults extracted.files) ∧
      Category.definitions.Explains document resolved (provider.files resolved.target.name)
        extracted (definitionOverrides extracted.defaults extracted.files) ∧
      Category.sdlCheck.Explains document resolved (provider.files resolved.target.name)
        extracted (sdlOverrides extracted.defaults extracted.files) := by
  obtain ⟨document, read, rfl⟩ := extract_eq_ok_iff.mp success
  refine ⟨document, read, ?_, ?_, ?_⟩
  · exact explains_ofFiles distinct fun _ _ _ _ => ⟨_, rfl⟩
  · have differs : (fun own default : Settings =>
        !definitionsEquivalent own.definitions default.definitions) = Category.definitions.differs := by
      funext own default
      rw [Category.differs, definitionsEquivalent_eq_isPerm]
      rfl
    rw [definitionOverrides, differs]
    exact explains_ofFiles distinct fun _ _ _ _ => ⟨_, rfl⟩
  · refine explains_ofFiles distinct fun source name configuration differ => ?_
    cases own : (fileSettingsIn document source name configuration).sdlCheck with
    | some value => exact ⟨value, own⟩
    | none =>
      have default := sdlCheck_eq_none own
      simp [Category.differs, Category.sdlCheck, own, default] at differ

theorem overrides_explain_sample :
    Sample.resolved.configurations.keys.Nodup ∧
      extract Sample.provider Sample.resolved = .ok Sample.extracted ∧
      ∃ document, Sample.provider.projectDocument Sample.resolved.target.name = .ok document ∧
        Category.includeDirectories.Explains document Sample.resolved
          (Sample.provider.files Sample.resolved.target.name) Sample.extracted
          (includeOverrides Sample.extracted.defaults Sample.extracted.files) ∧
        Category.definitions.Explains document Sample.resolved
          (Sample.provider.files Sample.resolved.target.name) Sample.extracted
          (definitionOverrides Sample.extracted.defaults Sample.extracted.files) ∧
        Category.sdlCheck.Explains document Sample.resolved
          (Sample.provider.files Sample.resolved.target.name) Sample.extracted
          (sdlOverrides Sample.extracted.defaults Sample.extracted.files) := by
  have distinct : Sample.resolved.configurations.keys.Nodup := by decide
  exact ⟨distinct, Sample.extract_eq_extracted, overrides_explain_extracted_files Sample.provider
    Sample.resolved Sample.extracted distinct Sample.extract_eq_extracted⟩

/-- The order of definitions is no difference. -/
example : definitionOverrides Sample.extracted.defaults Sample.extracted.files =
    [⟨"src/two.cpp", [("Release", ["A"])]⟩] := by cbv

end Listfile

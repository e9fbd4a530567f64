import Listfile.Extraction

/-!
What an extraction holds: settings in each configuration of the target, and one entry for each source file.
-/

namespace Listfile.Extraction

variable {document : ProjectDocument} {configurations : Keyed ProjectConfiguration}
  {files : List ProjectFile}

theorem extract_eq_ok_iff {provider : Provider} {resolved : ResolvedTarget}
    {extracted : ExtractedSettings} :
    extract provider resolved = .ok extracted ↔ ∃ document,
      provider.projectDocument resolved.target.name = .ok document ∧ extracted =
        ofDocument document resolved.configurations (provider.files resolved.target.name) := by
  simp only [extract, bind, Except.bind, pure, Except.pure]
  cases provider.projectDocument resolved.target.name <;> simp [eq_comm]

theorem extract_eq_error_iff {provider : Provider} {resolved : ResolvedTarget} {error : ConversionError} :
    extract provider resolved = .error error ↔ provider.projectDocument resolved.target.name = .error error := by
  simp only [extract, bind, Except.bind, pure, Except.pure]
  cases provider.projectDocument resolved.target.name <;> simp

theorem keys_defaults (document : ProjectDocument) (configurations : Keyed ProjectConfiguration)
    (files : List ProjectFile) :
    (ofDocument document configurations files).defaults.keys = configurations.keys :=
  Keyed.keys_mapValues _ _

theorem keys_perConfig (file : ProjectFile) :
    (fileSettingsOf document configurations file).perConfig.keys = configurations.keys :=
  Keyed.keys_mapValues _ _

theorem get?_perConfig (file : ProjectFile) (name : String) :
    (fileSettingsOf document configurations file).perConfig.get? name =
      (configurations.get? name).map (fileSettingsIn document file name) :=
  Keyed.get?_mapValues _ _ _

theorem exists_configuration_of_default (nodup : configurations.keys.Nodup)
    {default : String × Settings} (member : default ∈ (ofDocument document configurations files).defaults)
    (file : ProjectFile) : ∃ configuration, (default.1, configuration) ∈ configurations ∧
      default.2 = defaultsOf document default.1 configuration ∧
      (fileSettingsOf document configurations file).perConfig.get? default.1 =
        some (fileSettingsIn document file default.1 configuration) := by
  obtain ⟨⟨name, configuration⟩, inside, rfl⟩ := List.mem_map.mp member
  refine ⟨configuration, inside, rfl, ?_⟩
  rw [get?_perConfig, Keyed.get?_of_mem nodup inside, Option.map_some]

theorem files_eq (document : ProjectDocument) (configurations : Keyed ProjectConfiguration)
    (files : List ProjectFile) : (ofDocument document configurations files).files =
      ((files.filter (·.kind = .source)).mergeSort fun a b =>
        Text.slashed (Text.trim a.relativePath) ≤ Text.slashed (Text.trim b.relativePath)).map
          (fileSettingsOf document configurations) := by
  refine (List.map_mergeSort (r := fun a b : ProjectFile =>
    decide (Text.slashed (Text.trim a.relativePath) ≤ Text.slashed (Text.trim b.relativePath)))
    (f := fileSettingsOf document configurations) ?_).symm
  exact fun _ _ _ _ => rfl

theorem mem_files_iff {file : FileSettings} :
    file ∈ (ofDocument document configurations files).files ↔
      ∃ source ∈ files, source.kind = .source ∧ fileSettingsOf document configurations source = file := by
  simp only [ofDocument, List.mem_mergeSort, List.mem_map, List.mem_filter, decide_eq_true_eq, and_assoc]

theorem sdlCheck_eq_none {file : ProjectFile} {name : String} {configuration : ProjectConfiguration}
    (unset : (fileSettingsIn document file name configuration).sdlCheck = none) :
    (defaultsOf document name configuration).sdlCheck = none := by
  simp only [fileSettingsIn, fileSettings, Option.or_eq_none_iff] at unset
  exact unset.2

/-- Whether a file has settings of its own neither in the environment nor in the project's document. -/
def Plain (document : ProjectDocument) (configurations : Keyed ProjectConfiguration)
    (file : ProjectFile) : Prop :=
  ∀ entry ∈ configurations, file.configurations.get? entry.2.name = none ∧
    document.fileCheck? file.relativePath (conditionOf entry.2) = none

theorem fileSettingsIn_of_plain {file : ProjectFile} (plain : Plain document configurations file)
    {entry : String × ProjectConfiguration} (member : entry ∈ configurations) :
    fileSettingsIn document file entry.1 entry.2 = defaultsOf document entry.1 entry.2 := by
  obtain ⟨tool, check⟩ := plain entry member
  simp [fileSettingsIn, fileSettings, tool, check, filePch]

end Listfile.Extraction

/-! A solution of one project, with a file that is compiled like its target and one that is not. -/

namespace Listfile.Sample

def solutionConfiguration (name : String) : SolutionConfiguration where
  name
  platform := "x64"
  contexts := [{ project := "app", configuration := name, platform := "x64" }]

def projectConfiguration (name : String) : ProjectConfiguration where
  name
  platform := "x64"
  compiler := { definitions := ["A; B"], includeDirectories := ["inc"] }

def project : Project where
  name := "app"
  fullPath := "C:\\solution\\app\\app.vcxproj"
  native := true

def files : List ProjectFile := [
  { relativePath := "one.cpp", kind := .source },
  { relativePath := "src\\two.cpp", kind := .source
    configurations := [
      ("Debug", { definitions := some ["B;A"], sdlCheck := some false }),
      ("Release", { definitions := some ["A"], includeDirectories := some ["inc;own"] })] }]

def provider : Provider where
  solution :=
    { name := "solution"
      directory := "C:\\solution"
      configurations := [solutionConfiguration "Debug", solutionConfiguration "Release"] }
  projects := [project]
  configurations _ := [projectConfiguration "Debug", projectConfiguration "Release"]
  files _ := files
  evaluate _ _ text := text
  projectDocument _ := .ok {}

def configurations : Keyed ProjectConfiguration :=
  [("Release", projectConfiguration "Release"), ("Debug", projectConfiguration "Debug")]

def resolved : ResolvedTarget where
  target := Resolution.targetOf provider project configurations (projectConfiguration "Release")
  configurations

def defaults : Settings := { definitions := ["A", "B"], includeDirectories := ["inc"] }

def extracted : ExtractedSettings where
  defaults := [("Release", defaults), ("Debug", defaults)]
  files := [
    ⟨"one.cpp", [("Release", defaults), ("Debug", defaults)]⟩,
    ⟨"src/two.cpp", [
      ("Release", { defaults with definitions := ["A"], includeDirectories := ["inc", "own"] }),
      ("Debug", { defaults with definitions := ["B", "A"], sdlCheck := some false })]⟩]

open Extraction in
theorem extract_eq_extracted : extract provider resolved = .ok extracted := by
  have defaults : configurations.mapValues (defaultsOf {}) = extracted.defaults := by
    decide +kernel
  have entries : (files.filter (·.kind = .source)).map (fileSettingsOf {} configurations) =
      extracted.files := by
    decide +kernel
  have sorted : extracted.files.mergeSort (fun a b => a.file ≤ b.file) = extracted.files :=
    List.mergeSort_of_pairwise (by decide +kernel)
  refine extract_eq_ok_iff.mpr ⟨{}, rfl, ?_⟩
  show extracted = ofDocument {} configurations files
  rw [ofDocument, defaults, entries, sorted]

end Listfile.Sample

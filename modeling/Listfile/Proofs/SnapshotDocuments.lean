import Listfile.Proofs.RecordForms

/-!
Snapshots and their documents: what a document may leave out, add and put elsewhere, and what it may not.
-/

namespace Listfile

open Document Form

instance : UnderstandsNames TargetKind := ⟨by intro value; cases value <;> decide⟩

instance : UnderstandsNames MfcUsage := ⟨by intro value; cases value <;> decide⟩

instance : UnderstandsNames CharacterSet := ⟨by intro value; cases value <;> decide⟩

instance : UnderstandsNames Subsystem := ⟨by intro value; cases value <;> decide⟩

instance : UnderstandsNames FileKind := ⟨by intro value; cases value <;> decide⟩

instance : UnderstandsNames PchMode := ⟨by intro value; cases value <;> decide⟩

namespace BuildContext

def fields : List (RecordField BuildContext) := [
  .required "project" .text (·.project),
  .required "configuration" .text (·.configuration),
  .required "platform" .text (·.platform),
  .optional "should_build" .flag (·.shouldBuild) true]

def form : Form BuildContext := .record encode decode? fields

theorem readsFields : ReadsFields decode? fields where
  distinct := by decide
  read?_iff := by
    intro document context
    cases context
    simp [-Bool.exists_bool, decode?, fieldNames, fields, Option.bind_eq_some_iff]

theorem lawful : form.Lawful := lawful_record readsFields (by simp [fields]) (by simp [fields])

theorem restores (context : BuildContext) : form.Restores context :=
  restores_record readsFields rfl (by simp [fields])

end BuildContext

namespace SolutionConfiguration

def fields : List (RecordField SolutionConfiguration) := [
  .required "name" .text (·.name),
  .required "platform" .text (·.platform),
  .optional "contexts" BuildContext.form.list (·.contexts) []]

def form : Form SolutionConfiguration := .record encode decode? fields

theorem readsFields : ReadsFields decode? fields where
  distinct := by decide
  read?_iff := by
    intro document configuration
    cases configuration
    simp [decode?, fieldNames, fields, Option.bind_eq_some_iff, BuildContext.form]

theorem lawful : form.Lawful :=
  lawful_record readsFields (by simp [fields, BuildContext.lawful]) (by simp [fields])

theorem restores (configuration : SolutionConfiguration) : form.Restores configuration :=
  restores_record readsFields rfl (by simp [fields, restores_list, BuildContext.restores])

end SolutionConfiguration

namespace Solution

def fields : List (RecordField Solution) := [
  .required "name" .text (·.name),
  .required "directory" .text (·.directory),
  .optional "configurations" SolutionConfiguration.form.list (·.configurations) []]

def form : Form Solution := .record encode decode? fields

theorem readsFields : ReadsFields decode? fields where
  distinct := by decide
  read?_iff := by
    intro document solution
    cases solution
    simp [decode?, fieldNames, fields, Option.bind_eq_some_iff, SolutionConfiguration.form]

theorem lawful : form.Lawful :=
  lawful_record readsFields (by simp [fields, SolutionConfiguration.lawful]) (by simp [fields])

theorem restores (solution : Solution) : form.Restores solution :=
  restores_record readsFields rfl (by simp [fields, restores_list, SolutionConfiguration.restores])

end Solution

namespace CompilerTool

def fields : List (RecordField CompilerTool) := [
  .optional "additional_include_directories" .texts (·.includeDirectories) [],
  .optional "preprocessor_definitions" .texts (·.definitions) [],
  .optional "precompiled_header" .spelled (·.precompiledHeader) .none,
  .optional "precompiled_header_through" .text (·.precompiledHeaderThrough) "",
  .optional "precompiled_header_output" .text (·.precompiledHeaderOutput) "",
  .optional "sdl_check" flag.option (·.sdlCheck) none]

def form : Form CompilerTool := .record encode decode? fields

theorem readsFields : ReadsFields decode? fields where
  distinct := by decide
  read?_iff := by
    intro document tool
    cases tool
    simp [decode?, fieldNames, fields, Option.bind_eq_some_iff]

theorem lawful : form.Lawful := lawful_record readsFields (by simp [fields]) (by simp [fields])

theorem restores (tool : CompilerTool) : form.Restores tool :=
  restores_record readsFields rfl (by simp [fields])

end CompilerTool

namespace LinkerTool

def fields : List (RecordField LinkerTool) := [
  .optional "additional_library_directories" .texts (·.libraryDirectories) [],
  .optional "additional_dependencies" .texts (·.dependencies) []]

def form : Form LinkerTool := .record encode decode? fields

theorem readsFields : ReadsFields decode? fields where
  distinct := by decide
  read?_iff := by
    intro document tool
    cases tool
    simp [decode?, fieldNames, fields, Option.bind_eq_some_iff]

theorem lawful : form.Lawful := lawful_record readsFields (by simp [fields]) (by simp [fields])

theorem restores (tool : LinkerTool) : form.Restores tool :=
  restores_record readsFields rfl (by simp [fields])

end LinkerTool

namespace ProjectConfiguration

def fields : List (RecordField ProjectConfiguration) := [
  .optional "name" .text (·.name) "",
  .optional "platform" .text (·.platform) "",
  .optional "kind" .spelled (·.kind) .executable,
  .optional "use_of_mfc" .spelled (·.useOfMfc) .none,
  .optional "character_set" .spelled (·.characterSet) .notSet,
  .optional "subsystem" .spelled (·.subsystem) .notSet,
  .optional "primary_output" .text (·.primaryOutput) "",
  .optional "import_library" .text (·.importLibrary) "",
  .optional "macros" text.keyed (·.macros) [],
  .optional "compiler" CompilerTool.form (·.compiler) {},
  .optional "linker" LinkerTool.form (·.linker) {}]

def form : Form ProjectConfiguration := .record encode decode? fields

theorem readsFields : ReadsFields decode? fields where
  distinct := by decide
  read?_iff := by
    intro document configuration
    cases configuration
    simp [decode?, fieldNames, fields, Option.bind_eq_some_iff, CompilerTool.form, LinkerTool.form]

theorem lawful : form.Lawful :=
  lawful_record readsFields (by simp [fields, CompilerTool.lawful, LinkerTool.lawful])
    (by simp [fields, CompilerTool.restores, LinkerTool.restores])

theorem restores {configuration : ProjectConfiguration} (distinct : configuration.macros.keys.Nodup) :
    form.Restores configuration :=
  restores_record readsFields rfl
    (by simp [fields, restores_keyed, distinct, CompilerTool.restores, LinkerTool.restores])

end ProjectConfiguration

namespace FileTool

def fields : List (RecordField FileTool) := [
  .optional "additional_include_directories" texts.option (·.includeDirectories) none,
  .optional "preprocessor_definitions" texts.option (·.definitions) none,
  .optional "precompiled_header" spelled.option (·.precompiledHeader) none,
  .optional "precompiled_header_through" text.option (·.precompiledHeaderThrough) none,
  .optional "precompiled_header_output" text.option (·.precompiledHeaderOutput) none,
  .optional "sdl_check" flag.option (·.sdlCheck) none]

def form : Form FileTool := .record encode decode? fields

theorem readsFields : ReadsFields decode? fields where
  distinct := by decide
  read?_iff := by
    intro document tool
    cases tool
    simp [decode?, fieldNames, fields, Option.bind_eq_some_iff]

theorem lawful : form.Lawful := lawful_record readsFields (by simp [fields]) (by simp [fields])

theorem restores (tool : FileTool) : form.Restores tool :=
  restores_record readsFields rfl (by simp [fields])

end FileTool

namespace ProjectFile

def fields : List (RecordField ProjectFile) := [
  .required "relative_path" .text (·.relativePath),
  .optional "full_path" .text (·.fullPath) "",
  .optional "kind" .spelled (·.kind) .other,
  .optional "configurations" FileTool.form.keyed (·.configurations) []]

def form : Form ProjectFile := .record encode decode? fields

theorem readsFields : ReadsFields decode? fields where
  distinct := by decide
  read?_iff := by
    intro document file
    cases file
    simp [decode?, fieldNames, fields, Option.bind_eq_some_iff, FileTool.form]

theorem lawful : form.Lawful :=
  lawful_record readsFields (by simp [fields, FileTool.lawful]) (by simp [fields])

theorem restores {file : ProjectFile} (distinct : file.configurations.keys.Nodup) : form.Restores file :=
  restores_record readsFields rfl (by simp [fields, restores_keyed, distinct, FileTool.restores])

end ProjectFile

namespace ProjectSnapshot

def fields : List (RecordField ProjectSnapshot) := [
  .required "name" .text (·.name),
  .required "full_path" .text (·.fullPath),
  .optional "native" .flag (·.native) true,
  .optional "descriptor" text.option (·.descriptor) none,
  .optional "descriptor_text" text.option (·.descriptorText) none,
  .optional "configurations" ProjectConfiguration.form.list (·.configurations) [],
  .optional "files" ProjectFile.form.list (·.files) []]

def form : Form ProjectSnapshot := .record encode decode? fields

theorem readsFields : ReadsFields decode? fields where
  distinct := by decide
  read?_iff := by
    intro document project
    obtain ⟨⟨⟩⟩ := project
    simp [-Bool.exists_bool, decode?, fieldNames, fields, Option.bind_eq_some_iff, ProjectConfiguration.form,
      ProjectFile.form]

theorem lawful : form.Lawful :=
  lawful_record readsFields (by simp [fields, ProjectConfiguration.lawful, ProjectFile.lawful]) (by simp [fields])

structure NamesDistinct (project : ProjectSnapshot) : Prop where
  macroNames : ∀ configuration ∈ project.configurations, configuration.macros.keys.Nodup
  overriddenNames : ∀ file ∈ project.files, file.configurations.keys.Nodup

theorem restores {project : ProjectSnapshot} (distinct : project.NamesDistinct) : form.Restores project := by
  have configurations : ProjectConfiguration.form.list.Restores project.configurations :=
    restores_list fun configuration inside => ProjectConfiguration.restores (distinct.macroNames configuration inside)
  have files : ProjectFile.form.list.Restores project.files :=
    restores_list fun file inside => ProjectFile.restores (distinct.overriddenNames file inside)
  exact restores_record readsFields rfl (by simp [fields, configurations, files])

end ProjectSnapshot

namespace Snapshot

def fields : List (RecordField Snapshot) := [
  .required "solution" Solution.form (·.solution),
  .optional "environment" text.keyed (·.environment) [],
  .optional "projects" ProjectSnapshot.form.list (·.projects) []]

def form : Form Snapshot := .record encode decode? fields

theorem readsFields : ReadsFields decode? fields where
  distinct := by decide
  read?_iff := by
    intro document snapshot
    cases snapshot
    simp [decode?, fieldNames, fields, Option.bind_eq_some_iff, Solution.form, ProjectSnapshot.form]

theorem lawful : form.Lawful :=
  lawful_record readsFields (by simp [fields, Solution.lawful, ProjectSnapshot.lawful]) (by simp [fields])

structure NamesDistinct (snapshot : Snapshot) : Prop where
  environment : snapshot.environment.keys.Nodup
  projects : ∀ project ∈ snapshot.projects, project.NamesDistinct

theorem restores {snapshot : Snapshot} (distinct : snapshot.NamesDistinct) : form.Restores snapshot := by
  have environment : text.keyed.Restores snapshot.environment :=
    restores_keyed distinct.environment fun _ _ => restores_text _
  have projects : ProjectSnapshot.form.list.Restores snapshot.projects :=
    restores_list fun project inside => ProjectSnapshot.restores (distinct.projects project inside)
  exact restores_record readsFields rfl (by simp [fields, environment, projects, Solution.restores])

/-- A snapshot is read from its document, also after members of any record in it were put elsewhere, members that are no
fields were added, and fields were left out that have the value they have then. It is read no more once a record lacks a
field that has to be there, or has one twice. -/
theorem documents_decode_to_what_they_encode {snapshot : Snapshot} (distinct : snapshot.NamesDistinct)
    {document : Document} (edited : Relation.ReflTransGen form.Edits (encode snapshot) document) :
    decode? document = some snapshot ∧ ∀ broken, form.Breaks document broken → decode? broken = none := by
  have read : form.read? document = some snapshot := lawful.read?_of_edits (restores distinct) edited
  exact ⟨read, fun broken breaks => lawful.broken breaks read⟩

end Snapshot

namespace Sample

def documented : Snapshot where
  solution := ⟨"sample", "C:\\sample", []⟩
  environment := [("BOOST_ROOT", "C:\\boost")]
  projects := [{ name := "app", fullPath := "C:\\sample\\app.vcxproj", native := true }]

def briefMembers : List (String × Document) := [
  ("solution", Solution.encode documented.solution),
  ("environment", ofKeyed ofString documented.environment),
  ("projects", .array [object [
    ("name", ofString "app"),
    ("full_path", ofString "C:\\sample\\app.vcxproj"),
    ("descriptor", .null),
    ("descriptor_text", .null),
    ("configurations", .array []),
    ("files", .array [])]])]

def briefDocument : Document := object (("version", .number "2") :: briefMembers)

theorem edits_briefDocument :
    Relation.ReflTransGen Snapshot.form.Edits (Snapshot.encode documented) briefDocument := by
  have native : ProjectSnapshot.form.list.Edits (ofList ProjectSnapshot.encode documented.projects) _ :=
    @InItem.intro _ [] [] _ _ (@RecordEdits.leaveOut _ _ [("name", _), ("full_path", _)] _
      (.optional "native" .flag (·.native) true) true (by simp [ProjectSnapshot.fields]) rfl)
  have withoutNative : Snapshot.form.Edits (Snapshot.encode documented) (object briefMembers) :=
    @RecordEdits.within _ _ [("solution", _), ("environment", _)] []
      (.optional "projects" ProjectSnapshot.form.list (·.projects) []) _ _ (by simp [Snapshot.fields]) native
  have version : Snapshot.form.Edits (object briefMembers) briefDocument :=
    @RecordEdits.add _ _ [] briefMembers "version" (.number "2") (by simp [Snapshot.fields])
  exact .tail (.single withoutNative) version

theorem briefDocument_decodes :
    documented.NamesDistinct ∧ Relation.ReflTransGen Snapshot.form.Edits (Snapshot.encode documented) briefDocument ∧
      Snapshot.decode? briefDocument = some documented ∧
        Snapshot.decode? (object (("solution", .null) :: ("version", .number "2") :: briefMembers)) = none := by
  have distinct : documented.NamesDistinct := by
    refine ⟨by decide, ?_⟩
    intro project inside
    obtain rfl := List.mem_singleton.mp inside
    exact ⟨List.forall_mem_nil _, List.forall_mem_nil _⟩
  obtain ⟨read, broken⟩ := Snapshot.documents_decode_to_what_they_encode distinct edits_briefDocument
  have twice : Snapshot.form.Breaks briefDocument
      (object (("solution", .null) :: ("version", .number "2") :: briefMembers)) :=
    @RecordBreaks.again _ _ [] (("version", .number "2") :: briefMembers)
      (.required "solution" Solution.form (·.solution)) .null (by simp [Snapshot.fields]) (by simp [briefMembers])
  exact ⟨distinct, edits_briefDocument, read, broken _ twice⟩

end Sample

end Listfile

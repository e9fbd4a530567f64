import Listfile.Record
import Listfile.Snapshot.Basic
import Listfile.Snapshot.Spelling

/-!
Snapshots from documents. A field that may be left out has a value of its own then; null stands for no value
only where having none is possible.
-/

namespace Listfile

open Document

def Document.spelled? {α : Type} [Spelled α] (document : Document) : Option α :=
  document.choice?.bind Spelled.ofName?

def BuildContext.fieldNames : List String := ["project", "configuration", "platform", "should_build"]

def BuildContext.decode? (document : Document) : Option BuildContext := do
  let fields ← fields? fieldNames document
  let project ← required? fields "project" string?
  let configuration ← required? fields "configuration" string?
  let platform ← required? fields "platform" string?
  let shouldBuild ← optional? fields "should_build" bool? true
  return ⟨project, configuration, platform, shouldBuild⟩

def SolutionConfiguration.fieldNames : List String := ["name", "platform", "contexts"]

def SolutionConfiguration.decode? (document : Document) : Option SolutionConfiguration := do
  let fields ← fields? fieldNames document
  let name ← required? fields "name" string?
  let platform ← required? fields "platform" string?
  let contexts ← optional? fields "contexts" (list? BuildContext.decode?) []
  return ⟨name, platform, contexts⟩

def Solution.fieldNames : List String := ["name", "directory", "configurations"]

def Solution.decode? (document : Document) : Option Solution := do
  let fields ← fields? fieldNames document
  let name ← required? fields "name" string?
  let directory ← required? fields "directory" string?
  let configurations ← optional? fields "configurations" (list? SolutionConfiguration.decode?) []
  return ⟨name, directory, configurations⟩

def CompilerTool.fieldNames : List String :=
  ["additional_include_directories", "preprocessor_definitions", "precompiled_header",
    "precompiled_header_through", "precompiled_header_output", "sdl_check"]

def CompilerTool.decode? (document : Document) : Option CompilerTool := do
  let fields ← fields? fieldNames document
  let includeDirectories ← optional? fields "additional_include_directories" strings? []
  let definitions ← optional? fields "preprocessor_definitions" strings? []
  let precompiledHeader ← optional? fields "precompiled_header" spelled? .none
  let through ← optional? fields "precompiled_header_through" string? ""
  let output ← optional? fields "precompiled_header_output" string? ""
  let sdlCheck ← optional? fields "sdl_check" (option? bool?) none
  return ⟨includeDirectories, definitions, precompiledHeader, through, output, sdlCheck⟩

def LinkerTool.fieldNames : List String := ["additional_library_directories", "additional_dependencies"]

def LinkerTool.decode? (document : Document) : Option LinkerTool := do
  let fields ← fields? fieldNames document
  let libraryDirectories ← optional? fields "additional_library_directories" strings? []
  let dependencies ← optional? fields "additional_dependencies" strings? []
  return ⟨libraryDirectories, dependencies⟩

def ProjectConfiguration.fieldNames : List String :=
  ["name", "platform", "kind", "use_of_mfc", "character_set", "subsystem", "primary_output",
    "import_library", "macros", "compiler", "linker"]

def ProjectConfiguration.decode? (document : Document) : Option ProjectConfiguration := do
  let fields ← fields? fieldNames document
  let name ← optional? fields "name" string? ""
  let platform ← optional? fields "platform" string? ""
  let kind ← optional? fields "kind" spelled? .executable
  let useOfMfc ← optional? fields "use_of_mfc" spelled? .none
  let characterSet ← optional? fields "character_set" spelled? .notSet
  let subsystem ← optional? fields "subsystem" spelled? .notSet
  let primaryOutput ← optional? fields "primary_output" string? ""
  let importLibrary ← optional? fields "import_library" string? ""
  let macroValues ← optional? fields "macros" (keyed? string?) []
  let compiler ← optional? fields "compiler" CompilerTool.decode? {}
  let linker ← optional? fields "linker" LinkerTool.decode? {}
  return ⟨name, platform, kind, useOfMfc, characterSet, subsystem, primaryOutput, importLibrary,
    macroValues, compiler, linker⟩

def FileTool.fieldNames : List String :=
  ["additional_include_directories", "preprocessor_definitions", "precompiled_header",
    "precompiled_header_through", "precompiled_header_output", "sdl_check"]

def FileTool.decode? (document : Document) : Option FileTool := do
  let fields ← fields? fieldNames document
  let includeDirectories ← optional? fields "additional_include_directories" (option? strings?) none
  let definitions ← optional? fields "preprocessor_definitions" (option? strings?) none
  let precompiledHeader ← optional? fields "precompiled_header" (option? spelled?) none
  let through ← optional? fields "precompiled_header_through" (option? string?) none
  let output ← optional? fields "precompiled_header_output" (option? string?) none
  let sdlCheck ← optional? fields "sdl_check" (option? bool?) none
  return ⟨includeDirectories, definitions, precompiledHeader, through, output, sdlCheck⟩

def ProjectFile.fieldNames : List String := ["relative_path", "full_path", "kind", "configurations"]

def ProjectFile.decode? (document : Document) : Option ProjectFile := do
  let fields ← fields? fieldNames document
  let relativePath ← required? fields "relative_path" string?
  let fullPath ← optional? fields "full_path" string? ""
  let kind ← optional? fields "kind" spelled? .other
  let configurations ← optional? fields "configurations" (keyed? FileTool.decode?) []
  return ⟨relativePath, fullPath, kind, configurations⟩

def ProjectSnapshot.fieldNames : List String :=
  ["name", "full_path", "native", "descriptor", "descriptor_text", "configurations", "files"]

def ProjectSnapshot.decode? (document : Document) : Option ProjectSnapshot := do
  let fields ← fields? fieldNames document
  let name ← required? fields "name" string?
  let fullPath ← required? fields "full_path" string?
  let native ← optional? fields "native" bool? true
  let descriptor ← optional? fields "descriptor" (option? string?) none
  let descriptorText ← optional? fields "descriptor_text" (option? string?) none
  let configurations ← optional? fields "configurations" (list? ProjectConfiguration.decode?) []
  let files ← optional? fields "files" (list? ProjectFile.decode?) []
  return ⟨⟨name, fullPath, native⟩, descriptor, descriptorText, configurations, files⟩

def Snapshot.fieldNames : List String := ["solution", "environment", "projects"]

def Snapshot.decode? (document : Document) : Option Snapshot := do
  let fields ← fields? fieldNames document
  let solution ← required? fields "solution" Solution.decode?
  let environment ← optional? fields "environment" (keyed? string?) []
  let projects ← optional? fields "projects" (list? ProjectSnapshot.decode?) []
  return ⟨solution, environment, projects⟩

end Listfile

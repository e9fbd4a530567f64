import Listfile.Record
import Listfile.Snapshot.Basic
import Listfile.Snapshot.Spelling

/-!
Documents from snapshots, with every field stated.
-/

namespace Listfile

open Document

def Document.ofSpelled {α : Type} [Spelled α] (value : α) : Document := ofString (Spelled.name value)

def Document.ofList {α : Type} (encode : α → Document) (items : List α) : Document := .array (items.map encode)

def BuildContext.encode (context : BuildContext) : Document := object [
  ("project", ofString context.project),
  ("configuration", ofString context.configuration),
  ("platform", ofString context.platform),
  ("should_build", .bool context.shouldBuild)]

def SolutionConfiguration.encode (configuration : SolutionConfiguration) : Document := object [
  ("name", ofString configuration.name),
  ("platform", ofString configuration.platform),
  ("contexts", ofList BuildContext.encode configuration.contexts)]

def Solution.encode (solution : Solution) : Document := object [
  ("name", ofString solution.name),
  ("directory", ofString solution.directory),
  ("configurations", ofList SolutionConfiguration.encode solution.configurations)]

def CompilerTool.encode (tool : CompilerTool) : Document := object [
  ("additional_include_directories", strings tool.includeDirectories),
  ("preprocessor_definitions", strings tool.definitions),
  ("precompiled_header", ofSpelled tool.precompiledHeader),
  ("precompiled_header_through", ofString tool.precompiledHeaderThrough),
  ("precompiled_header_output", ofString tool.precompiledHeaderOutput),
  ("sdl_check", ofOption .bool tool.sdlCheck)]

def LinkerTool.encode (tool : LinkerTool) : Document := object [
  ("additional_library_directories", strings tool.libraryDirectories),
  ("additional_dependencies", strings tool.dependencies)]

def ProjectConfiguration.encode (configuration : ProjectConfiguration) : Document := object [
  ("name", ofString configuration.name),
  ("platform", ofString configuration.platform),
  ("kind", ofSpelled configuration.kind),
  ("use_of_mfc", ofSpelled configuration.useOfMfc),
  ("character_set", ofSpelled configuration.characterSet),
  ("subsystem", ofSpelled configuration.subsystem),
  ("primary_output", ofString configuration.primaryOutput),
  ("import_library", ofString configuration.importLibrary),
  ("macros", ofKeyed ofString configuration.macros),
  ("compiler", CompilerTool.encode configuration.compiler),
  ("linker", LinkerTool.encode configuration.linker)]

def FileTool.encode (tool : FileTool) : Document := object [
  ("additional_include_directories", ofOption strings tool.includeDirectories),
  ("preprocessor_definitions", ofOption strings tool.definitions),
  ("precompiled_header", ofOption ofSpelled tool.precompiledHeader),
  ("precompiled_header_through", ofOption ofString tool.precompiledHeaderThrough),
  ("precompiled_header_output", ofOption ofString tool.precompiledHeaderOutput),
  ("sdl_check", ofOption .bool tool.sdlCheck)]

def ProjectFile.encode (file : ProjectFile) : Document := object [
  ("relative_path", ofString file.relativePath),
  ("full_path", ofString file.fullPath),
  ("kind", ofSpelled file.kind),
  ("configurations", ofKeyed FileTool.encode file.configurations)]

def ProjectSnapshot.encode (project : ProjectSnapshot) : Document := object [
  ("name", ofString project.name),
  ("full_path", ofString project.fullPath),
  ("native", .bool project.native),
  ("descriptor", ofOption ofString project.descriptor),
  ("descriptor_text", ofOption ofString project.descriptorText),
  ("configurations", ofList ProjectConfiguration.encode project.configurations),
  ("files", ofList ProjectFile.encode project.files)]

def Snapshot.encode (snapshot : Snapshot) : Document := object [
  ("solution", Solution.encode snapshot.solution),
  ("environment", ofKeyed ofString snapshot.environment),
  ("projects", ofList ProjectSnapshot.encode snapshot.projects)]

end Listfile

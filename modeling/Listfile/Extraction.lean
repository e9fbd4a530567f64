import Listfile.Resolution
import Listfile.Text.Words

/-!
The settings of a target and of each of its source files, from what the development environment states and,
where it says nothing, from the project file. A file inherits what it does not override.
-/

namespace Listfile

/-- The settings of a target in each configuration, and of its source files in the order of their paths. -/
structure ExtractedSettings where
  defaults : Keyed Settings
  files : List FileSettings
  deriving DecidableEq, Repr

namespace Extraction

/-- The definitions that follow from the character set and the use of MFC. -/
def impliedDefinitions (configuration : ProjectConfiguration) : List String :=
  configuration.characterSet.impliedDefinition?.toList ++
    if configuration.useOfMfc.usesMfc then ["_AFXDLL"] else []

def allDefinitions (configuration : ProjectConfiguration) (written : List String) : List String :=
  (impliedDefinitions configuration ++ Text.listItems written).eraseDups

def projectSettings (configuration : ProjectConfiguration) (condition : String)
    (document : ProjectDocument) : Settings :=
  let compiler := configuration.compiler
  { includeDirectories := Text.listItems compiler.includeDirectories
    definitions := allDefinitions configuration compiler.definitions
    libraryDirectories := Text.listItems configuration.linker.libraryDirectories
    linkLibraries := Text.wordItems configuration.linker.dependencies
    pch :=
      { mode := compiler.precompiledHeader
        header := Text.trim compiler.precompiledHeaderThrough
        file := Text.trim compiler.precompiledHeaderOutput }
    sdlCheck := compiler.sdlCheck.or (document.projectCheck? condition) }

def filePch (inherited : Pch) (tool : FileTool) : Pch where
  mode := tool.precompiledHeader.getD inherited.mode
  header := (tool.precompiledHeaderThrough.map Text.trim).getD inherited.header
  file := (tool.precompiledHeaderOutput.map Text.trim).getD inherited.file

/-- The settings of a file in one configuration, where `tool` holds its overrides. -/
def fileSettings (defaults : Settings) (configuration : ProjectConfiguration) (file : ProjectFile)
    (tool : Option FileTool) (condition : String) (document : ProjectDocument) : Settings :=
  let tool := tool.getD {}
  { defaults with
    includeDirectories := (tool.includeDirectories.map Text.listItems).getD defaults.includeDirectories
    definitions := (tool.definitions.map (allDefinitions configuration)).getD defaults.definitions
    pch := filePch defaults.pch tool
    sdlCheck :=
      (tool.sdlCheck.or (document.fileCheck? file.relativePath condition)).or defaults.sdlCheck }

def conditionOf (configuration : ProjectConfiguration) : String :=
  conditionFor configuration.name configuration.platform

def defaultsOf (document : ProjectDocument) (_ : String) (configuration : ProjectConfiguration) :
    Settings :=
  projectSettings configuration (conditionOf configuration) document

def fileSettingsIn (document : ProjectDocument) (file : ProjectFile) (solutionConfiguration : String)
    (configuration : ProjectConfiguration) : Settings :=
  fileSettings (defaultsOf document solutionConfiguration configuration) configuration file
    (Keyed.get? file.configurations configuration.name) (conditionOf configuration) document

def fileSettingsOf (document : ProjectDocument) (configurations : Keyed ProjectConfiguration)
    (file : ProjectFile) : FileSettings where
  file := Text.slashed (Text.trim file.relativePath)
  perConfig := configurations.mapValues (fileSettingsIn document file)

def ofDocument (document : ProjectDocument) (configurations : Keyed ProjectConfiguration)
    (files : List ProjectFile) : ExtractedSettings where
  defaults := configurations.mapValues (defaultsOf document)
  files := ((files.filter (·.kind = .source)).map (fileSettingsOf document configurations)).mergeSort
    fun a b => a.file ≤ b.file

end Extraction

def extract (provider : Provider) (resolved : ResolvedTarget) :
    Except ConversionError ExtractedSettings := do
  let name := resolved.target.name
  let document ← provider.projectDocument name
  return Extraction.ofDocument document resolved.configurations (provider.files name)

end Listfile

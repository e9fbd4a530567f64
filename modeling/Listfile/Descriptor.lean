import Listfile.Description
import Listfile.Expression

/-!
The text of a descriptor: the commands that declare a target and its settings, one section for each kind of
setting, and the descriptor that puts the targets of a solution together.
-/

namespace Listfile

namespace Descriptor

def header (name : String) : String :=
  "cmake_minimum_required(VERSION 3.13)\n\nproject(" ++ name ++ ")\n\n"

def environmentCheck (variableNames : List String) : String :=
  if variableNames.isEmpty then ""
  else
    "foreach (EnvVar IN ITEMS " ++ " ".intercalate variableNames ++ ")\n" ++
      "  if (\"$ENV\x7b$\x7bEnvVar\x7d\x7d\" STREQUAL \"\")\n" ++
      "    message(WARNING \"Environment variable '$\x7bEnvVar\x7d' is not defined.\")\n" ++
      "  endif ()\n" ++
      "endforeach ()\n\n"

def configurationTypes (names : List String) : String :=
  "set(CMAKE_CONFIGURATION_TYPES \"" ++ ";".intercalate names ++
    "\"\n    CACHE STRING \"Configuration types\" FORCE)\n\n"

def useOfMfc (usage : MfcUsage) : String :=
  match usage.flag? with
  | none => ""
  | some flag => "# Use of MFC\nset(CMAKE_MFC_FLAG " ++ flag ++ ")\n\n"

def declarationHead (target : Target) : String :=
  match target.kind with
  | .executable =>
    "add_executable(" ++ target.name ++ "\n" ++ if target.subsystem = .windows then "  WIN32\n" else ""
  | .sharedLibrary => "add_library(" ++ target.name ++ " SHARED\n"
  | .staticLibrary => "add_library(" ++ target.name ++ " STATIC\n"

def declaredFiles (files : List TargetFile) : List String :=
  (((files.filter (·.kind ≠ .other)).map (·.relativePath)).mergeSort (· ≤ ·)).eraseDups

def fileLine (file : String) : String := "  " ++ Text.quoteIfBlank file ++ "\n"

def declaration (target : Target) : String :=
  declarationHead target ++ String.join ((declaredFiles target.files).map fileLine) ++ ")\n"

/-- A file name without its extension, where a name may start with a point. -/
def stemOf (name : List Char) : List Char :=
  match (name.reverse.dropWhile (· ≠ '.')).drop 1 with
  | [] => name
  | stem => stem.reverse

def outputStem (path : String) : String :=
  String.ofList (stemOf (path.toList.reverse.takeWhile fun c => c ≠ '/' && c ≠ '\\').reverse)

def outputStems (target : Target) : List (String × String) :=
  (target.configurationNames.filterMap fun name =>
    (target.outputs.get? name).map fun outputs => (name, outputStem outputs.primary)).filter (·.2 ≠ "")

def outputNameLine (entry : String × String) : String :=
  "  OUTPUT_NAME_" ++ Text.upper entry.1 ++ " " ++ Text.quoteIfBlank entry.2 ++ "\n"

/-- The names of the outputs, unless all are that of the target. -/
def outputNames (target : Target) : String :=
  let stems := outputStems target
  if stems.all (·.2 = target.name) then ""
  else
    "set_target_properties(" ++ target.name ++ "\n  PROPERTIES\n" ++
      String.join (stems.map outputNameLine) ++ ")\n"

def quotedExpressions (pairs : List (String × String)) : String :=
  String.join ((configExpressions pairs).map fun expression => "  \"" ++ expression ++ "\"\n")

def escaped (pairs : List (String × String)) : List (String × String) :=
  pairs.map fun pair => (pair.1, Text.escapeQuotes pair.2)

/-- A command around the lines of `expressions`, or nothing around none. -/
def command (head expressions : String) : String :=
  if expressions = "" then "" else head ++ expressions ++ ")\n"

def joined (pairs : List (String × List String)) : List (String × String) :=
  pairs.map fun pair => (pair.1, ";".intercalate pair.2)

def sourceListProperty (property file : String) (values : List (String × String)) : String :=
  command
    ("set_property(SOURCE " ++ Text.quoteIfBlank file ++ "\n  APPEND PROPERTY " ++ property ++ "\n")
    (quotedExpressions (escaped values))

def sourceCompileFlags (files : List String) (flags : List (String × String)) : String :=
  let expressions := " \\\n   ".intercalate (configExpressions (escaped flags))
  if expressions = "" then ""
  else
    "set_property(SOURCE " ++ " ".intercalate (files.map Text.quoteIfBlank) ++
      "\n  APPEND_STRING PROPERTY COMPILE_FLAGS\n  \" " ++ expressions ++ "\")\n"

def directoryLines (directories : List String) : String :=
  if directories.isEmpty then "" else "\n    " ++ ";\n    ".intercalate directories

def targetIncludeDirectories (name : String) (values : List (String × List String)) : String :=
  if values.all (·.2.isEmpty) then ""
  else
    "set_property(TARGET " ++ name ++ "\n  APPEND PROPERTY INCLUDE_DIRECTORIES\n  " ++
      "\n  ".intercalate (configExpressions (values.map fun entry => (entry.1, directoryLines entry.2))) ++
      "\n)\n"

def isQuote (c : Char) : Bool := c == '\x22'

def unquote (directory : String) : String := String.ofList (Text.strip isQuote directory.toList)

def fileIncludeDirectories (own : Override (List String)) : String :=
  sourceListProperty "INCLUDE_DIRECTORIES" own.file
    (joined (own.values.map fun entry => (entry.1, entry.2.map unquote)))

def includeDirectories (description : TargetDescription) : String :=
  targetIncludeDirectories description.target.name description.includeDirectories ++
    String.join (description.fileIncludeDirectories.map fileIncludeDirectories)

def definitions (description : TargetDescription) : String :=
  command ("target_compile_definitions(" ++ description.target.name ++ " PRIVATE\n")
      (quotedExpressions (escaped (joined description.definitions))) ++
    String.join (description.fileDefinitions.map fun own =>
      sourceListProperty "COMPILE_DEFINITIONS" own.file (joined own.values))

def sdlFlag (enabled : Bool) : String := if enabled then "/sdl" else "/sdl-"

def targetCompileOptions (name : String) (flags : List (String × String)) : String :=
  command ("target_compile_options(" ++ name ++ " PRIVATE\n") (quotedExpressions flags)

def sdlChecks (description : TargetDescription) : String :=
  targetCompileOptions description.target.name
      (description.sdlChecks.filterMap fun entry => entry.2.map fun enabled => (entry.1, sdlFlag enabled)) ++
    String.join (description.fileSdlChecks.map fun own =>
      sourceCompileFlags [own.file] (own.values.map fun entry => (entry.1, sdlFlag entry.2)))

def pchOptions (name : String) : PchPlan → String
  | .targetWide defaults overrides =>
    targetCompileOptions name (escaped defaults) ++
      String.join (overrides.map fun own => sourceCompileFlags [own.file] own.values)
  | .perFile groups =>
    String.join (groups.map fun group => sourceCompileFlags group.files group.flags)

/-- Only Microsoft's compiler knows the options for precompiled headers. -/
def precompiledHeaders (description : TargetDescription) : String :=
  let options := pchOptions description.target.name description.pch
  if options = "" then "" else "if (MSVC)\n" ++ Text.indent options ++ "endif ()\n"

def libraryDirectoryLines (option : String) (entry : String × List String) : String :=
  if entry.2.isEmpty then ""
  else
    "  $<$<CONFIG:" ++ entry.1 ++ ">:\n    " ++
      "\n    ".intercalate (entry.2.map (option ++ ·)) ++ ">\n"

def linkOptions (option name : String) (values : List (String × List String)) : String :=
  "target_link_options(" ++ name ++ " PRIVATE\n" ++
    String.join (values.map (libraryDirectoryLines option)) ++ ")\n"

/-- Library directories as options of the linker, which differ between Microsoft's and any other. -/
def libraryDirectories (description : TargetDescription) : String :=
  let name := description.target.name
  let values := description.libraryDirectories
  if values.all (·.2.isEmpty) then ""
  else
    "if (MSVC)\n" ++ Text.indent (linkOptions "/LIBPATH:" name values) ++
      "else ()\n" ++ Text.indent (linkOptions "-L" name values) ++ "endif ()\n"

def linkLibraries (description : TargetDescription) : String :=
  command
    ("set_property(TARGET " ++ description.target.name ++ "\n  APPEND PROPERTY LINK_LIBRARIES\n")
    (quotedExpressions (escaped (joined (description.linkLibraries.map fun entry =>
      (entry.1, entry.2.map (·.text))))))

def titled (title code : String) : String :=
  if code = "" then "" else "# " ++ title ++ "\n" ++ code ++ "\n"

def body (description : TargetDescription) : String :=
  let target := description.target
  configurationTypes target.configurationNames ++ useOfMfc target.useOfMfc ++ declaration target ++ "\n" ++
    titled "Output file name" (outputNames target) ++
    titled "Additional include directories" (includeDirectories description) ++
    titled "Preprocessor definitions" (definitions description) ++
    titled "SDL check" (sdlChecks description) ++
    titled "Precompiled header files" (precompiledHeaders description) ++
    titled "Additional library directories" (libraryDirectories description) ++
    titled "Link libraries" (linkLibraries description)

def ofTarget (description : TargetDescription) : String :=
  header description.target.name ++ environmentCheck description.environmentVariables ++
    Text.trimEnd (body description) ++ "\n"

def ofSolution (name : String) (directories : List String) : String :=
  header name ++ String.join (directories.map fun directory =>
    "add_subdirectory(" ++ Text.quoteIfBlank directory ++ ")\n")

end Descriptor

end Listfile

import Listfile.CommandLine
import Listfile.Conversion
import Listfile.Host
import Listfile.Snapshot.Format
import Listfile.Snapshot.Provider

/-!
A run of the program: it finds the snapshots to work on, and for each of them in turn writes the descriptors
or shows what can be converted. The first failure ends the run.
-/

namespace Listfile

inductive ConvertFailure where
  | conversion (error : ConversionError)
  | directory (path reason : String)
  | descriptor (directory reason : String)
  deriving DecidableEq, Repr

inductive RunError where
  | root (path reason : String)
  | noSnapshots (root : String)
  | unknownFormat (path : String)
  | unreadable (path reason : String)
  | malformed (path : String)
  | convert (snapshot : String) (failure : ConvertFailure)
  deriving DecidableEq, Repr

def descriptorName : String := "CMakeLists.txt"

def aboutPath (message path : String) : String := message ++ Text.quoted path

namespace ConvertFailure

def messages : ConvertFailure → List String
  | conversion error => [error.message]
  | directory path _ => [aboutPath "Could not create directory " path]
  | descriptor place _ => [
      aboutPath "Failed to write the generated CMakeLists.txt: " place,
      aboutPath "Could not create file " (Files.join place descriptorName)]

def reason? : ConvertFailure → Option String
  | conversion _ => none
  | directory _ reason => some reason
  | descriptor _ reason => some reason

end ConvertFailure

namespace RunError

def unknownFormatMessage : String :=
  "Unknown project model format. Expected a .toml or a .json file: "

/-- The messages of an error, from the outermost to the cause. -/
def messages : RunError → List String
  | root path _ => [
      "An unexpected error happened while resolving the absolute path to the current project root",
      aboutPath "Could not resolve the path " path]
  | noSnapshots path => [aboutPath "No project model files found for the solution: " path]
  | unknownFormat path => [aboutPath unknownFormatMessage path]
  | unreadable path _ => [aboutPath "Could not read the project model file: " path]
  | malformed path => [
      aboutPath "Could not parse the project model file: " path,
      "Could not parse the project model file"]
  | convert snapshot failure =>
    aboutPath "Failed to convert the solution: " snapshot :: failure.messages

def reason? : RunError → Option String
  | root _ reason => some reason
  | unreadable _ reason => some reason
  | malformed _ => some "the text is not well formed"
  | convert _ failure => failure.reason?
  | noSnapshots _ => none
  | unknownFormat _ => none

end RunError

namespace Run

variable {m : Type → Type} [Monad m]

def attempt {α ε : Type} (operation : m (Except String α)) (onFailure : String → ε) : ExceptT ε m α := do
  match ← operation with
  | .ok value => return value
  | .error reason => throw (onFailure reason)

def isSnapshotName (name : String) : Bool :=
  "sln2cmake".toList.isPrefixOf name.toList &&
    ((Files.extensionOf? name >>= SnapshotFormat.ofExtension?).isSome)

def ifSnapshot (path name : String) : List String := if isSnapshotName name then [path] else []

/-- The snapshots at a path, and below it down to the given depth, where names come in order. -/
def search (host : Host m) : Nat → String → String → m (List String)
  | 0, path, name => do return if ← host.isFile path then ifSnapshot path name else []
  | depth + 1, path, name => do
    if ← host.isDirectory path then
      let names := (← host.names path).mergeSort (· ≤ ·)
      let found ← names.mapM fun name => search host depth (Files.join path name) name
      return found.flatten
    else return if ← host.isFile path then ifSnapshot path name else []

/-- The snapshot that the user names, or all that are found within two levels. -/
def snapshots (host : Host m) (command : Command) (root : String) : ExceptT RunError m (List String) := do
  match command.snapshot? with
  | some path => return [Files.join root path]
  | none =>
    let found : List String ← (search host 2 root ((Files.fileName? root).getD root) : m _)
    if found.isEmpty then throw (.noSnapshots root) else return found

def load (host : Host m) (path : String) : ExceptT RunError m Snapshot := do
  match SnapshotFormat.ofPath? path with
  | none => throw (.unknownFormat path)
  | some format =>
    let text ← attempt (host.read path) (RunError.unreadable path)
    match format.read? text with
    | some snapshot => return snapshot
    | none => throw (.malformed path)

def projectFiles (snapshot : Snapshot) : List String :=
  (snapshot.projects.filter (·.descriptorText.isNone)).filterMap (·.descriptor)

def readProjectFile (host : Host m) (base path : String) : m (String × Except String String) := do
  let place := Files.join base path
  return match ← host.read place with
    | .ok text => (path, .ok text)
    | .error reason => (path, .error (Text.quoted place ++ ": " ++ reason))

def lookUp (readings : List (String × Except String String)) (path : String) : Except String String :=
  (readings.lookup path).getD (.error path)

def shownPath (directory : String) : String :=
  if directory = "" then descriptorName else directory ++ "/" ++ descriptorName

def shown (descriptor : GeneratedDescriptor) : String :=
  "# ---- " ++ descriptor.name ++ " (" ++ shownPath descriptor.directory ++ ") ----\n" ++
    descriptor.contents ++ "\n"

def writeDescriptor (host : Host m) (output : String) (descriptor : GeneratedDescriptor) :
    ExceptT ConvertFailure m Unit := do
  let directory := Files.join output descriptor.directory
  let path := Files.join directory descriptorName
  attempt (host.makeDirectories directory) (ConvertFailure.directory directory)
  attempt (host.write path descriptor.contents) (ConvertFailure.descriptor directory)
  host.report (.generated path)

def deliver (host : Host m) (output : String) (dryRun : Bool) (descriptors : List GeneratedDescriptor) :
    ExceptT ConvertFailure m Unit :=
  if dryRun then descriptors.forM fun descriptor => host.print (shown descriptor)
  else descriptors.forM (writeDescriptor host output)

def convertSnapshot (host : Host m) (snapshot : Snapshot) (base output : String) (request : Request)
    (dryRun : Bool) : ExceptT ConvertFailure m Unit := do
  let readings ← ((projectFiles snapshot).mapM (readProjectFile host base) : m _)
  let conversion := convert (snapshot.provider (lookUp readings)) request
  conversion.log.forM fun notice => host.report notice
  match conversion.result with
  | .error error => throw (.conversion error)
  | .ok converted =>
    deliver host output dryRun converted.descriptors
    match converted.status? with
    | some error => throw (.conversion error)
    | none => return

def configurationsLine (solution : Solution) (platform : String) : String :=
  let configurations := solution.configurations.filter (·.platform = platform)
  "  " ++ platform ++ ": " ++ ", ".intercalate (configurations.map (·.name)) ++ "\n"

def listing (solution : Solution) : String :=
  let platforms := (solution.configurations.map (·.platform)).eraseDups
  "Solution '" ++ solution.name ++ "'\n" ++ String.join (platforms.map (configurationsLine solution))

def onSnapshot (host : Host m) (command : Command) (root path : String) : ExceptT RunError m Unit := do
  let snapshot ← load host path
  match command with
  | .list _ => host.print (listing snapshot.solution)
  | .convert request _ output dryRun =>
    let base := (Files.parent? path).getD "."
    let output := (output.map (Files.join root)).getD base
    (convertSnapshot host snapshot base output request dryRun).adapt (RunError.convert path)

end Run

open Run in
def run {m : Type → Type} [Monad m] (host : Host m) (arguments : Arguments) (root : String) :
    ExceptT RunError m Unit := do
  let start := (arguments.root.map (Files.join root)).getD root
  let root ← attempt (host.canonicalize start) (RunError.root start)
  let paths ← snapshots host arguments.command root
  paths.forM (onSnapshot host arguments.command root)

end Listfile

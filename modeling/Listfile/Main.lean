import Listfile.Run

/-!
The program on the command line, on the system that it runs on.
-/

namespace Listfile

def attempted {α : Type} (action : IO α) : IO (Except String α) := do
  try
    return .ok (← action)
  catch error => return .error (toString error)

def answered {α : Type} (absent : α) (action : IO α) : IO α := do
  return match ← attempted action with
    | .ok answer => answer
    | .error _ => absent

/-- Files and directories of the system; a link is neither. -/
def systemHost : Host IO where
  canonicalize path := attempted do return (← IO.FS.realPath path).toString
  isFile path := answered false do
    let real ← IO.FS.realPath path
    return real.toString == path && (← real.metadata).type == .file
  isDirectory path := answered false do
    let real ← IO.FS.realPath path
    return real.toString == path && (← real.isDir)
  names path := answered [] do
    return (← (← IO.FS.realPath path).readDir).toList.map (·.fileName)
  read path := attempted (IO.FS.readFile path)
  makeDirectories path := attempted (IO.FS.createDirAll path)
  write path text := attempted (IO.FS.writeFile path text)
  print text := IO.print text
  report notice := IO.eprintln notice.record.message

def usage : String :=
  "Usage: sln2cmake [-v] [--root ROOT] <COMMAND>\n\n" ++
    "  convert [-p PLATFORM] [-c CONFIGURATIONS] [-m MODEL] [-o OUTPUT] [--dry-run]\n" ++
    "  list    [-m MODEL]"

def versionText : String := "sln2cmake 0.4.0"

def explain : UsageError → IO UInt32
  | .help => do
    IO.println usage
    return 0
  | .version => do
    IO.println versionText
    return 0
  | _ => do
    IO.eprintln usage
    return 2

def complain (error : RunError) : IO UInt32 := do
  (error.messages ++ error.reason?.toList).forM fun message => IO.eprintln message
  return 1

end Listfile

open Listfile in
def main (args : List String) : IO UInt32 := do
  match Arguments.parse args with
  | .error error => explain error
  | .ok arguments =>
    match ← (run systemHost arguments ".").run with
    | .ok () => return 0
    | .error error => complain error

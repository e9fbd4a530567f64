/-!
Cutting texts into fields and lines, and the small edits made on them.
-/

namespace Listfile.Text

/-- The fields of `s` between the separators. There is always one more field than separators. -/
def fields (isSeparator : Char → Bool) (s : String) : List String :=
  (s.toList.splitOnP isSeparator).map String.ofList

def replaceChar (old new : Char) (s : String) : String :=
  String.map (fun c => if c = old then new else c) s

def slashed (path : String) : String := replaceChar '\\' '/' path

def escapeQuotes (s : String) : String :=
  String.ofList (s.toList.flatMap fun c => if c = '\x22' then ['\\', '\x22'] else [c])

def dropCarriageReturn (line : List Char) : List Char :=
  if line.getLast? = some '\r' then line.dropLast else line

/-- The lines of `s`. A line feed ends a line, and a carriage return before it belongs to it; what
stands behind the last line feed is a line only if it is not empty, and keeps its carriage return. -/
def lines (s : String) : List String :=
  let parts := s.toList.splitOnP (· = '\n')
  let ended := parts.dropLast.map dropCarriageReturn
  let rest := (parts.getLast?.getD [])
  (if rest.isEmpty then ended else ended ++ [rest]).map String.ofList

/-- Shifts every line that is not empty two columns to the right, and drops the empty ones. -/
def indent (s : String) : String :=
  String.join (((lines s).filter (· ≠ "")).map fun line => "  " ++ line ++ "\n")

end Listfile.Text

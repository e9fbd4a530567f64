import Listfile.Document

/-!
Writing JSON on one line, in ASCII.
-/

namespace Listfile.Json

def hexUnit (unit : Nat) : List Char :=
  [unit / 0x1000, unit / 0x100 % 0x10, unit / 0x10 % 0x10, unit % 0x10].map Nat.digitChar

def escapeUnit (unit : Nat) : List Char := '\\' :: 'u' :: hexUnit unit

def escapeChar (c : Char) : List Char :=
  if c = '\x22' || c = '\\' then ['\\', c]
  else if 0x20 ≤ c.toNat && c.toNat < 0x7F then [c]
  else if c.toNat < 0x10000 then escapeUnit c.toNat
  else
    let offset := c.toNat - 0x10000
    escapeUnit (0xD800 + offset / 0x400) ++ escapeUnit (0xDC00 + offset % 0x400)

def writeString (text : String) : String :=
  "\"" ++ String.ofList (text.toList.flatMap escapeChar) ++ "\""

/-- What is no text is written as the replacement character. -/
def writeText (content : Option String) : String := writeString (content.getD "\uFFFD")

mutual

def write : Document → String
  | .null => "null"
  | .bool true => "true"
  | .bool false => "false"
  | .number literal => literal
  | .text content => writeText content
  | .array items => "[" ++ ",".intercalate (writeItems items) ++ "]"
  | .table _ members => "\x7b" ++ ",".intercalate (writeMembers members) ++ "\x7d"

def writeItems : List Document → List String
  | [] => []
  | item :: rest => write item :: writeItems rest

def writeMembers : List (Option String × Document) → List String
  | [] => []
  | (name, value) :: rest => (writeText name ++ ":" ++ write value) :: writeMembers rest

end

end Listfile.Json

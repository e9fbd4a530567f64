import Listfile.Text.Scan

/-!
The texts of TOML: bare words, quoted strings, keys, and what may stand between them.
-/

namespace Listfile.Toml

/-- A line end is a line feed, with or without a carriage return before it. -/
def plainLines : List Char → List Char
  | '\r' :: '\n' :: rest => '\n' :: plainLines rest
  | c :: rest => c :: plainLines rest
  | [] => []

def isSpace (c : Char) : Bool := c == ' ' || c == '\t'

def skipSpace (cs : List Char) : List Char := cs.dropWhile isSpace

def isBare (c : Char) : Bool := c.isAlphanum || c == '_' || c == '-'

def bare? (cs : List Char) : Option (List Char × List Char) :=
  if (cs.takeWhile isBare).isEmpty then none else some (cs.takeWhile isBare, cs.dropWhile isBare)

def isTextChar (c : Char) : Bool := c == '\t' || (0x20 ≤ c.toNat && c != '\x7f')

def numbered? (count : Nat) (cs : List Char) : Option (List Char × List Char) :=
  let digits := cs.take count
  let n := Text.ofDigits 16 digits
  if digits.length = count ∧ digits.all Text.isHexDigit ∧ n.isValidChar then
    some ([Char.ofNat n], cs.drop count)
  else none

/-- The rest behind a line break that a backslash takes away with all white space that follows. -/
def joinedLine? (cs : List Char) : Option (List Char) :=
  match skipSpace cs with
  | '\n' :: rest => some (rest.dropWhile fun c => isSpace c || c == '\n')
  | _ => none

def escape? (multiline : Bool) : List Char → Option (List Char × List Char)
  | 'u' :: rest => numbered? 4 rest
  | 'U' :: rest => numbered? 8 rest
  | '\x22' :: rest => some (['\x22'], rest)
  | '\\' :: rest => some (['\\'], rest)
  | 'b' :: rest => some (['\x08'], rest)
  | 'f' :: rest => some (['\x0c'], rest)
  | 'n' :: rest => some (['\n'], rest)
  | 'r' :: rest => some (['\r'], rest)
  | 't' :: rest => some (['\t'], rest)
  | cs => if multiline then (joinedLine? cs).map fun rest => ([], rest) else none

/-- A string over several lines ends with three quotes; up to two more belong to it. -/
def closing (quote : Char) (cs : List Char) : List Char × List Char :=
  let extra := (cs.take 2).takeWhile (· = quote)
  (extra, cs.drop extra.length)

/-- The characters of a string up to its end, behind those read so far, last one first. Only double quotes
have escapes. -/
def stringBody? (quote : Char) (multiline : Bool) : Nat → List Char → List Char →
    Option (List Char × List Char)
  | 0, _, _ => none
  | fuel + 1, read, cs =>
    match cs with
    | [] => none
    | c :: rest =>
      if c = quote then
        if !multiline then some (read.reverse, rest)
        else if [quote, quote].isPrefixOf rest then
          let (extra, rest) := closing quote (rest.drop 2)
          some (read.reverse ++ extra, rest)
        else stringBody? quote multiline fuel (c :: read) rest
      else if c = '\\' ∧ quote = '\x22' then
        match escape? multiline rest with
        | some (inserted, rest) => stringBody? quote multiline fuel (inserted ++ read) rest
        | none => none
      else if isTextChar c || (multiline && c == '\n') then
        stringBody? quote multiline fuel (c :: read) rest
      else none

structure Quoted where
  content : String
  multiline : Bool

def skipLineEnd : List Char → List Char
  | '\n' :: rest => rest
  | cs => cs

def string? (quote : Char) (cs : List Char) : Option (Quoted × List Char) := do
  let multiline := [quote, quote].isPrefixOf cs
  let start := if multiline then skipLineEnd (cs.drop 2) else cs
  let (content, rest) ← stringBody? quote multiline (start.length + 1) [] start
  return (⟨String.ofList content, multiline⟩, rest)

def keyPart? (cs : List Char) : Option (String × List Char) :=
  match cs with
  | c :: rest =>
    if c = '\x22' || c = '\x27' then
      match string? c rest with
      | some (quoted, rest) => if quoted.multiline then none else some (quoted.content, rest)
      | none => none
    else (bare? cs).map fun parts => (String.ofList parts.1, parts.2)
  | [] => none

def key? : Nat → List Char → Option (List String × List Char)
  | 0, _ => none
  | fuel + 1, cs => do
    let (part, rest) ← keyPart? cs
    match skipSpace rest with
    | '.' :: rest => do
      let (parts, rest) ← key? fuel (skipSpace rest)
      return (part :: parts, rest)
    | rest => return ([part], rest)

def comment? (cs : List Char) : Option (List Char) :=
  match cs.dropWhile fun c => c == '\t' || 0x20 ≤ c.toNat with
  | '\n' :: rest => some rest
  | [] => some []
  | _ => none

def lineEnd? (cs : List Char) : Option (List Char) :=
  match skipSpace cs with
  | '#' :: rest => comment? rest
  | '\n' :: rest => some rest
  | [] => some []
  | _ => none

def skipBlank? : Nat → List Char → Option (List Char)
  | 0, _ => none
  | fuel + 1, cs =>
    match skipSpace cs with
    | '#' :: rest => comment? rest >>= skipBlank? fuel
    | '\n' :: rest => skipBlank? fuel rest
    | rest => some rest

end Listfile.Toml

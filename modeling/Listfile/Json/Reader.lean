import Listfile.Document
import Listfile.Text.Scan

/-!
Reading JSON: one value, with nothing but white space around it. Names may repeat, and nesting may be as
deep as it likes.
-/

namespace Listfile.Json

open Text (after? skipSpace)

def hexUnit? (cs : List Char) : Option (Nat × List Char) :=
  let digits := cs.take 4
  if digits.length = 4 ∧ digits.all Text.isHexDigit then some (Text.ofDigits 16 digits, cs.drop 4)
  else none

def isLead (unit : Nat) : Bool := 0xD800 ≤ unit && unit < 0xDC00

def isTrail (unit : Nat) : Bool := 0xDC00 ≤ unit && unit < 0xE000

/-- The character that the units at the front of `cs` give, or none for a half of a surrogate pair that
stands alone. -/
def escapedUnit? (cs : List Char) : Option (Option Char × List Char) := do
  let (unit, rest) ← hexUnit? cs
  if isLead unit then
    match rest with
    | '\\' :: 'u' :: more =>
      let (trail, behind) ← hexUnit? more
      if isTrail trail then
        return (some (Char.ofNat (0x10000 + (unit - 0xD800) * 0x400 + (trail - 0xDC00))), behind)
      else return (none, rest)
    | _ => return (none, rest)
  else if isTrail unit then return (none, rest)
  else return (some (Char.ofNat unit), rest)

def plainEscape? : Char → Option Char
  | '\x22' => some '\x22'
  | '\\' => some '\\'
  | '/' => some '/'
  | 'b' => some '\x08'
  | 'f' => some '\x0c'
  | 'n' => some '\n'
  | 'r' => some '\r'
  | 't' => some '\t'
  | _ => none

/-- The characters of a string up to its closing quote, last one first, with none for what is no
character. -/
def stringBody? : Nat → List (Option Char) → List Char → Option (List (Option Char) × List Char)
  | 0, _, _ => none
  | fuel + 1, read, cs =>
    match cs with
    | '\x22' :: rest => some (read, rest)
    | '\\' :: 'u' :: rest => do
      let (c, rest) ← escapedUnit? rest
      stringBody? fuel (c :: read) rest
    | '\\' :: c :: rest => do
      let c ← plainEscape? c
      stringBody? fuel (some c :: read) rest
    | c :: rest => if c.toNat < 0x20 || c == '\\' then none else stringBody? fuel (some c :: read) rest
    | [] => none

def string? (cs : List Char) : Option (Option String × List Char) := do
  let (read, rest) ← stringBody? (cs.length + 1) [] cs
  return ((read.reverse.mapM id).map String.ofList, rest)

def spanDigits (cs : List Char) : List Char × List Char :=
  (cs.takeWhile Char.isDigit, cs.dropWhile Char.isDigit)

def digits? (cs : List Char) : Option (List Char × List Char) :=
  if (spanDigits cs).1.isEmpty then none else some (spanDigits cs)

def wholePart? : List Char → Option (List Char × List Char)
  | '0' :: c :: rest => if c.isDigit then none else some (['0'], c :: rest)
  | cs => digits? cs

def fraction? : List Char → Option (List Char × List Char)
  | '.' :: rest => (digits? rest).map fun parts => ('.' :: parts.1, parts.2)
  | cs => some ([], cs)

def exponent? : List Char → Option (List Char × List Char)
  | e :: cs =>
    if e == 'e' || e == 'E' then
      match cs with
      | '+' :: rest => (digits? rest).map fun parts => (e :: '+' :: parts.1, parts.2)
      | '-' :: rest => (digits? rest).map fun parts => (e :: '-' :: parts.1, parts.2)
      | rest => (digits? rest).map fun parts => (e :: parts.1, parts.2)
    else some ([], e :: cs)
  | [] => some ([], [])

def sign : List Char → List Char × List Char
  | '-' :: rest => (['-'], rest)
  | cs => ([], cs)

def number? (cs : List Char) : Option (Document × List Char) := do
  let (minus, rest) := sign cs
  let (whole, rest) ← wholePart? rest
  let (fraction, rest) ← fraction? rest
  let (exponent, rest) ← exponent? rest
  return (.number (String.ofList (minus ++ whole ++ fraction ++ exponent)), rest)

mutual

def value? : Nat → List Char → Option (Document × List Char)
  | 0, _ => none
  | fuel + 1, cs =>
    match cs with
    | '\x22' :: rest => (string? rest).map fun parts => (.text parts.1, parts.2)
    | '[' :: rest =>
      match skipSpace rest with
      | ']' :: rest => some (.array [], rest)
      | rest => items? fuel [] rest
    | '\x7b' :: rest =>
      match skipSpace rest with
      | '\x7d' :: rest => some (.table .object [], rest)
      | rest => members? fuel [] rest
    | 'n' :: rest => (after? "ull".toList rest).map fun rest => (.null, rest)
    | 't' :: rest => (after? "rue".toList rest).map fun rest => (.bool true, rest)
    | 'f' :: rest => (after? "alse".toList rest).map fun rest => (.bool false, rest)
    | cs => number? cs

/-- The items of an array from the next one on, behind those read so far, last one first. -/
def items? : Nat → List Document → List Char → Option (Document × List Char)
  | 0, _, _ => none
  | fuel + 1, read, cs => do
    let (item, rest) ← value? fuel cs
    match skipSpace rest with
    | ']' :: rest => some (.array (item :: read).reverse, rest)
    | ',' :: rest => items? fuel (item :: read) (skipSpace rest)
    | _ => none

def members? : Nat → List (Option String × Document) → List Char → Option (Document × List Char)
  | 0, _, _ => none
  | fuel + 1, read, cs =>
    match cs with
    | '\x22' :: rest => do
      let (name, rest) ← string? rest
      match skipSpace rest with
      | ':' :: rest =>
        let (value, rest) ← value? fuel (skipSpace rest)
        match skipSpace rest with
        | '\x7d' :: rest => some (.table .object ((name, value) :: read).reverse, rest)
        | ',' :: rest => members? fuel ((name, value) :: read) (skipSpace rest)
        | _ => none
      | _ => none
    | _ => none

end

def read? (text : String) : Option Document := do
  let cs := skipSpace text.toList
  let (document, rest) ← value? (cs.length + 1) cs
  if (skipSpace rest).isEmpty then some document else none

end Listfile.Json

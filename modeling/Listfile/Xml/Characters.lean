import Listfile.Text.Case
import Listfile.Text.Scan

/-!
The characters of XML: which may occur, which make up names, and the references that stand for one.
-/

namespace Listfile.Xml

open Text (isHexDigit isSpace ofDigits)

def isAllowed (c : Char) : Bool :=
  if c.toNat < 0x20 then isSpace c else c.toNat != 0xFFFE && c.toNat != 0xFFFF

def nameStartRanges : List (Nat × Nat) :=
  [(0xC0, 0xD6), (0xD8, 0xF6), (0xF8, 0x2FF), (0x370, 0x37D), (0x37F, 0x1FFF), (0x200C, 0x200D),
    (0x2070, 0x218F), (0x2C00, 0x2FEF), (0x3001, 0xD7FF), (0xF900, 0xFDCF), (0xFDF0, 0xFFFD),
    (0x10000, 0xEFFFF)]

def isNameStart (c : Char) : Bool :=
  c.isAlpha || c == ':' || c == '_' || Text.inRanges nameStartRanges c.toNat

def isNameChar (c : Char) : Bool :=
  isNameStart c || c.isDigit || c == '-' || c == '.' ||
    Text.inRanges [(0xB7, 0xB7), (0x300, 0x36F), (0x203F, 0x2040)] c.toNat

def name? (cs : List Char) : Option (List Char × List Char) :=
  match cs with
  | c :: _ => if isNameStart c then some (cs.takeWhile isNameChar, cs.dropWhile isNameChar) else none
  | [] => none

/-- A prefix, empty if there is none, and a local name. -/
structure QName where
  space : String
  name : String
  deriving DecidableEq, Repr

def startsName : List Char → Bool
  | c :: _ => isNameStart c
  | [] => false

def qualified? (cs : List Char) : Option QName :=
  match cs.splitOnP (· = ':') with
  | [name] => if startsName name then some ⟨"", String.ofList name⟩ else none
  | [space, name] =>
    if (space.isEmpty || startsName space) && startsName name then
      some ⟨String.ofList space, String.ofList name⟩
    else none
  | _ => none

def qualifiedName? (cs : List Char) : Option (QName × List Char) :=
  (qualified? (cs.takeWhile isNameChar)).map (·, cs.dropWhile isNameChar)

/-- The character of that number; a number that is no character's gives the replacement character. -/
def charOf (n : Nat) : Char := if n.isValidChar then Char.ofNat n else '\uFFFD'

def charReference? (base : Nat) (digits : List Char) : Option Char :=
  let n := ofDigits base digits
  if digits.isEmpty || n ≥ 0x100000000 || !isAllowed (charOf n) then none else some (charOf n)

def namedReference? (name : List Char) : Option Char :=
  match String.ofList name with
  | "quot" => some '\x22'
  | "apos" => some '\x27'
  | "amp" => some '&'
  | "lt" => some '<'
  | "gt" => some '>'
  | _ => none

def referenced? : List Char → Option (Char × List Char)
  | '#' :: 'x' :: rest =>
    (charReference? 16 (rest.takeWhile isHexDigit)).map (·, rest.dropWhile isHexDigit)
  | '#' :: rest =>
    (charReference? 10 (rest.takeWhile Char.isDigit)).map (·, rest.dropWhile Char.isDigit)
  | cs => do
    let (name, rest) ← name? cs
    return (← namedReference? name, rest)

def reference? (cs : List Char) : Option (Char × List Char) :=
  match referenced? cs with
  | some (c, ';' :: rest) => some (c, rest)
  | _ => none

/-- White space within an attribute becomes a space, and a line end a single one. -/
def plainValue : List Char → List Char
  | '\r' :: '\n' :: rest => ' ' :: plainValue rest
  | c :: rest => (if isSpace c then ' ' else c) :: plainValue rest
  | [] => []

/-- A line end of any kind becomes a line feed. -/
def plainText : List Char → List Char
  | '\r' :: '\n' :: rest => '\n' :: plainText rest
  | c :: rest => (if c = '\r' then '\n' else c) :: plainText rest
  | [] => []

def afterAmpersand? (plain : List Char → List Char) (piece : List Char) : Option (List Char) :=
  (reference? piece).map fun parts => parts.1 :: plain parts.2

def expand? (plain : List Char → List Char) (cs : List Char) : Option (List Char) :=
  match cs.splitOnP (· = '&') with
  | [] => some []
  | first :: rest => (rest.mapM (afterAmpersand? plain)).map fun parts => plain first ++ parts.flatten

end Listfile.Xml

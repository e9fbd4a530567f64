import Listfile.Document
import Listfile.Toml.Number

/-!
Values in TOML. Arrays may run over several lines, inline tables may not.
-/

namespace Listfile.Toml

abbrev Members := List (Option String × Document)

/-- A date reads as a table that holds nothing but the text of it. -/
def dateTable (written : List Char) : Document :=
  .table .object [(some "$__toml_private_datetime", Document.ofString (String.ofList written))]

def numberAs (word rest : List Char) : Option (Document × List Char) :=
  (number? word rest).map fun behind =>
    (.number (String.ofList (word ++ rest.take (rest.length - behind.length))), behind)

def numeral? (word rest : List Char) : Option (Document × List Char) :=
  if startsDate word then (date? word rest).map fun parts => (dateTable parts.1, parts.2)
  else
    match rest with
    | ':' :: rest => (time? word rest).map fun parts => (dateTable parts.1, parts.2)
    | rest => numberAs word rest

def word? (word rest : List Char) : Option (Document × List Char) :=
  if word = "true".toList then some (.bool true, rest)
  else if word = "false".toList then some (.bool false, rest)
  else if word = "inf".toList ∨ word = "nan".toList then numeral? word rest
  else
    match word with
    | c :: _ => if c = '-' || c.isDigit then numeral? word rest else none
    | [] => none

def replaceMember (name : String) (value : Document) : Members → Members
  | [] => []
  | member :: rest =>
    if member.1 = some name then (some name, value) :: rest else member :: replaceMember name value rest

/-- Puts a value under a key of several parts. A table that other such keys made is extended, and nothing
else. -/
def putKey? : List String → Document → Members → Option Members
  | [], _, members => some members
  | [name], value, members => some (members ++ [(some name, value)])
  | name :: parts, value, members =>
    match members.lookup (some name) with
    | none => do return members ++ [(some name, .table .section (← putKey? parts value []))]
    | some (.table .section inner) => do
      return replaceMember name (.table .section (← putKey? parts value inner)) members
    | some _ => none

mutual

def value? : Nat → List Char → Option (Document × List Char)
  | 0, _ => none
  | fuel + 1, cs =>
    match cs with
    | '\x22' :: rest =>
      (string? '\x22' rest).map fun parts => (Document.ofString parts.1.content, parts.2)
    | '\x27' :: rest =>
      (string? '\x27' rest).map fun parts => (Document.ofString parts.1.content, parts.2)
    | '[' :: rest => array? fuel [] rest
    | '\x7b' :: rest =>
      match skipSpace rest with
      | '\x7d' :: rest => some (.table .inline [], rest)
      | rest => inlineTable? fuel [] rest
    | '+' :: rest => do
      let (word, rest) ← bare? rest
      numberAs word rest
    | cs => do
      let (word, rest) ← bare? cs
      word? word rest

def array? : Nat → List Document → List Char → Option (Document × List Char)
  | 0, _, _ => none
  | fuel + 1, read, cs => do
    match ← skipBlank? (cs.length + 1) cs with
    | ']' :: rest => some (.array read.reverse, rest)
    | cs => do
      let (item, rest) ← value? fuel cs
      match ← skipBlank? (rest.length + 1) rest with
      | ',' :: rest => array? fuel (item :: read) rest
      | ']' :: rest => some (.array (item :: read).reverse, rest)
      | _ => none

def inlineTable? : Nat → Members → List Char → Option (Document × List Char)
  | 0, _, _ => none
  | fuel + 1, read, cs => do
    let (key, rest) ← key? (cs.length + 1) cs
    match rest with
    | '=' :: rest => do
      let (value, rest) ← value? fuel (skipSpace rest)
      let members ← putKey? key value read
      match skipSpace rest with
      | '\x7d' :: rest => some (.table .inline members, rest)
      | ',' :: rest => inlineTable? fuel members (skipSpace rest)
      | _ => none
    | _ => none

end

end Listfile.Toml

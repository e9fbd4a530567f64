import Listfile.Toml.Text

/-!
Numbers and dates in TOML. Integers have 64 bits and floating-point numbers are finite; of a date only its
outline is checked.
-/

namespace Listfile.Toml

open Text (ofDigits)

def isDigitOf (radix : Nat) (c : Char) : Bool :=
  match Text.digit? c with
  | some digit => digit < radix
  | none => false

def hasPair : List Char → Bool
  | '_' :: '_' :: _ => true
  | _ :: rest => hasPair rest
  | [] => false

def isGrouped (cs : List Char) : Bool :=
  !cs.isEmpty && cs.head? != some '_' && cs.getLast? != some '_' && !hasPair cs

def withoutMarks (cs : List Char) : List Char := cs.filter (· ≠ '_')

def sign (cs : List Char) : List Char × List Char :=
  match cs with
  | '+' :: rest => (['+'], rest)
  | '-' :: rest => (['-'], rest)
  | cs => ([], cs)

def isDigitOrMark (radix : Nat) (c : Char) : Bool := isDigitOf radix c || c == '_'

def digits? (radix : Nat) (cs : List Char) : Option (List Char × List Char) :=
  let written := cs.takeWhile (isDigitOrMark radix)
  if isGrouped written then some (withoutMarks written, cs.dropWhile (isDigitOrMark radix)) else none

def startsWithZero : List Char → Bool
  | '0' :: _ :: _ => true
  | _ => false

def whole? (cs : List Char) : Option (List Char × List Char) := do
  let (digits, rest) ← digits? 10 cs
  if startsWithZero digits then none else some (digits, rest)

/-- The least number that 64 bits with a sign cannot hold. -/
def integerLimit : Nat := 0x8000000000000000

def isBased (radix : Nat) (cs : List Char) : Bool :=
  match digits? radix cs with
  | some (digits, []) => ofDigits radix digits < integerLimit
  | _ => false

def isDecimal (cs : List Char) : Bool :=
  let (written, rest) := sign cs
  match whole? rest with
  | some (digits, []) => ofDigits 10 digits < integerLimit + if written = ['-'] then 1 else 0
  | _ => false

/-- The least number that a double cannot hold. -/
def doubleLimit : Nat := Nat.pow 2 1024 - Nat.pow 2 970

def isFinite (n : Nat) (exponent : Int) : Bool :=
  let size := (Nat.toDigits 10 n).length
  if n = 0 || size + exponent ≤ 308 then true
  else if size + exponent > 310 then false
  else n * Nat.pow 10 exponent.toNat < doubleLimit * Nat.pow 10 (-exponent).toNat

def signed (written digits : List Char) : Int :=
  if written = ['-'] then -(ofDigits 10 digits : Int) else ofDigits 10 digits

def isFiniteDecimal (whole fraction : List Char) (exponent : Int) : Bool :=
  isFinite (ofDigits 10 (whole ++ fraction)) (exponent - fraction.length)

/-- An exponent at the end of a word, where the word may stop before its sign or digits. -/
def exponent? (suffix rest : List Char) : Option (Int × List Char) :=
  match suffix with
  | [] => some (0, rest)
  | [e] =>
    if e = 'e' || e = 'E' then do
      let (word, rest) ← bare? (if rest.head? = some '+' then rest.drop 1 else rest)
      match digits? 10 word with
      | some (digits, []) => some (ofDigits 10 digits, rest)
      | _ => none
    else none
  | e :: word =>
    if e = 'e' || e = 'E' then
      let (written, word) := sign word
      match digits? 10 word with
      | some (digits, []) => some (signed written digits, rest)
      | _ => none
    else none

/-- The rest behind a floating-point number that starts with `word`, with what follows its point if it has
one. -/
def float? (word : List Char) (afterPoint : Option (List Char)) (rest : List Char) :
    Option (List Char) := do
  let (whole, suffix) ← whole? (sign word).2
  match afterPoint with
  | none =>
    let (exponent, rest) ← exponent? suffix rest
    if isFiniteDecimal whole [] exponent then some rest else none
  | some after =>
    let (fraction, behind) ← digits? 10 after
    let (exponent, rest) ← exponent? behind rest
    if suffix.isEmpty && isFiniteDecimal whole fraction exponent then some rest else none

def hasExponent (word : List Char) : Bool := word.contains 'e' || word.contains 'E'

def isSpecial (word : List Char) : Bool :=
  ["inf".toList, "-inf".toList, "nan".toList, "-nan".toList].contains word

def number? (word rest : List Char) : Option (List Char) :=
  match word with
  | '0' :: 'x' :: digits => if isBased 16 digits then some rest else none
  | '0' :: 'o' :: digits => if isBased 8 digits then some rest else none
  | '0' :: 'b' :: digits => if isBased 2 digits then some rest else none
  | word =>
    if hasExponent word then float? word none rest
    else
      match rest with
      | '.' :: behind => do
        let (after, rest) ← bare? behind
        float? word (some after) rest
      | rest => if isSpecial word || isDecimal word then some rest else none

def hasNegativeExponent : List Char → Bool
  | 'e' :: '-' :: _ => true
  | 'E' :: '-' :: _ => true
  | _ :: rest => hasNegativeExponent rest
  | [] => false

def startsDate (word : List Char) : Bool :=
  word.contains 'T' || word.contains 't' || ((word.drop 1).contains '-' && !hasNegativeExponent word)

/-- A mark with the word that has to follow it. -/
def marked? (mark : Char) (cs : List Char) : Option (List Char × List Char) :=
  match cs with
  | c :: rest => if c = mark then (bare? rest).map fun parts => (mark :: parts.1, parts.2) else none
  | [] => none

def markedIf? (mark : Char) (cs : List Char) : Option (List Char × List Char) :=
  if cs.head? = some mark then marked? mark cs else some ([], cs)

def minutes? (cs : List Char) : Option (List Char × List Char) := do
  let (minutes, rest) ← bare? cs
  let (seconds, rest) ← marked? ':' rest
  let (fraction, rest) ← markedIf? '.' rest
  let (offset, rest) ← markedIf? '+' rest
  let (offsetMinutes, rest) ← markedIf? ':' rest
  return (minutes ++ seconds ++ fraction ++ offset ++ offsetMinutes, rest)

/-- An hour may stand behind its date with one space between them. -/
def spacedHour (cs : List Char) : List Char × List Char := ((marked? ' ' cs).getD ([], cs))

def date? (word rest : List Char) : Option (List Char × List Char) :=
  let (hour, rest) := spacedHour rest
  match rest with
  | ':' :: rest => (minutes? rest).map fun parts => (word ++ hour ++ ':' :: parts.1, parts.2)
  | rest => some (word ++ hour, rest)

def time? (word rest : List Char) : Option (List Char × List Char) :=
  let (hour, rest) := spacedHour rest
  (minutes? rest).map fun parts => (word ++ ':' :: hour ++ parts.1, parts.2)

end Listfile.Toml

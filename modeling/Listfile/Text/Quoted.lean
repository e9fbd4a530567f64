import Listfile.Text.Case
import Listfile.Text.Unprintable

/-!
The quoted form in which messages show a path: double quotes around it, control characters, double
quotes and backslashes escaped, and what cannot be printed written by its number.
-/

namespace Listfile.Text

def hexDigits (n : Nat) : List Char := Nat.toDigits 16 n

def escapeChar (c : Char) : List Char :=
  if c = '\x00' then ['\\', '0']
  else if c = '\t' then ['\\', 't']
  else if c = '\r' then ['\\', 'r']
  else if c = '\n' then ['\\', 'n']
  else if c = '\x22' || c = '\\' then ['\\', c]
  else if c.toNat < 0x20 || inRanges unprintable c.toNat then
    ['\\', 'u', '\x7b'] ++ hexDigits c.toNat ++ ['\x7d']
  else [c]

def quoted (s : String) : String :=
  "\"" ++ String.ofList (s.toList.flatMap escapeChar) ++ "\""

end Listfile.Text

import Listfile.Macro
import Listfile.Text.Blank
import Listfile.Text.Split

/-!
The items of a property value. Property values hold lists written in one text or in several; how the items
are spread over the texts makes no difference.
-/

namespace Listfile.Text

def isSemicolon (c : Char) : Bool := c == ';'

def isSemicolonOrBlank (c : Char) : Bool := isSemicolon c || isBlank c

/-- Whether an item says anything. A placeholder only repeats what an outer level holds. -/
def isItem (cs : List Char) : Bool := !cs.isEmpty && !Macro.isPlaceholder cs

def listItems (values : List String) : List String :=
  values.flatMap fun value =>
    (((value.toList.splitOnP isSemicolon).map (strip isBlank)).filter isItem).map String.ofList

def wordItems (values : List String) : List String :=
  values.flatMap fun value =>
    ((value.toList.splitOnP isSemicolonOrBlank).filter isItem).map String.ofList

def quoteIfBlank (s : String) : String :=
  if s.toList.any isBlank then "\"" ++ s ++ "\"" else s

def isPlaceholder (s : String) : Bool := Macro.isPlaceholder (strip isBlank s.toList)

end Listfile.Text

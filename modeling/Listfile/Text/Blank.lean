/-!
White space as Unicode sees it, and trimming by a class of characters.
-/

namespace Listfile.Text

/-- The characters with the Unicode property White_Space. -/
def isBlank (c : Char) : Bool :=
  let n := c.toNat
  (0x9 ≤ n && n ≤ 0xD) || n == 0x20 || n == 0x85 || n == 0xA0 || n == 0x1680 ||
    (0x2000 ≤ n && n ≤ 0x200A) || n == 0x2028 || n == 0x2029 || n == 0x202F || n == 0x205F ||
    n == 0x3000

def stripEnd (drop : Char → Bool) (cs : List Char) : List Char :=
  (cs.reverse.dropWhile drop).reverse

def strip (drop : Char → Bool) (cs : List Char) : List Char :=
  stripEnd drop (cs.dropWhile drop)

def trim (s : String) : String := String.ofList (strip isBlank s.toList)

def trimEnd (s : String) : String := String.ofList (stripEnd isBlank s.toList)

def allBlank (s : String) : Bool := s.toList.all isBlank

theorem toList_trim (s : String) : (trim s).toList = strip isBlank s.toList := String.toList_ofList

theorem toList_trimEnd (s : String) : (trimEnd s).toList = stripEnd isBlank s.toList :=
  String.toList_ofList

end Listfile.Text

/-!
What a user asks to convert.
-/

namespace Listfile

structure Request where
  platform : String := "x64"
  /-- The solution configurations to convert. None, or an empty list, stands for all of the platform. -/
  configurations : Option (List String) := none
  deriving DecidableEq, Repr, Inhabited

end Listfile

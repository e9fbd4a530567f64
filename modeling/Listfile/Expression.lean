/-!
Generator expressions: values that count in one build configuration.
-/

namespace Listfile

def configExpression (configuration value : String) : String :=
  "$<$<CONFIG:" ++ configuration ++ ">:" ++ value ++ ">"

/-- The expressions of the values that are not empty. -/
def configExpressions (pairs : List (String × String)) : List String :=
  (pairs.filter (·.2 ≠ "")).map fun pair => configExpression pair.1 pair.2

end Listfile

/-!
References to build macros. A text is cut into characters and complete references `$(Name)`, where a name
holds no parenthesis; what replaces a reference is not looked at again.
-/

namespace Listfile.Macro

inductive Piece where
  | plain (c : Char)
  | reference (name : List Char)
  deriving DecidableEq, Repr

def Piece.source : Piece → List Char
  | .plain c => [c]
  | .reference name => '$' :: '(' :: name ++ [')']

def isParenthesis (c : Char) : Bool := c == '(' || c == ')'

/-- Reads a name up to its closing parenthesis, and what follows it. -/
def closing? (cs : List Char) : Option (List Char × List Char) :=
  match cs.dropWhile fun c => !isParenthesis c with
  | ')' :: rest => some (cs.takeWhile fun c => !isParenthesis c, rest)
  | _ => none

theorem closing?_eq {cs name rest : List Char} (found : closing? cs = some (name, rest)) :
    cs = name ++ ')' :: rest := by
  unfold closing? at found
  split at found
  next tail equation =>
    simp only [Option.some.injEq, Prod.mk.injEq] at found
    rw [← found.1, ← found.2, ← equation, List.takeWhile_append_dropWhile]
  next => simp at found

theorem closing?_shorter {cs name rest : List Char} (found : closing? cs = some (name, rest)) :
    rest.length < cs.length := by
  rw [closing?_eq found, List.length_append, List.length_cons]
  omega

def pieces : List Char → List Piece
  | [] => []
  | c :: cs =>
    if c = '$' then
      match cs with
      | '(' :: tail =>
        match found : closing? tail with
        | some (name, rest) =>
          have : rest.length < tail.length := closing?_shorter found
          .reference name :: pieces rest
        | none => .plain c :: pieces ('(' :: tail)
      | cs => .plain c :: pieces cs
    else .plain c :: pieces cs
termination_by cs => cs.length
decreasing_by
  all_goals simp_all
  omega

theorem flatMap_source_pieces (cs : List Char) : (pieces cs).flatMap Piece.source = cs := by
  fun_induction pieces cs with
  | case1 => rfl
  | case2 tail name rest found _ ih => simp [Piece.source, ih, closing?_eq found]
  | case3 tail _ ih => simp [Piece.source, ih]
  | case4 cs _ ih => simp [Piece.source, ih]
  | case5 c cs _ ih => simp [Piece.source, ih]

def names (text : String) : List String :=
  (pieces text.toList).filterMap fun
    | .plain _ => none
    | .reference name => some (String.ofList name)

def expandPiece {m : Type → Type} [Monad m] (resolve : String → m String) : Piece → m (List Char)
  | .plain c => pure [c]
  | .reference name => String.toList <$> resolve (String.ofList name)

/-- Asks `resolve` for the replacement of each reference, from left to right. -/
def expandM {m : Type → Type} [Monad m] (resolve : String → m String) (text : String) : m String :=
  (fun parts => String.ofList parts.flatten) <$> (pieces text.toList).mapM (expandPiece resolve)

def expand (value : String → String) (text : String) : String :=
  String.ofList <| (pieces text.toList).flatMap fun
    | .plain c => [c]
    | .reference name => (value (String.ofList name)).toList

def reference (name : String) : String := "$(" ++ name ++ ")"

/-- A placeholder such as `%(Name)` stands for the values of an outer level. -/
def isPlaceholder (chars : List Char) : Bool :=
  ['%', '('].isPrefixOf chars && chars.getLast? == some ')'

end Listfile.Macro

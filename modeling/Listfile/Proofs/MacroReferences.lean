import Listfile.Proofs.References

/-!
Where the references to macros stand in a text: every complete one is found, whatever stands around it, and a text
that is put together from pieces is taken apart into them again.
-/

namespace Listfile

namespace Macro

/-- Whether a text can be a name. A parenthesis would end it, or make another reference. -/
def IsName (cs : List Char) : Prop := ∀ c ∈ cs, isParenthesis c = false

variable {name cs : List Char}

theorem closing?_name (isName : IsName name) (rest : List Char) :
    closing? (name ++ ')' :: rest) = some (name, rest) := by
  have open' : ∀ c ∈ name, (!isParenthesis c) = true := fun c member => by simp [isName c member]
  have close : isParenthesis ')' = true := rfl
  unfold closing?
  rw [List.dropWhile_append_of_pos open', List.takeWhile_append_of_pos open']
  simp [close]

theorem closing?_eq_some_iff {rest : List Char} :
    closing? cs = some (name, rest) ↔ IsName name ∧ cs = name ++ ')' :: rest := by
  constructor
  · intro found
    refine ⟨?_, closing?_eq found⟩
    unfold closing? at found
    split at found
    next =>
      obtain ⟨rfl, -⟩ : _ ∧ _ := by simpa using found
      exact fun c member => by simpa using List.mem_takeWhile_imp member
    next => simp at found
  · intro given
    rcases given with ⟨isName, rfl⟩
    exact closing?_name isName rest

theorem closing?_append_opening (unclosed : closing? cs = none) (rest : List Char) :
    closing? (cs ++ '$' :: '(' :: rest) = none := by
  refine Option.eq_none_iff_forall_ne_some.mpr fun found closed => ?_
  obtain ⟨isName, whole⟩ := closing?_eq_some_iff.mp closed
  rcases List.append_eq_append_iff.mp whole with ⟨more, inside, behind⟩ | ⟨more, inside, behind⟩
  · match more with
    | [] => simp at behind
    | [_] => simp at behind
    | _ :: second :: _ =>
      obtain ⟨-, rfl, -⟩ : _ ∧ '(' = second ∧ _ := by simpa using behind
      have opening := isName '(' (inside ▸ by simp)
      exact absurd opening (by decide)
  · cases more with
    | nil => simp at behind
    | cons close more =>
      obtain ⟨rfl, -⟩ := List.cons.inj behind
      have own := closing?_eq_some_iff.mpr ⟨isName, inside⟩
      simp [unclosed] at own

theorem pieces_reference (isName : IsName name) (rest : List Char) :
    pieces ('$' :: '(' :: (name ++ ')' :: rest)) = .reference name :: pieces rest := by
  rw [pieces, if_pos rfl]
  split
  next found =>
    rw [closing?_name isName] at found
    cases found
    rfl
  next none => simp [closing?_name isName] at none

theorem pieces_plain {c : Char} (other : c ≠ '$') (rest : List Char) :
    pieces (c :: rest) = .plain c :: pieces rest := by
  by_cases opens : ∃ tail, rest = '(' :: tail
  · obtain ⟨tail, rfl⟩ := opens
    rw [pieces, if_neg other]
  · rw [pieces, if_neg other]
    exact not_exists.mp opens

theorem pieces_dollar {rest : List Char} (unclosed : ∀ tail, rest = '(' :: tail → closing? tail = none) :
    pieces ('$' :: rest) = .plain '$' :: pieces rest := by
  by_cases opens : ∃ tail, rest = '(' :: tail
  · obtain ⟨tail, rfl⟩ := opens
    rw [pieces, if_pos rfl]
    split
    next found => simp [unclosed tail rfl] at found
    next => rfl
  · rw [pieces, if_pos rfl]
    exact not_exists.mp opens

theorem pieces_append_opening (front rest : List Char) :
    pieces (front ++ '$' :: '(' :: rest) = pieces front ++ pieces ('$' :: '(' :: rest) := by
  fun_induction pieces front with
  | case1 => rfl
  | case2 tail name behind found shorter ih =>
    have whole : '$' :: '(' :: tail ++ '$' :: '(' :: rest =
        '$' :: '(' :: (name ++ ')' :: (behind ++ '$' :: '(' :: rest)) := by
      rw [closing?_eq found]
      simp
    rw [whole, pieces_reference (closing?_eq_some_iff.mp found).1, ih]
    rfl
  | case3 tail none ih =>
    rw [List.cons_append, pieces_dollar, ih]
    · rfl
    · intro other same
      -- A name does not reach over the start of another reference.
      obtain rfl := (List.cons.inj same).2
      exact closing?_append_opening none rest
  | case4 tail other ih =>
    rw [List.cons_append, pieces_dollar, ih]
    · rfl
    · intro inside same
      cases tail with
      | nil => simp at same
      | cons first tail => exact absurd (congrArg (· :: tail) (List.cons.inj same).1) (other tail)
  | case5 c tail other ih =>
    rw [List.cons_append, pieces_plain other, ih]
    rfl

theorem isName_of_mem_pieces (member : .reference name ∈ pieces cs) : IsName name := by
  fun_induction pieces cs with
  | case1 => simp at member
  | case2 tail other rest found shorter ih =>
    rcases List.mem_cons.mp member with same | member
    · cases same
      exact (closing?_eq_some_iff.mp found).1
    · exact ih member
  | case3 tail none ih => exact ih ((List.mem_cons.mp member).resolve_left (by simp))
  | case4 tail other ih => exact ih ((List.mem_cons.mp member).resolve_left (by simp))
  | case5 c tail other ih => exact ih ((List.mem_cons.mp member).resolve_left (by simp))

theorem reference_mem_pieces_iff :
    .reference name ∈ pieces cs ↔ IsName name ∧ (Piece.reference name).source <:+: cs := by
  constructor
  · intro member
    obtain ⟨before, behind, split⟩ := List.append_of_mem member
    refine ⟨isName_of_mem_pieces member, before.flatMap Piece.source, behind.flatMap Piece.source, ?_⟩
    rw [← flatMap_source_pieces cs, split, List.flatMap_append, List.flatMap_cons, List.append_assoc]
  · intro given
    rcases given with ⟨isName, front, behind, rfl⟩
    have text : front ++ (Piece.reference name).source ++ behind = front ++ '$' :: '(' :: (name ++ ')' :: behind) := by
      simp [Piece.source]
    rw [text, pieces_append_opening, pieces_reference isName]
    simp

theorem toList_reference (name : String) : (reference name).toList = (Piece.reference name.toList).source := by
  simp [reference, Piece.source]

theorem written_reference : Piece.written reference = Piece.source := by
  funext piece
  cases piece with
  | plain c => rfl
  | reference name => rw [Piece.written, toList_reference, String.toList_ofList]

theorem expand_eq_self (text : String) : expand reference text = text := by
  rw [← String.toList_inj, toList_expand, written_reference, flatMap_source_pieces]

theorem mem_names_iff {name text : String} :
    name ∈ names text ↔ IsName name.toList ∧ (reference name).toList <:+: text.toList := by
  rw [toList_reference, ← reference_mem_pieces_iff, names_eq, List.mem_filterMap]
  constructor
  · intro found
    obtain ⟨piece, member, named⟩ := found
    cases piece with
    | plain c => simp [Piece.name?] at named
    | reference own =>
      obtain rfl : String.ofList own = name := by simpa [Piece.name?] using named
      rwa [String.toList_ofList]
  · exact fun member => ⟨_, member, by simp [Piece.name?]⟩

/-! Texts that are put together from pieces. -/

/-- Whether a piece is read as itself, whatever follows it. -/
def Piece.Whole : Piece → Prop
  | .plain c => c ≠ '$'
  | .reference name => IsName name

theorem pieces_flatMap_source {parts : List Piece} (whole : ∀ piece ∈ parts, piece.Whole) :
    pieces (parts.flatMap Piece.source) = parts := by
  induction parts with
  | nil => rw [List.flatMap_nil, pieces]
  | cons piece rest ih =>
    rw [List.forall_mem_cons] at whole
    have ih := ih whole.2
    cases piece with
    | plain c =>
      rw [List.flatMap_cons, Piece.source, List.singleton_append, pieces_plain whole.1, ih]
    | reference name =>
      have text : (Piece.reference name).source ++ rest.flatMap Piece.source =
          '$' :: '(' :: (name ++ ')' :: rest.flatMap Piece.source) := by
        simp [Piece.source]
      rw [List.flatMap_cons, text, pieces_reference whole.1, ih]

def Closed (cs : List Char) : Prop := ∀ front behind, cs = front ++ '$' :: behind →
  ∃ name rest, IsName name ∧ behind = '(' :: (name ++ ')' :: rest)

theorem Closed.of_append (front : List Char) {behind : List Char} (closed : Closed (front ++ behind)) : Closed behind :=
  fun before rest split => closed (front ++ before) rest (by rw [split, List.append_assoc])

theorem Closed.dollar_notMem (closed : Closed (name ++ ')' :: cs)) (isName : IsName name) : '$' ∉ name := by
  intro member
  obtain ⟨front, behind, rfl⟩ := List.append_of_mem member
  obtain ⟨inner, rest, -, text⟩ := closed front (behind ++ ')' :: cs) (by simp)
  cases behind with
  | nil => simp at text
  | cons c behind =>
    have opening : c = '(' := (List.cons.inj text).1
    have plain := isName c (by simp)
    rw [opening] at plain
    exact absurd plain (by decide)

/-- Whether a piece holds no dollar sign but the one that starts it. -/
def Piece.Dollarless : Piece → Prop
  | .plain c => c ≠ '$'
  | .reference name => '$' ∉ name

theorem Closed.dollarless (closed : Closed cs) : ∀ piece ∈ pieces cs, piece.Dollarless := by
  fun_induction pieces cs with
  | case1 => simp
  | case2 tail name rest found shorter ih =>
    obtain ⟨isName, rfl⟩ := closing?_eq_some_iff.mp found
    have behind : Closed (name ++ ')' :: rest) := Closed.of_append ['$', '('] closed
    rw [List.forall_mem_cons]
    exact ⟨behind.dollar_notMem isName, ih (Closed.of_append (name ++ [')']) (by simpa using behind))⟩
  | case3 tail none ih =>
    obtain ⟨name, rest, isName, text⟩ := closed [] ('(' :: tail) rfl
    rw [(List.cons.inj text).2, closing?_name isName] at none
    simp at none
  | case4 tail other ih =>
    obtain ⟨name, rest, -, text⟩ := closed [] tail rfl
    exact absurd text (other _)
  | case5 c tail other ih =>
    rw [List.forall_mem_cons]
    exact ⟨other, ih (Closed.of_append [c] closed)⟩

end Macro

end Listfile

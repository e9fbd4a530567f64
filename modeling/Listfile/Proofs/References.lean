import Listfile.Relocation
import Listfile.Text.Scan
import Mathlib.Data.List.Infix
import Mathlib.Data.List.TakeWhile

/-!
References to the environment in a written text: where they stand, and that leaving the macros of a text to the
environment makes one reference of each and no other, if the text holds no brace.
-/

namespace Listfile

namespace Text

def isBrace (c : Char) : Bool := c == '\x7b' || c == '\x7d'

def Braceless (cs : List Char) : Prop := ∀ c ∈ cs, isBrace c = false

instance (cs : List Char) : Decidable (Braceless cs) :=
  decidable_of_iff (cs.all fun c => !isBrace c) (by simp [Braceless])

theorem Braceless.append {first rest : List Char} (left : Braceless first) (right : Braceless rest) :
    Braceless (first ++ rest) := fun c member => (List.mem_append.mp member).elim (left c) (right c)

theorem after?_eq_some_iff {word cs rest : List Char} : after? word cs = some rest ↔ cs = word ++ rest := by
  unfold after?
  split
  next starts =>
    obtain ⟨behind, rfl⟩ := List.isPrefixOf_iff_prefix.mp starts
    simp [eq_comm]
  next other =>
    refine iff_of_false (by simp) ?_
    rintro rfl
    exact other (List.isPrefixOf_iff_prefix.mpr (List.prefix_append _ _))

end Text

open Text

/-- The name of the reference to the environment that a text starts with. -/
def referenceAt? (cs : List Char) : Option String :=
  match after? ['$', 'E', 'N', 'V', '\x7b'] cs with
  | none => none
  | some rest =>
    match rest.dropWhile fun c => !isBrace c with
    | '\x7d' :: _ => some (String.ofList (rest.takeWhile fun c => !isBrace c))
    | _ => none

/-- The names of the references to the environment in a text, in the order in which they start. -/
def references (cs : List Char) : List String := cs.tails.filterMap referenceAt?

theorem toList_environmentReference (name : String) : (Relocator.environmentReference name).toList =
    ['$', 'E', 'N', 'V'] ++ '\x7b' :: (name.toList ++ ['\x7d']) := by
  simp [Relocator.environmentReference]

namespace Macro

def Piece.written (value : String → String) : Piece → List Char
  | .plain c => [c]
  | .reference name => (value (String.ofList name)).toList

def Piece.name? : Piece → Option String
  | .plain _ => none
  | .reference name => some (String.ofList name)

theorem toList_expand (value : String → String) (text : String) :
    (expand value text).toList = (pieces text.toList).flatMap (Piece.written value) := String.toList_ofList

theorem flatMap_written_plain (value : String → String) (cs : List Char) :
    (cs.map Piece.plain).flatMap (Piece.written value) = cs := by
  rw [List.flatMap_map]
  exact List.flatMap_singleton' cs

theorem names_eq (text : String) : names text = (pieces text.toList).filterMap Piece.name? := rfl

theorem mem_of_mem_source {cs : List Char} {piece : Piece} (member : piece ∈ pieces cs) {c : Char}
    (inside : c ∈ piece.source) : c ∈ cs := by
  rw [← flatMap_source_pieces cs]
  exact List.mem_flatMap.mpr ⟨piece, member, inside⟩

section

variable {parts : List Piece}

end

end Macro

end Listfile

import Listfile.Proofs.MacroReferences

/-!
The replacement of references: a text can be cut in one way only so that every reference in it is a cut, and each of
them is replaced once, from left to right, whatever is put in its place.
-/

namespace Listfile.Macro

/-! Pieces of a text among which every reference in it is one. -/

section

variable {piece : Piece} {parts : List Piece}

/-- Whether each reference in a text is one of the pieces, with what stands before it in the pieces before. -/
def Covers (parts : List Piece) : Prop := ∀ front name behind, IsName name →
  parts.flatMap Piece.source = front ++ (Piece.reference name).source ++ behind →
    ∃ before after, parts = before ++ .reference name :: after ∧ before.flatMap Piece.source = front

theorem source_ne_nil (piece : Piece) : piece.source ≠ [] := by cases piece <;> simp [Piece.source]

theorem Covers.tail (covers : Covers (piece :: parts)) : Covers parts := by
  intro front name behind isName split
  have whole : (piece :: parts).flatMap Piece.source =
      piece.source ++ front ++ (Piece.reference name).source ++ behind := by
    rw [List.flatMap_cons, split]
    simp only [List.append_assoc]
  obtain ⟨before, after, cut, text⟩ := covers _ name behind isName whole
  cases before with
  | nil => exact absurd (List.append_eq_nil_iff.mp text.symm).1 (source_ne_nil piece)
  | cons first before =>
    obtain ⟨rfl, rest⟩ := List.cons.inj cut
    exact ⟨before, after, rest, List.append_cancel_left text⟩

theorem Covers.pieces_eq (covers : Covers parts) (isName : ∀ name, .reference name ∈ parts → IsName name) :
    pieces (parts.flatMap Piece.source) = parts := by
  induction parts with
  | nil => rw [List.flatMap_nil, pieces]
  | cons piece parts ih =>
    have ih := ih covers.tail fun name member => isName name (List.mem_cons_of_mem _ member)
    cases piece with
    | reference name =>
      have text : (Piece.reference name :: parts).flatMap Piece.source =
          '$' :: '(' :: (name ++ ')' :: parts.flatMap Piece.source) := by simp [Piece.source]
      rw [text, pieces_reference (isName name List.mem_cons_self), ih]
    | plain c =>
      rw [List.flatMap_cons, Piece.source, List.singleton_append]
      by_cases dollar : c = '$'
      · subst dollar
        rw [pieces_dollar, ih]
        -- A reference that starts here would be the first piece.
        intro tail opens
        refine Option.eq_none_iff_forall_ne_some.mpr fun found closed => ?_
        obtain ⟨named, rfl⟩ := closing?_eq_some_iff.mp closed
        have whole : (Piece.plain '$' :: parts).flatMap Piece.source =
            [] ++ (Piece.reference found.1).source ++ found.2 := by
          rw [List.flatMap_cons, opens]
          simp [Piece.source]
        obtain ⟨before, after, cut, text⟩ := covers [] found.1 found.2 named whole
        cases before with
        | nil => exact Piece.noConfusion (List.cons.inj cut).1
        | cons first before => exact absurd (List.append_eq_nil_iff.mp text).1 (source_ne_nil first)
      · rw [pieces_plain dollar, ih]

theorem covers_pieces (cs : List Char) : Covers (pieces cs) := by
  intro front name behind isName split
  rw [flatMap_source_pieces] at split
  have text : cs = front ++ '$' :: '(' :: (name ++ ')' :: behind) := by
    rw [split]
    simp [Piece.source]
  refine ⟨pieces front, pieces behind, ?_, flatMap_source_pieces front⟩
  rw [text, pieces_append_opening, pieces_reference isName]

end

/-- A text cut at references: what stands before the first of them, and each name with what stands behind its
reference. -/
structure Cut where
  lead : String
  rest : List (String × String)

namespace Cut

def names (cut : Cut) : List String := cut.rest.map Prod.fst

def filled (cut : Cut) (answers : List String) : String :=
  cut.lead ++ String.join (List.zipWith (fun answer part => answer ++ part.2) answers cut.rest)

def source (cut : Cut) : String := cut.filled (cut.names.map reference)

/-- Whether a text is cut at each reference that stands in it, and nowhere else. -/
structure Complete (cut : Cut) (text : String) : Prop where
  whole : cut.source = text
  isName : ∀ name ∈ cut.names, IsName name.toList
  /-- A reference is a cut, and what stands before it is what the earlier cuts leave. -/
  covers : ∀ front name behind, IsName name.toList → text = front ++ reference name ++ behind →
    ∃ before own after, cut.rest = before ++ (name, own) :: after ∧ Cut.source ⟨cut.lead, before⟩ = front

/-! A cut text as pieces. -/

def plains (text : String) : List Piece := text.toList.map .plain

def partPieces (part : String × String) : List Piece := .reference part.1.toList :: plains part.2

def pieces (cut : Cut) : List Piece := plains cut.lead ++ cut.rest.flatMap partPieces

def ofPieces : List Piece → Cut
  | [] => ⟨"", []⟩
  | .plain c :: parts => ⟨String.singleton c ++ (ofPieces parts).lead, (ofPieces parts).rest⟩
  | .reference name :: parts => ⟨"", (String.ofList name, (ofPieces parts).lead) :: (ofPieces parts).rest⟩

variable {cut : Cut} {text : String}

theorem pieces_ofPieces (parts : List Piece) : (ofPieces parts).pieces = parts := by
  induction parts with
  | nil => rfl
  | cons piece parts ih =>
    rw [pieces] at ih
    cases piece with
    | plain c => simpa [ofPieces, pieces, plains] using ih
    | reference name => simpa [ofPieces, pieces, partPieces, plains] using ih

theorem ofPieces_plains (text : String) (parts : List Piece) :
    ofPieces (plains text ++ parts) = ⟨text ++ (ofPieces parts).lead, (ofPieces parts).rest⟩ := by
  have each (cs : List Char) : ofPieces (cs.map .plain ++ parts) =
      ⟨String.ofList cs ++ (ofPieces parts).lead, (ofPieces parts).rest⟩ := by
    induction cs with
    | nil => simp
    | cons c cs ih =>
      rw [List.map_cons, List.cons_append, ofPieces, ih, ← String.append_assoc, ← String.ofList_cons]
  rw [plains, each, String.ofList_toList]

theorem ofPieces_pieces (cut : Cut) : ofPieces cut.pieces = cut := by
  have behind (rest : List (String × String)) : ofPieces (rest.flatMap partPieces) = ⟨"", rest⟩ := by
    induction rest with
    | nil => rfl
    | cons part rest ih =>
      rw [List.flatMap_cons, partPieces, List.cons_append, ofPieces, ofPieces_plains, ih, String.ofList_toList,
        String.append_empty]
  rw [pieces, ofPieces_plains, behind, String.append_empty]

theorem ofPieces_append_reference (before after : List Piece) (name : List Char) :
    ofPieces (before ++ .reference name :: after) = ⟨(ofPieces before).lead,
      (ofPieces before).rest ++ (String.ofList name, (ofPieces after).lead) :: (ofPieces after).rest⟩ := by
  induction before with
  | nil => rfl
  | cons piece before ih => cases piece <;> simp [ofPieces, ih]

theorem names_eq_filterMap (cut : Cut) : cut.names = cut.pieces.filterMap Piece.name? := by
  have plain (text : String) : (plains text).filterMap Piece.name? = [] := by simp [plains, Piece.name?]
  have each (part : String × String) : (partPieces part).filterMap Piece.name? = [part.1] := by
    rw [partPieces, List.filterMap_cons, plain]
    simp [Piece.name?]
  rw [pieces, List.filterMap_append, plain, List.nil_append, List.filterMap_flatMap]
  simp only [each]
  exact List.map_eq_flatMap

theorem toList_filled (value : String → String) (cut : Cut) :
    (cut.filled (cut.names.map value)).toList = cut.pieces.flatMap (Piece.written value) := by
  have each (part : String × String) :
      (partPieces part).flatMap (Piece.written value) = (value part.1 ++ part.2).toList := by
    rw [partPieces, List.flatMap_cons, plains, flatMap_written_plain, Piece.written, String.ofList_toList,
      String.toList_append]
  rw [filled, String.toList_append, names, List.map_map, List.zipWith_map_left, List.zipWith_self, String.toList_join,
    List.flatMap_map, pieces, List.flatMap_append, plains, flatMap_written_plain, List.flatMap_assoc]
  simp only [each, Function.comp_apply]

theorem toList_source (cut : Cut) : cut.source.toList = cut.pieces.flatMap Piece.source := by
  rw [source, toList_filled, written_reference]

theorem filled_cons (lead answer : String) (part : String × String) (rest : List (String × String))
    (answers : List String) : filled ⟨lead, part :: rest⟩ (answer :: answers) =
      filled ⟨lead ++ answer ++ part.2, rest⟩ answers := by
  simp [filled, String.append_assoc]

theorem mapM_pieces {m : Type → Type} [Monad m] [LawfulMonad m] (resolve : String → m String) (cut : Cut) :
    (fun parts => String.ofList parts.flatten) <$> cut.pieces.mapM (expandPiece resolve) =
      cut.filled <$> cut.names.mapM resolve := by
  have plain (text : String) : (plains text).mapM (expandPiece resolve) = pure (text.toList.map ([·])) := by
    rw [plains, List.mapM_map]
    exact List.mapM_pure
  have letters (text : String) : String.ofList (text.toList.map ([·])).flatten = text := by
    simp [← List.flatMap_def]
  have behind (lead : String) (rest : List (String × String)) :
      (fun parts => lead ++ String.ofList parts.flatten) <$> (rest.flatMap partPieces).mapM (expandPiece resolve) =
        filled ⟨lead, rest⟩ <$> (rest.map Prod.fst).mapM resolve := by
    -- What has been answered belongs to the lead of the parts that are left.
    induction rest generalizing lead with
    | nil => simp [filled]
    | cons part rest ih =>
      calc
        _ = resolve part.1 >>= fun answer => (fun parts => lead ++ answer ++ part.2 ++ String.ofList parts.flatten) <$>
            (rest.flatMap partPieces).mapM (expandPiece resolve) := by
          simp [partPieces, plain, expandPiece, letters, String.append_assoc]
        _ = resolve part.1 >>= fun answer =>
            filled ⟨lead ++ answer ++ part.2, rest⟩ <$> (rest.map Prod.fst).mapM resolve := by simp only [ih]
        _ = filled ⟨lead, part :: rest⟩ <$> ((part :: rest).map Prod.fst).mapM resolve := by
          rw [List.map_cons, List.mapM_cons]
          simp [filled_cons]
  rw [pieces, List.mapM_append, plain, pure_bind, names, ← behind]
  simp [letters]

theorem Complete.toList_eq (complete : cut.Complete text) : text.toList = cut.pieces.flatMap Piece.source := by
  rw [← complete.whole, toList_source]

theorem Complete.covers_pieces (complete : cut.Complete text) : Covers cut.pieces := by
  intro front name behind isName split
  have place : text = String.ofList front ++ reference (String.ofList name) ++ String.ofList behind := by
    rw [← String.toList_inj, complete.toList_eq, split]
    simp [toList_reference]
  obtain ⟨before, own, after, rest, stands⟩ := complete.covers _ _ _ (by rwa [String.toList_ofList]) place
  refine ⟨Cut.pieces ⟨cut.lead, before⟩, plains own ++ after.flatMap partPieces, ?_, ?_⟩
  · simp [pieces, rest, partPieces]
  · rw [← toList_source, stands, String.toList_ofList]

theorem Complete.pieces_eq (complete : cut.Complete text) : cut.pieces = Macro.pieces text.toList := by
  have isName : ∀ name, .reference name ∈ cut.pieces → IsName name := by
    intro name member
    have listed : String.ofList name ∈ cut.names := by
      rw [names_eq_filterMap]
      exact List.mem_filterMap.mpr ⟨_, member, rfl⟩
    simpa using complete.isName _ listed
  rw [complete.toList_eq, complete.covers_pieces.pieces_eq isName]

def of (text : String) : Cut := ofPieces (Macro.pieces text.toList)

theorem pieces_of (text : String) : (of text).pieces = Macro.pieces text.toList := pieces_ofPieces _

theorem names_of (text : String) : (of text).names = Macro.names text := by
  rw [names_eq_filterMap, pieces_of, names_eq]

theorem complete_of (text : String) : (of text).Complete text where
  whole := by rw [← String.toList_inj, toList_source, pieces_of, flatMap_source_pieces]
  isName := by
    intro name member
    exact (mem_names_iff.mp (names_of text ▸ member)).1
  covers := by
    intro front name behind isName split
    have place : (Macro.pieces text.toList).flatMap Piece.source =
        front.toList ++ (Piece.reference name.toList).source ++ behind.toList := by
      rw [flatMap_source_pieces, split]
      simp [toList_reference]
    obtain ⟨before, after, parts, stands⟩ := Macro.covers_pieces _ _ _ _ isName place
    have made : of text = ofPieces (before ++ .reference name.toList :: after) := by rw [of, parts]
    rw [ofPieces_append_reference, String.ofList_toList] at made
    refine ⟨(ofPieces before).rest, _, _, by rw [made], ?_⟩
    rw [made, ← String.toList_inj, toList_source, pieces_ofPieces, stands]

theorem complete_iff : cut.Complete text ↔ cut = of text := by
  constructor
  · intro complete
    rw [← ofPieces_pieces cut, complete.pieces_eq, of]
  · rintro rfl
    exact complete_of text

end Cut

theorem expandM_eq_filled {m : Type → Type} [Monad m] [LawfulMonad m] (resolve : String → m String) (text : String) :
    expandM resolve text = (Cut.of text).filled <$> (Cut.of text).names.mapM resolve := by
  rw [← Cut.mapM_pieces, Cut.pieces_of, expandM]

theorem expand_eq_filled (value : String → String) (text : String) :
    expand value text = (Cut.of text).filled ((Cut.of text).names.map value) := by
  rw [← String.toList_inj, Cut.toList_filled, Cut.pieces_of, toList_expand]

/-- A text is cut at all its references in one way only. The names are asked for from left to right, whatever that does,
and the answers put in the places of the references as they are. -/
theorem references_are_replaced_once (text : String) : ∃ cut : Cut, (∀ other : Cut, other.Complete text ↔ other = cut) ∧
    names text = cut.names ∧
    (∀ (m : Type → Type) [Monad m] [LawfulMonad m],
      (∀ resolve : String → m String, expandM resolve text = cut.filled <$> cut.names.mapM resolve) ∧
        expandM (fun name => pure (reference name) : String → m String) text = pure text) ∧
    (∀ value : String → String, expand value text = cut.filled (cut.names.map value)) ∧
    expand reference text = text := by
  refine ⟨Cut.of text, fun _ => Cut.complete_iff, (Cut.names_of text).symm, fun m _ _ => ⟨?_, ?_⟩, ?_,
    expand_eq_self text⟩
  · exact fun resolve => expandM_eq_filled resolve text
  · rw [expandM_eq_filled, List.mapM_pure, map_pure, ← expand_eq_filled, expand_eq_self]
  · exact fun value => expand_eq_filled value text

def numbering (name : String) : StateM (List String) String := do
  modify (· ++ [name])
  return reference (name ++ "0")

/-- A reference within an open one is a cut, and what it is replaced by is left alone. -/
theorem nested_reference_is_replaced_once : LawfulMonad (StateM (List String)) ∧
    ∃ cut : Cut, (∀ other : Cut, other.Complete "$(a$(b)/$()$(c" ↔ other = cut) ∧
      cut = ⟨"$(a", [("b", "/"), ("", "$(c")]⟩ ∧
      (expandM numbering "$(a$(b)/$()$(c").run [] = ("$(a$(b0)/$(0)$(c", ["b", ""]) := by
  obtain ⟨cut, complete, -, asked, -⟩ := references_are_replaced_once "$(a$(b)/$()$(c"
  have pieces : Macro.pieces "$(a$(b)/$()$(c".toList = Cut.pieces ⟨"$(a", [("b", "/"), ("", "$(c")]⟩ := by
    decide +kernel
  have own : ⟨"$(a", [("b", "/"), ("", "$(c")]⟩ = Cut.of "$(a$(b)/$()$(c" := by
    rw [Cut.of, pieces, Cut.ofPieces_pieces]
  have given := (complete _).mp (Cut.complete_iff.mpr own)
  refine ⟨inferInstance, cut, complete, given.symm, ?_⟩
  rw [(asked (StateM (List String))).1 numbering, ← given]
  rfl

end Listfile.Macro

import Listfile.Proofs.OpenMacros
import Listfile.Proofs.SameDirectories

/-!
A written directory leads to where the directory of the project does: from a variable for the target or the solution,
or with its references to the environment filled in.
-/

namespace Listfile

namespace Text

variable {drop : Char → Bool}

theorem exists_strip (drop : Char → Bool) (cs : List Char) : ∃ before behind, cs = before ++ strip drop cs ++ behind ∧
    (∀ c ∈ before, drop c = true) ∧ ∀ c ∈ behind, drop c = true := by
  refine ⟨cs.takeWhile drop, ((cs.dropWhile drop).reverse.takeWhile drop).reverse, ?_,
    fun c member => List.mem_takeWhile_imp member,
    fun c member => List.mem_takeWhile_imp (List.mem_reverse.mp member)⟩
  rw [strip, stripEnd, List.append_assoc, ← List.reverse_append, List.takeWhile_append_dropWhile,
    List.reverse_reverse, List.takeWhile_append_dropWhile]

theorem strip_between {before behind : List Char} (first : ∀ c ∈ before, drop c = true)
    (last : ∀ c ∈ behind, drop c = true) (cs : List Char) : strip drop (before ++ cs ++ behind) = strip drop cs := by
  have trailing (own : List Char) : stripEnd drop (own ++ behind) = stripEnd drop own := by
    rw [stripEnd, List.reverse_append,
      List.dropWhile_append_of_pos fun c member => last c (List.mem_reverse.mp member), stripEnd]
  rw [strip, List.append_assoc, List.dropWhile_append_of_pos first, List.dropWhile_append]
  split
  next none =>
    rw [List.isEmpty_iff] at none
    rw [strip, none, List.dropWhile_eq_nil_iff.mpr last]
  next => rw [trailing, strip]

end Text

namespace Macro

variable {cs : List Char}

theorem Closed.of_append_behind {behind : List Char} (closed : Closed (cs ++ behind)) (unclosing : ')' ∉ behind) :
    Closed cs := by
  intro front rest split
  obtain ⟨name, more, isName, text⟩ :=
    closed front (rest ++ behind) (by rw [split, List.append_assoc, List.cons_append])
  have whole : rest ++ behind = ('(' :: (name ++ [')'])) ++ more := by simpa using text
  rcases List.append_eq_append_iff.mp whole with ⟨inner, inside, rfl⟩ | ⟨inner, inside, -⟩
  · -- The reference closes with its last character, so nothing of it stands behind.
    obtain rfl : inner = [] := by
      by_contra filled
      have last : ('(' :: (name ++ [')'])).getLast? = some ')' := by
        rw [← List.cons_append, List.getLast?_concat]
      rw [inside, List.getLast?_append_of_ne_nil _ filled] at last
      exact unclosing (List.mem_append_left _ (List.mem_of_getLast? last))
    exact ⟨name, [], isName, by simpa using inside.symm⟩
  · exact ⟨name, inner, isName, by simpa using inside⟩

theorem Closed.whole (closed : Closed cs) : ∀ piece ∈ pieces cs, piece.Whole := by
  intro piece member
  have dollarless := closed.dollarless piece member
  cases piece with
  | plain c => exact dollarless
  | reference name => exact isName_of_mem_pieces member

theorem pieces_between (closed : Closed cs) {before behind : List Char} (first : '$' ∉ before) (last : '$' ∉ behind) :
    pieces (before ++ cs ++ behind) = before.map Piece.plain ++ pieces cs ++ behind.map Piece.plain := by
  have plain (own : List Char) : (own.map Piece.plain).flatMap Piece.source = own := by
    rw [List.flatMap_map]
    exact List.flatMap_singleton' own
  have wholes (own : List Char) (dollarless : '$' ∉ own) : ∀ piece ∈ own.map Piece.plain, piece.Whole := by
    intro piece member
    obtain ⟨c, inside, rfl⟩ := List.mem_map.mp member
    exact fun dollar => dollarless (dollar ▸ inside)
  have whole : ∀ piece ∈ before.map Piece.plain ++ pieces cs ++ behind.map Piece.plain, piece.Whole := by
    simp only [List.forall_mem_append]
    exact ⟨⟨wholes before first, closed.whole⟩, wholes behind last⟩
  have text : (before.map Piece.plain ++ pieces cs ++ behind.map Piece.plain).flatMap Piece.source =
      before ++ cs ++ behind := by
    rw [List.flatMap_append, List.flatMap_append, plain, plain, flatMap_source_pieces]
  rw [← text, pieces_flatMap_source whole]

theorem Closed.trim {text : String} (closed : Closed text.toList) : Closed (Text.trim text).toList ∧
    names (Text.trim text) = names text ∧
    ∀ value, Text.trim (expand value text) = Text.trim (expand value (Text.trim text)) := by
  obtain ⟨before, behind, split, first, last⟩ := Text.exists_strip Text.isBlank text.toList
  rw [← Text.toList_trim] at split
  have solid (own : List Char) (blank : ∀ c ∈ own, Text.isBlank c = true) : '$' ∉ own ∧ ')' ∉ own :=
    ⟨fun member => absurd (blank _ member) (by decide), fun member => absurd (blank _ member) (by decide)⟩
  have inner : Closed (Text.trim text).toList := by
    rw [split, List.append_assoc] at closed
    exact (Closed.of_append before closed).of_append_behind (solid behind last).2
  have cut := pieces_between inner (solid before first).1 (solid behind last).1
  rw [← split] at cut
  refine ⟨inner, ?_, fun value => ?_⟩
  · have unnamed (own : List Char) : (own.map Piece.plain).filterMap Piece.name? = [] := by
      simp [List.filterMap_eq_nil_iff, Piece.name?]
    rw [names_eq, names_eq, cut, List.filterMap_append, List.filterMap_append, unnamed, unnamed]
    simp
  · have text : (expand value text).toList = before ++ (expand value (Text.trim text)).toList ++ behind := by
      rw [toList_expand, cut, List.flatMap_append, List.flatMap_append, flatMap_written_plain, flatMap_written_plain,
        toList_expand]
    rw [← String.toList_inj, Text.toList_trim, text, Text.strip_between first last, Text.toList_trim]

end Macro

/-! Evaluators. -/

def environmentName? (cs : List Char) : Option (List Char × List Char) :=
  (Text.after? ['$', 'E', 'N', 'V', '\x7b'] cs).bind fun behind =>
    match behind.dropWhile (· ≠ '\x7d') with
    | '\x7d' :: rest => some (behind.takeWhile (· ≠ '\x7d'), rest)
    | _ => none

theorem environmentName?_eq_some_iff {cs name rest : List Char} : environmentName? cs = some (name, rest) ↔
    '\x7d' ∉ name ∧ cs = ['$', 'E', 'N', 'V', '\x7b'] ++ (name ++ '\x7d' :: rest) := by
  unfold environmentName?
  constructor
  · intro found
    obtain ⟨behind, starts, closed⟩ := Option.bind_eq_some_iff.mp found
    rw [Text.after?_eq_some_iff.mp starts]
    split at closed
    next others rest' =>
      rw [Option.some.injEq, Prod.mk.injEq] at closed
      rw [← closed.1, ← closed.2, ← rest', List.takeWhile_append_dropWhile]
      exact ⟨fun member => by simpa using List.mem_takeWhile_imp member, rfl⟩
    next => simp at closed
  · intro given
    rcases given with ⟨open', rfl⟩
    have plain : ∀ c ∈ name, decide (c ≠ '\x7d') = true := fun c member =>
      decide_eq_true fun brace : c = '\x7d' => open' (brace ▸ member)
    rw [Text.after?_eq_some_iff.mpr rfl, Option.bind_some, List.dropWhile_append_of_pos plain,
      List.takeWhile_append_of_pos plain]
    simp

theorem environmentName?_shorter {cs name rest : List Char} (found : environmentName? cs = some (name, rest)) :
    rest.length < cs.length := by
  rw [(environmentName?_eq_some_iff.mp found).2]
  simp
  omega

/-- A text with each reference to the environment replaced by the value of its name. -/
def filled (value : String → String) : List Char → List Char
  | [] => []
  | c :: cs =>
    match found : environmentName? (c :: cs) with
    | some (name, rest) =>
      have : rest.length < (c :: cs).length := environmentName?_shorter found
      (value (String.ofList name)).toList ++ filled value rest
    | none => c :: filled value cs
termination_by cs => cs.length
decreasing_by
  · exact this
  · exact Nat.lt_succ_self _

namespace Relocator

variable {relocator : Relocator} {configuration : ProjectConfiguration} {text : String}

/-- Whether the text of a directory can be read back: its references are complete, and neither their names nor their
values hold a character that means something else in a written directory. -/
structure Readable (relocator : Relocator) (configuration : ProjectConfiguration) (text : String) : Prop where
  closed : Macro.Closed text.toList
  names : ∀ name ∈ Macro.names text, '\\' ∉ name.toList ∧ '\x7d' ∉ name.toList
  values : ∀ name ∈ Macro.names text, '$' ∉ (relocator.macroValue configuration name).toList

def slashedValue (relocator : Relocator) (configuration : ProjectConfiguration) (name : String) : String :=
  Text.slashed (relocator.macroValue configuration name)

def ReadablePiece (relocator : Relocator) (configuration : ProjectConfiguration) : Macro.Piece → Prop
  | .plain c => c ≠ '$'
  | .reference name => Macro.IsName name ∧ '\\' ∉ name ∧ '\x7d' ∉ name ∧
      '$' ∉ (relocator.macroValue configuration (String.ofList name)).toList

variable {piece : Macro.Piece}

theorem Readable.pieces (readable : relocator.Readable configuration text) :
    ∀ piece ∈ Macro.pieces (Text.trim text).toList, relocator.ReadablePiece configuration piece := by
  obtain ⟨closed, named, -⟩ := readable.closed.trim
  intro piece member
  have whole := closed.whole piece member
  cases piece with
  | plain c => exact whole
  | reference name =>
    have listed : String.ofList name ∈ Macro.names text := by
      rw [← named, Macro.names_eq, List.mem_filterMap]
      exact ⟨_, member, rfl⟩
    have bare := readable.names _ listed
    rw [String.toList_ofList] at bare
    exact ⟨whole, bare.1, bare.2, readable.values _ listed⟩

end Relocator

namespace Path

theorem mem_join {base relative : String} {c : Char} (member : c ∈ (join base relative).toList) :
    c = '/' ∨ c ∈ base.toList ∨ c ∈ relative.toList := by
  unfold join at member
  split at member
  next => exact .inr (.inr member)
  next =>
    split at member
    next => exact .inr (.inl member)
    next =>
      rw [String.toList_append, String.toList_append, String.toList_ofList, List.mem_append, List.mem_append] at member
      rcases member with (inside | slash) | inside
      · exact .inr (.inl (mem_of_mem_stripEnd inside))
      · exact .inl (by simpa using slash)
      · exact .inr (.inr inside)

end Path

namespace Relocator

variable {parts : List Macro.Piece}

/-- Where a written directory leads to: behind a variable for the target or the solution, or from the directory of the
target, with the values of macros for references to the environment. -/
def denoted (relocator : Relocator) (configuration : ProjectConfiguration) (written : String) : String :=
  match Text.after? currentSourceDirectory.toList written.toList with
  | some rest => Path.normalize (relocator.targetDirectory ++ String.ofList rest)
  | none =>
    match Text.after? sourceDirectory.toList written.toList with
    | some rest => Path.normalize (relocator.sourceRoot ++ String.ofList rest)
    | none => relocator.anchor (String.ofList (filled (relocator.slashedValue configuration) written.toList))

section

variable {relocator : Relocator} {configuration : ProjectConfiguration} {written rest : String}

end

section

variable {evaluate : ProjectConfiguration → String → String} {target root path place : String}
  {configuration : ProjectConfiguration}

end

section

variable {relocator : Relocator} {configuration : ProjectConfiguration} {text : String}

end

/-! A directory as a whole. -/

theorem anchor_between {evaluate : ProjectConfiguration → String → String} (target root path : String) :
    (between evaluate target root).anchor path =
      Path.canonical (Path.join (Path.canonical target) (Text.slashed path)) := by
  have slashless : '\\' ∉ (Path.join (Path.canonical target) (Text.slashed path)).toList := by
    intro member
    rcases Path.mem_join member with slash | inside | inside
    · exact absurd slash (by decide)
    · rw [Path.toList_canonical] at inside
      exact Path.Canonical.backslash_notMem target inside
    · exact (Path.mem_slashed inside).1 rfl
  rw [Path.canonical, Path.slashed_eq_self slashless]
  rfl

section

variable {evaluate : ProjectConfiguration → String → String} {target root text : String}
  {configuration : ProjectConfiguration}

end

end Relocator

end Listfile

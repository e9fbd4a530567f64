import Listfile.Proofs.MacroReferences
import Listfile.Proofs.RelativePaths
import Listfile.Snapshot.Evaluation

/-!
Macros without a value: a written directory refers to the environment for each of them, unless its value is a path
from a root that lies below the target or the solution.
-/

namespace Listfile

namespace Text

variable {drop : Char → Bool} {part cs : List Char}

theorem infix_dropWhile (inside : part <:+: cs) (kept : ∀ c ∈ part.head?, drop c = false) :
    part <:+: cs.dropWhile drop := by
  obtain ⟨front, behind, rfl⟩ := inside
  cases part with
  | nil => exact List.nil_infix
  | cons c rest =>
    have stops : drop c = false := kept c rfl
    rw [List.append_assoc, List.dropWhile_append]
    split
    next =>
      rw [List.cons_append, List.dropWhile_cons_of_neg (by simp [stops]), ← List.cons_append]
      exact (List.prefix_append _ _).isInfix
    next => exact ⟨front.dropWhile drop, behind, List.append_assoc ..⟩

theorem infix_stripEnd (inside : part <:+: cs) (kept : ∀ c ∈ part.getLast?, drop c = false) :
    part <:+: stripEnd drop cs := by
  rw [stripEnd, ← List.reverse_infix, List.reverse_reverse]
  refine infix_dropWhile (List.reverse_infix.mpr inside) fun c last => kept c ?_
  rwa [List.head?_reverse] at last

theorem infix_strip (inside : part <:+: cs) (first : ∀ c ∈ part.head?, drop c = false)
    (last : ∀ c ∈ part.getLast?, drop c = false) : part <:+: strip drop cs :=
  infix_stripEnd (infix_dropWhile inside first) last

theorem infix_slashed {text : String} (inside : part <:+: text.toList) (slashless : '\\' ∉ part) :
    part <:+: (slashed text).toList := by
  have kept : part.map (fun c => if c = '\\' then '/' else c) = part := by
    refine (List.map_congr_left fun c member => if_neg ?_).trans (List.map_id _)
    rintro rfl
    exact slashless member
  rw [slashed, replaceChar, String.toList_map, ← kept]
  exact inside.map _

theorem infix_quoteIfBlank {text : String} (inside : part <:+: text.toList) :
    part <:+: (quoteIfBlank text).toList := by
  unfold quoteIfBlank
  split
  next =>
    rw [String.toList_append, String.toList_append]
    exact inside.trans ⟨_, _, rfl⟩
  next => exact inside

end Text

namespace Macro

theorem expand_congr {value other : String → String} {text : String}
    (same : ∀ name ∈ names text, value name = other name) : expand value text = expand other text := by
  apply String.toList_inj.mp
  rw [toList_expand, toList_expand]
  apply List.flatMap_congr
  intro piece member
  cases piece with
  | plain c => rfl
  | reference name =>
    have named : String.ofList name ∈ names text := by
      rw [names_eq]
      exact List.mem_filterMap.mpr ⟨_, member, rfl⟩
    exact congrArg String.toList (same _ named)

theorem infix_expand {value : String → String} {name text : String} (named : name ∈ names text) :
    (value name).toList <:+: (expand value text).toList := by
  rw [names_eq, List.mem_filterMap] at named
  obtain ⟨piece, member, same⟩ := named
  obtain ⟨before, behind, split⟩ := List.append_of_mem member
  cases piece with
  | plain c => simp [Piece.name?] at same
  | reference own =>
    obtain rfl : String.ofList own = name := by simpa [Piece.name?] using same
    rw [toList_expand, split, List.flatMap_append, List.flatMap_cons, ← List.append_assoc]
    exact ⟨_, _, rfl⟩

end Macro

namespace Relocator

variable {relocator : Relocator} {configuration : ProjectConfiguration} {text name : String}

def partlyExpanded (relocator : Relocator) (configuration : ProjectConfiguration) (text : String) : String :=
  Text.slashed (relocator.expandIdeMacros configuration (Text.trim text))

/-- Whether a macro of the text has no value and is none of the development environment's own. -/
structure LeavesOpen (relocator : Relocator) (configuration : ProjectConfiguration) (text name : String) : Prop where
  named : name ∈ Macro.names text
  slashless : '\\' ∉ name.toList
  foreign : isIdeMacro name = false
  blank : Text.allBlank (relocator.macroValue configuration name) = true

def value (relocator : Relocator) (configuration : ProjectConfiguration) (text : String) : String :=
  Text.trim (relocator.evaluate configuration text)

/-- Whether the value of a text is a path from a root and lies below the target or the solution. -/
def IsRootedInside (relocator : Relocator) (configuration : ProjectConfiguration) (text : String) : Prop :=
  Path.isRooted (relocator.value configuration text) = true ∧
    ∃ base ∈ [relocator.targetDirectory, relocator.sourceRoot], ∃ rest,
      Path.LiesBelow base (relocator.anchor (relocator.value configuration text)) rest

theorem LeavesOpen.hasUnresolved (opened : relocator.LeavesOpen configuration text name) :
    relocator.hasUnresolved configuration text = true :=
  List.any_eq_true.mpr ⟨name, opened.named, opened.blank⟩

theorem belowSourceDirectories?_isSome_iff {path : String} :
    (relocator.belowSourceDirectories? path).isSome = true ↔
      ∃ base ∈ [relocator.targetDirectory, relocator.sourceRoot], ∃ rest, Path.LiesBelow base path rest := by
  have inside (base : String) :
      (∃ rest, Path.LiesBelow base path rest) ↔ (Path.relativeTo? path base).isSome = true := by
    rw [← not_iff_not, not_exists, ← Path.relativeTo?_eq_none_iff, Option.not_isSome_iff_eq_none]
  simp only [List.mem_cons, List.not_mem_nil, or_false, exists_eq_or_imp, exists_eq_left, inside]
  unfold belowSourceDirectories?
  cases Path.relativeTo? path relocator.targetDirectory <;> simp

/-- A path below the target or the solution as it is written, from the variable for the nearer of the two. -/
inductive FromNearest (relocator : Relocator) (path : String) : String → Prop
  | target {rest : List String} (inside : Path.LiesBelow relocator.targetDirectory path rest) :
      FromNearest relocator path (below currentSourceDirectory ("/".intercalate rest))
  | solution {rest : List String} (outside : ∀ rest, ¬ Path.LiesBelow relocator.targetDirectory path rest)
      (inside : Path.LiesBelow relocator.sourceRoot path rest) :
      FromNearest relocator path (below sourceDirectory ("/".intercalate rest))

theorem fromNearest_of_eq_some {path place : String} (found : relocator.belowSourceDirectories? path = some place) :
    relocator.FromNearest path place := by
  unfold belowSourceDirectories? at found
  split at found
  next relative inside =>
    obtain ⟨rest, below, rfl⟩ := Path.relativeTo?_eq_some_iff.mp inside
    exact Option.some.inj found ▸ .target below
  next outside =>
    obtain ⟨relative, inside, rfl⟩ := Option.map_eq_some_iff.mp found
    obtain ⟨rest, below, rfl⟩ := Path.relativeTo?_eq_some_iff.mp inside
    exact .solution (Path.relativeTo?_eq_none_iff.mp outside) below

theorem belowSourceDirectories?_of_place? {value place : String}
    (found : relocator.place? configuration text value = some place) :
    relocator.belowSourceDirectories? (relocator.anchor value) = some place := by
  unfold place? at found
  split at found
  next => exact found
  next => simp at found

theorem LeavesOpen.place?_isSome_iff (opened : relocator.LeavesOpen configuration text name) :
    (relocator.place? configuration text (relocator.value configuration text)).isSome = true ↔
      relocator.IsRootedInside configuration text := by
  rw [IsRootedInside, ← belowSourceDirectories?_isSome_iff, place?, opened.hasUnresolved]
  cases Path.isRooted (relocator.value configuration text) <;> simp

theorem LeavesOpen.mem_names (opened : relocator.LeavesOpen configuration text name) :
    name ∈ Macro.names (relocator.partlyExpanded configuration text) := by
  obtain ⟨isName, inside⟩ := Macro.mem_names_iff.mp opened.named
  have ends : (Macro.reference name).toList.head? = some '$' ∧ (Macro.reference name).toList.getLast? = some ')' := by
    rw [Macro.toList_reference, Macro.Piece.source]
    exact ⟨rfl, List.getLast?_concat ..⟩
  have trimmed : (Macro.reference name).toList <:+: (Text.trim text).toList := by
    rw [Text.toList_trim]
    refine Text.infix_strip inside ?_ ?_
    · rw [ends.1]
      rintro c ⟨⟩
      decide
    · rw [ends.2]
      rintro c ⟨⟩
      decide
  have expanded : (relocator.expandIdeMacro configuration name).toList <:+:
      (Macro.expand (relocator.expandIdeMacro configuration) (Text.trim text)).toList :=
    Macro.infix_expand (Macro.mem_names_iff.mpr ⟨isName, trimmed⟩)
  rw [expandIdeMacro, opened.foreign] at expanded
  have slashless : '\\' ∉ (Macro.reference name).toList := by
    simpa [Macro.toList_reference, Macro.Piece.source] using opened.slashless
  exact Macro.mem_names_iff.mpr ⟨isName, Text.infix_slashed expanded slashless⟩

def finished (directory : RelocatedDirectory) : RelocatedDirectory :=
  ⟨Text.quoteIfBlank (dropTrailingSlashes directory.text), directory.environment⟩

theorem directory?_eq (relocator : Relocator) (configuration : ProjectConfiguration) (text : String) :
    relocator.directory? configuration text =
      if relocator.value configuration text = "" then none
      else some (finished (relocator.relocated configuration text (relocator.value configuration text))) := rfl

theorem relocated_of_isSome {value : String} (placed : (relocator.place? configuration text value).isSome = true) :
    ∃ place, relocator.place? configuration text value = some place ∧
      relocator.relocated configuration text value = ⟨place, []⟩ := by
  obtain ⟨place, found⟩ := Option.isSome_iff_exists.mp placed
  exact ⟨place, found, by rw [relocated, found]⟩

theorem relocated_of_not_isSome {value : String}
    (placeless : ¬ (relocator.place? configuration text value).isSome = true) :
    relocator.relocated configuration text value =
      toEnvironment (relocator.partlyExpanded configuration text) := by
  rw [relocated, Option.not_isSome_iff_eq_none.mp placeless]
  rfl

theorem infix_finished_toEnvironment (named : name ∈ Macro.names text) :
    (environmentReference name).toList <:+: (finished (toEnvironment text)).text.toList := by
  have last : (environmentReference name).toList.getLast? = some '\x7d' := by
    rw [toList_environmentReference, ← List.cons_append, ← List.append_assoc, List.getLast?_concat]
  simp only [finished, toEnvironment]
  refine Text.infix_quoteIfBlank ?_
  rw [dropTrailingSlashes, String.toList_ofList]
  refine Text.infix_stripEnd (Macro.infix_expand named) ?_
  rw [last]
  rintro c ⟨⟩
  decide

/-- A macro that a text leaves open is left to the environment, unless the value of the text is a path from a root
and lies below the target or the solution. Such a path is written as it evaluates, from the variable for the nearer of
the two, and nothing of it is left to the environment. -/
theorem open_macros_are_left_to_environment {directory : RelocatedDirectory}
    (written : relocator.directory? configuration text = some directory)
    (opened : relocator.LeavesOpen configuration text name) :
    (¬ relocator.IsRootedInside configuration text →
      (environmentReference name).toList <:+: directory.text.toList ∧ name ∈ directory.environment) ∧
    (relocator.IsRootedInside configuration text → directory.environment = [] ∧
      ∃ place, relocator.FromNearest (relocator.anchor (relocator.value configuration text)) place ∧
        directory.text = Text.quoteIfBlank (dropTrailingSlashes place)) := by
  rw [directory?_eq] at written
  split at written
  next => simp at written
  next =>
    rw [← Option.some.inj written, ← opened.place?_isSome_iff]
    constructor
    · intro placeless
      rw [relocated_of_not_isSome placeless]
      exact ⟨infix_finished_toEnvironment opened.mem_names, opened.mem_names⟩
    · intro placed
      obtain ⟨place, found, same⟩ := relocated_of_isSome placed
      have inside := belowSourceDirectories?_of_place? found
      rw [same]
      refine ⟨rfl, place, fromNearest_of_eq_some inside, ?_⟩
      rw [finished]

end Relocator

/-! A target in `C:/work/app`, and no macro with a value but those of every project. -/

namespace Sample

def bareSnapshot : Snapshot := { solution := { name := "work", directory := "C:\\work" } }

def bareRelocator : Relocator := .between (bareSnapshot.evaluate "app") "C:\\work\\app" "C:\\work"

def kitDirectory : RelocatedDirectory := ⟨"../$ENV\x7bKIT\x7d/include", ["KIT"]⟩

def ownDirectory : RelocatedDirectory := ⟨"$\x7bCMAKE_CURRENT_SOURCE_DIR\x7d/include", []⟩

/-- What the two directories of the sample evaluate to, and where the values lead. -/
theorem bareRelocator_values :
    bareRelocator.directory? {} "..\\$(KIT)\\include" = some kitDirectory ∧
      Path.isRooted (bareRelocator.value {} "..\\$(KIT)\\include") = false ∧
      bareRelocator.value {} "C:\\work\\app\\$(KIT)\\include" = "C:\\work\\app\\\\include" ∧
      Path.isRooted "C:\\work\\app\\\\include" = true ∧
      bareRelocator.anchor "C:\\work\\app\\\\include" = "C:/work/app/include" ∧
      bareRelocator.belowSourceDirectories? "C:/work/app/include" = some ownDirectory.text ∧
      Relocator.finished ownDirectory = ownDirectory := by
  decide +kernel

end Sample

namespace Relocator

theorem leavesOpen_samples :
    Sample.bareRelocator.LeavesOpen {} "..\\$(KIT)\\include" "KIT" ∧
      Sample.bareRelocator.LeavesOpen {} "C:\\work\\app\\$(KIT)\\include" "KIT" := by
  constructor <;> constructor <;> decide +kernel

theorem isRootedInside_own : Sample.bareRelocator.IsRootedInside {} "C:\\work\\app\\$(KIT)\\include" := by
  obtain ⟨-, -, own, rooted, anchored, placed, -⟩ := Sample.bareRelocator_values
  rw [IsRootedInside, own, ← belowSourceDirectories?_isSome_iff, anchored, placed]
  exact ⟨rooted, rfl⟩

theorem directory?_own :
    Sample.bareRelocator.directory? {} "C:\\work\\app\\$(KIT)\\include" = some Sample.ownDirectory := by
  obtain ⟨-, -, own, rooted, anchored, placed, finished⟩ := Sample.bareRelocator_values
  have relocated : Sample.bareRelocator.relocated {} "C:\\work\\app\\$(KIT)\\include"
      "C:\\work\\app\\\\include" = Sample.ownDirectory := by
    rw [relocated, place?, rooted, Bool.true_or, if_pos rfl, anchored, placed]
    rfl
  rw [directory?_eq, own, if_neg (by decide), relocated, finished]

theorem kit_is_left_to_environment :
    Sample.bareRelocator.directory? {} "..\\$(KIT)\\include" = some Sample.kitDirectory ∧
      ¬ Sample.bareRelocator.IsRootedInside {} "..\\$(KIT)\\include" ∧
      (environmentReference "KIT").toList <:+: Sample.kitDirectory.text.toList ∧
      "KIT" ∈ Sample.kitDirectory.environment ∧
      Sample.bareRelocator.IsRootedInside {} "C:\\work\\app\\$(KIT)\\include" ∧
      ∃ place, Sample.bareRelocator.FromNearest (Sample.bareRelocator.anchor "C:\\work\\app\\\\include") place ∧
        Sample.ownDirectory.text = Text.quoteIfBlank (dropTrailingSlashes place) := by
  obtain ⟨kit, relative, value, -⟩ := Sample.bareRelocator_values
  have outside : ¬ Sample.bareRelocator.IsRootedInside {} "..\\$(KIT)\\include" := fun inside =>
    Bool.false_ne_true (relative.symm.trans inside.1)
  obtain ⟨occurs, listed⟩ := (open_macros_are_left_to_environment kit leavesOpen_samples.1).1 outside
  have own := ((open_macros_are_left_to_environment directory?_own leavesOpen_samples.2).2 isRootedInside_own).2
  rw [value] at own
  exact ⟨kit, outside, occurs, listed, isRootedInside_own, own⟩

/-- A macro without a value is left out of a path from a root that lies below the target. -/
theorem rooted_directory_drops_open_macro :
    Sample.bareRelocator.LeavesOpen {} "C:\\work\\app\\$(KIT)\\include" "KIT" ∧
      Sample.bareRelocator.directory? {} "C:\\work\\app\\$(KIT)\\include" = some Sample.ownDirectory ∧
      ¬ (environmentReference "KIT").toList <:+: Sample.ownDirectory.text.toList ∧
      "KIT" ∉ Sample.ownDirectory.environment := by
  have letter : 'V' ∈ (environmentReference "KIT").toList ∧ 'V' ∉ Sample.ownDirectory.text.toList := by
    decide +kernel
  exact ⟨leavesOpen_samples.2, directory?_own, fun inside => letter.2 (inside.subset letter.1), by decide⟩

end Relocator

end Listfile

import Listfile.Proofs.NormalForms
import Listfile.Proofs.RelocatedDirectories

/-!
The shape of written directories: no backslash, no slash behind, and when nothing is left of a directory.
-/

namespace Listfile

theorem Text.stripEnd_eq_nil_iff {drop : Char → Bool} {cs : List Char} :
    stripEnd drop cs = [] ↔ ∀ c ∈ cs, drop c = true := by
  rw [stripEnd, List.reverse_eq_nil_iff, List.dropWhile_eq_nil_iff]
  simp

namespace Relocator

variable {directory : RelocatedDirectory} {text : String}

/-! The last touches. -/

theorem finished_shape (slashless : '\\' ∉ directory.text.toList) :
    '\\' ∉ (finished directory).text.toList ∧ (finished directory).text.toList.getLast? ≠ some '/' := by
  have stripped : '\\' ∉ (dropTrailingSlashes directory.text).toList := by
    rw [dropTrailingSlashes, String.toList_ofList]
    exact fun member => slashless (Path.mem_of_mem_stripEnd member)
  simp only [finished]
  unfold Text.quoteIfBlank
  split
  next =>
    rw [String.toList_append, String.toList_append]
    exact ⟨by simpa using stripped, by rw [List.getLast?_append_of_ne_nil _ (by decide)]; decide⟩
  next =>
    obtain ⟨-, -, last⟩ := Path.exists_stripEnd directory.text.toList
    exact ⟨stripped, by rwa [dropTrailingSlashes, String.toList_ofList]⟩

theorem finished_eq_empty_iff : (finished directory).text = "" ↔ ∀ c ∈ directory.text.toList, c = '/' := by
  have stripped : dropTrailingSlashes directory.text = "" ↔ ∀ c ∈ directory.text.toList, c = '/' := by
    rw [dropTrailingSlashes, String.ofList_eq_empty_iff, Text.stripEnd_eq_nil_iff]
    simp
  rw [← stripped]
  simp only [finished]
  unfold Text.quoteIfBlank
  split
  next blank =>
    refine iff_of_false (fun empty => ?_) fun empty => ?_
    · simpa using congrArg String.toList empty
    · simp [empty] at blank
  next => rfl

/-! What is left to the environment. -/

theorem backslash_notMem_toEnvironment (slashless : '\\' ∉ text.toList) :
    '\\' ∉ (toEnvironment text).text.toList := by
  intro member
  simp only [toEnvironment] at member
  rw [Macro.toList_expand, List.mem_flatMap] at member
  obtain ⟨piece, inside, member⟩ := member
  have own : '\\' ∈ piece.source := by
    cases piece with
    | plain c => exact member
    | reference name => simpa [Macro.Piece.written, toList_environmentReference, Macro.Piece.source] using member
  exact slashless (Macro.mem_of_mem_source inside own)

theorem slashes_toEnvironment_iff :
    (∀ c ∈ (toEnvironment text).text.toList, c = '/') ↔ ∀ c ∈ text.toList, c = '/' := by
  have own (piece : Macro.Piece) :
      (∀ c ∈ piece.written environmentReference, c = '/') ↔ ∀ c ∈ piece.source, c = '/' := by
    cases piece with
    | plain c => rfl
    | reference name => simp [Macro.Piece.written, toList_environmentReference, Macro.Piece.source]
  simp only [toEnvironment]
  rw [Macro.toList_expand]
  conv_rhs => rw [← Macro.flatMap_source_pieces text.toList]
  simp only [List.forall_mem_flatMap, own]

/-! Places below the target and the solution. -/

section

variable {evaluate : ProjectConfiguration → String → String} {target root : String}
  {configuration : ProjectConfiguration}

theorem below_shape {base path variableName : String} {rest : List String} (own : '\\' ∉ variableName.toList)
    (dollar : '$' ∈ variableName.toList)
    (lies : Path.LiesBelow (Path.canonical base) (Path.canonical path) rest) :
    '\\' ∉ (below variableName ("/".intercalate rest)).toList ∧
      '$' ∈ (below variableName ("/".intercalate rest)).toList := by
  obtain ⟨left, -, rfl, -, slashless⟩ := lies.exists_own
  rw [Path.intercalate_map_ofList]
  unfold below
  split
  next => exact ⟨own, dollar⟩
  next =>
    simp only [String.toList_append, String.toList_ofList, List.mem_append, not_or]
    exact ⟨⟨⟨own, by decide⟩, slashless⟩, .inl (.inl dollar)⟩

theorem place?_shape {value place : String}
    (found : (between evaluate target root).place? configuration text value = some place) :
    '\\' ∉ place.toList ∧ '$' ∈ place.toList := by
  have inside := belowSourceDirectories?_of_place? found
  rw [anchor_between] at inside
  cases fromNearest_of_eq_some inside with
  | target below => exact below_shape (by decide) (by decide) below
  | solution _ below => exact below_shape (by decide) (by decide) below

/-- Whether a directory is made of slashes alone, once the macros of the development environment are evaluated, and
has no place below the target or the solution. -/
structure IsBare (relocator : Relocator) (configuration : ProjectConfiguration) (text : String) : Prop where
  slashes : ∀ c ∈ (relocator.partlyExpanded configuration text).toList, c = '/'
  placeless : Path.isRooted (relocator.value configuration text) = true ∨
      relocator.hasUnresolved configuration text = false →
    ∀ base ∈ [relocator.targetDirectory, relocator.sourceRoot], ∀ rest,
      ¬ Path.LiesBelow base (relocator.anchor (relocator.value configuration text)) rest

theorem place?_eq_none_iff {relocator : Relocator} {value : String} :
    relocator.place? configuration text value = none ↔
      (Path.isRooted value = true ∨ relocator.hasUnresolved configuration text = false →
        ∀ base ∈ [relocator.targetDirectory, relocator.sourceRoot], ∀ rest,
          ¬ Path.LiesBelow base (relocator.anchor value) rest) := by
  have outside : relocator.belowSourceDirectories? (relocator.anchor value) = none ↔
      ∀ base ∈ [relocator.targetDirectory, relocator.sourceRoot], ∀ rest,
        ¬ Path.LiesBelow base (relocator.anchor value) rest := by
    rw [← Option.not_isSome_iff_eq_none, belowSourceDirectories?_isSome_iff]
    simp only [not_exists, not_and]
  unfold place?
  rw [← outside]
  split
  next placed =>
    rw [Bool.or_eq_true, Bool.not_eq_true'] at placed
    exact (imp_iff_right placed).symm
  next placed =>
    rw [Bool.or_eq_true, Bool.not_eq_true'] at placed
    exact iff_of_true rfl fun either => absurd either placed

theorem relocated_shape (evaluate : ProjectConfiguration → String → String) (target root : String)
    (configuration : ProjectConfiguration) (text : String) :
    '\\' ∉ ((between evaluate target root).relocated configuration text
      ((between evaluate target root).value configuration text)).text.toList ∧
    ((∀ c ∈ ((between evaluate target root).relocated configuration text
      ((between evaluate target root).value configuration text)).text.toList, c = '/') ↔
        (between evaluate target root).IsBare configuration text) := by
  by_cases placed : ((between evaluate target root).place? configuration text
      ((between evaluate target root).value configuration text)).isSome = true
  · -- A place starts at a variable, and its dollar sign is not trimmed away.
    obtain ⟨place, found, same⟩ := relocated_of_isSome placed
    obtain ⟨slashless, dollar⟩ := place?_shape found
    rw [same]
    refine ⟨slashless, iff_of_false (fun slashes => absurd (slashes '$' dollar) (by decide)) fun bare => ?_⟩
    simp [place?_eq_none_iff.mpr bare.placeless] at placed
  · have slashless : '\\' ∉ ((between evaluate target root).partlyExpanded configuration text).toList := fun member =>
      (Path.mem_slashed member).1 rfl
    have placeless := place?_eq_none_iff.mp (Option.not_isSome_iff_eq_none.mp placed)
    rw [relocated_of_not_isSome placed, slashes_toEnvironment_iff]
    exact ⟨backslash_notMem_toEnvironment slashless, fun slashes => ⟨slashes, placeless⟩, IsBare.slashes⟩

theorem directory?_shape {directory : RelocatedDirectory}
    (written : (between evaluate target root).directory? configuration text = some directory) :
    '\\' ∉ directory.text.toList ∧ directory.text.toList.getLast? ≠ some '/' ∧
      (directory.text = "" ↔ (between evaluate target root).IsBare configuration text) := by
  rw [directory?_eq] at written
  split at written
  next => simp at written
  next =>
    obtain ⟨slashless, slashes⟩ := relocated_shape evaluate target root configuration text
    obtain ⟨kept, last⟩ := finished_shape slashless
    rw [← Option.some.inj written]
    exact ⟨kept, last, finished_eq_empty_iff.trans slashes⟩

end

/-- Written directories have no backslashes, and no slash behind. They are empty only for bare ones, and those are what
empty entries of a list come from. -/
theorem written_directories_are_shaped (evaluate : ProjectConfiguration → String → String) (target root : String)
    (configuration : ProjectConfiguration) :
    (∀ text directory, (between evaluate target root).directory? configuration text = some directory →
      '\\' ∉ directory.text.toList ∧ directory.text.toList.getLast? ≠ some '/' ∧
        (directory.text = "" ↔ (between evaluate target root).IsBare configuration text)) ∧
    ∀ texts, "" ∈ ((between evaluate target root).directories configuration texts).map (·.text) ↔
      ∃ text ∈ texts, (between evaluate target root).value configuration text ≠ "" ∧
        (between evaluate target root).IsBare configuration text := by
  refine ⟨fun text directory => directory?_shape, fun texts => ?_⟩
  simp only [directories, List.mem_map, List.mem_filterMap]
  constructor
  · rintro ⟨directory, ⟨text, member, written⟩, empty⟩
    refine ⟨text, member, fun none => ?_, (directory?_shape written).2.2.mp empty⟩
    simp [directory?_eq, none] at written
  · rintro ⟨text, member, filled, bare⟩
    have written := directory?_eq (between evaluate target root) configuration text
    rw [if_neg filled] at written
    exact ⟨_, ⟨text, member, written⟩, (directory?_shape written).2.2.mpr bare⟩

theorem kit_is_shaped :
    Sample.bareRelocator.directory? {} "..\\$(KIT)\\include" = some Sample.kitDirectory ∧
      '\\' ∉ Sample.kitDirectory.text.toList ∧ Sample.kitDirectory.text.toList.getLast? ≠ some '/' ∧
      ¬ Sample.bareRelocator.IsBare {} "..\\$(KIT)\\include" := by
  obtain ⟨slashless, last, bare⟩ := (written_directories_are_shaped (Sample.bareSnapshot.evaluate "app")
    "C:\\work\\app" "C:\\work" {}).1 _ _ Sample.bareRelocator_values.1
  exact ⟨Sample.bareRelocator_values.1, slashless, last, fun slashes => absurd (bare.mpr slashes) (by decide)⟩

/-- The root of a file system lies outside of the solution, and nothing is left of it. -/
theorem root_is_written_empty : Sample.bareRelocator.directory? {} "/" = some ⟨"", []⟩ ∧
    "" ∈ (Sample.bareRelocator.directories {} ["/"]).map (·.text) := by
  decide +kernel

end Relocator

end Listfile

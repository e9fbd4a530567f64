import Listfile.Proofs.PrecompiledHeaders

/-!
Settings without a value in the descriptor of a target: nothing of them is written, neither a line nor the command or
the title around lines that are all left out.
-/

namespace Listfile

/-! A description without its empty values. -/

def filledEntries {α : Type} (counts : α → Bool) (entries : List (String × α)) : List (String × α) :=
  entries.filter fun entry => counts entry.2

def isFilled {α : Type} (values : List α) : Bool := !values.isEmpty

def isNonempty (text : String) : Bool := text ≠ ""

/-- Overrides with the values that count, but for those with none. -/
def filledOverrides {α : Type} (counts : α → Bool) (overrides : List (Override α)) : List (Override α) :=
  (overrides.map fun own => ⟨own.file, filledEntries counts own.values⟩).filter fun own => isFilled own.values

def PchPlan.filled : PchPlan → PchPlan
  | .targetWide defaults overrides =>
    .targetWide (filledEntries isNonempty defaults) (filledOverrides isNonempty overrides)
  | .perFile groups =>
    .perFile ((groups.map fun group => ⟨group.files, filledEntries isNonempty group.flags⟩).filter
      fun group => isFilled group.flags)

/-- The description without its empty values, and without overrides and groups that have no others. -/
def TargetDescription.filled (description : TargetDescription) : TargetDescription where
  target := description.target
  includeDirectories := filledEntries isFilled description.includeDirectories
  definitions := filledEntries isFilled description.definitions
  sdlChecks := filledEntries Option.isSome description.sdlChecks
  libraryDirectories := filledEntries isFilled description.libraryDirectories
  linkLibraries := filledEntries isFilled description.linkLibraries
  fileIncludeDirectories := filledOverrides isFilled description.fileIncludeDirectories
  fileDefinitions := filledOverrides isFilled description.fileDefinitions
  fileSdlChecks := filledOverrides (fun _ => true) description.fileSdlChecks
  pch := description.pch.filled
  environmentVariables := description.environmentVariables

/-! What is left out says nothing. -/

section

variable {α β : Type} {counts : α → Bool}

theorem join_map_filter {keep : β → Bool} {write : β → String} (silent : ∀ x, keep x = false → write x = "")
    (l : List β) : String.join ((l.filter keep).map write) = String.join (l.map write) := by
  induction l with
  | nil => rfl
  | cons x rest ih =>
    rw [List.map_cons, String.join_cons, ← ih, List.filter_cons]
    split
    next => rw [List.map_cons, String.join_cons]
    next dropped => rw [silent x (Bool.not_eq_true _ ▸ dropped), String.empty_append]

theorem configExpressions_filledEntries {write : α → String} (silent : ∀ value, counts value = false → write value = "")
    (entries : List (String × α)) :
    configExpressions ((filledEntries counts entries).map fun entry => (entry.1, write entry.2)) =
      configExpressions (entries.map fun entry => (entry.1, write entry.2)) := by
  unfold configExpressions filledEntries
  rw [List.filter_map, List.filter_map, List.filter_filter]
  congr 2
  apply List.filter_congr
  intro entry _
  cases counted : counts entry.2 with
  | true => simp
  | false => simp [silent _ counted]

theorem eq_nil_of_unfilled {values : List α} (dropped : isFilled values = false) : values = [] := by
  simpa [isFilled] using dropped

theorem join_filledOverrides (write : String → List (String × α) → String) (overrides : List (Override α))
    (kept : ∀ file values, write file (filledEntries counts values) = write file values)
    (silent : ∀ file, write file [] = "") :
    String.join ((filledOverrides counts overrides).map fun own => write own.file own.values) =
      String.join (overrides.map fun own => write own.file own.values) := by
  unfold filledOverrides
  rw [join_map_filter, List.map_map]
  · simp only [Function.comp_def, kept]
  · intro own dropped
    rw [eq_nil_of_unfilled dropped]
    exact silent own.file

theorem all_filledEntries (entries : List (String × List α)) :
    (filledEntries isFilled entries).all (·.2.isEmpty) = entries.all (·.2.isEmpty) := by
  simp [filledEntries, isFilled]

end

namespace PchPlan

open PchCommand

theorem of?_filledEntries (make : List (String × String) → PchCommand) (flags : List (String × String)) :
    of? make (filledEntries isNonempty flags) = of? make flags := by
  have same : stated (filledEntries isNonempty flags) = stated flags := by
    simp [stated, filledEntries, isNonempty]
  unfold of?
  rw [same]

theorem of?_of_unfilled {make : List (String × String) → PchCommand} {flags : List (String × String)}
    (dropped : isFilled flags = false) : of? make flags = none := by
  rw [eq_nil_of_unfilled dropped]
  rfl

theorem commands_filled (plan : PchPlan) : plan.filled.commands = plan.commands := by
  have kept {β : Type} (files : β → List String) (flags : β → List (String × String)) (l : List β) :
      l.filterMap (fun x => if isFilled (filledEntries isNonempty (flags x)) then
        of? (.sources (files x)) (flags x) else none) = l.filterMap fun x => of? (.sources (files x)) (flags x) := by
    apply filterMap_congr
    intro x _
    split
    next => rfl
    next dropped =>
      rw [← of?_filledEntries]
      exact (of?_of_unfilled (Bool.not_eq_true _ ▸ dropped)).symm
  cases plan with
  | targetWide defaults overrides =>
    simp only [filled, commands, filledOverrides, of?_filledEntries, List.filterMap_filter, List.filterMap_map,
      Function.comp_def, kept (fun own : Override String => [own.file])]
  | perFile groups =>
    simp only [filled, commands, of?_filledEntries, List.filterMap_filter, List.filterMap_map, Function.comp_def,
      kept (fun group : PchGroup => group.files)]

end PchPlan

namespace Descriptor

section

variable {α : Type} {counts : α → Bool} {write : α → String}

theorem quotedExpressions_filledEntries (silent : ∀ value, counts value = false → write value = "")
    (entries : List (String × α)) :
    quotedExpressions (escaped ((filledEntries counts entries).map fun entry => (entry.1, write entry.2))) =
      quotedExpressions (escaped (entries.map fun entry => (entry.1, write entry.2))) := by
  have escapes : ∀ value, counts value = false → Text.escapeQuotes (write value) = "" :=
    fun value dropped => PchCommand.escapeQuotes_eq_empty_iff.mpr (silent value dropped)
  unfold quotedExpressions escaped
  rw [List.map_map, List.map_map]
  exact congrArg (fun expressions : List String => String.join (expressions.map fun expression =>
    "  \"" ++ expression ++ "\"\n")) (configExpressions_filledEntries escapes entries)

theorem sourceListProperty_filledEntries (silent : ∀ value, counts value = false → write value = "")
    (property file : String) (entries : List (String × α)) :
    sourceListProperty property file ((filledEntries counts entries).map fun entry => (entry.1, write entry.2)) =
      sourceListProperty property file (entries.map fun entry => (entry.1, write entry.2)) := by
  unfold sourceListProperty
  rw [quotedExpressions_filledEntries silent]

end

variable (description : TargetDescription)

theorem intercalate_of_unfilled (values : List String) (dropped : isFilled values = false) :
    ";".intercalate values = "" := by
  rw [eq_nil_of_unfilled dropped]
  rfl

theorem includeDirectories_filled : includeDirectories description.filled = includeDirectories description := by
  have target (name : String) (values : List (String × List String)) :
      targetIncludeDirectories name (filledEntries isFilled values) = targetIncludeDirectories name values := by
    have silent : ∀ directories : List String, isFilled directories = false → directoryLines directories = "" := by
      intro directories dropped
      rw [eq_nil_of_unfilled dropped]
      rfl
    unfold targetIncludeDirectories
    rw [all_filledEntries, configExpressions_filledEntries silent]
  have file (file : String) (values : List (String × List String)) :
      fileIncludeDirectories ⟨file, filledEntries isFilled values⟩ = fileIncludeDirectories ⟨file, values⟩ := by
    have silent : ∀ directories : List String, isFilled directories = false →
        ";".intercalate (directories.map unquote) = "" := by
      intro directories dropped
      rw [eq_nil_of_unfilled dropped]
      rfl
    simpa only [fileIncludeDirectories, joined, List.map_map, Function.comp_def] using
      sourceListProperty_filledEntries silent "INCLUDE_DIRECTORIES" file values
  have files := join_filledOverrides (fun file values => fileIncludeDirectories ⟨file, values⟩)
    description.fileIncludeDirectories file fun _ => rfl
  unfold includeDirectories
  exact congrArg₂ (· ++ ·) (target _ _) files

theorem definitions_filled : definitions description.filled = definitions description := by
  have files := join_filledOverrides
    (fun file values => sourceListProperty "COMPILE_DEFINITIONS" file (joined values)) description.fileDefinitions
    (sourceListProperty_filledEntries intercalate_of_unfilled "COMPILE_DEFINITIONS") fun _ => rfl
  have target := quotedExpressions_filledEntries intercalate_of_unfilled description.definitions
  unfold definitions joined
  exact congrArg₂ (fun expressions others => command _ expressions ++ others) target files

theorem sdlChecks_filled : sdlChecks description.filled = sdlChecks description := by
  have target : (filledEntries Option.isSome description.sdlChecks).filterMap
        (fun entry => entry.2.map fun enabled => (entry.1, sdlFlag enabled)) =
      description.sdlChecks.filterMap fun entry => entry.2.map fun enabled => (entry.1, sdlFlag enabled) := by
    unfold filledEntries
    rw [List.filterMap_filter]
    apply filterMap_congr
    intro entry _
    cases entry.2 <;> rfl
  have all (values : List (String × Bool)) : filledEntries (fun _ => true) values = values := List.filter_true values
  have files := join_filledOverrides
    (fun file values => sourceCompileFlags [file] (values.map fun entry => (entry.1, sdlFlag entry.2)))
    description.fileSdlChecks (fun file values => by rw [all]) fun _ => rfl
  unfold sdlChecks
  exact congrArg₂ (fun flags others => targetCompileOptions _ flags ++ others) target files

theorem precompiledHeaders_filled : precompiledHeaders description.filled = precompiledHeaders description := by
  rw [precompiledHeaders_eq, precompiledHeaders_eq]
  exact congrArg (PchCommand.sectionText _) description.pch.commands_filled

theorem libraryDirectories_filled : libraryDirectories description.filled = libraryDirectories description := by
  have options (option name : String) (values : List (String × List String)) :
      linkOptions option name (filledEntries isFilled values) = linkOptions option name values := by
    unfold linkOptions filledEntries
    rw [join_map_filter]
    intro entry dropped
    rw [libraryDirectoryLines, eq_nil_of_unfilled dropped]
    rfl
  unfold libraryDirectories
  simp only [TargetDescription.filled, all_filledEntries, options]

theorem linkLibraries_filled : linkLibraries description.filled = linkLibraries description := by
  have silent : ∀ references : List LinkReference, isFilled references = false →
      ";".intercalate (references.map (·.text)) = "" := by
    intro references dropped
    rw [eq_nil_of_unfilled dropped]
    rfl
  unfold linkLibraries joined
  rw [List.map_map, List.map_map]
  exact congrArg (command _) (quotedExpressions_filledEntries silent description.linkLibraries)

theorem ofTarget_filled : ofTarget description.filled = ofTarget description := by
  unfold ofTarget body
  rw [includeDirectories_filled, definitions_filled, sdlChecks_filled, precompiledHeaders_filled,
    libraryDirectories_filled, linkLibraries_filled]
  rfl

/-! Which sections there are. -/

inductive Category where
  | includeDirectories
  | definitions
  | sdlChecks
  | precompiledHeaders
  | libraryDirectories
  | linkLibraries

namespace Category

def all : List Category :=
  [includeDirectories, definitions, sdlChecks, precompiledHeaders, libraryDirectories, linkLibraries]

def title : Category → String
  | includeDirectories => "Additional include directories"
  | definitions => "Preprocessor definitions"
  | sdlChecks => "SDL check"
  | precompiledHeaders => "Precompiled header files"
  | libraryDirectories => "Additional library directories"
  | linkLibraries => "Link libraries"

def code (description : TargetDescription) : Category → String
  | includeDirectories => Descriptor.includeDirectories description
  | definitions => Descriptor.definitions description
  | sdlChecks => Descriptor.sdlChecks description
  | precompiledHeaders => Descriptor.precompiledHeaders description
  | libraryDirectories => Descriptor.libraryDirectories description
  | linkLibraries => Descriptor.linkLibraries description

end Category

def declarationAndOutputs (target : Target) : String :=
  configurationTypes target.configurationNames ++ useOfMfc target.useOfMfc ++ declaration target ++ "\n" ++
    titled "Output file name" (outputNames target)

theorem body_eq : body description = declarationAndOutputs description.target ++
    String.join (Category.all.map fun category => titled category.title (category.code description)) := by
  simp only [body, declarationAndOutputs, Category.all, Category.title, Category.code, List.map_cons, List.map_nil,
    String.join_cons, String.join_nil, String.append_empty, String.append_assoc]

/-- Whether a list is written as the empty text. -/
def IsBlank (texts : List String) : Prop := texts = [] ∨ texts = [""]

/-- Whether a description has only empty values of a kind, for the target and for its files. -/
def Category.IsSilent (description : TargetDescription) : Category → Prop
  | includeDirectories =>
    (∀ entry ∈ description.includeDirectories, entry.2 = []) ∧
      ∀ own ∈ description.fileIncludeDirectories, ∀ entry ∈ own.values, IsBlank (entry.2.map unquote)
  | definitions =>
    (∀ entry ∈ description.definitions, IsBlank entry.2) ∧
      ∀ own ∈ description.fileDefinitions, ∀ entry ∈ own.values, IsBlank entry.2
  | sdlChecks => (∀ entry ∈ description.sdlChecks, entry.2 = none) ∧ ∀ own ∈ description.fileSdlChecks, own.values = []
  | precompiledHeaders =>
    match description.pch with
    | .targetWide defaults overrides =>
      (∀ entry ∈ defaults, entry.2 = "") ∧ ∀ own ∈ overrides, ∀ entry ∈ own.values, entry.2 = ""
    | .perFile groups => ∀ group ∈ groups, ∀ entry ∈ group.flags, entry.2 = ""
  | libraryDirectories => ∀ entry ∈ description.libraryDirectories, entry.2 = []
  | linkLibraries => ∀ entry ∈ description.linkLibraries, IsBlank (entry.2.map (·.text))

theorem intercalate_eq_empty_iff {texts : List String} : ";".intercalate texts = "" ↔ IsBlank texts := by
  match texts with
  | [] => simp [IsBlank]
  | [text] => simp [IsBlank]
  | first :: second :: rest =>
    rw [String.intercalate_cons_cons, String.append_eq_empty_iff, String.append_eq_empty_iff]
    simp [IsBlank]

theorem join_eq_empty_iff {texts : List String} : String.join texts = "" ↔ ∀ text ∈ texts, text = "" := by
  induction texts with
  | nil => simp
  | cons text rest ih => rw [String.join_cons, String.append_eq_empty_iff, ih, List.forall_mem_cons]

theorem configExpressions_eq_nil_iff {pairs : List (String × String)} :
    configExpressions pairs = [] ↔ ∀ pair ∈ pairs, pair.2 = "" := by
  simp [configExpressions]

theorem quotedExpressions_eq_empty_iff {pairs : List (String × String)} :
    quotedExpressions pairs = "" ↔ ∀ pair ∈ pairs, pair.2 = "" := by
  rw [quotedExpressions, join_eq_empty_iff, ← configExpressions_eq_nil_iff]
  cases configExpressions pairs <;> simp

theorem forall_escaped_iff {pairs : List (String × String)} :
    (∀ pair ∈ escaped pairs, pair.2 = "") ↔ ∀ pair ∈ pairs, pair.2 = "" := by
  simp only [escaped, List.forall_mem_map, PchCommand.escapeQuotes_eq_empty_iff]

theorem forall_joined_iff {values : List (String × List String)} :
    (∀ pair ∈ joined values, pair.2 = "") ↔ ∀ entry ∈ values, IsBlank entry.2 := by
  simp only [joined, List.forall_mem_map, intercalate_eq_empty_iff]

theorem command_eq_empty_iff {head expressions : String} : command head expressions = "" ↔ expressions = "" := by
  unfold command
  split
  next none => simp [none]
  next filled => simp [filled]

theorem sourceListProperty_eq_empty_iff {property file : String} {values : List (String × String)} :
    sourceListProperty property file values = "" ↔ ∀ pair ∈ values, pair.2 = "" := by
  rw [sourceListProperty, command_eq_empty_iff, quotedExpressions_eq_empty_iff, forall_escaped_iff]

theorem sourceCompileFlags_eq_empty_iff {files : List String} {flags : List (String × String)} :
    sourceCompileFlags files flags = "" ↔ ∀ pair ∈ flags, pair.2 = "" := by
  rw [← forall_escaped_iff, ← configExpressions_eq_nil_iff, sourceCompileFlags]
  cases listed : configExpressions (escaped flags) with
  | nil => simp
  | cons expression rest =>
    have filled : " \\\n   ".intercalate (expression :: rest) ≠ "" := by
      apply PchCommand.intercalate_ne_empty
      have member : expression ∈ configExpressions (escaped flags) := listed ▸ List.mem_cons_self
      obtain ⟨pair, -, rfl⟩ := List.mem_map.mp member
      exact PchCommand.append_ne_empty _ (by decide)
    simp [filled]

theorem sdlFlag_ne_empty (enabled : Bool) : sdlFlag enabled ≠ "" := by cases enabled <;> decide

theorem titled_eq_empty_iff {title code : String} : titled title code = "" ↔ code = "" := by
  unfold titled
  split
  next none => simp [none]
  next filled => simp [filled]

variable {description}

theorem includeDirectories_eq_empty_iff :
    includeDirectories description = "" ↔ Category.IsSilent description .includeDirectories := by
  have target (name : String) (values : List (String × List String)) :
      targetIncludeDirectories name values = "" ↔ ∀ entry ∈ values, entry.2 = [] := by
    unfold targetIncludeDirectories
    split
    next none => simpa using none
    next filled => simpa using filled
  have file (own : Override (List String)) : fileIncludeDirectories own = "" ↔
      ∀ entry ∈ own.values, IsBlank (entry.2.map unquote) := by
    rw [fileIncludeDirectories, sourceListProperty_eq_empty_iff, forall_joined_iff, List.forall_mem_map]
  rw [includeDirectories, String.append_eq_empty_iff, target, join_eq_empty_iff, List.forall_mem_map]
  simp only [file, Category.IsSilent]

theorem definitions_eq_empty_iff : definitions description = "" ↔ Category.IsSilent description .definitions := by
  rw [definitions, String.append_eq_empty_iff, command_eq_empty_iff, quotedExpressions_eq_empty_iff,
    forall_escaped_iff, forall_joined_iff, join_eq_empty_iff, List.forall_mem_map]
  simp only [sourceListProperty_eq_empty_iff, forall_joined_iff, Category.IsSilent]

theorem sdlChecks_eq_empty_iff : sdlChecks description = "" ↔ Category.IsSilent description .sdlChecks := by
  have target : (∀ pair ∈ description.sdlChecks.filterMap
        (fun entry => entry.2.map fun enabled => (entry.1, sdlFlag enabled)), pair.2 = "") ↔
      ∀ entry ∈ description.sdlChecks, entry.2 = none := by
    constructor
    · intro empty entry inside
      cases stated : entry.2 with
      | none => rfl
      | some enabled =>
        have flag : entry.2.map (fun enabled => (entry.1, sdlFlag enabled)) = some (entry.1, sdlFlag enabled) := by
          rw [stated, Option.map_some]
        exact absurd (empty _ (List.mem_filterMap.mpr ⟨entry, inside, flag⟩)) (sdlFlag_ne_empty enabled)
    · intro unset pair listed
      obtain ⟨entry, inside, given⟩ := List.mem_filterMap.mp listed
      rw [unset entry inside] at given
      exact absurd given (Option.some_ne_none _).symm
  have file (values : List (String × Bool)) :
      (∀ pair ∈ values.map (fun entry => (entry.1, sdlFlag entry.2)), pair.2 = "") ↔ values = [] := by
    cases values with
    | nil => simp
    | cons entry rest => simp [sdlFlag_ne_empty]
  rw [sdlChecks, String.append_eq_empty_iff, targetCompileOptions, command_eq_empty_iff,
    quotedExpressions_eq_empty_iff, target, join_eq_empty_iff, List.forall_mem_map]
  simp only [sourceCompileFlags_eq_empty_iff, file, Category.IsSilent]

theorem precompiledHeaders_eq_empty_iff :
    precompiledHeaders description = "" ↔ Category.IsSilent description .precompiledHeaders := by
  have options : precompiledHeaders description = "" ↔ pchOptions description.target.name description.pch = "" := by
    by_cases none : pchOptions description.target.name description.pch = "" <;> simp [precompiledHeaders, none]
  rw [options, Category.IsSilent]
  cases description.pch with
  | targetWide defaults overrides =>
    rw [pchOptions, String.append_eq_empty_iff, targetCompileOptions, command_eq_empty_iff,
      quotedExpressions_eq_empty_iff, forall_escaped_iff, join_eq_empty_iff, List.forall_mem_map]
    simp only [sourceCompileFlags_eq_empty_iff]
  | perFile groups =>
    rw [pchOptions, join_eq_empty_iff, List.forall_mem_map]
    simp only [sourceCompileFlags_eq_empty_iff]

theorem libraryDirectories_eq_empty_iff :
    libraryDirectories description = "" ↔ Category.IsSilent description .libraryDirectories := by
  unfold libraryDirectories Category.IsSilent
  simp

theorem linkLibraries_eq_empty_iff : linkLibraries description = "" ↔ Category.IsSilent description .linkLibraries := by
  rw [linkLibraries, command_eq_empty_iff, quotedExpressions_eq_empty_iff, forall_escaped_iff, forall_joined_iff,
    List.forall_mem_map, Category.IsSilent]

theorem code_eq_empty_iff {category : Category} : category.code description = "" ↔ category.IsSilent description := by
  cases category with
  | includeDirectories => exact includeDirectories_eq_empty_iff
  | definitions => exact definitions_eq_empty_iff
  | sdlChecks => exact sdlChecks_eq_empty_iff
  | precompiledHeaders => exact precompiledHeaders_eq_empty_iff
  | libraryDirectories => exact libraryDirectories_eq_empty_iff
  | linkLibraries => exact linkLibraries_eq_empty_iff

/-- A description has the same descriptor without its empty values, and a kind of settings has a section in it just if
some value of that kind is not empty. -/
theorem empty_values_leave_no_trace (description : TargetDescription) :
    ofTarget description.filled = ofTarget description ∧
    ofTarget description = header description.target.name ++ environmentCheck description.environmentVariables ++
      Text.trimEnd (declarationAndOutputs description.target ++
        String.join (Category.all.map fun category => titled category.title (category.code description))) ++ "\n" ∧
    ∀ category : Category, titled category.title (category.code description) = "" ↔ category.IsSilent description := by
  refine ⟨ofTarget_filled description, ?_, fun category => titled_eq_empty_iff.trans code_eq_empty_iff⟩
  rw [ofTarget, body_eq]

end Descriptor

end Listfile

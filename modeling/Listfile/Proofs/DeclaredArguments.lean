import Listfile.Proofs.BalancedDescriptors
import Listfile.Proofs.FileOrder

/-!
How the arguments of a command are read, and what the declaration of a target is read as: the name of the target, what
it is declared as and its files, unless the name has white space in it, since only the files are quoted for it.
-/

namespace Listfile

namespace Scan

/-- The arguments in a text, cut at white space outside of double quotes and without the quotes. `own?` is the argument
that has begun, if any has. -/
def argumentsFrom (quoted : Bool) (own? : Option (List Char)) : List Char → List (List Char)
  | [] => own?.toList
  | c :: rest =>
    if c = '\x22' then argumentsFrom (!quoted) (some (own?.getD [])) rest
    else if quoted = false ∧ Text.isBlank c = true then own?.toList ++ argumentsFrom false none rest
    else argumentsFrom quoted (some (own?.getD [] ++ [c])) rest

def argumentsIn (text : String) : List String := (argumentsFrom false none text.toList).map String.ofList

variable {quoted : Bool} {own? : Option (List Char)} {own cs : List Char}

theorem argumentsFrom_quote (quoted : Bool) (own? : Option (List Char)) (rest : List Char) :
    argumentsFrom quoted own? ('\x22' :: rest) = argumentsFrom (!quoted) (some (own?.getD [])) rest := by
  rw [argumentsFrom, if_pos rfl]

theorem argumentsFrom_blank {c : Char} (blank : Text.isBlank c = true) (own? : Option (List Char)) (rest : List Char) :
    argumentsFrom false own? (c :: rest) = own?.toList ++ argumentsFrom false none rest := by
  have other : c ≠ '\x22' := by
    rintro rfl
    exact absurd blank (by decide)
  rw [argumentsFrom, if_neg other, if_pos ⟨rfl, blank⟩]

theorem argumentsFrom_append (plain : ∀ c ∈ cs, c ≠ '\x22' ∧ (quoted = true ∨ Text.isBlank c = false))
    (own rest : List Char) :
    argumentsFrom quoted (some own) (cs ++ rest) = argumentsFrom quoted (some (own ++ cs)) rest := by
  induction cs generalizing own with
  | nil => rw [List.nil_append, List.append_nil]
  | cons c cs ih =>
    obtain ⟨⟨other, inside⟩, plain⟩ := List.forall_mem_cons.mp plain
    have kept : ¬(quoted = false ∧ Text.isBlank c = true) := by
      rintro ⟨rfl, blank⟩
      rcases inside with inside | inside
      · exact absurd inside (by decide)
      · rw [blank] at inside
        exact absurd inside (by decide)
    rw [List.cons_append, argumentsFrom, if_neg other, if_neg kept, Option.getD_some, ih plain, List.append_assoc,
      List.singleton_append]

theorem argumentsFrom_word {c : Char} (blank : Text.isBlank c = true) (filled : cs ≠ [])
    (plain : ∀ c ∈ cs, c ≠ '\x22' ∧ Text.isBlank c = false) (rest : List Char) :
    argumentsFrom false none (cs ++ c :: rest) = cs :: argumentsFrom false none rest := by
  obtain ⟨first, others, rfl⟩ := List.exists_cons_of_ne_nil filled
  obtain ⟨⟨other, solid⟩, plain⟩ := List.forall_mem_cons.mp plain
  have within : ∀ c ∈ others, c ≠ '\x22' ∧ (false = true ∨ Text.isBlank c = false) :=
    fun c member => ⟨(plain c member).1, .inr (plain c member).2⟩
  calc
    argumentsFrom false none (first :: others ++ c :: rest)
      = argumentsFrom false (some [first]) (others ++ c :: rest) := by
        rw [List.cons_append, argumentsFrom, if_neg other, if_neg (by simp [solid])]
        rfl
    _ = argumentsFrom false (some (first :: others)) (c :: rest) := argumentsFrom_append within [first] (c :: rest)
    _ = (first :: others) :: argumentsFrom false none rest := argumentsFrom_blank blank _ rest

/-- Whether a text can be given to a command between quotes, or without them if there is no white space in it. -/
def IsArgument (text : String) : Prop := text ≠ "" ∧ '\x22' ∉ text.toList

instance (text : String) : Decidable (IsArgument text) := inferInstanceAs (Decidable (_ ∧ _))

theorem argumentsFrom_quoteIfBlank {text : String} (given : IsArgument text) {c : Char} (blank : Text.isBlank c = true)
    (rest : List Char) : argumentsFrom false none ((Text.quoteIfBlank text).toList ++ c :: rest) =
      text.toList :: argumentsFrom false none rest := by
  obtain ⟨filled, quoteless⟩ := given
  have other : ∀ c ∈ text.toList, c ≠ '\x22' := by
    rintro c member rfl
    exact quoteless member
  unfold Text.quoteIfBlank
  split
  next =>
    have shape : ("\"" ++ text ++ "\"").toList ++ c :: rest = '\x22' :: (text.toList ++ '\x22' :: c :: rest) := by simp
    have within : ∀ c ∈ text.toList, c ≠ '\x22' ∧ (true = true ∨ Text.isBlank c = false) :=
      fun c member => ⟨other c member, .inl rfl⟩
    rw [shape, argumentsFrom_quote, Bool.not_false, Option.getD_none, argumentsFrom_append within, List.nil_append,
      argumentsFrom_quote, Bool.not_true, Option.getD_some, argumentsFrom_blank blank]
    rfl
  next solid =>
    apply argumentsFrom_word blank (String.toList_eq_nil_iff.not.mpr filled)
    intro c member
    refine ⟨other c member, ?_⟩
    rw [Bool.not_eq_true, List.any_eq_false] at solid
    exact Bool.not_eq_true _ ▸ solid c member

/-! A text without quotes is read by itself, and gives itself just if it has no white space in it. -/

theorem argumentsFrom_append_blank (quoteless : '\x22' ∉ cs) {c : Char} (blank : Text.isBlank c = true)
    (own? : Option (List Char)) (rest : List Char) :
    argumentsFrom false own? (cs ++ c :: rest) = argumentsFrom false own? cs ++ argumentsFrom false none rest := by
  induction cs generalizing own? with
  | nil => exact argumentsFrom_blank blank own? rest
  | cons first cs ih =>
    obtain ⟨other, quoteless⟩ := not_or.mp (List.mem_cons.not.mp quoteless)
    rw [List.cons_append, argumentsFrom, argumentsFrom, if_neg (Ne.symm other), if_neg (Ne.symm other)]
    split
    next => rw [ih quoteless, List.append_assoc]
    next => rw [ih quoteless]

theorem isBlank_of_mem_argumentsFrom (quoteless : '\x22' ∉ cs)
    (solid : ∀ own ∈ own?, ∀ c ∈ own, Text.isBlank c = false) :
    ∀ argument ∈ argumentsFrom false own? cs, ∀ c ∈ argument, Text.isBlank c = false := by
  induction cs generalizing own? with
  | nil =>
    intro argument member
    exact solid argument (Option.mem_toList.mp member)
  | cons first cs ih =>
    obtain ⟨other, quoteless⟩ := not_or.mp (List.mem_cons.not.mp quoteless)
    rw [argumentsFrom, if_neg (Ne.symm other)]
    split
    next =>
      intro argument member
      rcases List.mem_append.mp member with member | member
      · exact solid argument (Option.mem_toList.mp member)
      · exact ih quoteless (by simp) argument member
    next kept =>
      apply ih quoteless
      rintro own ⟨⟩ c member
      rcases List.mem_append.mp member with member | member
      · cases own? with
        | none => exact absurd member List.not_mem_nil
        | some own => exact solid own rfl c member
      · rw [List.mem_singleton.mp member]
        simpa using kept

theorem argumentsIn_eq_singleton_iff {text : String} (given : IsArgument text) :
    argumentsIn text = [text] ↔ ∀ c ∈ text.toList, Text.isBlank c = false := by
  obtain ⟨filled, quoteless⟩ := given
  constructor
  · intro single
    have member : text.toList ∈ argumentsFrom false none text.toList := by
      obtain ⟨argument, member, same⟩ := List.mem_map.mp (single ▸ List.mem_singleton_self text)
      have own : argument = text.toList := by rw [← same, String.toList_ofList]
      rwa [own] at member
    exact isBlank_of_mem_argumentsFrom quoteless (by simp) _ member
  · intro solid
    have plain : ∀ c ∈ text.toList, c ≠ '\x22' ∧ Text.isBlank c = false := by
      intro c member
      refine ⟨?_, solid c member⟩
      rintro rfl
      exact quoteless member
    have blank : Text.isBlank ' ' = true := by decide
    have none : argumentsFrom false none [] = [] := rfl
    have read := argumentsFrom_word blank (String.toList_eq_nil_iff.not.mpr filled) plain []
    rw [argumentsFrom_append_blank quoteless blank, none, List.append_nil] at read
    rw [argumentsIn, read, List.map_singleton, String.ofList_toList]

end Scan

namespace Descriptor

open Scan

def declarationCommand : TargetKind → String
  | .executable => "add_executable"
  | _ => "add_library"

/-- What a target is declared as, beside its name. -/
def attributes (target : Target) : List String :=
  match target.kind with
  | .executable => if target.subsystem = .windows then ["WIN32"] else []
  | .sharedLibrary => ["SHARED"]
  | .staticLibrary => ["STATIC"]

def attributeText (target : Target) : String :=
  match target.kind with
  | .executable => "\n" ++ if target.subsystem = .windows then "  WIN32\n" else ""
  | .sharedLibrary => " SHARED\n"
  | .staticLibrary => " STATIC\n"

/-- The text between the parentheses of a declaration. -/
def declaredText (target : Target) : String :=
  target.name ++ attributeText target ++ String.join ((declaredFiles target.files).map fileLine)

theorem declaration_eq (target : Target) :
    declaration target = declarationCommand target.kind ++ "(" ++ declaredText target ++ ")\n" := by
  have program : "add_executable(" = "add_executable" ++ "(" := rfl
  have library : "add_library(" = "add_library" ++ "(" := rfl
  have head : declarationHead target =
      declarationCommand target.kind ++ "(" ++ (target.name ++ attributeText target) := by
    unfold declarationHead declarationCommand attributeText
    cases target.kind <;> simp only [program, library, String.append_assoc]
  rw [declaration, head, declaredText]
  simp only [String.append_assoc]

theorem argumentsFrom_attributeText {cs : List Char} (quoteless : '\x22' ∉ cs) (target : Target) (rest : List Char) :
    argumentsFrom false none (cs ++ ((attributeText target).toList ++ rest)) =
      argumentsFrom false none cs ++ ((attributes target).map String.toList ++ argumentsFrom false none rest) := by
  have space : Text.isBlank ' ' = true := by decide
  have line : Text.isBlank '\n' = true := by decide
  unfold attributeText attributes
  split
  next =>
    split
    next => exact argumentsFrom_append_blank quoteless line none _
    next => exact argumentsFrom_append_blank quoteless line none _
  next => exact argumentsFrom_append_blank quoteless space none _
  next => exact argumentsFrom_append_blank quoteless space none _

theorem argumentsFrom_fileLines {files : List String} (listed : ∀ file ∈ files, IsArgument file) :
    argumentsFrom false none (String.join (files.map fileLine)).toList = files.map String.toList := by
  have space : Text.isBlank ' ' = true := by decide
  have line : Text.isBlank '\n' = true := by decide
  induction files with
  | nil => rfl
  | cons file files ih =>
    obtain ⟨given, listed⟩ := List.forall_mem_cons.mp listed
    have shape : (String.join ((file :: files).map fileLine)).toList =
        ' ' :: ' ' :: ((Text.quoteIfBlank file).toList ++ '\n' :: (String.join (files.map fileLine)).toList) := by
      simp [fileLine]
    calc
      argumentsFrom false none (String.join ((file :: files).map fileLine)).toList
        = argumentsFrom false none
            ((Text.quoteIfBlank file).toList ++ '\n' :: (String.join (files.map fileLine)).toList) := by
          rw [shape, argumentsFrom_blank space, argumentsFrom_blank space]
          rfl
      _ = file.toList :: argumentsFrom false none (String.join (files.map fileLine)).toList :=
          argumentsFrom_quoteIfBlank given line _
      _ = (file :: files).map String.toList := by rw [ih listed, List.map_cons]

theorem argumentsIn_declaredText {target : Target} (quoteless : '\x22' ∉ target.name.toList)
    (listed : ∀ file ∈ target.files, IsArgument file.relativePath) :
    argumentsIn (declaredText target) =
      argumentsIn target.name ++ (attributes target ++ declaredFiles target.files) := by
  have given : ∀ file ∈ declaredFiles target.files, IsArgument file := by
    intro path member
    obtain ⟨file, inside, -, rfl⟩ := Conversion.mem_declaredFiles_iff.mp member
    exact listed file inside
  have back (texts : List String) : (texts.map String.toList).map String.ofList = texts := by
    simp
  rw [argumentsIn, declaredText, String.toList_append, String.toList_append, List.append_assoc,
    argumentsFrom_attributeText quoteless, argumentsFrom_fileLines given, List.map_append, List.map_append, back, back]
  rfl

/-- The declaration of a target is read as its name, what it is declared as and its files, just if there is no white
space in the name. -/
theorem declaration_reads_back_iff {description : TargetDescription} (named : IsArgument description.target.name)
    (listed : ∀ file ∈ description.target.files, IsArgument file.relativePath) :
    ∃ files rest,
      ofTarget description = Conversion.preamble description.target description.environmentVariables ++
        (declarationCommand description.target.kind ++ "(" ++ declaredText description.target ++ ")\n") ++ rest ∧
      files.Pairwise (· < ·) ∧
      (∀ path, path ∈ files ↔
        ∃ file ∈ description.target.files, file.kind ≠ .other ∧ file.relativePath = path) ∧
      (argumentsIn (declaredText description.target) =
          description.target.name :: (attributes description.target ++ files) ↔
        ∀ c ∈ description.target.name.toList, Text.isBlank c = false) := by
  obtain ⟨rest, whole⟩ := Conversion.exists_ofTarget_eq_declaration description
  rw [declaration_eq] at whole
  refine ⟨declaredFiles description.target.files, rest, whole, Conversion.pairwise_declaredFiles _,
    fun path => Conversion.mem_declaredFiles_iff, ?_⟩
  calc
    argumentsIn (declaredText description.target) =
          description.target.name :: (attributes description.target ++ declaredFiles description.target.files)
      ↔ argumentsIn description.target.name = [description.target.name] := by
        rw [argumentsIn_declaredText named.2 listed, ← List.singleton_append, List.append_left_inj]
    _ ↔ ∀ c ∈ description.target.name.toList, Text.isBlank c = false := argumentsIn_eq_singleton_iff named

theorem declaration_of_spaced_file_reads_back :
    IsArgument Sample.quotingDescription.target.name ∧
      (∀ file ∈ Sample.quotingDescription.target.files, IsArgument file.relativePath) ∧
      ∃ files, "main file.cpp" ∈ files ∧
        argumentsIn (declaredText Sample.quotingDescription.target) = "app" :: "WIN32" :: files := by
  have named : IsArgument Sample.quotingDescription.target.name := by decide
  have listed : ∀ file ∈ Sample.quotingDescription.target.files, IsArgument file.relativePath := by decide
  obtain ⟨files, rest, -, -, complete, reads⟩ := declaration_reads_back_iff named listed
  have declared : "main file.cpp" ∈ files := (complete _).mpr ⟨_, List.mem_cons_self, by decide, rfl⟩
  have solid : Sample.quotingDescription.target.name.toList.any Text.isBlank = false := by decide
  have read := reads.mpr fun c member => eq_false_of_ne_true (List.any_eq_false.mp solid c member)
  exact ⟨named, listed, files, declared, read⟩

end Descriptor

namespace Sample

def spacedDescription : TargetDescription where
  target := {
    name := "my app"
    kind := .executable
    useOfMfc := .none
    subsystem := .notSet
    directory := "C:/solution/app"
    configurations := [⟨"Debug", "Debug", "x64"⟩]
    files := []
    outputs := [] }
  pch := .targetWide [] []

end Sample

namespace Descriptor

open Scan

/-- The words of a name are read as a name and a file beside it. -/
theorem declaration_of_spaced_name_is_torn :
    IsArgument Sample.spacedDescription.target.name ∧
      (∀ file ∈ Sample.spacedDescription.target.files, IsArgument file.relativePath) ∧
      ofTarget Sample.spacedDescription = Conversion.preamble Sample.spacedDescription.target [] ++
        ("add_executable" ++ "(" ++ declaredText Sample.spacedDescription.target ++ ")\n") ∧
      argumentsIn (declaredText Sample.spacedDescription.target) = ["my", "app"] ∧
      Sample.spacedDescription.target.name :: (attributes Sample.spacedDescription.target ++
        declaredFiles Sample.spacedDescription.target.files) = ["my app"] :=
  ⟨by decide, by decide, by decide +kernel, by decide +kernel, by decide +kernel⟩

end Descriptor

end Listfile

import Listfile.Descriptor
import Listfile.Proofs.Braces
import Listfile.Proofs.FileOrder
import Listfile.Proofs.Scanning

/-!
Descriptors of targets whose names, paths and settings hold nothing that the reader of a listfile takes for its own:
every quote, parenthesis and block in them is closed.
-/

namespace Listfile

namespace Text

def Lacks (characters : List Char) (text : String) : Prop := ∀ c ∈ text.toList, c ∉ characters

instance (characters : List Char) (text : String) : Decidable (Lacks characters text) :=
  List.decidableBAll (· ∉ characters) text.toList

abbrev Plain : String → Prop := Lacks ['\\', '#', '(', ')']

/-- The characters that mean something somewhere in a listfile. -/
def marks : List Char := ['\x22', '\\', '#', '(', ')']

abbrev Bare : String → Prop := Lacks marks

variable {characters : List Char} {text : String}

theorem Lacks.of_mem {other : String} (lacks : Lacks characters text)
    (inside : ∀ c ∈ other.toList, c ∈ text.toList) : Lacks characters other :=
  fun c member => lacks c (inside c member)

theorem Lacks.append {other : String} (lacks : Lacks characters text) (also : Lacks characters other) :
    Lacks characters (text ++ other) := by
  intro c member
  rw [String.toList_append] at member
  exact (List.mem_append.mp member).elim (lacks c) (also c)

theorem Lacks.intercalate {separator : String} (between : Lacks characters separator) {texts : List String}
    (each : ∀ text ∈ texts, Lacks characters text) : Lacks characters (separator.intercalate texts) := by
  induction texts with
  | nil => simp [Lacks]
  | cons text rest ih =>
    have others := ih fun other member => each other (List.mem_cons_of_mem _ member)
    cases rest with
    | nil =>
      rw [String.intercalate_singleton]
      exact each text List.mem_cons_self
    | cons second rest =>
      rw [String.intercalate_cons_cons]
      exact ((each text List.mem_cons_self).append between).append others

theorem Bare.plain (bare : Bare text) : Plain text :=
  fun c member special => bare c member (List.mem_cons_of_mem _ special)

/-! Upper case brings in no character of this kind. -/

theorem eq_of_mem_upperChar {c mark : Char} (member : mark ∈ upperChar c) (special : mark ∈ marks) : mark = c := by
  have ascii : ∀ n < 128, (Char.ofNat n).toUpper ∈ marks → (Char.ofNat n).toUpper = Char.ofNat n := by decide +kernel
  have sequences : ∀ entry ∈ upperSequences, ∀ code ∈ entry.2, Char.ofNat code ∉ marks := by decide +kernel
  have runs : ∀ run ∈ upperRuns, 0x5C < run.first + run.shift ∨
      0x29 < run.first + run.shift ∧ run.last + run.shift < 0x5C := by decide +kernel
  unfold upperChar at member
  split at member
  next small =>
    obtain rfl := List.mem_singleton.mp member
    have same := ascii c.toNat small
    rw [Char.ofNat_toNat] at same
    exact same special
  next =>
    unfold mapCase at member
    dsimp only at member
    split at member
    next codes found =>
      obtain ⟨before, after, table, -⟩ := List.lookup_eq_some_iff.mp found
      obtain ⟨code, inside, rfl⟩ := List.mem_map.mp member
      exact absurd special (sequences (c.toNat, codes) (by rw [table]; simp) code inside)
    next =>
      split at member
      next run found =>
        have within := List.find?_some found
        simp only [Bool.and_eq_true, decide_eq_true_eq] at within
        have value := ofNat_eq (List.mem_singleton.mp member).symm (by rintro rfl; exact absurd special (by decide))
        have bounds := runs run (List.mem_of_find?_eq_some found)
        have listed : ∀ mark ∈ marks, mark.toNat ≤ 0x29 ∨ mark.toNat = 0x5C := by simp [marks]
        have place := listed mark special
        omega
      next => exact List.mem_singleton.mp member

theorem Bare.upper {text : String} (bare : Bare text) : Bare (upper text) := by
  intro mark member special
  rw [Text.upper, String.toList_ofList] at member
  obtain ⟨c, inside, mapped⟩ := List.mem_flatMap.mp member
  exact bare mark (eq_of_mem_upperChar mapped special ▸ inside) special

/-- A text that may stand between arguments: bare, or bare within quotes. -/
def BareOrQuoted (text : String) : Prop := ∃ inner, Bare inner ∧ (text = inner ∨ text = "\"" ++ inner ++ "\"")

end Text

open Text Scan

/-! How such texts are read. -/

namespace Text

variable {text : String}

theorem Bare.arguments (bare : Bare text) : Leads Scan.arguments text Scan.arguments := by
  refine leads_arguments fun c member => ?_
  have other := bare c member
  simp only [marks, List.mem_cons, List.not_mem_nil, or_false, not_or] at other
  exact ⟨other.1, other.2.2⟩

theorem Bare.quotes (bare : Bare text) : Leads Scan.quotes text Scan.quotes :=
  leads_quotes (fun quote => bare _ quote (by decide)) fun backslash => bare _ backslash (by decide)

theorem Plain.escaped (plain : Plain text) : Leads Scan.quotes (escapeQuotes text) Scan.quotes :=
  leads_escapeQuotes fun backslash => plain _ backslash (by decide)

theorem leads_quoted (quoted : Leads Scan.quotes text Scan.quotes) :
    Leads Scan.arguments ("\"" ++ text ++ "\"") Scan.arguments := by
  have opening : Leads Scan.arguments "\"" Scan.quotes := leads_ofList (by decide)
  have closing : Leads Scan.quotes "\"" Scan.arguments := leads_ofList (by decide)
  exact (opening.append quoted).append closing

theorem Bare.quoteIfBlank (bare : Bare text) : Leads Scan.arguments (quoteIfBlank text) Scan.arguments := by
  unfold Text.quoteIfBlank
  split
  next => exact leads_quoted bare.quotes
  next => exact bare.arguments

theorem BareOrQuoted.arguments (directory : BareOrQuoted text) : Leads Scan.arguments text Scan.arguments := by
  obtain ⟨inner, bare, rfl | rfl⟩ := directory
  · exact bare.arguments
  · exact leads_quoted bare.quotes

theorem BareOrQuoted.plain (directory : BareOrQuoted text) : Plain text := by
  obtain ⟨inner, bare, rfl | rfl⟩ := directory
  · exact bare.plain
  · have quote : Plain "\"" := by decide
    exact (quote.append bare.plain).append quote

end Text

/-! Generator expressions. -/

section

variable {state : State}

theorem leads_configExpression (position : state = arguments ∨ state = quotes) {configuration value : String}
    (name : Leads state configuration state) (inner : Leads state value state) :
    Leads state (configExpression configuration value) state := by
  have opening : Leads state "$<$<CONFIG:" state := by
    rcases position with rfl | rfl <;> exact leads_ofList (by decide)
  have middle : Leads state ">:" state := by
    rcases position with rfl | rfl <;> exact leads_ofList (by decide)
  have closing : Leads state ">" state := by
    rcases position with rfl | rfl <;> exact leads_ofList (by decide)
  exact (((opening.append name).append middle).append inner).append closing

theorem leads_of_mem_configExpressions (position : state = arguments ∨ state = quotes) {pairs : List (String × String)}
    (each : ∀ pair ∈ pairs, Leads state pair.1 state ∧ Leads state pair.2 state) :
    ∀ expression ∈ configExpressions pairs, Leads state expression state := by
  intro expression member
  obtain ⟨pair, kept, rfl⟩ := List.mem_map.mp member
  obtain ⟨name, value⟩ := each pair (List.mem_filter.mp kept).1
  exact leads_configExpression position name value

end

def Entries {α : Type} (meets : α → Prop) (entries : List (String × α)) : Prop :=
  ∀ entry ∈ entries, Bare entry.1 ∧ meets entry.2

structure Override.Holds {α : Type} (meets : α → Prop) (own : Override α) : Prop where
  file : Bare own.file
  values : Entries meets own.values

def PchPlan.Holds : PchPlan → Prop
  | .targetWide defaults overrides => Entries Plain defaults ∧ ∀ own ∈ overrides, own.Holds Plain
  | .perFile groups => ∀ group ∈ groups, (∀ file ∈ group.files, Bare file) ∧ Entries Plain group.flags

/-- Bare names and paths. -/
structure Target.IsBare (target : Target) : Prop where
  name : Bare target.name
  configurations : ∀ name ∈ target.configurationNames, Bare name
  files : ∀ file ∈ target.files, Bare file.relativePath
  outputs : ∀ entry ∈ target.outputs, Bare entry.2.primary

/-- No text holds a backslash, a sign of comments or a parenthesis, and quotes stand in definitions, libraries and flags
only, and around directories. -/
structure TargetDescription.Unmarked (description : TargetDescription) : Prop where
  target : description.target.IsBare
  includeDirectories : Entries (∀ directory ∈ ·, BareOrQuoted directory) description.includeDirectories
  definitions : Entries (∀ definition ∈ ·, Plain definition) description.definitions
  sdlChecks : Entries (fun _ => True) description.sdlChecks
  libraryDirectories : Entries (∀ directory ∈ ·, BareOrQuoted directory) description.libraryDirectories
  linkLibraries : Entries (∀ library ∈ ·, Plain library.text) description.linkLibraries
  fileIncludeDirectories :
    ∀ own ∈ description.fileIncludeDirectories, own.Holds (∀ directory ∈ ·, BareOrQuoted directory)
  fileDefinitions : ∀ own ∈ description.fileDefinitions, own.Holds (∀ definition ∈ ·, Plain definition)
  fileSdlChecks : ∀ own ∈ description.fileSdlChecks, own.Holds fun _ => True
  pch : description.pch.Holds
  environmentVariables : ∀ name ∈ description.environmentVariables, Bare name

namespace Descriptor

/-! The parts that sections are made of. -/

theorem leads_quotedExpressions {pairs : List (String × String)}
    (each : ∀ pair ∈ pairs, Leads quotes pair.1 quotes ∧ Leads quotes pair.2 quotes) :
    Leads arguments (quotedExpressions pairs) arguments := by
  have opening : Leads arguments "  \"" quotes := leads_ofList (by decide)
  have closing : Leads quotes "\"\n" arguments := leads_ofList (by decide)
  refine .join fun line member => ?_
  obtain ⟨expression, inside, rfl⟩ := List.mem_map.mp member
  exact (opening.append (leads_of_mem_configExpressions (.inr rfl) each expression inside)).append closing

theorem forall_escaped {pairs : List (String × String)} (plain : Entries Plain pairs) :
    ∀ pair ∈ escaped pairs, Leads quotes pair.1 quotes ∧ Leads quotes pair.2 quotes := by
  intro pair member
  obtain ⟨entry, inside, rfl⟩ := List.mem_map.mp member
  obtain ⟨name, value⟩ := plain entry inside
  exact ⟨name.quotes, value.escaped⟩

theorem entries_joined {values : List (String × List String)} (plain : Entries (∀ value ∈ ·, Plain value) values) :
    Entries Plain (joined values) := by
  have semicolon : Plain ";" := by decide
  intro pair member
  obtain ⟨entry, inside, rfl⟩ := List.mem_map.mp member
  obtain ⟨name, each⟩ := plain entry inside
  exact ⟨name, semicolon.intercalate each⟩

theorem closing : Leads arguments ")\n" commands := leads_ofList (by decide)

theorem scope : Leads arguments " PRIVATE\n" arguments := leads_ofList (by decide)

theorem opensSource : Leads commands "set_property(SOURCE " arguments := leads_ofList (by decide)

theorem opensTarget : Leads commands "set_property(TARGET " arguments := leads_ofList (by decide)

theorem opensBranch : Leads commands "if (MSVC)\n" (commands.within [.branch]) := leads_ofList (by decide)

theorem leads_command {head expressions : String} (opens : Leads commands head arguments)
    (inner : Leads arguments expressions arguments) : Leads commands (command head expressions) commands := by
  unfold command
  split
  next => exact .empty commands
  next => exact (opens.append inner).append closing

theorem leads_sourceListProperty {property file : String} {values : List (String × String)} (named : Bare property)
    (path : Bare file) (plain : Entries Plain values) :
    Leads commands (sourceListProperty property file values) commands := by
  have between : Leads arguments "\n  APPEND PROPERTY " arguments := leads_ofList (by decide)
  have ended : Leads arguments "\n" arguments := leads_ofList (by decide)
  exact leads_command ((((opensSource.append path.quoteIfBlank).append between).append named.arguments).append ended)
    (leads_quotedExpressions (forall_escaped plain))

theorem leads_sourceCompileFlags {files : List String} {flags : List (String × String)}
    (paths : ∀ file ∈ files, Bare file) (plain : Entries Plain flags) :
    Leads commands (sourceCompileFlags files flags) commands := by
  have space : Leads arguments " " arguments := leads_ofList (by decide)
  have quoting : Leads arguments "\n  APPEND_STRING PROPERTY COMPILE_FLAGS\n  \" " quotes := leads_ofList (by decide)
  -- The backslash takes the line feed with it, and the quotes go on.
  have continued : Leads quotes " \\\n   " quotes := leads_ofList (by decide)
  have closing : Leads quotes "\")\n" commands := leads_ofList (by decide)
  unfold sourceCompileFlags
  dsimp only
  split
  next => exact .empty commands
  next =>
    have listed : Leads arguments (" ".intercalate (files.map quoteIfBlank)) arguments := by
      refine space.intercalate fun text member => ?_
      obtain ⟨file, inside, rfl⟩ := List.mem_map.mp member
      exact (paths file inside).quoteIfBlank
    have expressions := continued.intercalate (leads_of_mem_configExpressions (.inr rfl) (forall_escaped plain))
    exact (((opensSource.append listed).append quoting).append expressions).append closing

theorem leads_targetCompileOptions {name : String} {flags : List (String × String)} (named : Bare name)
    (each : ∀ pair ∈ flags, Leads quotes pair.1 quotes ∧ Leads quotes pair.2 quotes) :
    Leads commands (targetCompileOptions name flags) commands := by
  have opening : Leads commands "target_compile_options(" arguments := leads_ofList (by decide)
  exact leads_command ((opening.append named.arguments).append scope) (leads_quotedExpressions each)

theorem leads_titled {title code : String} (line : '\n' ∉ title.toList) (body : Leads commands code commands) :
    Leads commands (titled title code) commands := by
  have opening : Leads commands "# " { commands with mode := .comment } := leads_ofList (by decide)
  have comment : Leads { commands with mode := .comment } title { commands with mode := .comment } := by
    refine leads_of_forall fun c member => ?_
    have other : c ≠ '\n' := fun same => line (same ▸ member)
    simp only [step?, if_neg other]
  have ended : Leads { commands with mode := .comment } "\n" commands := leads_ofList (by decide)
  have finish : Leads commands "\n" commands := leads_ofList (by decide)
  unfold titled
  split
  next => exact .empty commands
  next => exact (((opening.append comment).append ended).append body).append finish

/-! The sections. -/

variable {description : TargetDescription}

theorem leads_header {name : String} (named : Bare name) : Leads commands (header name) commands := by
  have opening : Leads commands "cmake_minimum_required(VERSION 3.13)\n\nproject(" arguments := leads_ofList (by decide)
  have closing : Leads arguments ")\n\n" commands := leads_ofList (by decide)
  exact (opening.append named.arguments).append closing

theorem leads_environmentCheck {variableNames : List String} (named : ∀ name ∈ variableNames, Bare name) :
    Leads commands (environmentCheck variableNames) commands := by
  have opening : Leads commands "foreach (EnvVar IN ITEMS " (arguments.within [.loop]) := leads_ofList (by decide)
  have space : Leads arguments " " arguments := leads_ofList (by decide)
  have begun : Leads (arguments.within [.loop]) ")\n" (commands.within [.loop]) := leads_ofList (by decide)
  have condition : Leads (commands.within [.loop]) "  if (\"$ENV\x7b$\x7bEnvVar\x7d\x7d\" STREQUAL \"\")\n"
      (commands.within [.branch, .loop]) := leads_ofList (by decide)
  have warning : Leads (commands.within [.branch, .loop])
      "    message(WARNING \"Environment variable '$\x7bEnvVar\x7d' is not defined.\")\n"
      (commands.within [.branch, .loop]) := leads_ofList (by decide)
  have endif : Leads (commands.within [.branch, .loop]) "  endif ()\n" (commands.within [.loop]) :=
    leads_ofList (by decide)
  have finish : Leads (commands.within [.loop]) "endforeach ()\n\n" commands := leads_ofList (by decide)
  unfold environmentCheck
  split
  next => exact .empty commands
  next =>
    have names := (space.intercalate fun name inside => (named name inside).arguments).within [.loop]
    exact (((((opening.append names).append begun).append condition).append warning).append endif).append finish

theorem leads_configurationTypes {names : List String} (named : ∀ name ∈ names, Bare name) :
    Leads commands (configurationTypes names) commands := by
  have opening : Leads commands "set(CMAKE_CONFIGURATION_TYPES \"" quotes := leads_ofList (by decide)
  have semicolon : Leads quotes ";" quotes := leads_ofList (by decide)
  have closing : Leads quotes "\"\n    CACHE STRING \"Configuration types\" FORCE)\n\n" commands :=
    leads_ofList (by decide)
  exact (opening.append (semicolon.intercalate fun name inside => (named name inside).quotes)).append closing

theorem leads_useOfMfc (usage : MfcUsage) : Leads commands (useOfMfc usage) commands := by
  have opening : Leads commands "# Use of MFC\nset(CMAKE_MFC_FLAG " arguments := leads_ofList (by decide)
  have closing : Leads arguments ")\n\n" commands := leads_ofList (by decide)
  have one : Leads arguments "1" arguments := leads_ofList (by decide)
  have two : Leads arguments "2" arguments := leads_ofList (by decide)
  cases usage with
  | none => exact .empty commands
  | static => exact (opening.append one).append closing
  | shared => exact (opening.append two).append closing

theorem leads_declarationHead {target : Target} (named : Bare target.name) :
    Leads commands (declarationHead target) arguments := by
  have program : Leads commands "add_executable(" arguments := leads_ofList (by decide)
  have library : Leads commands "add_library(" arguments := leads_ofList (by decide)
  have line : Leads arguments "\n" arguments := leads_ofList (by decide)
  have windowed : Leads arguments (if target.subsystem = .windows then "  WIN32\n" else "") arguments := by
    split
    next => exact leads_ofList (by decide)
    next => exact .empty arguments
  have shared : Leads arguments " SHARED\n" arguments := leads_ofList (by decide)
  have static : Leads arguments " STATIC\n" arguments := leads_ofList (by decide)
  unfold declarationHead
  split
  next => exact ((program.append named.arguments).append line).append windowed
  next => exact (library.append named.arguments).append shared
  next => exact (library.append named.arguments).append static

theorem leads_declaration {target : Target} (bare : target.IsBare) :
    Leads commands (declaration target) commands := by
  have margin : Leads arguments "  " arguments := leads_ofList (by decide)
  have line : Leads arguments "\n" arguments := leads_ofList (by decide)
  have files : Leads arguments (String.join ((declaredFiles target.files).map fileLine)) arguments := by
    refine .join fun text member => ?_
    obtain ⟨path, declared, rfl⟩ := List.mem_map.mp member
    obtain ⟨file, inside, -, rfl⟩ := Conversion.mem_declaredFiles_iff.mp declared
    exact (margin.append (bare.files file inside).quoteIfBlank).append line
  exact ((leads_declarationHead bare.name).append files).append closing

theorem mem_of_mem_outputStem {path : String} {c : Char} (member : c ∈ (outputStem path).toList) :
    c ∈ path.toList := by
  have stem (name : List Char) (inside : c ∈ stemOf name) : c ∈ name := by
    unfold stemOf at inside
    split at inside
    next => exact inside
    next =>
      have dropped := (List.drop_sublist 1 _).subset (List.mem_reverse.mp inside)
      exact List.mem_reverse.mp ((List.dropWhile_sublist _).subset dropped)
  rw [outputStem, String.toList_ofList] at member
  have name := List.mem_reverse.mp (stem _ member)
  exact List.mem_reverse.mp ((List.takeWhile_sublist _).subset name)

theorem leads_outputNames {target : Target} (bare : target.IsBare) :
    Leads commands (outputNames target) commands := by
  have opening : Leads commands "set_target_properties(" arguments := leads_ofList (by decide)
  have properties : Leads arguments "\n  PROPERTIES\n" arguments := leads_ofList (by decide)
  have key : Leads arguments "  OUTPUT_NAME_" arguments := leads_ofList (by decide)
  have space : Leads arguments " " arguments := leads_ofList (by decide)
  have line : Leads arguments "\n" arguments := leads_ofList (by decide)
  have stems : Entries Bare (outputStems target) := by
    intro entry member
    obtain ⟨name, configured, found⟩ := List.mem_filterMap.mp (List.mem_filter.mp member).1
    obtain ⟨outputs, made, rfl⟩ := Option.map_eq_some_iff.mp found
    have path : Bare outputs.primary := bare.outputs (name, outputs) (Keyed.mem_of_get? made)
    exact ⟨bare.configurations name configured, path.of_mem fun _ => mem_of_mem_outputStem⟩
  have lines : Leads arguments (String.join ((outputStems target).map outputNameLine)) arguments := by
    refine .join fun text member => ?_
    obtain ⟨entry, inside, rfl⟩ := List.mem_map.mp member
    obtain ⟨name, stem⟩ := stems entry inside
    exact (((key.append name.upper.arguments).append space).append stem.quoteIfBlank).append line
  unfold outputNames
  dsimp only
  split
  next => exact .empty commands
  next => exact (((opening.append bare.name.arguments).append properties).append lines).append closing

theorem leads_directoryLines {directories : List String} (each : ∀ directory ∈ directories, BareOrQuoted directory) :
    Leads arguments (directoryLines directories) arguments := by
  have line : Leads arguments "\n    " arguments := leads_ofList (by decide)
  have separator : Leads arguments ";\n    " arguments := leads_ofList (by decide)
  unfold directoryLines
  split
  next => exact .empty arguments
  next => exact line.append (separator.intercalate fun directory inside => (each directory inside).arguments)

theorem leads_targetIncludeDirectories {name : String} (named : Bare name) {values : List (String × List String)}
    (each : Entries (∀ directory ∈ ·, BareOrQuoted directory) values) :
    Leads commands (targetIncludeDirectories name values) commands := by
  have property : Leads arguments "\n  APPEND PROPERTY INCLUDE_DIRECTORIES\n  " arguments := leads_ofList (by decide)
  have line : Leads arguments "\n  " arguments := leads_ofList (by decide)
  have closing : Leads arguments "\n)\n" commands := leads_ofList (by decide)
  have lines : ∀ pair ∈ values.map fun entry => (entry.1, directoryLines entry.2),
      Leads arguments pair.1 arguments ∧ Leads arguments pair.2 arguments := by
    intro pair member
    obtain ⟨entry, inside, rfl⟩ := List.mem_map.mp member
    obtain ⟨configuration, directories⟩ := each entry inside
    exact ⟨configuration.arguments, leads_directoryLines directories⟩
  unfold targetIncludeDirectories
  split
  next => exact .empty commands
  next =>
    have expressions := line.intercalate (leads_of_mem_configExpressions (.inl rfl) lines)
    exact (((opensTarget.append named.arguments).append property).append expressions).append closing

theorem leads_fileIncludeDirectories {own : Override (List String)}
    (holds : own.Holds (∀ directory ∈ ·, BareOrQuoted directory)) :
    Leads commands (fileIncludeDirectories own) commands := by
  have unquoted : Entries (∀ value ∈ ·, Plain value) (own.values.map fun entry => (entry.1, entry.2.map unquote)) := by
    intro entry member
    obtain ⟨given, inside, rfl⟩ := List.mem_map.mp member
    obtain ⟨name, directories⟩ := holds.values given inside
    refine ⟨name, fun value member => ?_⟩
    obtain ⟨directory, listed, rfl⟩ := List.mem_map.mp member
    refine (directories directory listed).plain.of_mem fun c stays => ?_
    rw [unquote, String.toList_ofList] at stays
    exact mem_of_mem_strip stays
  exact leads_sourceListProperty (by decide) holds.file (entries_joined unquoted)

theorem leads_includeDirectories (unmarked : description.Unmarked) :
    Leads commands (includeDirectories description) commands := by
  refine (leads_targetIncludeDirectories unmarked.target.name unmarked.includeDirectories).append (.join ?_)
  intro text member
  obtain ⟨own, inside, rfl⟩ := List.mem_map.mp member
  exact leads_fileIncludeDirectories (unmarked.fileIncludeDirectories own inside)

theorem leads_definitions (unmarked : description.Unmarked) :
    Leads commands (definitions description) commands := by
  have opening : Leads commands "target_compile_definitions(" arguments := leads_ofList (by decide)
  refine (leads_command ((opening.append unmarked.target.name.arguments).append scope)
    (leads_quotedExpressions (forall_escaped (entries_joined unmarked.definitions)))).append (.join ?_)
  intro text member
  obtain ⟨own, inside, rfl⟩ := List.mem_map.mp member
  have holds := unmarked.fileDefinitions own inside
  exact leads_sourceListProperty (by decide) holds.file (entries_joined holds.values)

theorem bare_sdlFlag (enabled : Bool) : Bare (sdlFlag enabled) := by
  cases enabled <;> decide

theorem leads_sdlChecks (unmarked : description.Unmarked) :
    Leads commands (sdlChecks description) commands := by
  have stated : ∀ pair ∈ description.sdlChecks.filterMap fun entry =>
        entry.2.map fun enabled => (entry.1, sdlFlag enabled),
      Leads quotes pair.1 quotes ∧ Leads quotes pair.2 quotes := by
    intro pair member
    obtain ⟨entry, inside, found⟩ := List.mem_filterMap.mp member
    obtain ⟨enabled, -, rfl⟩ := Option.map_eq_some_iff.mp found
    exact ⟨(unmarked.sdlChecks entry inside).1.quotes, (bare_sdlFlag enabled).quotes⟩
  refine (leads_targetCompileOptions unmarked.target.name stated).append (.join ?_)
  intro text member
  obtain ⟨own, inside, rfl⟩ := List.mem_map.mp member
  have holds := unmarked.fileSdlChecks own inside
  refine leads_sourceCompileFlags (List.forall_mem_singleton.mpr holds.file) fun pair member => ?_
  obtain ⟨entry, listed, rfl⟩ := List.mem_map.mp member
  exact ⟨(holds.values entry listed).1, (bare_sdlFlag entry.2).plain⟩

theorem leads_pchOptions {name : String} (named : Bare name) {plan : PchPlan} (holds : plan.Holds) :
    Leads commands (pchOptions name plan) commands := by
  cases plan with
  | targetWide defaults overrides =>
    refine (leads_targetCompileOptions named (forall_escaped holds.1)).append (.join fun text member => ?_)
    obtain ⟨own, inside, rfl⟩ := List.mem_map.mp member
    have holds := holds.2 own inside
    exact leads_sourceCompileFlags (List.forall_mem_singleton.mpr holds.file) holds.values
  | perFile groups =>
    refine .join fun text member => ?_
    obtain ⟨group, inside, rfl⟩ := List.mem_map.mp member
    obtain ⟨files, flags⟩ := holds group inside
    exact leads_sourceCompileFlags files flags

theorem atLineStart_commands : AtLineStart commands := .inr ⟨rfl, rfl⟩

theorem leads_precompiledHeaders (unmarked : description.Unmarked) :
    Leads commands (precompiledHeaders description) commands := by
  have options := leads_pchOptions unmarked.target.name unmarked.pch
  have shifted := (options.indent atLineStart_commands atLineStart_commands).within [.branch]
  have endif : Leads (commands.within [.branch]) "endif ()\n" commands := leads_ofList (by decide)
  unfold precompiledHeaders
  dsimp only
  split
  next => exact .empty commands
  next => exact (opensBranch.append shifted).append endif

theorem leads_linkOptions {option name : String} (optional : Bare option) (named : Bare name)
    {values : List (String × List String)} (each : Entries (∀ directory ∈ ·, BareOrQuoted directory) values) :
    Leads commands (linkOptions option name values) commands := by
  have opening : Leads commands "target_link_options(" arguments := leads_ofList (by decide)
  have condition : Leads arguments "  $<$<CONFIG:" arguments := leads_ofList (by decide)
  have value : Leads arguments ">:\n    " arguments := leads_ofList (by decide)
  have line : Leads arguments "\n    " arguments := leads_ofList (by decide)
  have ended : Leads arguments ">\n" arguments := leads_ofList (by decide)
  have lines : Leads arguments (String.join (values.map (libraryDirectoryLines option))) arguments := by
    refine .join fun text member => ?_
    obtain ⟨entry, inside, rfl⟩ := List.mem_map.mp member
    obtain ⟨configuration, directories⟩ := each entry inside
    unfold libraryDirectoryLines
    split
    next => exact .empty arguments
    next =>
      have options : Leads arguments ("\n    ".intercalate (entry.2.map (option ++ ·))) arguments := by
        refine line.intercalate fun text member => ?_
        obtain ⟨directory, listed, rfl⟩ := List.mem_map.mp member
        exact optional.arguments.append (directories directory listed).arguments
      exact (((condition.append configuration.arguments).append value).append options).append ended
  exact (((opening.append named.arguments).append scope).append lines).append closing

theorem leads_libraryDirectories (unmarked : description.Unmarked) :
    Leads commands (libraryDirectories description) commands := by
  have microsoft : Bare "/LIBPATH:" := by decide
  have other : Bare "-L" := by decide
  have first := leads_linkOptions microsoft unmarked.target.name unmarked.libraryDirectories
  have second := leads_linkOptions other unmarked.target.name unmarked.libraryDirectories
  have shifted := (first.indent atLineStart_commands atLineStart_commands).within [.branch]
  have shifted' := (second.indent atLineStart_commands atLineStart_commands).within [.lastBranch]
  have alternative : Leads (commands.within [.branch]) "else ()\n" (commands.within [.lastBranch]) :=
    leads_ofList (by decide)
  have endif : Leads (commands.within [.lastBranch]) "endif ()\n" commands := leads_ofList (by decide)
  unfold libraryDirectories
  dsimp only
  split
  next => exact .empty commands
  next => exact (((opensBranch.append shifted).append alternative).append shifted').append endif

theorem leads_linkLibraries (unmarked : description.Unmarked) :
    Leads commands (linkLibraries description) commands := by
  have property : Leads arguments "\n  APPEND PROPERTY LINK_LIBRARIES\n" arguments := leads_ofList (by decide)
  have texts : Entries (∀ text ∈ ·, Plain text)
      (description.linkLibraries.map fun entry => (entry.1, entry.2.map (·.text))) := by
    intro pair member
    obtain ⟨entry, inside, rfl⟩ := List.mem_map.mp member
    obtain ⟨name, libraries⟩ := unmarked.linkLibraries entry inside
    exact ⟨name, List.forall_mem_map.mpr libraries⟩
  exact leads_command ((opensTarget.append unmarked.target.name.arguments).append property)
    (leads_quotedExpressions (forall_escaped (entries_joined texts)))

theorem leads_body (unmarked : description.Unmarked) : Leads commands (body description) commands := by
  have line : Leads commands "\n" commands := leads_ofList (by decide)
  have declared := ((leads_configurationTypes unmarked.target.configurations).append
    (leads_useOfMfc description.target.useOfMfc)).append (leads_declaration unmarked.target)
  have outputs : Leads commands (titled "Output file name" _) commands :=
    leads_titled (by decide) (leads_outputNames unmarked.target)
  have included : Leads commands (titled "Additional include directories" _) commands :=
    leads_titled (by decide) (leads_includeDirectories unmarked)
  have defined : Leads commands (titled "Preprocessor definitions" _) commands :=
    leads_titled (by decide) (leads_definitions unmarked)
  have checked : Leads commands (titled "SDL check" _) commands := leads_titled (by decide) (leads_sdlChecks unmarked)
  have precompiled : Leads commands (titled "Precompiled header files" _) commands :=
    leads_titled (by decide) (leads_precompiledHeaders unmarked)
  have searched : Leads commands (titled "Additional library directories" _) commands :=
    leads_titled (by decide) (leads_libraryDirectories unmarked)
  have linked : Leads commands (titled "Link libraries" _) commands :=
    leads_titled (by decide) (leads_linkLibraries unmarked)
  exact (((((((declared.append line).append outputs).append included).append defined).append checked).append
    precompiled).append searched).append linked

/-- Every quote, parenthesis and block of a descriptor is closed, whatever parts the descriptor has. -/
theorem descriptors_are_balanced (unmarked : description.Unmarked) : Balanced (ofTarget description) := by
  have head := (leads_header unmarked.target.name).append (leads_environmentCheck unmarked.environmentVariables)
  have trimmed := (leads_body unmarked).trimEnd rfl
  have whole : Leads commands (ofTarget description) commands := by
    rw [ofTarget, String.append_assoc]
    exact head.append trimmed
  exact ⟨commands, whole, rfl, rfl, rfl⟩

/-- So is the descriptor of a solution. -/
theorem solution_descriptors_are_balanced {name : String} (named : Bare name) {directories : List String}
    (bare : ∀ directory ∈ directories, Bare directory) : Balanced (ofSolution name directories) := by
  have opening : Leads commands "add_subdirectory(" arguments := leads_ofList (by decide)
  have lines : Leads commands (String.join (directories.map fun directory =>
      "add_subdirectory(" ++ quoteIfBlank directory ++ ")\n")) commands := by
    refine .join fun line member => ?_
    obtain ⟨directory, inside, rfl⟩ := List.mem_map.mp member
    exact (opening.append (bare directory inside).quoteIfBlank).append closing
  exact ⟨commands, (leads_header named).append lines, rfl, rfl, rfl⟩

end Descriptor

namespace Sample

def quotingDescription : TargetDescription where
  target := {
    name := "app"
    kind := .executable
    useOfMfc := .none
    subsystem := .windows
    directory := "C:/solution/app"
    configurations := [⟨"Debug", "Debug", "x64"⟩]
    files := [⟨"main file.cpp", "C:/solution/app/main file.cpp", .source⟩]
    outputs := [("Debug", ⟨"C:/solution/app_d.exe", ""⟩)] }
  includeDirectories := [("Debug", ["\"$ENV\x7bBOOST_ROOT\x7d/all headers\""])]
  definitions := [("Debug", ["NAME=\"app\""])]
  linkLibraries := [("Debug", [.literal "\"core.lib\""])]
  fileDefinitions := [⟨"main file.cpp", [("Debug", ["NAME=\"main\""])]⟩]
  pch := .targetWide [("Debug", "/Yu\"pch.h\"")] []
  environmentVariables := ["BOOST_ROOT"]

theorem quotingDescription_is_balanced :
    quotingDescription.Unmarked ∧ Balanced (Descriptor.ofTarget quotingDescription) := by
  have target : quotingDescription.target.IsBare := {
    name := by decide
    configurations := by decide
    files := by decide
    outputs := by decide }
  have directory : BareOrQuoted "\"$ENV\x7bBOOST_ROOT\x7d/all headers\"" :=
    ⟨"$ENV\x7bBOOST_ROOT\x7d/all headers", by decide, .inr (by decide)⟩
  have debug : Bare "Debug" := by decide
  have single {α : Type} {meets : α → Prop} {value : α} (holds : meets value) : Entries meets [("Debug", value)] :=
    List.forall_mem_singleton.mpr ⟨debug, holds⟩
  have unmarked : quotingDescription.Unmarked := {
    target
    includeDirectories := single (List.forall_mem_singleton.mpr directory)
    definitions := single (by decide)
    sdlChecks := List.forall_mem_nil _
    libraryDirectories := List.forall_mem_nil _
    linkLibraries := single (by decide)
    fileIncludeDirectories := List.forall_mem_nil _
    fileDefinitions := List.forall_mem_singleton.mpr ⟨by decide, single (by decide)⟩
    fileSdlChecks := List.forall_mem_nil _
    pch := ⟨single (by decide), List.forall_mem_nil _⟩
    environmentVariables := by decide }
  exact ⟨unmarked, Descriptor.descriptors_are_balanced unmarked⟩

end Sample

end Listfile

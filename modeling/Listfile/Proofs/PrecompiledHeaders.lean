import Listfile.Descriptor
import Listfile.Proofs.Contexts
import Listfile.Proofs.Overrides

/-!
The section of a descriptor on precompiled headers, and the flags that it makes each source file compile with: those
of the file itself, but for a file that does without a precompiled header where its target creates one.
-/

namespace Listfile

inductive PchCommand where
  | target (flags : List (String × String))
  | sources (files : List String) (flags : List (String × String))

namespace PchCommand

def expressions (flags : List (String × String)) : List String :=
  flags.map fun entry => configExpression entry.1 (Text.escapeQuotes entry.2)

def text (name : String) : PchCommand → String
  | target flags =>
    "target_compile_options(" ++ name ++ " PRIVATE\n" ++
      String.join ((expressions flags).map fun expression => "  \"" ++ expression ++ "\"\n") ++ ")\n"
  | sources files flags =>
    "set_property(SOURCE " ++ " ".intercalate (files.map Text.quoteIfBlank) ++
      "\n  APPEND_STRING PROPERTY COMPILE_FLAGS\n  \" " ++ " \\\n   ".intercalate (expressions flags) ++ "\")\n"

def stated (flags : List (String × String)) : List (String × String) := flags.filter (·.2 ≠ "")

def of? (make : List (String × String) → PchCommand) (flags : List (String × String)) : Option PchCommand :=
  if (stated flags).isEmpty then none else some (make (stated flags))

def sectionText (name : String) (commands : List PchCommand) : String :=
  if commands.isEmpty then ""
  else "if (MSVC)\n" ++ Text.indent (String.join (commands.map (text name))) ++ "endif ()\n"

end PchCommand

def PchPlan.commands : PchPlan → List PchCommand
  | .targetWide defaults overrides =>
    (PchCommand.of? .target defaults).toList ++
      overrides.filterMap fun own => PchCommand.of? (.sources [own.file]) own.values
  | .perFile groups => groups.filterMap fun group => PchCommand.of? (.sources group.files) group.flags

/-! The text of the section is that of its commands. -/

namespace PchCommand

theorem escapeQuotes_eq_empty_iff {s : String} : Text.escapeQuotes s = "" ↔ s = "" := by
  rw [Text.escapeQuotes, ← String.toList_eq_nil_iff, String.toList_ofList, List.flatMap_eq_nil_iff,
    ← String.toList_eq_nil_iff]
  constructor
  · intro none
    apply List.eq_nil_iff_forall_not_mem.mpr
    intro c member
    have empty := none c member
    split at empty <;> simp at empty
  · intro none
    simp [none]

theorem configExpressions_escaped (flags : List (String × String)) :
    configExpressions (Descriptor.escaped flags) = expressions (stated flags) := by
  simp only [configExpressions, Descriptor.escaped, expressions, stated, List.filter_map, List.map_map,
    Function.comp_def, ne_eq, escapeQuotes_eq_empty_iff]

theorem targetCompileOptions_eq (name : String) (flags : List (String × String)) :
    Descriptor.targetCompileOptions name (Descriptor.escaped flags) =
      ((of? .target flags).map (text name)).getD "" := by
  rw [Descriptor.targetCompileOptions, Descriptor.quotedExpressions, configExpressions_escaped, of?, Descriptor.command]
  cases stated flags with
  | nil => rfl
  | cons entry rest =>
    have filled : String.join ((expressions (entry :: rest)).map fun expression =>
        "  \"" ++ expression ++ "\"\n") ≠ "" := by
      simp [expressions, String.join_cons]
    rw [if_neg filled]
    rfl

theorem append_ne_empty (before : String) {ending : String} (filled : ending ≠ "") : before ++ ending ≠ "" := by
  intro none
  exact filled (String.append_eq_empty_iff.mp none).2

theorem intercalate_ne_empty (separator : String) {first : String} (filled : first ≠ "") (rest : List String) :
    separator.intercalate (first :: rest) ≠ "" := by
  cases rest with
  | nil =>
    rw [String.intercalate_singleton]
    exact filled
  | cons second others =>
    rw [String.intercalate_cons_cons, ne_eq, String.append_eq_empty_iff, String.append_eq_empty_iff]
    exact fun none => filled none.1.1

theorem sourceCompileFlags_eq (name : String) (files : List String) (flags : List (String × String)) :
    Descriptor.sourceCompileFlags files flags = ((of? (.sources files) flags).map (text name)).getD "" := by
  rw [Descriptor.sourceCompileFlags, configExpressions_escaped, of?]
  cases stated flags with
  | nil => rfl
  | cons entry rest =>
    have filled : " \\\n   ".intercalate (expressions (entry :: rest)) ≠ "" :=
      intercalate_ne_empty _ (append_ne_empty _ (by decide)) _
    rw [if_neg filled]
    rfl

theorem text_ne_empty (name : String) (command : PchCommand) : command.text name ≠ "" := by
  cases command with
  | target => exact append_ne_empty _ (by decide)
  | sources => exact append_ne_empty _ (by decide)

theorem join_filterMap {α : Type} (name : String) (f : α → Option PchCommand) (l : List α) :
    String.join (l.map fun x => ((f x).map (text name)).getD "") = String.join ((l.filterMap f).map (text name)) := by
  induction l with
  | nil => rfl
  | cons x rest ih =>
    rw [List.map_cons, List.filterMap_cons, String.join_cons, ih]
    cases f x <;> simp

end PchCommand

theorem pchOptions_eq (name : String) (plan : PchPlan) :
    Descriptor.pchOptions name plan = String.join (plan.commands.map (PchCommand.text name)) := by
  cases plan with
  | targetWide defaults overrides =>
    simp only [Descriptor.pchOptions, PchPlan.commands, PchCommand.targetCompileOptions_eq,
      PchCommand.sourceCompileFlags_eq name, PchCommand.join_filterMap, List.map_append, String.join_append]
    cases PchCommand.of? .target defaults <;> simp
  | perFile groups =>
    simp only [Descriptor.pchOptions, PchPlan.commands, PchCommand.sourceCompileFlags_eq name,
      PchCommand.join_filterMap]

theorem precompiledHeaders_eq (description : TargetDescription) :
    Descriptor.precompiledHeaders description =
      PchCommand.sectionText description.target.name description.pch.commands := by
  rw [Descriptor.precompiledHeaders, pchOptions_eq, PchCommand.sectionText]
  cases description.pch.commands with
  | nil => rfl
  | cons first rest =>
    have filled : String.join ((first :: rest).map (PchCommand.text description.target.name)) ≠ "" := by
      rw [List.map_cons, String.join_cons]
      exact fun none => first.text_ne_empty _ (String.append_eq_empty_iff.mp none).1
    rw [if_neg filled]
    rfl

/-! Reading the section: what it states for a source file in a configuration. -/

def flagsIn (configuration : String) (flags : List (String × String)) : List String :=
  (flags.filter (·.1 = configuration)).map (·.2)

namespace PchCommand

def sourceFlags (file configuration : String) : PchCommand → List String
  | target _ => []
  | sources files flags => if file ∈ files then flagsIn configuration flags else []

def targetFlags (configuration : String) : PchCommand → List String
  | target flags => flagsIn configuration flags
  | sources _ _ => []

end PchCommand

/-- The flags that a source file is compiled with: those that are stated for the file, else those that are stated for
its target, else none. -/
inductive CompiledWith (commands : List PchCommand) (file configuration : String) : String → Prop
  | own {flags : String} (stated : commands.flatMap (·.sourceFlags file configuration) = [flags]) :
      CompiledWith commands file configuration flags
  | inherited {flags : String} (unstated : commands.flatMap (·.sourceFlags file configuration) = [])
      (stated : commands.flatMap (·.targetFlags configuration) = [flags]) :
      CompiledWith commands file configuration flags
  | unstated (file_unstated : commands.flatMap (·.sourceFlags file configuration) = [])
      (target_unstated : commands.flatMap (·.targetFlags configuration) = []) :
      CompiledWith commands file configuration ""

theorem CompiledWith.unique {commands : List PchCommand} {file configuration flags other : String}
    (first : CompiledWith commands file configuration flags) (second : CompiledWith commands file configuration other) :
    flags = other := by
  cases first <;> cases second <;> simp_all

namespace PchCommand

theorem targetFlags_of?_target (configuration : String) (flags : List (String × String)) :
    (of? .target flags).toList.flatMap (targetFlags configuration) = flagsIn configuration (stated flags) := by
  unfold of?
  cases stated flags <;> simp [targetFlags, flagsIn]

theorem sourceFlags_of?_target (file configuration : String) (flags : List (String × String)) :
    (of? .target flags).toList.flatMap (sourceFlags file configuration) = [] := by
  unfold of?
  cases stated flags <;> simp [sourceFlags]

theorem targetFlags_of?_sources (configuration : String) (files : List String) (flags : List (String × String)) :
    (of? (.sources files) flags).toList.flatMap (targetFlags configuration) = [] := by
  unfold of?
  cases stated flags <;> simp [targetFlags]

theorem sourceFlags_of?_sources (file configuration : String) (files : List String)
    (flags : List (String × String)) :
    (of? (.sources files) flags).toList.flatMap (sourceFlags file configuration) =
      if file ∈ files then flagsIn configuration (stated flags) else [] := by
  unfold of?
  cases stated flags <;> simp [sourceFlags, flagsIn]

end PchCommand

open PchCommand

theorem flagsIn_stated {defaults : Keyed Settings} (nodup : defaults.keys.Nodup) {default : String × Settings}
    (member : default ∈ defaults) (flags? : String × Settings → Option String) :
    flagsIn default.1 (stated (defaults.filterMap fun entry => (flags? entry).map (entry.1, ·))) =
      ((flags? default).filter (· ≠ "")).toList := by
  rw [← flatMap_of_key nodup member fun entry => ((flags? entry).filter (· ≠ "")).toList]
  clear nodup member
  induction defaults with
  | nil => rfl
  | cons entry rest ih =>
    rw [List.filterMap_cons, List.flatMap_cons, ← ih]
    cases given : flags? entry with
    | none => simp
    | some flags =>
      by_cases same : entry.1 = default.1 <;> by_cases empty : flags = "" <;>
        simp [stated, flagsIn, Option.filter_some, same, empty]

theorem flagsIn_stated_map {defaults : Keyed Settings} (nodup : defaults.keys.Nodup) {default : String × Settings}
    (member : default ∈ defaults) (flags : String × Settings → String) :
    flagsIn default.1 (stated (defaults.map fun entry => (entry.1, flags entry))) =
      ((some (flags default)).filter (· ≠ "")).toList := by
  rw [← flagsIn_stated nodup member fun entry => some (flags entry)]
  simp only [Option.map_some, List.filterMap_eq_map']

/-! What a plan states. -/

section

variable {defaults : Keyed Settings} {files : List FileSettings} {file : FileSettings} {default : String × Settings}
  {settings : Settings}

theorem Pch.flags_eq_empty_iff {pch : Pch} : pch.flags = "" ↔ pch.mode = .none := by
  cases given : pch.mode <;> simp [flags, given]

theorem sourceFlags_perFile (nodup : defaults.keys.Nodup) (apart : (files.map (·.file)).Nodup)
    (inside : file ∈ files) (member : default ∈ defaults) (found : file.perConfig.get? default.1 = some settings) :
    (PchPlan.perFile (PchPlan.groups defaults files)).commands.flatMap (sourceFlags file.file default.1) =
      ((some settings.pch.flags).filter (· ≠ "")).toList := by
  have named (flags : List (String × String)) :
      file.file ∈ (files.filter fun other => PchPlan.flagsOf defaults other = flags).map (·.file) ↔
        flags = PchPlan.flagsOf defaults file := by
    simp only [List.mem_map, List.mem_filter, decide_eq_true_eq]
    constructor
    · intro given
      rcases given with ⟨other, ⟨inside', same⟩, path⟩
      rw [← same, List.inj_on_of_nodup_map apart inside' inside path]
    · intro same
      exact ⟨file, ⟨inside, same.symm⟩, rfl⟩
  have listed : PchPlan.flagsOf defaults file ∈ (files.map (PchPlan.flagsOf defaults)).eraseDups :=
    List.mem_eraseDups.mpr (List.mem_map_of_mem inside)
  have distinct : ((files.map (PchPlan.flagsOf defaults)).eraseDups.map id).Nodup := by
    rw [List.map_id]
    exact nodup_eraseDups _
  -- Among groups with different flags, only that of the file's own flags lists the file.
  have single := flatMap_of_key distinct listed fun flags => flagsIn default.1 (stated flags)
  simp only [PchPlan.commands, PchPlan.groups, flatMap_filterMap, List.flatMap_map, sourceFlags_of?_sources, named]
  rw [flatMap_filter_of_nil]
  · have own := flagsIn_stated_map nodup member fun entry =>
      ((file.perConfig.get? entry.1).map fun settings => settings.pch.flags).getD ""
    rw [found] at own
    exact single.trans own
  · intro flags _ empty
    have none : stated flags = [] := by
      simpa [stated] using empty
    rw [none]
    split <;> rfl

theorem targetFlags_perFile (groups : List PchGroup) (configuration : String) :
    (PchPlan.perFile groups).commands.flatMap (targetFlags configuration) = [] := by
  simp only [PchPlan.commands, flatMap_filterMap, targetFlags_of?_sources, List.flatMap_eq_nil_iff, implies_true]

theorem targetFlags_targetWide (nodup : defaults.keys.Nodup) (member : default ∈ defaults)
    (overrides : List (Override String)) :
    (PchPlan.targetWide (defaults.map fun entry => (entry.1, entry.2.pch.flags)) overrides).commands.flatMap
        (targetFlags default.1) = ((some default.2.pch.flags).filter (· ≠ "")).toList := by
  have others : (overrides.filterMap fun own => of? (.sources [own.file]) own.values).flatMap
      (targetFlags default.1) = [] := by
    simp only [flatMap_filterMap, targetFlags_of?_sources, List.flatMap_eq_nil_iff, implies_true]
  rw [PchPlan.commands, List.flatMap_append, targetFlags_of?_target, others, List.append_nil]
  exact flagsIn_stated_map nodup member fun entry => entry.2.pch.flags

def ownFlags? (file : FileSettings) (default : String × Settings) : Option String :=
  (file.perConfig.get? default.1).bind fun settings =>
    if settings.pch = default.2.pch then none else some settings.pch.flags

theorem sourceFlags_targetWide (nodup : defaults.keys.Nodup) (apart : (files.map (·.file)).Nodup)
    (inside : file ∈ files) (member : default ∈ defaults) (flags : List (String × String)) :
    (PchPlan.targetWide flags (pchOverrides defaults files)).commands.flatMap (sourceFlags file.file default.1) =
      ((ownFlags? file default).filter (· ≠ "")).toList := by
  rw [← flagsIn_stated nodup member (ownFlags? file)]
  have values (other : FileSettings) : Override.value? (fun own default => own.pch != default.pch)
      (fun own => some own.pch.flags) other = fun entry => (ownFlags? other entry).map (entry.1, ·) := by
    funext entry
    unfold Override.value? ownFlags?
    cases other.perConfig.get? entry.1 with
    | none => rfl
    | some settings => by_cases same : settings.pch = entry.2.pch <;> simp [same]
  have each (other : FileSettings) :
      (Override.ofFile? (fun own default => own.pch != default.pch) (fun own => some own.pch.flags) defaults
          other).toList.flatMap
        (fun own => if file.file = own.file then flagsIn default.1 (stated own.values) else []) =
      if other.file = file.file then
        flagsIn default.1 (stated (defaults.filterMap fun entry => (ownFlags? other entry).map (entry.1, ·)))
      else [] := by
    rw [Override.ofFile?, values]
    have turned : file.file = other.file ↔ other.file = file.file := eq_comm
    cases defaults.filterMap fun entry => (ownFlags? other entry).map (entry.1, ·) with
    | nil => simp [stated, flagsIn]
    | cons => simp [turned]
  have alike : ∀ own default : Settings, own.isEquivalent default = true → (own.pch != default.pch) = false := by
    intro own default equivalent
    rw [← (Settings.isEquivalent_iff.mp equivalent).2, bne_self_eq_false]
  rw [PchPlan.commands, List.flatMap_append, sourceFlags_of?_target, List.nil_append, pchOverrides,
    Override.ofFiles_eq_filterMap alike]
  simp only [flatMap_filterMap, sourceFlags_of?_sources, List.mem_singleton, each]
  exact flatMap_of_key apart inside fun other =>
    flagsIn default.1 (stated (defaults.filterMap fun entry => (ownFlags? other entry).map (entry.1, ·)))

/-! What a file is compiled with. -/

theorem compiledWith_of_flags {commands : List PchCommand} {path configuration inherited : String}
    {own? : Option String}
    (own : commands.flatMap (sourceFlags path configuration) = (own?.filter (· ≠ "")).toList)
    (target : commands.flatMap (targetFlags configuration) = ((some inherited).filter (· ≠ "")).toList) :
    CompiledWith commands path configuration ((own?.filter (· ≠ "")).getD inherited) := by
  cases kept : own?.filter (· ≠ "") with
  | some flags =>
    rw [kept] at own
    exact .own own
  | none =>
    rw [kept] at own
    by_cases empty : inherited = ""
    · rw [empty] at target ⊢
      exact .unstated own target
    · rw [Option.filter_some, if_pos (by simpa using empty)] at target
      exact .inherited own target

/-- A file that does without a precompiled header where its target creates one, although none is used. -/
structure KeepsCreation (defaults : Keyed Settings) (default own : Settings) : Prop where
  own : own.pch.mode = .none
  default : default.pch.mode = .create
  unused : ∀ entry ∈ defaults, entry.2.pch.mode ≠ .use

theorem compiledWith_perFile (nodup : defaults.keys.Nodup) (apart : (files.map (·.file)).Nodup)
    (inside : file ∈ files) (member : default ∈ defaults) (found : file.perConfig.get? default.1 = some settings) :
    CompiledWith (PchPlan.perFile (PchPlan.groups defaults files)).commands file.file default.1
      settings.pch.flags := by
  have none : (PchPlan.perFile (PchPlan.groups defaults files)).commands.flatMap (targetFlags default.1) =
      ((some "").filter (· ≠ "")).toList := targetFlags_perFile _ default.1
  have given := compiledWith_of_flags (sourceFlags_perFile nodup apart inside member found) none
  by_cases empty : settings.pch.flags = "" <;> simpa [Option.filter_some, empty] using given

theorem compiledWith_targetWide (nodup : defaults.keys.Nodup) (apart : (files.map (·.file)).Nodup)
    (inside : file ∈ files) (member : default ∈ defaults) (found : file.perConfig.get? default.1 = some settings) :
    CompiledWith (PchPlan.targetWide (defaults.map fun entry => (entry.1, entry.2.pch.flags))
        (pchOverrides defaults files)).commands file.file default.1
      (if settings.pch.flags = "" then default.2.pch.flags else settings.pch.flags) := by
  have given := compiledWith_of_flags (sourceFlags_targetWide nodup apart inside member _)
    (targetFlags_targetWide nodup member (pchOverrides defaults files))
  rw [ownFlags?, found, Option.bind_some] at given
  by_cases same : settings.pch = default.2.pch <;> by_cases empty : settings.pch.flags = "" <;>
    simpa [Option.filter_some, same, empty] using given

theorem isMixed_eq_true_iff : PchPlan.isMixed defaults files = true ↔
    (∃ entry ∈ defaults, entry.2.pch.mode = .use) ∧
      ∃ file ∈ files, ∃ entry ∈ file.perConfig, entry.2.pch.mode = .none := by
  simp only [PchPlan.isMixed, Bool.and_eq_true, List.any_eq_true, decide_eq_true_eq]

theorem exists_compiledWith (nodup : defaults.keys.Nodup) (apart : (files.map (·.file)).Nodup)
    (inside : file ∈ files) (member : default ∈ defaults) (found : file.perConfig.get? default.1 = some settings) :
    ∃ flags, CompiledWith (PchPlan.ofFiles defaults files).commands file.file default.1 flags ∧
      (flags = settings.pch.flags ↔ ¬ KeepsCreation defaults default.2 settings) := by
  unfold PchPlan.ofFiles
  split
  next mixed =>
    refine ⟨_, compiledWith_perFile nodup apart inside member found, ?_⟩
    obtain ⟨⟨entry, present, uses⟩, -⟩ := isMixed_eq_true_iff.mp mixed
    simp only [true_iff]
    intro keeps
    exact keeps.unused entry present uses
  next uniform =>
    refine ⟨_, compiledWith_targetWide nodup apart inside member found, ?_⟩
    by_cases empty : settings.pch.flags = ""
    · have without := Pch.flags_eq_empty_iff.mp empty
      -- A default that uses one would have made the plan a mixed one, with this file.
      have unused : ∀ entry ∈ defaults, entry.2.pch.mode ≠ .use := by
        intro entry present uses
        apply uniform
        exact isMixed_eq_true_iff.mpr
          ⟨⟨entry, present, uses⟩, file, inside, _, Keyed.mem_of_get? found, without⟩
      have creates : KeepsCreation defaults default.2 settings ↔ default.2.pch.mode = .create :=
        ⟨fun keeps => keeps.default, fun creates => ⟨without, creates, unused⟩⟩
      have idle := unused default member
      rw [if_pos empty, empty, Pch.flags_eq_empty_iff, creates]
      cases mode : default.2.pch.mode <;> simp_all
    · rw [if_neg empty]
      simp only [true_iff]
      intro keeps
      exact empty (Pch.flags_eq_empty_iff.mpr keeps.own)

end

/-- The section on precompiled headers that is written for a target, and what it makes each of its source files
compile with: the flags of the file, unless it keeps the creation of the target. -/
theorem files_compile_with_own_pch_flags (provider : Provider) (targets : List Target) (own : ResolvedTarget)
    (extracted : ExtractedSettings) (done : extract provider own = .ok extracted)
    (nodup : own.configurations.keys.Nodup) (apart : (extracted.files.map (·.file)).Nodup) :
    Descriptor.precompiledHeaders ((TargetDescription.ofSettings provider own extracted).linkedWith provider targets own
        extracted.defaults) =
      sectionText own.target.name (PchPlan.ofFiles extracted.defaults extracted.files).commands ∧
    ∀ file ∈ extracted.files, ∀ default ∈ extracted.defaults, ∃ settings flags,
      file.perConfig.get? default.1 = some settings ∧
      (∀ other, CompiledWith (PchPlan.ofFiles extracted.defaults extracted.files).commands file.file default.1 other ↔
        other = flags) ∧
      (flags = settings.pch.flags ↔ ¬ KeepsCreation extracted.defaults default.2 settings) := by
  constructor
  · rw [precompiledHeaders_eq]
    rfl
  · intro file inside default member
    obtain ⟨document, -, rfl⟩ := Extraction.extract_eq_ok_iff.mp done
    obtain ⟨source, -, -, rfl⟩ := Extraction.mem_files_iff.mp inside
    obtain ⟨_, -, -, found⟩ := Extraction.exists_configuration_of_default nodup member source
    have keys : (Extraction.ofDocument document own.configurations
        (provider.files own.target.name)).defaults.keys.Nodup := by
      rw [Extraction.keys_defaults]
      exact nodup
    obtain ⟨flags, compiled, exact_flags⟩ := exists_compiledWith keys apart inside member found
    refine ⟨_, flags, found, ?_, exact_flags⟩
    intro other
    constructor
    · intro compiled'
      exact compiled'.unique compiled
    · intro same
      rw [same]
      exact compiled

/-! A target with two source files, one of which does without a precompiled header. -/

namespace Sample

def headerConfigurations (mode : PchMode) : Keyed ProjectConfiguration :=
  [("Debug", { name := "Debug", platform := "x64", compiler := { precompiledHeader := mode } })]

def headerFiles : List ProjectFile := [
  { relativePath := "app.cpp", kind := .source },
  { relativePath := "plain.c", kind := .source, configurations := [("Debug", { precompiledHeader := some .none })] }]

def headerProvider : Provider := { provider with files := fun _ => headerFiles }

def headerTarget (mode : PchMode) : ResolvedTarget where
  target := Resolution.targetOf headerProvider project (headerConfigurations mode) {}
  configurations := headerConfigurations mode

def headerExtracted (mode : PchMode) : ExtractedSettings where
  defaults := [("Debug", { pch := { mode } })]
  files := [⟨"app.cpp", [("Debug", { pch := { mode } })]⟩, ⟨"plain.c", [("Debug", {})]⟩]

theorem extract_headerTarget (mode : PchMode) :
    extract headerProvider (headerTarget mode) = .ok (headerExtracted mode) := by
  have entries : (headerFiles.filter (·.kind = .source)).map
      (Extraction.fileSettingsOf {} (headerConfigurations mode)) = (headerExtracted mode).files := by
    cases mode <;> decide +kernel
  have sorted : (headerExtracted mode).files.mergeSort (fun a b => a.file ≤ b.file) = (headerExtracted mode).files :=
    List.mergeSort_of_pairwise (by cases mode <;> decide +kernel)
  have defaults : (headerConfigurations mode).mapValues (Extraction.defaultsOf {}) =
      (headerExtracted mode).defaults := by
    cases mode <;> decide +kernel
  refine Extraction.extract_eq_ok_iff.mpr ⟨{}, rfl, ?_⟩
  show headerExtracted mode = Extraction.ofDocument {} (headerConfigurations mode) headerFiles
  rw [Extraction.ofDocument, defaults, entries, sorted]

end Sample

open Sample in
theorem plain_file_compiles_without_use :
    extract headerProvider (headerTarget .use) = .ok (headerExtracted .use) ∧
      (headerTarget .use).configurations.keys.Nodup ∧ ((headerExtracted .use).files.map (·.file)).Nodup ∧
      Descriptor.precompiledHeaders ((TargetDescription.ofSettings headerProvider (headerTarget .use)
          (headerExtracted .use)).linkedWith headerProvider [] (headerTarget .use) (headerExtracted .use).defaults) =
        sectionText "app" (PchPlan.ofFiles (headerExtracted .use).defaults (headerExtracted .use).files).commands ∧
      ∀ file ∈ (headerExtracted .use).files, ∀ default ∈ (headerExtracted .use).defaults, ∃ settings flags,
        file.perConfig.get? default.1 = some settings ∧
        (∀ other, CompiledWith (PchPlan.ofFiles (headerExtracted .use).defaults (headerExtracted .use).files).commands
          file.file default.1 other ↔ other = flags) ∧
        (flags = settings.pch.flags ↔ ¬ KeepsCreation (headerExtracted .use).defaults default.2 settings) := by
  have nodup : (headerTarget .use).configurations.keys.Nodup := by decide
  have apart : ((headerExtracted .use).files.map (·.file)).Nodup := by decide
  exact ⟨extract_headerTarget .use, nodup, apart, files_compile_with_own_pch_flags headerProvider [] (headerTarget .use)
    (headerExtracted .use) (extract_headerTarget .use) nodup apart⟩

open Sample in
/-- A file that does without a precompiled header creates one with its target. -/
theorem plain_file_creates_header :
    extract headerProvider (headerTarget .create) = .ok (headerExtracted .create) ∧
      (headerTarget .create).configurations.keys.Nodup ∧ ((headerExtracted .create).files.map (·.file)).Nodup ∧
      Descriptor.precompiledHeaders ((TargetDescription.ofSettings headerProvider (headerTarget .create)
          (headerExtracted .create)).linkedWith headerProvider [] (headerTarget .create)
          (headerExtracted .create).defaults) =
        "if (MSVC)\n  target_compile_options(app PRIVATE\n    \"$<$<CONFIG:Debug>:/Yc>\"\n  )\nendif ()\n" ∧
      ⟨"plain.c", [("Debug", {})]⟩ ∈ (headerExtracted .create).files ∧ ({} : Settings).pch.flags = "" ∧
      CompiledWith (PchPlan.ofFiles (headerExtracted .create).defaults (headerExtracted .create).files).commands
        "plain.c" "Debug" "/Yc" := by
  refine ⟨extract_headerTarget .create, by decide, by decide, by decide +kernel, by decide, rfl, ?_⟩
  apply CompiledWith.inherited
  all_goals decide +kernel

end Listfile

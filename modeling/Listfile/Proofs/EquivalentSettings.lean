import Listfile.Proofs.Overrides

/-!
Settings under which a file is compiled alike: they are equal but for the order of the definitions, and no test for a
difference tells them apart, so that files compiled with the defaults can be skipped where overrides are looked for.
-/

namespace Listfile

namespace Settings

variable {a b c : Settings}

theorem isEquivalent_refl (a : Settings) : a.isEquivalent a = true := isEquivalent_iff.mpr ⟨.refl _, rfl⟩

theorem isEquivalent_symm (equivalent : a.isEquivalent b = true) : b.isEquivalent a = true := by
  obtain ⟨perm, same⟩ := isEquivalent_iff.mp equivalent
  refine isEquivalent_iff.mpr ⟨perm.symm, ?_⟩
  rw [← same]

theorem isEquivalent_trans (first : a.isEquivalent b = true) (second : b.isEquivalent c = true) :
    a.isEquivalent c = true := by
  obtain ⟨perm, same⟩ := isEquivalent_iff.mp first
  obtain ⟨perm', same'⟩ := isEquivalent_iff.mp second
  refine isEquivalent_iff.mpr ⟨perm.trans perm', ?_⟩
  rw [← same', ← same]

theorem isEquivalent_reordered {definitions : List String} (perm : a.definitions.Perm definitions) :
    a.isEquivalent { a with definitions } = true := isEquivalent_iff.mpr ⟨perm, rfl⟩

theorem isEquivalent_congr {first second : List String} (perm : a.definitions.Perm first)
    (perm' : b.definitions.Perm second) :
    isEquivalent { a with definitions := first } { b with definitions := second } = a.isEquivalent b := by
  have left := isEquivalent_reordered perm
  have right := isEquivalent_reordered perm'
  rw [Bool.eq_iff_iff]
  constructor
  · intro equivalent
    exact isEquivalent_trans left (isEquivalent_trans equivalent (isEquivalent_symm right))
  · intro equivalent
    exact isEquivalent_trans (isEquivalent_symm left) (isEquivalent_trans equivalent right)

end Settings

theorem definitionsEquivalent_iff_mem {a b : List String} (nodup : a.Nodup) (nodup' : b.Nodup) :
    definitionsEquivalent a b = true ↔ ∀ definition, definition ∈ a ↔ definition ∈ b :=
  definitionsEquivalent_iff_perm.trans (List.perm_ext_iff_of_nodup nodup nodup')

namespace Override

variable {α : Type}

/-- Overrides that a test for a difference finds. Files that are compiled with the defaults are not looked at: they have
settings in each configuration, and the test finds nothing in them, so that no override is lost. -/
structure LosesNone (overrides : Keyed Settings → List FileSettings → List (Override α))
    (differs : Settings → Settings → Bool) (value : Settings → Option α) : Prop where
  tested : overrides = ofFiles differs value
  unfound : ∀ (defaults : Keyed Settings) (file : FileSettings), file.matchesDefaults defaults = true →
    ∀ default ∈ defaults, ∃ settings, file.perConfig.get? default.1 = some settings ∧ differs settings default.2 = false
  complete : ∀ defaults files, overrides defaults files = files.filterMap (ofFile? differs value defaults)

theorem losesNone_ofFiles {differs : Settings → Settings → Bool}
    (alike : ∀ own default : Settings, own.isEquivalent default = true → differs own default = false)
    (value : Settings → Option α) : LosesNone (ofFiles differs value) differs value where
  tested := rfl
  unfound _ _ := unfound_of_matchesDefaults alike
  complete := ofFiles_eq_filterMap alike

theorem losesNone_of_ne {β : Type} [BEq β] [LawfulBEq β] {category : Settings → β}
    (apart : ∀ (own : Settings) (definitions : List String), category { own with definitions } = category own)
    (value : Settings → Option α) : LosesNone (ofFiles (fun own default => category own != category default) value)
      (fun own default => category own != category default) value := by
  refine losesNone_ofFiles (fun own default equivalent => ?_) value
  have same : category own = category default := by
    rw [← apart own default.definitions, (Settings.isEquivalent_iff.mp equivalent).2]
  rw [same, bne_self_eq_false]

end Override

/-- Definitions are equivalent if they are permutations of each other, and settings are compared by an equivalence that
does not depend on the order of the definitions. A file with settings equivalent to the defaults differs from them in no
category, so that no override is lost where such files are skipped. -/
theorem equivalent_settings_need_no_override :
    (∀ a b : List String, definitionsEquivalent a b = true ↔ a.Perm b) ∧
    (∀ a b : List String, a.Nodup → b.Nodup →
      (definitionsEquivalent a b = true ↔ ∀ definition, definition ∈ a ↔ definition ∈ b)) ∧
    Equivalence (fun a b : Settings => a.isEquivalent b = true) ∧
    (∀ (a b : Settings) (first second : List String), a.definitions.Perm first → b.definitions.Perm second →
      Settings.isEquivalent { a with definitions := first } { b with definitions := second } = a.isEquivalent b) ∧
    Override.LosesNone includeOverrides (fun own default => own.includeDirectories != default.includeDirectories)
      (fun own => some own.includeDirectories) ∧
    Override.LosesNone definitionOverrides
      (fun own default => !definitionsEquivalent own.definitions default.definitions)
      (fun own => some own.definitions) ∧
    Override.LosesNone sdlOverrides (fun own default => own.sdlCheck != default.sdlCheck) (fun own => own.sdlCheck) ∧
    Override.LosesNone pchOverrides (fun own default => own.pch != default.pch) (fun own => some own.pch.flags) := by
  refine ⟨fun a b => definitionsEquivalent_iff_perm, fun a b => definitionsEquivalent_iff_mem,
    ⟨Settings.isEquivalent_refl, Settings.isEquivalent_symm, Settings.isEquivalent_trans⟩,
    fun a b first second => Settings.isEquivalent_congr, ?_, ?_, ?_, ?_⟩
  · exact Override.losesNone_of_ne (fun _ _ => rfl) _
  · refine Override.losesNone_ofFiles (fun own default equivalent => ?_) _
    rw [Bool.not_eq_false', definitionsEquivalent_iff_perm]
    exact (Settings.isEquivalent_iff.mp equivalent).1
  · exact Override.losesNone_of_ne (fun _ _ => rfl) _
  · exact Override.losesNone_of_ne (fun _ _ => rfl) _

namespace Sample

def reordered : FileSettings := ⟨"three.cpp", [("Debug", { defaults with definitions := ["B", "A"] })]⟩

theorem reordered_definitions_need_no_override :
    ["A", "B"].Nodup ∧ ["B", "A"].Nodup ∧ definitionsEquivalent ["B", "A"] ["A", "B"] = true ∧
      reordered.matchesDefaults [("Debug", defaults)] = true ∧
      definitionOverrides [("Debug", defaults)] [reordered] = [] ∧
      ∃ settings, reordered.perConfig.get? "Debug" = some settings ∧ settings.definitions = ["B", "A"] ∧
        (!definitionsEquivalent settings.definitions defaults.definitions) = false := by
  obtain ⟨-, sameItems, equivalence, reordered_eq, -, definitions, -⟩ := equivalent_settings_need_no_override
  have nodup : ["A", "B"].Nodup := by decide
  have nodup' : ["B", "A"].Nodup := by decide
  have equivalent : definitionsEquivalent ["B", "A"] ["A", "B"] = true :=
    (sameItems _ _ nodup' nodup).mpr fun definition => by simp [or_comm]
  have turned : Settings.isEquivalent { defaults with definitions := ["B", "A"] } defaults = true :=
    (reordered_eq defaults defaults ["B", "A"] ["A", "B"] (by decide) (by decide)).trans (equivalence.refl defaults)
  have matched : reordered.matchesDefaults [("Debug", defaults)] = true := by
    simpa [FileSettings.matchesDefaults, reordered, Keyed.get?] using turned
  obtain ⟨settings, found, silent⟩ := definitions.unfound [("Debug", defaults)] reordered matched _ List.mem_cons_self
  refine ⟨nodup, nodup', equivalent, matched, ?_, settings, found, ?_, silent⟩
  · rw [definitions.tested, Override.ofFiles, List.filter_cons_of_neg (by simp [matched])]
    rfl
  · rw [← Option.some.inj found]

end Sample

end Listfile

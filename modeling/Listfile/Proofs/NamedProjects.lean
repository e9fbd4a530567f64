import Listfile.Proofs.Placement

/-!
Projects that their contexts name. A context holds a name or a path, and which of them is read off its characters: a
project whose name could be that of a project file is looked for under a path, and is no target where none leads to it.
-/

namespace Listfile

namespace Text

/-! The case of the letters A to Z in a text makes no difference to its lower case. -/

def capitals : List Char := (List.range 26).map fun n => Char.ofNat (0x41 + n)

theorem toLower_cases (c : Char) :
    c.toLower = c ∨ 0x41 ≤ c.toNat ∧ c.toNat ≤ 0x5A ∧ c.toLower.toNat = c.toNat + 0x20 := by
  unfold Char.toLower
  split
  next range =>
    have first : 0x41 ≤ c.toNat := UInt32.le_iff_toNat_le.mp range.1
    have last : c.toNat ≤ 0x5A := UInt32.le_iff_toNat_le.mp range.2
    refine .inr ⟨first, last, ?_⟩
    show (c.val + 0x20).toNat = c.val.toNat + 0x20
    have small : c.val.toNat ≤ 0x5A := last
    rw [UInt32.toNat_add]
    exact Nat.mod_eq_of_lt (by show c.val.toNat + 0x20 < 2 ^ 32; omega)
  next => exact .inl rfl

theorem toLower_eq_self_or_mem (c : Char) : c.toLower = c ∨ c ∈ capitals := by
  refine (toLower_cases c).imp_right fun ⟨first, last, _⟩ => ?_
  refine List.mem_map.mpr ⟨c.toNat - 0x41, List.mem_range.mpr (by omega), ?_⟩
  rw [Nat.add_sub_cancel' first, Char.ofNat_toNat]

theorem apply_toLower {α : Type} {f : Char → α} (alike : capitals.map (fun c => f c.toLower) = capitals.map f)
    (c : Char) : f c.toLower = f c := by
  rcases toLower_eq_self_or_mem c with same | capital
  · rw [same]
  · exact List.map_inj_left.mp alike c capital

/-- What the lower case of a text depends on in a character, apart from whether it is case-ignorable. -/
def casing (c : Char) : List Char × Bool × Bool := (lowerChar c, inRanges cased c.toNat, decide (c = 'Σ'))

theorem casing_toLower (c : Char) : casing c.toLower = casing c := apply_toLower (by decide +kernel) c

theorem lowerChar_toLower (c : Char) : lowerChar c.toLower = lowerChar c := congrArg Prod.fst (casing_toLower c)

theorem inRanges_cased_toLower (c : Char) : inRanges cased c.toLower.toNat = inRanges cased c.toNat :=
  congrArg (fun casing => casing.2.1) (casing_toLower c)

theorem inRanges_eq_false {table : List (Nat × Nat)} {n : Nat} (apart : ∀ r ∈ table, r.2 < n ∨ n < r.1) :
    inRanges table n = false := by
  refine List.any_eq_false.mpr fun r member inside => ?_
  have bounds : r.1 ≤ n ∧ n ≤ r.2 := by simpa using inside
  have outside := apart r member
  omega

/-- No letter from A to Z is case-ignorable, which takes one pass over the table. -/
theorem inRanges_caseIgnorable_toLower (c : Char) :
    inRanges caseIgnorable c.toLower.toNat = inRanges caseIgnorable c.toNat := by
  have apart : ∀ r ∈ caseIgnorable, r.2 < 0x41 ∨ 0x5A < r.1 ∧ (r.2 < 0x61 ∨ 0x7A < r.1) := by decide +kernel
  rcases toLower_cases c with same | ⟨first, last, shifted⟩
  · rw [same]
  · rw [inRanges_eq_false fun r member => ?_, inRanges_eq_false fun r member => ?_]
    all_goals
      have := apart r member
      omega

theorem toLower_eq_sigma_iff (c : Char) : c.toLower = 'Σ' ↔ c = 'Σ' := by
  have same : decide (c.toLower = 'Σ') = decide (c = 'Σ') := congrArg (fun casing => casing.2.2) (casing_toLower c)
  simpa only [decide_eq_decide] using same

theorem meetsCased_map_toLower (cs : List Char) : meetsCased (cs.map Char.toLower) = meetsCased cs := by
  unfold meetsCased
  simp only [List.find?_map, Function.comp_def, inRanges_caseIgnorable_toLower]
  cases cs.find? fun c => !inRanges caseIgnorable c.toNat with
  | none => rfl
  | some c => exact inRanges_cased_toLower c

theorem lowerFrom_map_toLower (before cs : List Char) :
    lowerFrom (before.map Char.toLower) (cs.map Char.toLower) = lowerFrom before cs := by
  induction cs generalizing before with
  | nil => rfl
  | cons c rest ih =>
    have behind := ih (c :: before)
    rw [List.map_cons] at behind
    rw [List.map_cons, lowerFrom, lowerFrom, behind, isFinalSigma, isFinalSigma, meetsCased_map_toLower,
      meetsCased_map_toLower]
    by_cases sigma : c = 'Σ'
    · rw [if_pos sigma, if_pos ((toLower_eq_sigma_iff c).mpr sigma)]
    · rw [if_neg sigma, if_neg fun same => sigma ((toLower_eq_sigma_iff c).mp same), lowerChar_toLower]

theorem sameIgnoringAsciiCase_iff {a b : String} :
    sameIgnoringAsciiCase a b = true ↔ a.toList.map Char.toLower = b.toList.map Char.toLower := by
  rw [sameIgnoringAsciiCase, beq_iff_eq]

theorem lower_congr {a b : String} (same : sameIgnoringAsciiCase a b = true) : lower a = lower b := by
  have letters := sameIgnoringAsciiCase_iff.mp same
  have mapped (text : String) : lowerFrom [] (text.toList.map Char.toLower) = lowerFrom [] text.toList :=
    lowerFrom_map_toLower [] text.toList
  rw [lower, lower, ← mapped a, letters, mapped b]

theorem mem_map_toLower_iff {c : Char} (other : c ∉ capitals ++ capitals.map Char.toLower) {cs : List Char} :
    c ∈ cs.map Char.toLower ↔ c ∈ cs := by
  have same (own : Char) : own.toLower = c ↔ own = c := by
    rcases toLower_eq_self_or_mem own with self | capital
    · rw [self]
    · have small : own.toLower ≠ c := fun same =>
        other (List.mem_append_right _ (List.mem_map.mpr ⟨own, capital, same⟩))
      have large : own ≠ c := fun same => other (List.mem_append_left _ (same ▸ capital))
      exact iff_of_false small large
  rw [List.mem_map]
  constructor
  · intro given
    rcases given with ⟨own, member, lowered⟩
    exact (same own).mp lowered ▸ member
  · intro member
    exact ⟨c, member, (same c).mpr rfl⟩

end Text

namespace Resolution

/-- Whether a text could be the path of a project file: it has a separator in it, or ends like the name of such a
file. -/
def LooksLikePath (text : String) : Prop :=
  '/' ∈ text.toList ∨ '\\' ∈ text.toList ∨ "proj".toList <:+ (Text.lower text).toList

def LeadsTo (solutionDirectory : String) (project : Project) (context : BuildContext) : Prop :=
  LooksLikePath context.project ∧
    Path.same (Path.join solutionDirectory (Text.slashed context.project)) project.fullPath = true

/-- Whether every participating configuration builds the project, with a context that has its name. -/
def NamedEverywhere (provider : Provider) (request : Request) (project : Project) : Prop :=
  ∀ configuration ∈ participants provider.solution request, ∃ context ∈ built configuration,
    Text.sameIgnoringAsciiCase context.project project.name = true

theorem isProjectPath_slashed_iff {text : String} :
    isProjectPath (Text.slashed text) = true ↔ LooksLikePath text := by
  simp only [isProjectPath, Bool.or_eq_true, List.contains_iff_mem, List.isSuffixOf_iff_suffix, LooksLikePath]
  by_cases backslash : '\\' ∈ text.toList
  · have slash : '/' ∈ (Text.slashed text).toList := by
      rw [Text.slashed, Text.replaceChar, String.toList_map]
      exact List.mem_map.mpr ⟨'\\', backslash, rfl⟩
    simp [slash, backslash]
  · simp [Path.slashed_eq_self backslash, backslash]

theorem looksLikePath_congr {a b : String} (same : Text.sameIgnoringAsciiCase a b = true) :
    LooksLikePath a ↔ LooksLikePath b := by
  have letters := Text.sameIgnoringAsciiCase_iff.mp same
  have member {c : Char} (other : c ∉ Text.capitals ++ Text.capitals.map Char.toLower) :
      c ∈ a.toList ↔ c ∈ b.toList := by
    rw [← Text.mem_map_toLower_iff other, letters, Text.mem_map_toLower_iff other]
  have slash : '/' ∈ a.toList ↔ '/' ∈ b.toList := member (by decide)
  have backslash : '\\' ∈ a.toList ↔ '\\' ∈ b.toList := member (by decide)
  unfold LooksLikePath
  rw [slash, backslash, Text.lower_congr same]

variable {provider : Provider} {request : Request} {project : Project} {targets : List ResolvedTarget}

theorem denotes_iff {solutionDirectory : String} {context : BuildContext} :
    denotes solutionDirectory project context.project = true ↔
      LeadsTo solutionDirectory project context ∨
        ¬ LooksLikePath context.project ∧
          Text.sameIgnoringAsciiCase (Text.slashed context.project) project.name = true := by
  unfold denotes LeadsTo
  by_cases path : LooksLikePath context.project
  · simp [isProjectPath_slashed_iff.mpr path, path]
  · have name : isProjectPath (Text.slashed context.project) = false :=
      Bool.not_eq_true _ ▸ fun taken => path (isProjectPath_slashed_iff.mp taken)
    simp [name, path]

theorem denotes_iff_leadsTo {solutionDirectory : String} {context : BuildContext}
    (path : LooksLikePath project.name) :
    denotes solutionDirectory project context.project = true ↔ LeadsTo solutionDirectory project context := by
  rw [denotes_iff]
  constructor
  · intro given
    rcases given with leads | ⟨plain, named⟩
    · exact leads
    · have unslashed : '\\' ∉ context.project.toList := fun member => plain (.inr (.inl member))
      rw [Path.slashed_eq_self unslashed] at named
      exact absurd ((looksLikePath_congr named).mpr path) plain
  · exact .inl

theorem denotes_of_named {solutionDirectory : String} {context : BuildContext}
    (plain : ¬ LooksLikePath project.name)
    (named : Text.sameIgnoringAsciiCase context.project project.name = true) :
    denotes solutionDirectory project context.project = true := by
  have plain' : ¬ LooksLikePath context.project := fun path => plain ((looksLikePath_congr named).mp path)
  have unslashed : '\\' ∉ context.project.toList := fun member => plain' (.inr (.inl member))
  refine denotes_iff.mpr (.inr ⟨plain', ?_⟩)
  rw [Path.slashed_eq_self unslashed]
  exact named

theorem exists_target_iff (success : (resolve provider request).result = .ok targets)
    (member : project ∈ provider.projects) (native : project.native = true) :
    (∃ own ∈ targets, ResolvedAs provider request project own) ↔ takesPart provider request project = true := by
  obtain ⟨-, -, -, -, -, all, -⟩ := resolve_eq_ok_iff.mp success
  constructor
  · intro given
    rcases given with ⟨own, -, as⟩
    apply takesPart_eq_true_iff.mpr
    refine ⟨native, fun configuration inside => ?_⟩
    obtain ⟨_, -, name, buildsAs, -⟩ := as.exists_uses inside
    exact ⟨name, buildsAs⟩
  · intro part
    exact exists_mem_of_forall₂ all (List.mem_filter.mpr ⟨member, part⟩)

/-- A project that every configuration names is a target just if its name could not be a path, or a path leads to it in
every configuration as well. -/
theorem named_project_is_target_iff (provider : Provider) (request : Request) (targets : List ResolvedTarget)
    (success : (resolve provider request).result = .ok targets) (project : Project)
    (member : project ∈ provider.projects) (native : project.native = true)
    (named : NamedEverywhere provider request project) :
    (∃ own ∈ targets, ResolvedAs provider request project own) ↔
      ¬ LooksLikePath project.name ∨
        ∀ configuration ∈ participants provider.solution request, ∃ context ∈ built configuration,
          LeadsTo provider.solution.directory project context := by
  have takes : takesPart provider request project = true ↔
      ∀ configuration ∈ participants provider.solution request, ∃ context ∈ built configuration,
        denotes provider.solution.directory project context.project = true := by
    simp only [takesPart_eq_true_iff, exists_builtAs?_iff, native, true_and]
  rw [exists_target_iff success member native, takes]
  by_cases path : LooksLikePath project.name
  · simp only [denotes_iff_leadsTo path, path, not_true_eq_false, false_or]
  · refine iff_of_true (fun configuration inside => ?_) (.inl path)
    obtain ⟨context, own, same⟩ := named configuration inside
    exact ⟨context, own, denotes_of_named path same⟩

end Resolution

/-! Two projects named by their contexts, one of them like a project file. -/

namespace Sample

def named : Provider :=
  Snapshot.provider
    { tree "C:\\solution"
        [("app", "C:\\solution\\app\\app.vcxproj"), ("toolproj", "C:\\solution\\tool\\toolproj.vcxproj")] with
      solution := (tree "C:\\solution" [("App", ""), ("toolproj", "")]).solution }
    .error

def app : Project := ⟨"app", "C:\\solution\\app\\app.vcxproj", true⟩

def toolproj : Project := ⟨"toolproj", "C:\\solution\\tool\\toolproj.vcxproj", true⟩

theorem resolve_named : resolve named {} = ⟨.ok [treeTarget "app" "C:/solution/app"], []⟩ := by
  have given : (resolve named {}).result = .ok [treeTarget "app" "C:/solution/app"] ∧ (resolve named {}).log = [] := by
    decide +kernel
  exact Logged.ext given.1 given.2

theorem result_named : (resolve named {}).result = .ok [treeTarget "app" "C:/solution/app"] := by
  rw [resolve_named]

theorem namedEverywhere : ∀ project ∈ [app, toolproj], Resolution.NamedEverywhere named {} project := by
  unfold Resolution.NamedEverywhere
  decide

end Sample

namespace Resolution

open Sample

theorem named_app_is_target :
    (resolve named {}).result = .ok [treeTarget "app" "C:/solution/app"] ∧
      app ∈ named.projects ∧ app.native = true ∧ NamedEverywhere named {} app ∧
      ((∃ own ∈ [treeTarget "app" "C:/solution/app"], ResolvedAs named {} app own) ↔
        ¬ LooksLikePath "app" ∨ ∀ configuration ∈ participants named.solution {},
          ∃ context ∈ built configuration, LeadsTo "C:\\solution" app context) := by
  have member : app ∈ named.projects := by decide
  have everywhere : NamedEverywhere named {} app := namedEverywhere app (by decide)
  exact ⟨result_named, member, rfl, everywhere,
    named_project_is_target_iff named {} _ result_named app member rfl everywhere⟩

/-- A project can be named in every configuration and yet be no target, without a notice. -/
theorem toolproj_is_no_target :
    toolproj ∈ named.projects ∧ toolproj.native = true ∧ NamedEverywhere named {} toolproj ∧
      resolve named {} = ⟨.ok [treeTarget "app" "C:/solution/app"], []⟩ ∧
      ¬ ∃ own ∈ [treeTarget "app" "C:/solution/app"], ResolvedAs named {} toolproj own := by
  refine ⟨by decide, rfl, namedEverywhere toolproj (by decide), resolve_named, ?_⟩
  intro given
  rcases given with ⟨own, inside, as⟩
  have name : own.target.name = "toolproj" := as.name
  rw [List.mem_singleton.mp inside] at name
  simp [treeTarget] at name

end Resolution

end Listfile

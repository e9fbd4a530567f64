import Listfile.Proofs.NamedProjects

/-!
When the configurations of a solution are said to build different projects. What they build is compared by the texts of
their contexts, case aside. A project that is named in one configuration and given by its path in another is one project
for all that follows, but two for this comparison.
-/

namespace Listfile

namespace Resolution

def Builds (provider : Provider) (configuration : SolutionConfiguration) (project : Project) : Prop :=
  ∃ context ∈ built configuration, denotes provider.solution.directory project context.project = true

def namesOf (provider : Provider) (configuration : SolutionConfiguration) (project : Project) : List String :=
  ((spellings configuration).filter (denotes provider.solution.directory project)).map Text.lower

/-- What a request has to meet before the projects of its configurations are compared. -/
structure Comparable (provider : Provider) (request : Request) : Prop where
  supported : Text.trim request.platform ≠ "" ∧
    ∀ any ∈ anyPlatforms, Text.sameIgnoringAsciiCase any (Text.trim request.platform) = false
  available : ∃ configuration ∈ provider.solution.configurations,
    configuration.platform = Text.trim request.platform
  requested : ∀ names, request.configurations = some names → ∀ name ∈ names,
    ∃ configuration ∈ provider.solution.configurations,
      configuration.platform = Text.trim request.platform ∧ configuration.name = Text.trim name
  builds : ∀ configuration ∈ participants provider.solution request,
    BuildsOn (Text.trim request.platform) configuration

def AllDenote (provider : Provider) (request : Request) : Prop :=
  ∀ configuration ∈ participants provider.solution request, ∀ context ∈ built configuration,
    ∃ project ∈ provider.projects, denotes provider.solution.directory project context.project = true

/-- Contexts of participating configurations that are the same but for case denote the same projects. -/
def CaseTellsNothing (provider : Provider) (request : Request) : Prop :=
  ∀ first ∈ participants provider.solution request, ∀ second ∈ participants provider.solution request,
    ∀ context ∈ built first, ∀ other ∈ built second, Text.lower context.project = Text.lower other.project →
      ∀ project ∈ provider.projects, denotes provider.solution.directory project context.project = true →
        denotes provider.solution.directory project other.project = true

/-! No other check reports different sets of projects. -/

section

variable {provider : Provider} {request : Request} {project : Project} {platform : String}

theorem resolveTarget_ne_inconsistent (contexts : Keyed String) :
    resolveTarget provider project contexts platform ≠ .error .inconsistentProjectSets := by
  intro failed
  rcases bind_eq_error_iff.mp failed with undeclared | ⟨configurations, -, later⟩
  · obtain ⟨context, -, missing⟩ := exists_mem_of_mapM_eq_error undeclared
    unfold declaredConfiguration at missing
    split at missing <;> simp at missing
  · cases configurations with
    | nil => simp at later
    | cons first rest =>
      rcases bind_eq_error_iff.mp later with disagreed | ⟨_, -, finished⟩
      · unfold checkAgreement at disagreed
        split at disagreed
        next => simp at disagreed
        next => split at disagreed <;> simp at disagreed
      · simp [pure, Except.pure] at finished

theorem resolveProject_ne_inconsistent (contexts : Keyed Contexts) :
    (resolveProject provider contexts platform project).result ≠ .error .inconsistentProjectSets := by
  unfold resolveProject
  cases project.native with
  | false => simp [Except.map]
  | true =>
    cases contextsFor? contexts provider.solution.directory project with
    | none => simp
    | some own =>
      cases resolved : resolveTarget provider project own platform with
      | ok => simp [resolved, Except.map]
      | error error =>
        have other : error ≠ .inconsistentProjectSets := fun same =>
          resolveTarget_ne_inconsistent own (same ▸ resolved)
        simpa [resolved, Except.map] using other

theorem mapM_resolveProject_ne_inconsistent (contexts : Keyed Contexts) (projects : List Project) :
    (projects.mapM (resolveProject provider contexts platform)).result ≠ .error .inconsistentProjectSets := by
  rw [Logged.result_mapM]
  intro failed
  obtain ⟨project, -, own⟩ := exists_mem_of_mapM_eq_error failed
  exact resolveProject_ne_inconsistent contexts own

theorem result_gather {configurations : List SolutionConfiguration}
    (builds : ∀ configuration ∈ configurations, BuildsOn platform configuration) :
    (gather platform configurations).result =
      if isUniform (buildTables configurations) then .ok (buildTables configurations)
      else .error .inconsistentProjectSets := by
  have tables : (configurations.mapM (contextsOf platform)).result = .ok (buildTables configurations) := by
    rw [Logged.result_mapM, mapM_eq_ok_iff]
    simp only [contextsOf_eq_ok_iff, List.forall₂_and_left, forall₂_eq_map_iff]
    exact ⟨builds, rfl⟩
  simp only [gather, Logged.result_bind, tables, Except.bind]
  cases isUniform (buildTables configurations) <;> simp [Except.map]

theorem resolve_eq_inconsistent_iff (comparable : Comparable provider request) :
    (resolve provider request).result = .error .inconsistentProjectSets ↔
      ∃ first ∈ participants provider.solution request, ∃ second ∈ participants provider.solution request,
        ¬ ((spellings first).map Text.lower).Perm ((spellings second).map Text.lower) := by
  have supported := isUnsupported_eq_false_iff.mpr comparable.supported
  have filled : available provider.solution request ≠ [] := by
    obtain ⟨configuration, member⟩ := comparable.available
    exact List.ne_nil_of_mem (mem_available.mpr member)
  have participating : participating provider.solution request (Text.trim request.platform) =
      .ok (participants provider.solution request) :=
    participating_eq_ok_iff.mpr ⟨filled, found_iff.mpr comparable.requested, rfl⟩
  have uniform : isUniform (buildTables (participants provider.solution request)) = true ↔
      ∀ first ∈ participants provider.solution request, ∀ second ∈ participants provider.solution request,
        ((spellings first).map Text.lower).Perm ((spellings second).map Text.lower) := by
    simp only [isUniform_buildTables, projectNames, mergeSort_eq_iff_perm]
  have different : (¬ isUniform (buildTables (participants provider.solution request)) = true) ↔
      ∃ first ∈ participants provider.solution request, ∃ second ∈ participants provider.solution request,
        ¬ ((spellings first).map Text.lower).Perm ((spellings second).map Text.lower) := by
    simp only [uniform, not_forall, exists_prop]
  rw [← different, resolve]
  simp only [supported, participating, Bool.false_eq_true, if_false, Logged.result_bind, Logged.result_lift,
    Except.bind, result_gather comparable.builds]
  by_cases same : isUniform (buildTables (participants provider.solution request)) = true
  · rw [if_pos same]
    refine iff_of_false (fun failed => ?_) (not_not.mpr same)
    -- What follows the comparison fails for other reasons.
    cases outcomes : (provider.projects.mapM (resolveProject provider
        (buildTables (participants provider.solution request)) (Text.trim request.platform))).result with
    | error error =>
      simp only [outcomes] at failed
      rw [Except.error.injEq] at failed
      exact mapM_resolveProject_ne_inconsistent _ _ (failed ▸ outcomes)
    | ok resolved =>
      simp only [outcomes] at failed
      split at failed <;> simp at failed
  · rw [if_neg same]
    exact iff_of_true rfl same

theorem namesOf_ne_nil_iff {configuration : SolutionConfiguration} :
    namesOf provider configuration project ≠ [] ↔ Builds provider configuration project := by
  simp only [namesOf, ne_eq, List.map_eq_nil_iff, List.filter_eq_nil_iff, spellings, List.mem_eraseDups,
    List.forall_mem_map, not_forall, Bool.not_eq_true, Bool.not_eq_false, Builds, exists_prop]

theorem mem_spellings {configuration : SolutionConfiguration} {text : String} :
    text ∈ spellings configuration ↔ ∃ context ∈ built configuration, context.project = text := by
  rw [spellings, List.mem_eraseDups, List.mem_map]

theorem count_namesOf {configuration : SolutionConfiguration} {name : String}
    (own : ∀ text ∈ spellings configuration, Text.lower text = name →
      denotes provider.solution.directory project text = true) :
    (namesOf provider configuration project).count name = ((spellings configuration).map Text.lower).count name := by
  rw [namesOf, List.count_eq_countP, List.count_eq_countP, List.countP_map, List.countP_map, List.countP_filter]
  refine List.countP_congr fun text member => ?_
  simp only [Function.comp_apply, beq_iff_eq, Bool.and_eq_true]
  exact and_iff_left_of_imp (own text member)

theorem count_namesOf_of_denotes (blind : CaseTellsNothing provider request)
    {configuration other : SolutionConfiguration} (member : configuration ∈ participants provider.solution request)
    (member' : other ∈ participants provider.solution request) (inside : project ∈ provider.projects) {text : String}
    (spelled : text ∈ spellings configuration) (denoted : denotes provider.solution.directory project text = true) :
    (namesOf provider other project).count (Text.lower text) =
      ((spellings other).map Text.lower).count (Text.lower text) := by
  obtain ⟨context, own, rfl⟩ := mem_spellings.mp spelled
  refine count_namesOf fun text' spelled' same => ?_
  obtain ⟨context', own', rfl⟩ := mem_spellings.mp spelled'
  exact blind _ member _ member' context own context' own' same.symm project inside denoted

theorem count_namesOf_eq_zero {configuration : SolutionConfiguration} {name : String}
    (others : ∀ text ∈ spellings configuration, Text.lower text = name →
      ¬ denotes provider.solution.directory project text = true) :
    (namesOf provider configuration project).count name = 0 := by
  rw [List.count_eq_zero]
  intro member
  obtain ⟨text, inside, lowered⟩ := List.mem_map.mp member
  obtain ⟨spelled, denoted⟩ := List.mem_filter.mp inside
  exact others text spelled lowered denoted

theorem perm_names_iff (denoting : AllDenote provider request) (blind : CaseTellsNothing provider request)
    {first second : SolutionConfiguration} (member : first ∈ participants provider.solution request)
    (member' : second ∈ participants provider.solution request) :
    ((spellings first).map Text.lower).Perm ((spellings second).map Text.lower) ↔
      ∀ project ∈ provider.projects, (namesOf provider first project).Perm (namesOf provider second project) := by
  -- A name is counted as often among those of a project as among all, or not at all if none of its spellings
  -- denotes the project, which is the same in all configurations.
  simp only [List.perm_iff_count]
  constructor
  · intro alike project inside name
    by_cases spelled : ∃ configuration ∈ participants provider.solution request,
        ∃ text ∈ spellings configuration, Text.lower text = name ∧
          denotes provider.solution.directory project text = true
    · obtain ⟨configuration, own, text, spelled, rfl, denoted⟩ := spelled
      rw [count_namesOf_of_denotes blind own member inside spelled denoted,
        count_namesOf_of_denotes blind own member' inside spelled denoted]
      exact alike _
    · have unspelled {configuration} (own : configuration ∈ participants provider.solution request) :
          (namesOf provider configuration project).count name = 0 :=
        count_namesOf_eq_zero fun text inside lowered denoted =>
          spelled ⟨configuration, own, text, inside, lowered, denoted⟩
      rw [unspelled member, unspelled member']
  · intro alike name
    by_cases spelled : ∃ configuration ∈ participants provider.solution request,
        ∃ text ∈ spellings configuration, Text.lower text = name
    · obtain ⟨configuration, own, text, spelled, rfl⟩ := spelled
      obtain ⟨context, building, rfl⟩ := mem_spellings.mp spelled
      obtain ⟨project, inside, denoted⟩ := denoting configuration own context building
      rw [← count_namesOf_of_denotes blind own member inside spelled denoted,
        ← count_namesOf_of_denotes blind own member' inside spelled denoted]
      exact alike project inside _
    · have unspelled {configuration} (own : configuration ∈ participants provider.solution request) :
          ((spellings configuration).map Text.lower).count name = 0 := by
        rw [List.count_eq_zero]
        intro member
        obtain ⟨text, inside, lowered⟩ := List.mem_map.mp member
        exact spelled ⟨configuration, own, text, inside, lowered⟩
      rw [unspelled member, unspelled member']

/-- Different sets of projects are reported just if two configurations build different projects, or spell one that both
build in different ways. -/
theorem inconsistent_project_sets_iff (provider : Provider) (request : Request)
    (comparable : Comparable provider request) (denoting : AllDenote provider request)
    (blind : CaseTellsNothing provider request) :
    (resolve provider request).result = .error .inconsistentProjectSets ↔
      ∃ first ∈ participants provider.solution request, ∃ second ∈ participants provider.solution request,
        ∃ project ∈ provider.projects,
          (Builds provider first project ∧ ¬ Builds provider second project) ∨
            (Builds provider first project ∧ Builds provider second project ∧
              ¬ (namesOf provider first project).Perm (namesOf provider second project)) := by
  rw [resolve_eq_inconsistent_iff comparable]
  constructor
  · intro given
    rcases given with ⟨first, member, second, member', different⟩
    rw [perm_names_iff denoting blind member member'] at different
    simp only [not_forall] at different
    obtain ⟨project, inside, different⟩ := different
    by_cases builds : Builds provider first project
    · by_cases builds' : Builds provider second project
      · exact ⟨first, member, second, member', project, inside, .inr ⟨builds, builds', different⟩⟩
      · exact ⟨first, member, second, member', project, inside, .inl ⟨builds, builds'⟩⟩
    · -- Names that differ cannot both be none, so the second configuration builds the project.
      have builds' : Builds provider second project := by
        rw [← namesOf_ne_nil_iff] at builds ⊢
        intro none
        rw [none, not_not.mp builds] at different
        exact different (List.Perm.refl _)
      exact ⟨second, member', first, member, project, inside, .inl ⟨builds', builds⟩⟩
  · intro given
    rcases given with ⟨first, member, second, member', project, inside, apart⟩
    refine ⟨first, member, second, member', ?_⟩
    rw [perm_names_iff denoting blind member member']
    intro alike
    have names := alike project inside
    rcases apart with ⟨builds, unbuilt⟩ | ⟨-, -, different⟩
    · rw [← namesOf_ne_nil_iff] at builds unbuilt
      rw [not_not.mp unbuilt] at names
      exact builds names.eq_nil
    · exact different names

end

end Resolution

/-! A project under two spellings, and two projects whose names differ in case. -/

namespace Sample

def contextsIn (name : String) (projects : List String) : SolutionConfiguration where
  name
  platform := "x64"
  contexts := projects.map fun project => { project, configuration := name, platform := "x64" }

def debugAndRelease (debug release : List String) (projects : List (String × String)) : Provider :=
  Snapshot.provider
    { solution :=
        { name := "solution"
          directory := "C:\\solution"
          configurations := [contextsIn "Debug" debug, contextsIn "Release" release] }
      projects := projects.map fun project =>
        { name := project.1
          fullPath := project.2
          native := true
          configurations := [{ name := "Debug", platform := "x64" }, { name := "Release", platform := "x64" }] } }
    .error

def namedOrGiven : Provider :=
  debugAndRelease ["app"] ["app\\app.vcxproj"] [("app", "C:\\solution\\app\\app.vcxproj")]

def capitalOrSmall : Provider :=
  debugAndRelease ["app", "Ärger"] ["app", "ärger"] [("app", "C:\\solution\\app\\app.vcxproj"),
    ("Ärger", "C:\\solution\\one\\one.vcxproj"), ("ärger", "C:\\solution\\two\\two.vcxproj")]

end Sample

namespace Resolution

open Sample

def EachDenotesOne (provider : Provider) (request : Request) : Prop :=
  ∀ configuration ∈ participants provider.solution request, ∀ context ∈ built configuration,
    (provider.projects.filter fun project => denotes provider.solution.directory project context.project).length = 1

theorem comparable_debugAndRelease {debug release : List String} {projects : List (String × String)}
    (builds : ∀ configuration ∈ participants (debugAndRelease debug release projects).solution {},
      BuildsOn "x64" configuration) : Comparable (debugAndRelease debug release projects) {} where
  supported := by decide
  available := ⟨_, List.mem_cons_self, rfl⟩
  requested _ asked := by simp at asked
  builds

theorem comparable_namedOrGiven : Comparable namedOrGiven {} :=
  comparable_debugAndRelease (by unfold BuildsOn; decide)

theorem denotes_given : denotes "C:\\solution" app "app\\app.vcxproj" = true := by
  have path : isProjectPath "app/app.vcxproj" = true := by decide +kernel
  have slashed : Text.slashed "app\\app.vcxproj" = "app/app.vcxproj" := by decide +kernel
  have joined : Path.join "C:\\solution" "app/app.vcxproj" = "C:\\solution/app/app.vcxproj" := by decide +kernel
  have given : Path.canonical "C:\\solution/app/app.vcxproj" = "C:/solution/app/app.vcxproj" := by decide +kernel
  have full : Path.canonical app.fullPath = "C:/solution/app/app.vcxproj" := by decide +kernel
  rw [denotes, slashed, if_pos path, joined, Path.same, given, full, Text.sameIgnoringCase, beq_self_eq_true]

theorem denotes_namedOrGiven : ∀ configuration ∈ participants namedOrGiven.solution {},
    built configuration ≠ [] ∧ ∀ context ∈ built configuration, denotes "C:\\solution" app context.project = true := by
  have both : participants namedOrGiven.solution {} =
      [contextsIn "Debug" ["app"], contextsIn "Release" ["app\\app.vcxproj"]] := by decide +kernel
  have named : denotes "C:\\solution" app "app" = true := by decide +kernel
  simp [both, built, contextsIn, named, denotes_given]

theorem eachDenotesOne_namedOrGiven : EachDenotesOne namedOrGiven {} := by
  intro configuration member context inside
  have denoted := (denotes_namedOrGiven configuration member).2 context inside
  show ([app].filter fun project => denotes "C:\\solution" project context.project).length = 1
  simp [denoted]

theorem inconsistent_project_sets_iff_given :
    Comparable namedOrGiven {} ∧ AllDenote namedOrGiven {} ∧ CaseTellsNothing namedOrGiven {} ∧
      ((resolve namedOrGiven {}).result = .error .inconsistentProjectSets ↔
        ∃ first ∈ participants namedOrGiven.solution {}, ∃ second ∈ participants namedOrGiven.solution {},
          ∃ project ∈ [app],
            (Builds namedOrGiven first project ∧ ¬ Builds namedOrGiven second project) ∨
              (Builds namedOrGiven first project ∧ Builds namedOrGiven second project ∧
                ¬ (namesOf namedOrGiven first project).Perm (namesOf namedOrGiven second project))) := by
  have denoting : AllDenote namedOrGiven {} := fun configuration member context inside =>
    ⟨app, List.mem_cons_self, (denotes_namedOrGiven configuration member).2 context inside⟩
  have blind : CaseTellsNothing namedOrGiven {} := by
    intro _ _ second member' _ _ other inside _ project only _
    rw [List.mem_singleton.mp only]
    exact (denotes_namedOrGiven second member').2 other inside
  exact ⟨comparable_namedOrGiven, denoting, blind,
    inconsistent_project_sets_iff namedOrGiven {} comparable_namedOrGiven denoting blind⟩

/-- A project that is named in one configuration and given by its path in the other. -/
theorem spellings_are_taken_for_projects :
    Comparable namedOrGiven {} ∧ EachDenotesOne namedOrGiven {} ∧
      (∀ first ∈ participants namedOrGiven.solution {}, ∀ second ∈ participants namedOrGiven.solution {},
        ∀ project ∈ namedOrGiven.projects,
          Builds namedOrGiven first project ↔ Builds namedOrGiven second project) ∧
      (resolve namedOrGiven {}).result = .error .inconsistentProjectSets := by
  have builds {configuration} (member : configuration ∈ participants namedOrGiven.solution {}) :
      Builds namedOrGiven configuration app := by
    obtain ⟨filled, denoted⟩ := denotes_namedOrGiven configuration member
    obtain ⟨context, inside⟩ := List.exists_mem_of_ne_nil _ filled
    exact ⟨context, inside, denoted context inside⟩
  refine ⟨comparable_namedOrGiven, eachDenotesOne_namedOrGiven, ?_, by decide +kernel⟩
  intro first member second member' project only
  rw [List.mem_singleton.mp only]
  exact iff_of_true (builds member) (builds member')

/-- Names that differ in case beyond A to Z are those of different projects, but one name for the comparison. -/
theorem case_hides_other_project :
    Comparable capitalOrSmall {} ∧ EachDenotesOne capitalOrSmall {} ∧
      (∃ first ∈ participants capitalOrSmall.solution {}, ∃ second ∈ participants capitalOrSmall.solution {},
        ∃ project ∈ capitalOrSmall.projects,
          Builds capitalOrSmall first project ∧ ¬ Builds capitalOrSmall second project) ∧
      (resolve capitalOrSmall {}).result ≠ .error .inconsistentProjectSets := by
  have comparable : Comparable capitalOrSmall {} :=
    comparable_debugAndRelease (by unfold BuildsOn; decide +kernel)
  have alike : ∀ first ∈ participants capitalOrSmall.solution {}, ∀ second ∈ participants capitalOrSmall.solution {},
      ((spellings first).map Text.lower).Perm ((spellings second).map Text.lower) := by
    decide +kernel
  refine ⟨comparable, ?_, ?_, fun failed => ?_⟩
  · unfold EachDenotesOne
    decide +kernel
  · unfold Builds
    decide +kernel
  · obtain ⟨first, member, second, member', different⟩ := (resolve_eq_inconsistent_iff comparable).mp failed
    exact different (alike first member second member')

end Resolution

end Listfile

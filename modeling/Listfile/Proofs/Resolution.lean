import Listfile.Proofs.Contexts

/-!
When a request is resolved, and to what: the conditions under which a solution says one thing about each of its
targets are necessary and sufficient, and the targets are the native projects that all configurations build.
-/

namespace Listfile.Resolution

def available (solution : Solution) (request : Request) : List SolutionConfiguration :=
  solution.configurations.filter (·.platform = Text.trim request.platform)

def participatingNames (solution : Solution) (request : Request) : List String :=
  requestedNames request (available solution request)

/-- The first configuration under each participating name. -/
def participants (solution : Solution) (request : Request) : List SolutionConfiguration :=
  (participatingNames solution request).filterMap fun name =>
    (available solution request).find? (·.name = name)

/-- Whether a project is a native one that every participating configuration builds. -/
def takesPart (provider : Provider) (request : Request) (project : Project) : Bool :=
  project.native && (participants provider.solution request).all fun configuration =>
    (built configuration).any fun context => denotes provider.solution.directory project context.project

/-- `declared` is the configuration of the project that is built in `configuration`. -/
def Uses (provider : Provider) (request : Request) (project : Project)
    (configuration : SolutionConfiguration) (declared : ProjectConfiguration) : Prop :=
  ∃ name, builtAs? provider.solution.directory project configuration = some name ∧
    (provider.configurations project.name).find? (fun declared =>
      declared.name = name && declared.platform = Text.trim request.platform) = some declared

/-- The solution says one thing about each target of the request. -/
structure Consistent (provider : Provider) (request : Request) : Prop where
  supported : Text.trim request.platform ≠ "" ∧
    ∀ any ∈ anyPlatforms, Text.sameIgnoringAsciiCase any (Text.trim request.platform) = false
  available : ∃ configuration ∈ provider.solution.configurations,
    configuration.platform = Text.trim request.platform
  requested : ∀ names, request.configurations = some names → ∀ name ∈ names,
    ∃ configuration ∈ provider.solution.configurations,
      configuration.platform = Text.trim request.platform ∧ configuration.name = Text.trim name
  builds : ∀ configuration ∈ participants provider.solution request,
    BuildsOn (Text.trim request.platform) configuration
  uniform : ∀ first ∈ participants provider.solution request,
    ∀ second ∈ participants provider.solution request, projectNames first = projectNames second
  native : ∃ project ∈ provider.projects, takesPart provider request project = true
  declared : ∀ project ∈ provider.projects, takesPart provider request project = true →
    ∀ configuration ∈ participants provider.solution request,
      ∃ declared, Uses provider request project configuration declared
  agreed : ∀ project ∈ provider.projects, takesPart provider request project = true →
    ∀ first ∈ participants provider.solution request, ∀ second ∈ participants provider.solution request,
      ∀ declared other, Uses provider request project first declared →
        Uses provider request project second other →
        declared.kind = other.kind ∧ declared.useOfMfc = other.useOfMfc

/-- The target of a project, with the kind and the use of MFC of all configurations that it is built in. -/
structure ResolvedAs (provider : Provider) (request : Request) (project : Project)
    (resolved : ResolvedTarget) : Prop where
  name : resolved.target.name = project.name
  configurations : List.Forall₂ (fun configuration entry => entry.1 = configuration.name ∧
      Uses provider request project configuration entry.2)
    (participants provider.solution request) resolved.configurations
  kind : ∀ entry ∈ resolved.configurations, entry.2.kind = resolved.target.kind
  useOfMfc : ∀ entry ∈ resolved.configurations, entry.2.useOfMfc = resolved.target.useOfMfc
  target : ∃ first rest, resolved.configurations = first :: rest ∧
    resolved.target = targetOf provider project resolved.configurations first.2

section

variable {solution : Solution} {request : Request}

theorem mem_available {configuration : SolutionConfiguration} :
    configuration ∈ available solution request ↔ configuration ∈ solution.configurations ∧
      configuration.platform = Text.trim request.platform := by
  simp [available]

def Found (solution : Solution) (request : Request) : Prop :=
  ∀ name ∈ participatingNames solution request,
    ∃ configuration, (available solution request).find? (·.name = name) = some configuration

def participant (solution : Solution) (request : Request) (name : String) :
    Except ConversionError SolutionConfiguration :=
  match (available solution request).find? (·.name = name) with
  | some configuration => .ok configuration
  | none => .error (.configurationNotFound solution.name name (Text.trim request.platform))

theorem participating_eq : participating solution request (Text.trim request.platform) =
    if (available solution request).isEmpty then
      .error (.noMatchingConfigurations (Text.trim request.platform))
    else (participatingNames solution request).mapM (participant solution request) := rfl

theorem participating_eq_ok_iff {configurations : List SolutionConfiguration} :
    participating solution request (Text.trim request.platform) = .ok configurations ↔
      available solution request ≠ [] ∧ Found solution request ∧
        configurations = participants solution request := by
  have step (name : String) (configuration : SolutionConfiguration) :
      participant solution request name = .ok configuration ↔
        (available solution request).find? (·.name = name) = some configuration := by
    unfold participant
    cases (available solution request).find? (·.name = name) <;> simp
  rw [participating_eq]
  split
  next empty => simp [List.isEmpty_iff.mp empty]
  next filled =>
    rw [List.isEmpty_iff] at filled
    simp only [mapM_eq_ok_iff, step, forall₂_eq_some_iff, Found, participants, ne_eq, filled,
      not_false_eq_true, true_and]

theorem participatingNames_ne_nil (filled : available solution request ≠ []) :
    participatingNames solution request ≠ [] := by
  have some {l : List String} (nonempty : l ≠ []) : l.eraseDups ≠ [] := by
    obtain ⟨name, member⟩ := List.exists_mem_of_ne_nil l nonempty
    exact List.ne_nil_of_mem (List.mem_eraseDups.mpr member)
  unfold participatingNames requestedNames
  split
  next => exact some (by simp)
  next => exact some (by simpa using filled)

theorem names_participants (found : Found solution request) :
    (participants solution request).map (·.name) = participatingNames solution request := by
  have each := forall₂_eq_some_iff.mpr ⟨found, rfl⟩
  have named : List.Forall₂ (fun name (configuration : SolutionConfiguration) => name = configuration.name)
      (participatingNames solution request) (participants solution request) :=
    each.imp fun name configuration first => by
      have same : configuration.name = name := by simpa using List.find?_some first
      exact same.symm
  exact (forall₂_eq_map_iff.mp named.flip).symm

theorem exists_participant_iff {name : String} :
    (∃ configuration, (available solution request).find? (·.name = name) = some configuration) ↔
      ∃ configuration ∈ solution.configurations,
        configuration.platform = Text.trim request.platform ∧ configuration.name = name := by
  rw [← Option.isSome_iff_exists, List.find?_isSome]
  simp only [mem_available, decide_eq_true_eq, and_assoc]

theorem found_iff : Found solution request ↔ ∀ names, request.configurations = some names →
    ∀ name ∈ names, ∃ configuration ∈ solution.configurations,
      configuration.platform = Text.trim request.platform ∧ configuration.name = Text.trim name := by
  simp only [Found, exists_participant_iff, participatingNames, requestedNames]
  split
  next name names asked =>
    simp only [asked, List.mem_eraseDups, List.forall_mem_map, Option.some.injEq, forall_eq']
  next unasked =>
    constructor
    · intro _ names asked name member
      cases names with
      | nil => simp at member
      | cons first rest => exact absurd asked (unasked first rest)
    · intro _
      simp only [List.mem_eraseDups, List.forall_mem_map]
      intro configuration member
      obtain ⟨inside, platform⟩ := mem_available.mp member
      exact ⟨configuration, inside, platform, rfl⟩

end

section

variable {provider : Provider} {request : Request} {project : Project}

theorem checkAgreement_eq_ok_iff {name : String} {configurations : Keyed ProjectConfiguration}
    {first : ProjectConfiguration} :
    checkAgreement name configurations first = .ok () ↔ ∀ entry ∈ configurations,
      entry.2.kind = first.kind ∧ entry.2.useOfMfc = first.useOfMfc := by
  unfold checkAgreement
  split
  next kinds =>
    obtain ⟨entry, member, different⟩ := List.any_eq_true.mp kinds
    have disagree : ¬ ∀ entry ∈ configurations,
        entry.2.kind = first.kind ∧ entry.2.useOfMfc = first.useOfMfc :=
      fun agree => by simp [(agree entry member).1] at different
    exact iff_of_false (by simp) disagree
  next kinds =>
    split
    next usages =>
      obtain ⟨entry, member, different⟩ := List.any_eq_true.mp usages
      have disagree : ¬ ∀ entry ∈ configurations,
          entry.2.kind = first.kind ∧ entry.2.useOfMfc = first.useOfMfc :=
        fun agree => by simp [(agree entry member).2] at different
      exact iff_of_false (by simp) disagree
    next usages =>
      simp only [List.any_eq_true, decide_eq_true_eq, not_exists, not_and, not_not] at kinds usages
      simpa using fun name entry member => ⟨kinds (name, entry) member, usages (name, entry) member⟩

theorem declaredConfiguration_eq_ok_iff {platform : String} {context : String × String}
    {entry : String × ProjectConfiguration} :
    declaredConfiguration provider project.name platform context = .ok entry ↔ entry.1 = context.1 ∧
      (provider.configurations project.name).find? (fun declared =>
        declared.name = context.2 && declared.platform = platform) = some entry.2 := by
  obtain ⟨name, configuration⟩ := entry
  unfold declaredConfiguration
  split
  next found =>
    simp only [found, Except.ok.injEq, Prod.mk.injEq, Option.some.injEq]
    exact and_congr_left fun _ => eq_comm
  next missing => simp [missing]

theorem resolveTarget_eq_ok_iff {contexts : Keyed String} {platform : String} {resolved : ResolvedTarget} :
    resolveTarget provider project contexts platform = .ok resolved ↔
      List.Forall₂ (fun context entry =>
        declaredConfiguration provider project.name platform context = .ok entry)
        contexts resolved.configurations ∧
      ∃ first rest, resolved.configurations = first :: rest ∧
        (∀ entry ∈ resolved.configurations,
          entry.2.kind = first.2.kind ∧ entry.2.useOfMfc = first.2.useOfMfc) ∧
        resolved.target = targetOf provider project resolved.configurations first.2 := by
  show Except.bind (contexts.mapM (declaredConfiguration provider project.name platform)) _ = _ ↔ _
  rw [bind_eq_ok_iff]
  simp only [mapM_eq_ok_iff]
  constructor
  · intro given
    rcases given with ⟨configurations, declared, finished⟩
    cases configurations with
    | nil => simp at finished
    | cons first rest =>
      obtain ⟨_, agreed, same⟩ := bind_eq_ok_iff.mp finished
      cases same
      exact ⟨declared, first, rest, rfl, checkAgreement_eq_ok_iff.mp agreed, rfl⟩
  · intro given
    rcases given with ⟨declared, first, rest, shape, agreed, target⟩
    obtain ⟨own, configurations⟩ := resolved
    dsimp only at declared shape agreed target
    subst shape target
    exact ⟨first :: rest, declared, bind_eq_ok_iff.mpr ⟨(), checkAgreement_eq_ok_iff.mpr agreed, rfl⟩⟩

theorem takesPart_eq_true_iff : takesPart provider request project = true ↔ project.native = true ∧
    ∀ configuration ∈ participants provider.solution request,
      ∃ name, builtAs? provider.solution.directory project configuration = some name := by
  simp only [takesPart, Bool.and_eq_true, List.all_eq_true, List.any_eq_true, exists_builtAs?_iff]

def tables (provider : Provider) (request : Request) : Keyed Contexts :=
  buildTables (participants provider.solution request)

theorem resolvedAs_iff {resolved : ResolvedTarget} :
    (∃ contexts, contextsFor? (tables provider request) provider.solution.directory project = some contexts ∧
      resolveTarget provider project contexts (Text.trim request.platform) = .ok resolved) ↔
      ResolvedAs provider request project resolved := by
  simp only [tables, contextsFor?_eq_some_iff, resolveTarget_eq_ok_iff, declaredConfiguration_eq_ok_iff]
  constructor
  · intro given
    rcases given with ⟨contexts, building, declared, first, rest, shape, agreed, target⟩
    have uses : List.Forall₂ (fun configuration entry => entry.1 = configuration.name ∧
        Uses provider request project configuration entry.2)
        (participants provider.solution request) resolved.configurations :=
      (forall₂_comp_iff.mp ⟨contexts, building, declared⟩).imp
        fun _ _ ⟨context, ⟨name, buildsAs⟩, same, found⟩ => ⟨same.trans name, context.2, buildsAs, found⟩
    constructor
    case name => simp [target, targetOf]
    case configurations => exact uses
    case kind => exact fun entry member => by simp [target, targetOf, (agreed entry member).1]
    case useOfMfc => exact fun entry member => by simp [target, targetOf, (agreed entry member).2]
    case target => exact ⟨first, rest, shape, target⟩
  · intro as
    obtain ⟨first, rest, shape, target⟩ := as.target
    have passes : List.Forall₂ (fun configuration entry => ∃ context : String × String,
        (context.1 = configuration.name ∧
          builtAs? provider.solution.directory project configuration = some context.2) ∧
        entry.1 = context.1 ∧ (provider.configurations project.name).find? (fun declared =>
          declared.name = context.2 && declared.platform = Text.trim request.platform) = some entry.2)
        (participants provider.solution request) resolved.configurations :=
      as.configurations.imp fun configuration _ ⟨same, name, buildsAs, found⟩ =>
        ⟨(configuration.name, name), ⟨rfl, buildsAs⟩, same, found⟩
    obtain ⟨contexts, building, declared⟩ := forall₂_comp_iff.mpr passes
    refine ⟨contexts, building, declared, first, rest, shape, fun entry member => ?_, target⟩
    have kind := as.kind entry member
    have usage := as.useOfMfc entry member
    rw [target] at kind usage
    exact ⟨kind, usage⟩

theorem exists_contextsFor?_iff :
    (∃ contexts, contextsFor? (tables provider request) provider.solution.directory project =
      some contexts) ↔ ∀ configuration ∈ participants provider.solution request,
        ∃ name, builtAs? provider.solution.directory project configuration = some name := by
  simp only [tables, contextsFor?_eq_some_iff, exists_forall₂_iff]
  refine forall₂_congr fun configuration _ => ?_
  constructor
  · intro given
    rcases given with ⟨entry, -, buildsAs⟩
    exact ⟨entry.2, buildsAs⟩
  · intro given
    rcases given with ⟨name, buildsAs⟩
    exact ⟨(configuration.name, name), rfl, buildsAs⟩

theorem resolveProject_eq_ok_iff {outcome : Option ResolvedTarget} :
    (resolveProject provider (tables provider request) (Text.trim request.platform) project).result =
        .ok outcome ↔
      if takesPart provider request project = true then
        ∃ resolved, outcome = some resolved ∧ ResolvedAs provider request project resolved
      else outcome = none := by
  have takes : takesPart provider request project = true ↔ project.native = true ∧ ∃ contexts,
      contextsFor? (tables provider request) provider.solution.directory project = some contexts := by
    rw [takesPart_eq_true_iff, exists_contextsFor?_iff]
  unfold resolveProject
  cases native : project.native with
  | false =>
    have part : takesPart provider request project = false := by simpa [native] using takes
    simpa [part, Except.map] using eq_comm
  | true =>
    cases own : contextsFor? (tables provider request) provider.solution.directory project with
    | none =>
      have part : takesPart provider request project = false := by simpa [own] using takes
      simpa [part] using eq_comm
    | some contexts =>
      have part := takes.mpr ⟨native, contexts, own⟩
      have resolved (outcome : ResolvedTarget) : ResolvedAs provider request project outcome ↔
          resolveTarget provider project contexts (Text.trim request.platform) = .ok outcome := by
        simp [← resolvedAs_iff, own]
      simp only [part, resolved, if_true]
      cases resolveTarget provider project contexts (Text.trim request.platform) with
      | error => simp [Except.map]
      | ok target => simpa [Except.map] using eq_comm

theorem mapM_resolveProject_eq_ok_iff {outcomes : List (Option ResolvedTarget)} :
    (provider.projects.mapM (resolveProject provider
      (buildTables (participants provider.solution request)) (Text.trim request.platform))).result =
        .ok outcomes ↔
      List.Forall₂ (fun project outcome => if takesPart provider request project = true then
        ∃ resolved, outcome = some resolved ∧ ResolvedAs provider request project resolved
        else outcome = none) provider.projects outcomes := by
  rw [Logged.result_mapM, mapM_eq_ok_iff]
  simp only [← resolveProject_eq_ok_iff, tables]

theorem resolve_eq_ok_iff {targets : List ResolvedTarget} :
    (resolve provider request).result = .ok targets ↔
      isUnsupported (Text.trim request.platform) = false ∧
      available provider.solution request ≠ [] ∧ Found provider.solution request ∧
      (∀ configuration ∈ participants provider.solution request,
        BuildsOn (Text.trim request.platform) configuration) ∧
      (∀ first ∈ participants provider.solution request,
        ∀ second ∈ participants provider.solution request, projectNames first = projectNames second) ∧
      List.Forall₂ (ResolvedAs provider request)
        (provider.projects.filter (takesPart provider request)) targets ∧ targets ≠ [] := by
  simp only [resolve]
  split
  next unsupported => simp [unsupported, Except.bind]
  next supported =>
    simp only [Bool.not_eq_true] at supported
    simp only [supported, true_and, Logged.result_bind, Logged.result_lift,
      bind_eq_ok_iff, participating_eq_ok_iff, gather_eq_ok_iff, ← forall₂_filter_iff]
    constructor
    · intro given
      rcases given with ⟨_, ⟨filled, found, rfl⟩, _, ⟨builds, uniform, rfl⟩, outcomes, passed, finished⟩
      cases kept : outcomes.filterMap id with
      | nil => simp only [kept, Logged.result_fail, reduceCtorEq] at finished
      | cons first rest =>
        simp only [kept, Logged.result_pure, Except.ok.injEq] at finished
        subst finished
        exact ⟨filled, found, builds, uniform, ⟨outcomes, mapM_resolveProject_eq_ok_iff.mp passed, kept⟩, by simp⟩
    · intro given
      rcases given with ⟨filled, found, builds, uniform, ⟨outcomes, passed, rfl⟩, nonempty⟩
      refine ⟨_, ⟨filled, found, rfl⟩, _, ⟨builds, uniform, rfl⟩, outcomes,
        mapM_resolveProject_eq_ok_iff.mpr passed, ?_⟩
      cases kept : outcomes.filterMap id with
      | nil => exact absurd kept nonempty
      | cons => simp

theorem Uses.unique {configuration : SolutionConfiguration} {declared other : ProjectConfiguration}
    (first : Uses provider request project configuration declared)
    (second : Uses provider request project configuration other) : declared = other := by
  obtain ⟨name, buildsAs, found⟩ := first
  obtain ⟨name', buildsAs', found'⟩ := second
  rw [buildsAs, Option.some.injEq] at buildsAs'
  rw [← buildsAs', found] at found'
  exact Option.some.inj found'

theorem ResolvedAs.exists_uses {resolved : ResolvedTarget} {configuration : SolutionConfiguration}
    (as : ResolvedAs provider request project resolved)
    (member : configuration ∈ participants provider.solution request) :
    ∃ entry ∈ resolved.configurations, Uses provider request project configuration entry.2 := by
  obtain ⟨entry, inside, -, uses⟩ := exists_mem_of_forall₂ as.configurations member
  exact ⟨entry, inside, uses⟩

theorem ResolvedAs.agreed {resolved : ResolvedTarget} {configuration : SolutionConfiguration}
    {declared : ProjectConfiguration} (as : ResolvedAs provider request project resolved)
    (member : configuration ∈ participants provider.solution request)
    (uses : Uses provider request project configuration declared) :
    declared.kind = resolved.target.kind ∧ declared.useOfMfc = resolved.target.useOfMfc := by
  obtain ⟨entry, inside, same⟩ := as.exists_uses member
  rw [uses.unique same]
  exact ⟨as.kind entry inside, as.useOfMfc entry inside⟩

theorem exists_resolvedAs (some : participants provider.solution request ≠ [])
    (declared : ∀ configuration ∈ participants provider.solution request,
      ∃ declared, Uses provider request project configuration declared)
    (agreed : ∀ first ∈ participants provider.solution request,
      ∀ second ∈ participants provider.solution request, ∀ declared other,
        Uses provider request project first declared → Uses provider request project second other →
        declared.kind = other.kind ∧ declared.useOfMfc = other.useOfMfc) :
    ∃ resolved, ResolvedAs provider request project resolved := by
  have each : ∀ configuration ∈ participants provider.solution request,
      ∃ entry : String × ProjectConfiguration, entry.1 = configuration.name ∧
        Uses provider request project configuration entry.2 := by
    intro configuration member
    obtain ⟨declared, uses⟩ := declared configuration member
    exact ⟨(configuration.name, declared), rfl, uses⟩
  obtain ⟨configurations, all⟩ := exists_forall₂_iff.mpr each
  cases configurations with
  | nil => exact absurd (List.forall₂_nil_right_iff.mp all) some
  | cons first rest =>
    -- The target is made from the first configuration, with which all others agree.
    have back {entry} (member : entry ∈ first :: rest) :
        ∃ configuration ∈ participants provider.solution request,
          Uses provider request project configuration entry.2 := by
      obtain ⟨configuration, inside, -, uses⟩ := exists_mem_of_forall₂ all.flip member
      exact ⟨configuration, inside, uses⟩
    have agree : ∀ entry ∈ first :: rest,
        entry.2.kind = first.2.kind ∧ entry.2.useOfMfc = first.2.useOfMfc := by
      intro entry member
      obtain ⟨configuration, inside, uses⟩ := back member
      have self : first ∈ first :: rest := List.mem_cons_self
      obtain ⟨configuration', inside', uses'⟩ := back self
      exact agreed configuration inside configuration' inside' _ _ uses uses'
    refine ⟨⟨targetOf provider project (first :: rest) first.2, first :: rest⟩, ?_⟩
    constructor
    case name => rfl
    case configurations => exact all
    case kind => exact fun entry member => (agree entry member).1
    case useOfMfc => exact fun entry member => (agree entry member).2
    case target => exact ⟨first, rest, rfl, rfl⟩

theorem exists_resolvedAs_iff (some : participants provider.solution request ≠ []) :
    (∃ resolved, ResolvedAs provider request project resolved) ↔
      (∀ configuration ∈ participants provider.solution request,
        ∃ declared, Uses provider request project configuration declared) ∧
      ∀ first ∈ participants provider.solution request, ∀ second ∈ participants provider.solution request,
        ∀ declared other, Uses provider request project first declared →
          Uses provider request project second other →
          declared.kind = other.kind ∧ declared.useOfMfc = other.useOfMfc := by
  constructor
  · intro given
    rcases given with ⟨resolved, as⟩
    refine ⟨fun configuration member => ?_, ?_⟩
    · obtain ⟨entry, -, uses⟩ := as.exists_uses member
      exact ⟨entry.2, uses⟩
    · intro first firstMember second secondMember declared other uses uses'
      have left := as.agreed firstMember uses
      have right := as.agreed secondMember uses'
      exact ⟨left.1.trans right.1.symm, left.2.trans right.2.symm⟩
  · intro given
    exact exists_resolvedAs some given.1 given.2

theorem isUnsupported_eq_false_iff {platform : String} : isUnsupported platform = false ↔
    platform ≠ "" ∧ ∀ any ∈ anyPlatforms, Text.sameIgnoringAsciiCase any platform = false := by
  simp [isUnsupported]

theorem participants_ne_nil (filled : available provider.solution request ≠ [])
    (found : Found provider.solution request) : participants provider.solution request ≠ [] := by
  intro none
  have names := names_participants found
  rw [none, List.map_nil] at names
  exact participatingNames_ne_nil filled names.symm

/-- The conditions of consistency, with those on a single project as the existence of its target. -/
theorem consistent_iff : Consistent provider request ↔
    isUnsupported (Text.trim request.platform) = false ∧
    available provider.solution request ≠ [] ∧ Found provider.solution request ∧
    (∀ configuration ∈ participants provider.solution request,
      BuildsOn (Text.trim request.platform) configuration) ∧
    (∀ first ∈ participants provider.solution request,
      ∀ second ∈ participants provider.solution request, projectNames first = projectNames second) ∧
    (∀ project ∈ provider.projects.filter (takesPart provider request),
      ∃ resolved, ResolvedAs provider request project resolved) ∧
    provider.projects.filter (takesPart provider request) ≠ [] := by
  have filled : available provider.solution request ≠ [] ↔
      ∃ configuration ∈ provider.solution.configurations,
        configuration.platform = Text.trim request.platform := by
    simp [available]
  have native : provider.projects.filter (takesPart provider request) ≠ [] ↔
      ∃ project ∈ provider.projects, takesPart provider request project = true := by
    simp
  rw [isUnsupported_eq_false_iff, native]
  constructor
  · intro consistent
    have some := participants_ne_nil (filled.mpr consistent.available) (found_iff.mpr consistent.requested)
    refine ⟨consistent.supported, filled.mpr consistent.available, found_iff.mpr consistent.requested,
      consistent.builds, consistent.uniform, fun project member => ?_, consistent.native⟩
    obtain ⟨inside, part⟩ := List.mem_filter.mp member
    exact (exists_resolvedAs_iff some).mpr
      ⟨consistent.declared project inside part, consistent.agreed project inside part⟩
  · intro given
    rcases given with ⟨supported, nonempty, found, builds, uniform, targets, part⟩
    have each {project} (inside : project ∈ provider.projects)
        (part : takesPart provider request project = true) :=
      (exists_resolvedAs_iff (participants_ne_nil nonempty found)).mp
        (targets project (List.mem_filter.mpr ⟨inside, part⟩))
    exact ⟨supported, filled.mp nonempty, found_iff.mp found, builds, uniform, part,
      fun project inside part => (each inside part).1, fun project inside part => (each inside part).2⟩

/-- A request succeeds on the consistent solutions, and then yields the targets of the projects that take part,
in their order. -/
theorem resolve_succeeds_iff_consistent (provider : Provider) (request : Request) :
    ((∃ targets, (resolve provider request).result = .ok targets) ↔ Consistent provider request) ∧
    ∀ targets, (resolve provider request).result = .ok targets ↔
      Consistent provider request ∧ List.Forall₂ (ResolvedAs provider request)
        (provider.projects.filter (takesPart provider request)) targets := by
  have exact (targets : List ResolvedTarget) : (resolve provider request).result = .ok targets ↔
      Consistent provider request ∧ List.Forall₂ (ResolvedAs provider request)
        (provider.projects.filter (takesPart provider request)) targets := by
    rw [resolve_eq_ok_iff, consistent_iff]
    constructor
    · intro given
      rcases given with ⟨supported, filled, found, builds, uniform, all, nonempty⟩
      refine ⟨⟨supported, filled, found, builds, uniform, exists_forall₂_iff.mp ⟨targets, all⟩, ?_⟩, all⟩
      intro none
      exact nonempty (List.forall₂_nil_left_iff.mp (none ▸ all))
    · intro given
      rcases given with ⟨⟨supported, filled, found, builds, uniform, -, part⟩, all⟩
      refine ⟨supported, filled, found, builds, uniform, all, ?_⟩
      intro none
      exact part (List.forall₂_nil_right_iff.mp (none ▸ all))
  refine ⟨?_, exact⟩
  constructor
  · intro given
    rcases given with ⟨targets, success⟩
    exact ((exact targets).mp success).1
  · intro consistent
    obtain ⟨-, -, -, -, -, each, -⟩ := consistent_iff.mp consistent
    obtain ⟨targets, all⟩ := exists_forall₂_iff.mpr each
    exact ⟨targets, (exact targets).mpr ⟨consistent, all⟩⟩

end

end Listfile.Resolution

import Listfile.Proofs.Traversal
import Listfile.Resolution
import Mathlib.Data.List.Induction

/-!
What a configuration of the solution builds: the table of contexts that a resolution keeps of it, and the rule
behind the table. The first context of a project gives its spelling, the last one with that spelling its
configuration.
-/

namespace Listfile

variable {α β : Type}

theorem eraseDups_snoc [BEq α] [LawfulBEq α] (l : List α) (x : α) :
    (l ++ [x]).eraseDups = if x ∈ l then l.eraseDups else l.eraseDups ++ [x] := by
  rw [List.eraseDups_append]
  split
  next member => simp [List.removeAll, member]
  next fresh => simp [List.removeAll, fresh, List.eraseDups_cons]

theorem nodup_eraseDups [BEq α] [LawfulBEq α] (l : List α) : l.eraseDups.Nodup := by
  induction l using List.reverseRecOn with
  | nil => simp
  | append_singleton l x ih =>
    rw [eraseDups_snoc]
    split
    next => exact ih
    next fresh =>
      refine List.nodup_append.mpr ⟨ih, by simp, ?_⟩
      intro a inside b last
      rw [List.mem_singleton.mp last]
      rintro rfl
      exact fresh (List.mem_eraseDups.mp inside)

theorem eraseDups_sublist [BEq α] [LawfulBEq α] (l : List α) : l.eraseDups.Sublist l := by
  induction l using List.reverseRecOn with
  | nil => exact List.Sublist.refl []
  | append_singleton rest x ih =>
    rw [eraseDups_snoc]
    split
    next => exact ih.trans (List.sublist_append_left rest [x])
    next => exact ih.append_right [x]

theorem find?_eraseDups [BEq α] [LawfulBEq α] (keep : α → Bool) (l : List α) :
    l.eraseDups.find? keep = l.find? keep := by
  induction l using List.reverseRecOn with
  | nil => rfl
  | append_singleton l x ih =>
    rw [eraseDups_snoc]
    split
    next member =>
      rw [ih, List.find?_append]
      cases found : l.find? keep with
      | some => rfl
      | none => simpa using List.find?_eq_none.mp found x member
    next => rw [List.find?_append, List.find?_append, ih]

namespace Keyed

theorem keys_put (entries : Keyed α) (key : String) (value : α) :
    (put entries key value).keys = if key ∈ entries.keys then entries.keys else entries.keys ++ [key] := by
  induction entries with
  | nil => simp [put, keys]
  | cons entry rest ih =>
    unfold put
    split
    next same => simp [keys, same]
    next different =>
      simp only [keys, List.map_cons, List.mem_cons] at ih ⊢
      rw [ih]
      have other : key ≠ entry.1 := fun same => different same.symm
      by_cases member : key ∈ rest.map Prod.fst <;> simp [other, member]

theorem ofPairs_snoc (pairs : List (String × α)) (pair : String × α) :
    ofPairs (pairs ++ [pair]) = (ofPairs pairs).put pair.1 pair.2 := by
  simp [ofPairs]

theorem keys_ofPairs (pairs : List (String × α)) :
    (ofPairs pairs).keys = (pairs.map Prod.fst).eraseDups := by
  induction pairs using List.reverseRecOn with
  | nil => rfl
  | append_singleton pairs pair ih =>
    rw [ofPairs_snoc, keys_put, ih, List.map_append, List.map_singleton, eraseDups_snoc]
    simp only [List.mem_eraseDups]

theorem get?_ofPairs (pairs : List (String × α)) (key : String) :
    (ofPairs pairs).get? key = (pairs.reverse.find? (·.1 = key)).map Prod.snd := by
  induction pairs using List.reverseRecOn with
  | nil => rfl
  | append_singleton pairs pair ih =>
    rw [ofPairs_snoc, get?_put, ih, List.reverse_append, List.reverse_singleton, List.singleton_append,
      List.find?_cons]
    by_cases same : pair.1 = key <;> simp [same]

theorem put_of_fresh {entries : Keyed α} {key : String} (fresh : key ∉ keys entries) (value : α) :
    put entries key value = entries ++ [(key, value)] := by
  induction entries with
  | nil => rfl
  | cons entry rest ih =>
    obtain ⟨other, fresh⟩ := not_or.mp (List.mem_cons.not.mp fresh)
    rw [put, if_neg (Ne.symm other), ih fresh, List.cons_append]

theorem ofPairs_of_nodup {pairs : Keyed α} (nodup : (keys pairs).Nodup) : ofPairs pairs = pairs := by
  induction pairs using List.reverseRecOn with
  | nil => rfl
  | append_singleton pairs pair ih =>
    rw [keys, List.map_append, List.nodup_append] at nodup
    obtain ⟨distinct, -, apart⟩ := nodup
    have fresh : pair.1 ∉ keys pairs := fun member => apart pair.1 member pair.1 (by simp) rfl
    rw [ofPairs_snoc, ih distinct, put_of_fresh fresh]

theorem find?_key {entries : Keyed α} (nodup : entries.keys.Nodup) (keep : String → Bool) :
    (entries.find? fun entry => keep entry.1) =
      (entries.keys.find? keep).bind fun key => (entries.get? key).map fun value => (key, value) := by
  rw [keys, List.find?_map]
  cases found : entries.find? (keep ∘ Prod.fst) with
  | none => simpa [Function.comp_def] using found
  | some entry =>
    have value := get?_of_mem nodup (List.mem_of_find?_eq_some found)
    simpa [Function.comp_def, value] using found

end Keyed

namespace Resolution

def built (configuration : SolutionConfiguration) : List BuildContext :=
  configuration.contexts.filter (·.shouldBuild)

/-- Whether a configuration builds something, and all of it on the platform. -/
def BuildsOn (platform : String) (configuration : SolutionConfiguration) : Prop :=
  built configuration ≠ [] ∧ ∀ context ∈ built configuration, context.platform = platform

/-- The spellings of the projects that a configuration builds, each once. -/
def spellings (configuration : SolutionConfiguration) : List String :=
  ((built configuration).map (·.project)).eraseDups

/-- The configuration in which a project is built: of the contexts that denote the project the first gives its
spelling, and of those with that spelling the last counts. -/
def builtAs? (solutionDirectory : String) (project : Project) (configuration : SolutionConfiguration) :
    Option String :=
  ((built configuration).find? fun context => denotes solutionDirectory project context.project).bind
    fun first =>
      ((built configuration).reverse.find? (·.project = first.project)).map (·.configuration)

def projectNames (configuration : SolutionConfiguration) : List String :=
  ((spellings configuration).map Text.lower).mergeSort (· ≤ ·)

def buildTable (configuration : SolutionConfiguration) : Contexts :=
  Keyed.ofPairs ((built configuration).map fun context => (context.project, context.configuration))

theorem keys_buildTable (configuration : SolutionConfiguration) :
    (buildTable configuration).keys = spellings configuration := by
  rw [buildTable, Keyed.keys_ofPairs, List.map_map]
  rfl

theorem buildTable_eq_nil_iff {configuration : SolutionConfiguration} :
    buildTable configuration = [] ↔ built configuration = [] := by
  have keys := keys_buildTable configuration
  rw [← List.map_eq_nil_iff (f := Prod.fst), ← Keyed.keys, keys, spellings]
  simp [List.eq_nil_iff_forall_not_mem]

theorem find?_buildTable (solutionDirectory : String) (project : Project)
    (configuration : SolutionConfiguration) :
    ((buildTable configuration).find? fun context => denotes solutionDirectory project context.1).map
      Prod.snd = builtAs? solutionDirectory project configuration := by
  have nodup : (buildTable configuration).keys.Nodup := keys_buildTable configuration ▸ nodup_eraseDups _
  rw [Keyed.find?_key nodup (denotes solutionDirectory project), keys_buildTable, spellings,
    find?_eraseDups, List.find?_map, builtAs?]
  cases found : (built configuration).find? fun context =>
      denotes solutionDirectory project context.project with
  | none =>
    simp only [Function.comp_def, found]
    rfl
  | some first =>
    have value : (buildTable configuration).get? first.project =
        ((built configuration).reverse.find? (·.project = first.project)).map (·.configuration) := by
      rw [buildTable, Keyed.get?_ofPairs, ← List.map_reverse, List.find?_map, Option.map_map]
      rfl
    simp only [Function.comp_def, found, Option.map_some, Option.bind_some, value, Option.map_map]

theorem exists_builtAs?_iff {solutionDirectory : String} {project : Project}
    {configuration : SolutionConfiguration} :
    (∃ name, builtAs? solutionDirectory project configuration = some name) ↔
      ∃ context ∈ built configuration, denotes solutionDirectory project context.project = true := by
  constructor
  · intro given
    rcases given with ⟨name, found⟩
    simp only [builtAs?, Option.bind_eq_some_iff] at found
    obtain ⟨first, denoting, -⟩ := found
    exact ⟨first, List.mem_of_find?_eq_some denoting, by simpa using List.find?_some denoting⟩
  · intro given
    rcases given with ⟨context, member, denoting⟩
    have some : ((built configuration).find? fun context =>
        denotes solutionDirectory project context.project).isSome = true :=
      List.find?_isSome.mpr ⟨context, member, denoting⟩
    obtain ⟨first, found⟩ := Option.isSome_iff_exists.mp some
    have inside := List.mem_of_find?_eq_some found
    have again : ((built configuration).reverse.find? (·.project = first.project)).isSome = true :=
      List.find?_isSome.mpr ⟨first, List.mem_reverse.mpr inside, by simp⟩
    obtain ⟨last, found'⟩ := Option.isSome_iff_exists.mp again
    exact ⟨last.configuration, by simp [builtAs?, found, found']⟩

section

variable {platform : String} {configuration : SolutionConfiguration}

theorem result_addContext (contexts : Contexts) (context : BuildContext) :
    (addContext platform configuration contexts context).result =
      if context.platform = platform then .ok (contexts.put context.project context.configuration)
      else .error (.platformMismatch context.project platform) := by
  simp only [addContext]
  split
  next different => simp [Except.bind]
  next same =>
    rw [if_pos (not_not.mp same)]
    split <;> simp [Except.map]

theorem result_foldlM_addContext {contexts : List BuildContext} {start table : Contexts} :
    (contexts.foldlM (addContext platform configuration) start).result = .ok table ↔
      (∀ context ∈ contexts, context.platform = platform) ∧
        table = contexts.foldl (fun (table : Contexts) context =>
          table.put context.project context.configuration) start := by
  induction contexts generalizing start with
  | nil => simp [eq_comm]
  | cons context rest ih =>
    rw [List.foldlM_cons, Logged.result_bind, bind_eq_ok_iff, result_addContext]
    by_cases same : context.platform = platform <;> simp [same, ih]

theorem contextsOf_eq_ok_iff {entry : String × Contexts} :
    (contextsOf platform configuration).result = .ok entry ↔
      BuildsOn platform configuration ∧ entry = (configuration.name, buildTable configuration) := by
  have table : (built configuration).foldl
      (fun (table : Contexts) context => table.put context.project context.configuration) [] =
        buildTable configuration := by
    rw [buildTable, Keyed.ofPairs, List.foldl_map]
  have contexts : configuration.contexts.filter (·.shouldBuild) = built configuration := rfl
  simp only [contextsOf, contexts, Logged.result_bind, bind_eq_ok_iff, result_foldlM_addContext, table]
  constructor
  · intro given
    rcases given with ⟨_, ⟨platforms, rfl⟩, finished⟩
    split at finished
    next => simp [Except.map] at finished
    next filled =>
      simp only [List.isEmpty_iff, buildTable_eq_nil_iff] at filled
      exact ⟨⟨filled, platforms⟩, (Except.ok.inj finished).symm⟩
  · intro given
    rcases given with ⟨⟨filled, platforms⟩, rfl⟩
    refine ⟨_, ⟨platforms, rfl⟩, ?_⟩
    simp [buildTable_eq_nil_iff, filled]

end

def buildTables (configurations : List SolutionConfiguration) : Keyed Contexts :=
  configurations.map fun configuration => (configuration.name, buildTable configuration)

theorem isUniform_buildTables {configurations : List SolutionConfiguration} :
    isUniform (buildTables configurations) = true ↔
      ∀ first ∈ configurations, ∀ second ∈ configurations, projectNames first = projectNames second := by
  have names (configuration : SolutionConfiguration) :
      projectSet (buildTable configuration) = projectNames configuration := by
    rw [projectSet, keys_buildTable, projectNames]
  cases configurations with
  | nil => simp [isUniform, buildTables, Keyed.values]
  | cons head rest =>
    simp only [isUniform, buildTables, Keyed.values, List.map_cons, List.map_map, List.all_map,
      List.all_eq_true, Function.comp_apply, decide_eq_true_eq, names]
    constructor
    · intro same first firstMember second secondMember
      have equal {configuration} (member : configuration ∈ head :: rest) :
          projectNames configuration = projectNames head := by
        rcases List.mem_cons.mp member with rfl | member
        · rfl
        · exact same configuration member
      rw [equal firstMember, equal secondMember]
    · intro same other member
      exact same other (List.mem_cons_of_mem _ member) head List.mem_cons_self

theorem gather_eq_ok_iff {platform : String} {configurations : List SolutionConfiguration}
    {contexts : Keyed Contexts} :
    (gather platform configurations).result = .ok contexts ↔
      (∀ configuration ∈ configurations, BuildsOn platform configuration) ∧
      (∀ first ∈ configurations, ∀ second ∈ configurations, projectNames first = projectNames second) ∧
      contexts = buildTables configurations := by
  have pass (tables : Keyed Contexts) : (configurations.mapM (contextsOf platform)).result = .ok tables ↔
      (∀ configuration ∈ configurations, BuildsOn platform configuration) ∧
        tables = buildTables configurations := by
    rw [Logged.result_mapM, mapM_eq_ok_iff]
    simp only [contextsOf_eq_ok_iff, List.forall₂_and_left, forall₂_eq_map_iff, buildTables]
  simp only [gather, Logged.result_bind, bind_eq_ok_iff, pass, ← isUniform_buildTables]
  constructor
  · intro given
    rcases given with ⟨_, ⟨builds, rfl⟩, finished⟩
    split at finished
    next => simp [Except.map] at finished
    next uniform => exact ⟨builds, by simpa using uniform, (Except.ok.inj finished).symm⟩
  · intro given
    rcases given with ⟨builds, uniform, rfl⟩
    exact ⟨_, ⟨builds, rfl⟩, by simp [uniform]⟩

theorem contextsFor?_eq_some_iff {configurations : List SolutionConfiguration} {solutionDirectory : String}
    {project : Project} {own : Keyed String} :
    contextsFor? (buildTables configurations) solutionDirectory project = some own ↔
      List.Forall₂ (fun configuration entry => entry.1 = configuration.name ∧
        builtAs? solutionDirectory project configuration = some entry.2) configurations own := by
  have each (configuration : SolutionConfiguration) (entry : String × String) :
      (((buildTable configuration).find? fun context =>
          denotes solutionDirectory project context.1).map fun context =>
        (configuration.name, context.2)) = some entry ↔
      entry.1 = configuration.name ∧ builtAs? solutionDirectory project configuration = some entry.2 := by
    obtain ⟨name, value⟩ := entry
    rw [← find?_buildTable]
    cases (buildTable configuration).find? fun context => denotes solutionDirectory project context.1 with
    | none => simp
    | some context => simp [eq_comm (b := name)]
  rw [contextsFor?, buildTables, List.mapM_map, mapM_eq_some_iff]
  simp only [Function.comp_apply, each]

end Resolution

end Listfile

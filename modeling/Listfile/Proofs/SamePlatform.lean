import Listfile.Proofs.Alignment

/-!
Two requests for one platform: whatever else they ask for, a configuration that both convert is the same one of the
solution, and a project is built in it in the same way.
-/

namespace Listfile

def Request.SamePlatform (first second : Request) : Prop :=
  Text.trim first.platform = Text.trim second.platform

namespace Resolution

variable {provider : Provider} {solution : Solution} {first second : Request} {project : Project}

theorem available_eq (same : first.SamePlatform second) (solution : Solution) :
    available solution second = available solution first := by
  unfold available
  rw [same]

theorem uses_eq (same : first.SamePlatform second) (provider : Provider) :
    Uses provider second = Uses provider first := by
  funext project configuration declared
  unfold Uses
  rw [same]

theorem find?_of_mem_participants {configuration : SolutionConfiguration}
    (member : configuration ∈ participants solution first) :
    (available solution first).find? (·.name = configuration.name) = some configuration := by
  obtain ⟨name, -, found⟩ := List.mem_filterMap.mp member
  have named : configuration.name = name := by simpa using List.find?_some found
  rw [named, found]

theorem participant_unique (same : first.SamePlatform second) {configuration other : SolutionConfiguration}
    (member : configuration ∈ participants solution first) (member' : other ∈ participants solution second)
    (named : configuration.name = other.name) : configuration = other := by
  have found := find?_of_mem_participants member
  have found' := find?_of_mem_participants member'
  rw [available_eq same, ← named, found] at found'
  exact Option.some.inj found'

theorem ResolvedAs.exists_first {resolved : ResolvedTarget} (as : ResolvedAs provider first project resolved) :
    ∃ entry ∈ resolved.configurations, resolved.configurations.head? = some entry ∧
      resolved.target = targetOf provider project resolved.configurations entry.2 := by
  obtain ⟨entry, rest, shape, target⟩ := as.target
  exact ⟨entry, shape ▸ List.mem_cons_self, by rw [shape, List.head?_cons], target⟩

theorem ResolvedAs.directory_eq {resolved : ResolvedTarget} (as : ResolvedAs provider first project resolved) :
    resolved.target.directory = Path.canonical project.directory := by
  obtain ⟨_, -, -, target⟩ := as.exists_first
  rw [target]
  rfl

theorem ResolvedAs.exists_participant {resolved : ResolvedTarget}
    (as : ResolvedAs provider first project resolved) {entry : String × ProjectConfiguration}
    (member : entry ∈ resolved.configurations) :
    ∃ configuration ∈ participants provider.solution first,
      entry.1 = configuration.name ∧ Uses provider first project configuration entry.2 :=
  exists_mem_of_forall₂ as.configurations.flip member

theorem ResolvedAs.entry_unique (same : first.SamePlatform second) {own other : ResolvedTarget}
    (as : ResolvedAs provider first project own) (as' : ResolvedAs provider second project other)
    {entry entry' : String × ProjectConfiguration} (member : entry ∈ own.configurations)
    (member' : entry' ∈ other.configurations) (named : entry.1 = entry'.1) : entry = entry' := by
  obtain ⟨configuration, inside, name, uses⟩ := as.exists_participant member
  obtain ⟨configuration', inside', name', uses'⟩ := as'.exists_participant member'
  obtain rfl := participant_unique same inside inside' (name.symm.trans (named.trans name'))
  rw [uses_eq same] at uses'
  exact Prod.ext named (uses.unique uses')

theorem forall₂_resolvedAs {projects : List Project} {targets others : List ResolvedTarget}
    (all : List.Forall₂ (ResolvedAs provider first) projects targets)
    (all' : List.Forall₂ (ResolvedAs provider second) projects others) :
    List.Forall₂ (fun own other => ∃ project,
      ResolvedAs provider first project own ∧ ResolvedAs provider second project other) targets others :=
  forall₂_comp_iff.mp ⟨projects, all.flip, all'⟩

end Resolution

end Listfile

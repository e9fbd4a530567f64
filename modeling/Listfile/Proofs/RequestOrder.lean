import Listfile.Descriptor
import Listfile.Proofs.SamePlatform
import Listfile.Snapshot.Provider

/-!
The order in which a request names its configurations: it decides neither on success nor on what a target is, apart
from the subsystem, which is that of the configuration that is named first.
-/

namespace Listfile

/-- Whether two requests name the same configurations, as often but not necessarily in the same order. -/
structure Request.Reorders (first second : Request) : Prop where
  platform : first.SamePlatform second
  configurations : (first.configurations.getD []).Perm (second.configurations.getD [])

theorem Request.Reorders.symm {first second : Request} (reorders : first.Reorders second) :
    second.Reorders first where
  platform := reorders.platform.symm
  configurations := reorders.configurations.symm

/-- Whether two targets are alike in all that does not belong to a configuration, apart from the subsystem. -/
structure Target.Alike (first second : Target) : Prop where
  name : first.name = second.name
  kind : first.kind = second.kind
  useOfMfc : first.useOfMfc = second.useOfMfc
  directory : first.directory = second.directory
  files : first.files = second.files

def ResolvedTarget.HasOneSubsystem (resolved : ResolvedTarget) : Prop :=
  ∀ entry ∈ resolved.configurations, entry.2.subsystem = resolved.target.subsystem

namespace Resolution

variable {provider : Provider} {first second : Request} {project : Project}
  {targets others : List ResolvedTarget} {own other : ResolvedTarget}

theorem perm_eraseDups {names others : List String} (perm : names.Perm others) :
    names.eraseDups.Perm others.eraseDups := by
  refine (List.perm_ext_iff_of_nodup (nodup_eraseDups _) (nodup_eraseDups _)).mpr fun name => ?_
  rw [List.mem_eraseDups, List.mem_eraseDups, perm.mem_iff]

theorem requestedNames_eq (request : Request) (available : List SolutionConfiguration) :
    requestedNames request available =
      if request.configurations.getD [] = [] then (available.map (·.name)).eraseDups
      else ((request.configurations.getD []).map Text.trim).eraseDups := by
  unfold requestedNames
  split
  next asked => simp [asked]
  next unasked =>
    have none : request.configurations.getD [] = [] := by
      cases asked : request.configurations with
      | none => rfl
      | some names =>
        cases names with
        | nil => rfl
        | cons name rest => exact absurd asked (unasked name rest)
    rw [if_pos none]

theorem perm_participatingNames (reorders : first.Reorders second) (solution : Solution) :
    (participatingNames solution first).Perm (participatingNames solution second) := by
  have blank : second.configurations.getD [] = [] ↔ first.configurations.getD [] = [] :=
    ⟨fun none => (none ▸ reorders.configurations).eq_nil,
      fun none => (none ▸ reorders.configurations.symm).eq_nil⟩
  simp only [participatingNames, requestedNames_eq, available_eq reorders.platform, blank]
  split
  next => exact List.Perm.refl _
  next => exact perm_eraseDups (reorders.configurations.map Text.trim)

theorem perm_participants (reorders : first.Reorders second) (solution : Solution) :
    (participants solution first).Perm (participants solution second) := by
  unfold participants
  rw [available_eq reorders.platform]
  exact (perm_participatingNames reorders solution).filterMap _

theorem takesPart_eq (reorders : first.Reorders second) (provider : Provider) :
    takesPart provider second = takesPart provider first := by
  funext project
  unfold takesPart
  rw [(perm_participants reorders provider.solution).all_eq]

theorem exists_resolvedAs_of_reorders (reorders : first.Reorders second)
    (as : ResolvedAs provider first project own) : ∃ other, ResolvedAs provider second project other := by
  have inside {configuration} : configuration ∈ participants provider.solution second ↔
      configuration ∈ participants provider.solution first :=
    (perm_participants reorders provider.solution).symm.mem_iff
  obtain ⟨entry, self, -, -⟩ := as.exists_first
  obtain ⟨configuration, member, -⟩ := as.exists_participant self
  have some := List.ne_nil_of_mem member
  have some' := List.ne_nil_of_mem (inside.mpr member)
  obtain ⟨declared, agreed⟩ := (exists_resolvedAs_iff some).mp ⟨own, as⟩
  refine (exists_resolvedAs_iff some').mpr ⟨fun configuration member => ?_, ?_⟩
  · rw [uses_eq reorders.platform]
    exact declared configuration (inside.mp member)
  · rw [uses_eq reorders.platform]
    exact fun first member second member' => agreed first (inside.mp member) second (inside.mp member')

theorem exists_resolve_of_reorders (reorders : first.Reorders second)
    (success : (resolve provider first).result = .ok targets) :
    ∃ others, (resolve provider second).result = .ok others := by
  have names {name} := (perm_participatingNames reorders provider.solution).symm.mem_iff (a := name)
  have inside {configuration} :=
    (perm_participants reorders provider.solution).symm.mem_iff (a := configuration)
  obtain ⟨supported, filled, found, builds, uniform, all, nonempty⟩ := resolve_eq_ok_iff.mp success
  have each : ∀ project ∈ provider.projects.filter (takesPart provider second),
      ∃ other, ResolvedAs provider second project other := by
    intro project member
    rw [takesPart_eq reorders] at member
    obtain ⟨own, -, as⟩ := exists_mem_of_forall₂ all member
    exact exists_resolvedAs_of_reorders reorders as
  obtain ⟨others, all'⟩ := exists_forall₂_iff.mpr each
  -- Every condition speaks of all configurations or of pairs of them, in whatever order.
  refine ⟨others, resolve_eq_ok_iff.mpr ⟨?_, ?_, ?_, ?_, ?_, all', ?_⟩⟩
  · rwa [← reorders.platform]
  · rwa [available_eq reorders.platform]
  · intro name member
    rw [available_eq reorders.platform]
    exact found name (names.mp member)
  · intro configuration member
    rw [← reorders.platform]
    exact builds configuration (inside.mp member)
  · exact fun configuration member other member' =>
      uniform configuration (inside.mp member) other (inside.mp member')
  · intro none
    rw [none, List.forall₂_nil_right_iff, takesPart_eq reorders] at all'
    exact nonempty (List.forall₂_nil_left_iff.mp (all' ▸ all))

theorem forall₂_of_reorders (reorders : first.Reorders second)
    (success : (resolve provider first).result = .ok targets)
    (success' : (resolve provider second).result = .ok others) :
    List.Forall₂ (fun own other => ∃ project,
      ResolvedAs provider first project own ∧ ResolvedAs provider second project other) targets others := by
  obtain ⟨-, -, -, -, -, all, -⟩ := resolve_eq_ok_iff.mp success
  obtain ⟨-, -, -, -, -, all', -⟩ := resolve_eq_ok_iff.mp success'
  rw [takesPart_eq reorders] at all'
  exact forall₂_resolvedAs all all'

theorem ResolvedAs.mem_configurations (reorders : first.Reorders second)
    (as : ResolvedAs provider first project own) (as' : ResolvedAs provider second project other)
    {entry : String × ProjectConfiguration} (member : entry ∈ own.configurations) :
    entry ∈ other.configurations := by
  obtain ⟨configuration, inside, name, -⟩ := as.exists_participant member
  have inside' := (perm_participants reorders provider.solution).mem_iff.mp inside
  obtain ⟨entry', member', name', -⟩ := exists_mem_of_forall₂ as'.configurations inside'
  obtain rfl := as.entry_unique reorders.platform as' member member' (name.trans name'.symm)
  exact member'

theorem ResolvedAs.alike (reorders : first.Reorders second) (as : ResolvedAs provider first project own)
    (as' : ResolvedAs provider second project other) : own.target.Alike other.target := by
  obtain ⟨entry, self, -, target⟩ := as.exists_first
  obtain ⟨entry', -, -, target'⟩ := as'.exists_first
  have member := as.mem_configurations reorders as' self
  constructor
  case name => exact as.name.trans as'.name.symm
  case kind => exact (as.kind entry self).symm.trans (as'.kind entry member)
  case useOfMfc => exact (as.useOfMfc entry self).symm.trans (as'.useOfMfc entry member)
  case directory => exact as.directory_eq.trans as'.directory_eq.symm
  case files =>
    rw [target, target']
    rfl

theorem ResolvedAs.subsystem_of_head (as : ResolvedAs provider first project own)
    {entry : String × ProjectConfiguration} (head : own.configurations.head? = some entry) :
    own.target.subsystem = entry.2.subsystem := by
  obtain ⟨entry', -, head', target⟩ := as.exists_first
  rw [head, Option.some.injEq] at head'
  rw [target, ← head']
  rfl

theorem ResolvedAs.subsystem_eq (reorders : first.Reorders second) (as : ResolvedAs provider first project own)
    (as' : ResolvedAs provider second project other) (one : own.HasOneSubsystem) :
    own.target.subsystem = other.target.subsystem := by
  obtain ⟨entry, self, head, -⟩ := as'.exists_first
  rw [as'.subsystem_of_head head]
  exact (one entry (as'.mem_configurations reorders.symm as self)).symm

theorem exists_reorders_of_mem (asked : first.configurations.getD [] ≠ []) {solution : Solution} {chosen : String}
    (member : chosen ∈ participatingNames solution first) :
    ∃ second, first.Reorders second ∧ (participatingNames solution second).head? = some chosen := by
  rw [participatingNames, requestedNames_eq, if_neg asked, List.mem_eraseDups] at member
  obtain ⟨raw, inside, rfl⟩ := List.mem_map.mp member
  refine ⟨{ first with configurations := some (raw :: (first.configurations.getD []).erase raw) },
    ⟨rfl, List.perm_cons_erase inside⟩, ?_⟩
  rw [participatingNames, requestedNames_eq, if_neg (by simp), Option.getD_some, List.map_cons,
    List.eraseDups_cons, List.head?_cons]

theorem ResolvedAs.subsystem_of_first_name (same : first.SamePlatform second)
    (as : ResolvedAs provider first project own) (as' : ResolvedAs provider second project other)
    (keys : other.configurations.keys = participatingNames provider.solution second)
    {entry : String × ProjectConfiguration} (member : entry ∈ own.configurations)
    (head : (participatingNames provider.solution second).head? = some entry.1) :
    other.target.subsystem = entry.2.subsystem := by
  rw [← keys, Keyed.keys, List.head?_map, Option.map_eq_some_iff] at head
  obtain ⟨entry', head', named⟩ := head
  have member' : entry' ∈ other.configurations := List.mem_of_head? head'
  obtain rfl := as.entry_unique same as' member member' named.symm
  exact as'.subsystem_of_head head'

theorem participatingNames_eq_of_unasked (unasked : first.configurations.getD [] = [])
    (reorders : first.Reorders second) (solution : Solution) :
    participatingNames solution second = participatingNames solution first := by
  have unasked' : second.configurations.getD [] = [] := (unasked ▸ reorders.configurations.symm).eq_nil
  simp only [participatingNames, requestedNames_eq, available_eq reorders.platform, if_pos unasked, if_pos unasked']

def SubsystemsKeep (provider : Provider) (request : Request) (targets : List ResolvedTarget) : Prop :=
  ∀ other others, request.Reorders other → (resolve provider other).result = .ok others →
    List.Forall₂ (fun own other => own.target.subsystem = other.target.subsystem) targets others

theorem subsystemsKeep_of_unasked (success : (resolve provider first).result = .ok targets)
    (unasked : first.configurations.getD [] = []) : SubsystemsKeep provider first targets := by
  intro second others reorders success'
  obtain ⟨-, -, found, -⟩ := resolve_eq_ok_iff.mp success
  obtain ⟨-, -, found', -⟩ := resolve_eq_ok_iff.mp success'
  refine (forall₂_of_reorders reorders success success').imp fun own other pair => ?_
  obtain ⟨project, as, as'⟩ := pair
  obtain ⟨entry, self, first, -⟩ := as.exists_first
  have head : (participatingNames provider.solution second).head? = some entry.1 := by
    rw [participatingNames_eq_of_unasked unasked reorders, ← (as.aligned found).configurations, Keyed.keys,
      List.head?_map, first, Option.map_some]
  have keys' := (as'.aligned found').configurations
  rw [as.subsystem_of_head first, as.subsystem_of_first_name reorders.platform as' keys' self head]

theorem hasOneSubsystem_of_keep (success : (resolve provider first).result = .ok targets)
    (asked : first.configurations.getD [] ≠ []) (keep : SubsystemsKeep provider first targets) :
    ∀ own ∈ targets, own.HasOneSubsystem := by
  intro own inside entry member
  have keys := (aligned_of_resolve success own inside).configurations
  have chosen : entry.1 ∈ participatingNames provider.solution first :=
    keys ▸ List.mem_map_of_mem member
  obtain ⟨second, reorders, head⟩ := exists_reorders_of_mem asked chosen
  obtain ⟨others, success'⟩ := exists_resolve_of_reorders reorders success
  have pairs := (keep second others reorders success').mp (fun _ _ same pair => And.intro pair same)
    (forall₂_of_reorders reorders success success')
  obtain ⟨other, inside', ⟨project, as, as'⟩, same⟩ := exists_mem_of_forall₂ pairs inside
  have keys' := (aligned_of_resolve success' other inside').configurations
  rw [same]
  exact (as.subsystem_of_first_name reorders.platform as' keys' member head).symm

theorem subsystemsKeep_iff (success : (resolve provider first).result = .ok targets) :
    SubsystemsKeep provider first targets ↔
      first.configurations.getD [] = [] ∨ ∀ own ∈ targets, own.HasOneSubsystem := by
  constructor
  · intro keep
    by_cases asked : first.configurations.getD [] = []
    · exact .inl asked
    · exact .inr (hasOneSubsystem_of_keep success asked keep)
  · rintro (unasked | one)
    · exact subsystemsKeep_of_unasked success unasked
    · intro second others reorders success'
      have pairs := forall₂_of_reorders reorders success success'
      refine (List.forall₂_and_left targets others).mpr ⟨one, pairs⟩ |>.imp fun own other given => ?_
      obtain ⟨one, project, as, as'⟩ := given
      exact as.subsystem_eq reorders as' one

/-- Two requests that differ in the order of their configurations succeed alike and give the same targets, but for
their subsystems, which depend on the order just if a target has two of them. -/
theorem attributes_keep_in_any_order (provider : Provider) (request : Request) :
    (∀ other, request.Reorders other →
      ((∃ targets, (resolve provider request).result = .ok targets) ↔
        ∃ others, (resolve provider other).result = .ok others) ∧
      ∀ targets others, (resolve provider request).result = .ok targets →
        (resolve provider other).result = .ok others →
        List.Forall₂ (fun own other => own.target.Alike other.target) targets others) ∧
    ∀ targets, (resolve provider request).result = .ok targets →
      (SubsystemsKeep provider request targets ↔
        request.configurations.getD [] = [] ∨ ∀ own ∈ targets, own.HasOneSubsystem) := by
  refine ⟨fun other reorders => ⟨⟨?_, ?_⟩, ?_⟩, fun targets success => subsystemsKeep_iff success⟩
  · intro given
    obtain ⟨targets, success⟩ := given
    exact exists_resolve_of_reorders reorders success
  · intro given
    obtain ⟨others, success⟩ := given
    exact exists_resolve_of_reorders reorders.symm success
  · intro targets others success success'
    refine (forall₂_of_reorders reorders success success').imp fun own other pair => ?_
    obtain ⟨project, as, as'⟩ := pair
    exact as.alike reorders as'

end Resolution

/-! A project with one subsystem for debugging and another one for release. -/

namespace Sample

def windowedConfiguration (name : String) (subsystem : Subsystem) : String × ProjectConfiguration :=
  (name, { name, platform := "x64", subsystem })

def windowed : Provider :=
  Snapshot.provider
    { solution := provider.solution
      projects := [
        { toProject := project
          configurations := [(windowedConfiguration "Debug" .console).2,
            (windowedConfiguration "Release" .windows).2] }] }
    .error

def inOrder (names : List String) : Request := { configurations := some names }

def windowedTarget (first second : String × ProjectConfiguration) : ResolvedTarget where
  target := Resolution.targetOf windowed project [first, second] first.2
  configurations := [first, second]

def debugging : String × ProjectConfiguration := windowedConfiguration "Debug" .console

def release : String × ProjectConfiguration := windowedConfiguration "Release" .windows

theorem resolve_inOrder :
    (resolve windowed (inOrder ["Debug", "Release"])).result = .ok [windowedTarget debugging release] ∧
      (resolve windowed (inOrder ["Release", "Debug"])).result = .ok [windowedTarget release debugging] := by
  decide +kernel

theorem reorders_inOrder : (inOrder ["Debug", "Release"]).Reorders (inOrder ["Release", "Debug"]) where
  platform := rfl
  configurations := .swap _ _ _

end Sample

namespace Resolution

open Sample

theorem windowed_attributes_keep_in_any_order :
    (inOrder ["Debug", "Release"]).Reorders (inOrder ["Release", "Debug"]) ∧
      (resolve windowed (inOrder ["Debug", "Release"])).result = .ok [windowedTarget debugging release] ∧
      (resolve windowed (inOrder ["Release", "Debug"])).result = .ok [windowedTarget release debugging] ∧
      List.Forall₂ (fun own other => own.target.Alike other.target) [windowedTarget debugging release]
        [windowedTarget release debugging] ∧
      (SubsystemsKeep windowed (inOrder ["Debug", "Release"]) [windowedTarget debugging release] ↔
        ["Debug", "Release"] = [] ∨
          ∀ own ∈ [windowedTarget debugging release], own.HasOneSubsystem) := by
  have keep := attributes_keep_in_any_order windowed (inOrder ["Debug", "Release"])
  refine ⟨reorders_inOrder, resolve_inOrder.1, resolve_inOrder.2, ?_, ?_⟩
  · exact (keep.1 _ reorders_inOrder).2 _ _ resolve_inOrder.1 resolve_inOrder.2
  · exact keep.2 _ resolve_inOrder.1

/-- Whether a program is declared with a window of its own depends on the configuration that is named first. -/
theorem subsystem_follows_first_name :
    (inOrder ["Debug", "Release"]).Reorders (inOrder ["Release", "Debug"]) ∧
      (resolve windowed (inOrder ["Debug", "Release"])).result = .ok [windowedTarget debugging release] ∧
      (resolve windowed (inOrder ["Release", "Debug"])).result = .ok [windowedTarget release debugging] ∧
      (windowedTarget debugging release).target.subsystem = .console ∧
      (windowedTarget release debugging).target.subsystem = .windows ∧
      Descriptor.declarationHead (windowedTarget debugging release).target = "add_executable(app\n" ∧
      Descriptor.declarationHead (windowedTarget release debugging).target = "add_executable(app\n  WIN32\n" := by
  refine ⟨reorders_inOrder, resolve_inOrder.1, resolve_inOrder.2, rfl, rfl, ?_, ?_⟩
  all_goals decide

end Resolution

end Listfile

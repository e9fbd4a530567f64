import Listfile.Proofs.Conversion
import Listfile.Proofs.JoinedPaths
import Listfile.Proofs.Resolution
import Listfile.Snapshot.Provider

/-!
Where descriptors go: when two of them share a directory, when one of them leaves the tree of the solution, and when
the descriptor of a target stands in the directory that its paths start from.
-/

namespace Listfile.Conversion

open Listfile.Path

def sourceRoot (provider : Provider) : String := canonical provider.solution.directory

def converted (provider : Provider) (resolved : List ResolvedTarget) : List Target :=
  (resolved.filter fun own => (extract provider own).isOk).map (·.target)

/-- The canonical form of the directory that the descriptor of a target goes to. -/
inductive PlacedAt (root : String) (target : Target) : String → Prop
  | below {rest : List String} (below : LiesBelow root target.directory rest)
      (relative : isRooted ("/".intercalate rest) = false) : PlacedAt root target ("/".intercalate rest)
  | rooted {rest : List String} (below : LiesBelow root target.directory rest)
      (rooted : isRooted ("/".intercalate rest) = true) :
      PlacedAt root target (Path.normalize ("/".intercalate rest))
  | outside (outside : ∀ rest, ¬ LiesBelow root target.directory rest) :
      PlacedAt root target (Path.normalize target.name)

def StaysBelow (directory : String) : Prop :=
  isRooted directory = false ∧ (parts (Path.normalize directory)).head? ≠ some ".."

/-- How the descriptor of a target leaves the tree of its solution. -/
inductive Escapes (root : String) (target : Target) : Prop
  | upwards {rest : List String} (below : LiesBelow root target.directory (".." :: rest))
  | rooted {rest : List String} (below : LiesBelow root target.directory rest)
      (rooted : isRooted ("/".intercalate rest) = true)
  | name (outside : ∀ rest, ¬ LiesBelow root target.directory rest) (leaves : ¬ StaysBelow target.name)

section

variable {root : String} {target : Target}

theorem place_of_below {rest : List String} (below : LiesBelow root target.directory rest) :
    place root target = descent rest := by
  rw [place, relativeTo?_eq_some_iff.mpr ⟨rest, below, rfl⟩, descent]

theorem place_of_outside (outside : ∀ rest, ¬ LiesBelow root target.directory rest) :
    place root target = target.name := by
  rw [place, relativeTo?_eq_none_iff.mpr outside]

end

section

variable {provider : Provider} {request : Request} {resolved : List ResolvedTarget} {target : Target}

theorem converted_eq (provider : Provider) (resolved : List ResolvedTarget) :
    converted provider resolved = (usable provider resolved).map (·.resolved.target) := by
  induction resolved with
  | nil => rfl
  | cons own rest ih =>
    simp only [converted, usable, List.map_cons, List.filter_cons, List.filterMap_cons, outcome] at ih ⊢
    cases extract provider own with
    | error error => exact ih
    | ok extracted => exact congrArg (own.target :: ·) ih

theorem targets_outputOf (provider : Provider) (resolved : List ResolvedTarget) :
    List.Forall₂ (fun descriptor target => target ∈ converted provider resolved ∧
        descriptor.name = target.name ∧ descriptor.directory = place (sourceRoot provider) target)
      (outputOf provider resolved).targets (converted provider resolved) := by
  rw [converted_eq, outputOf, List.forall₂_map_left_iff, List.forall₂_map_right_iff, List.forall₂_same]
  exact fun prepared member => ⟨List.mem_map_of_mem member, rfl, rfl⟩

theorem directories_outputOf (provider : Provider) (resolved : List ResolvedTarget) :
    (outputOf provider resolved).descriptors.map (·.directory) =
      (converted provider resolved).map (place (sourceRoot provider)) ++
        if (outputOf provider resolved).failures = [] then [""] else [] := by
  have targets : (outputOf provider resolved).targets.map (·.directory) =
      (converted provider resolved).map (place (sourceRoot provider)) := by
    rw [converted_eq, outputOf, List.map_map, List.map_map]
    rfl
  rw [ConversionOutput.descriptors, List.map_append, targets]
  congr 1
  simp only [outputOf, List.isEmpty_iff]
  split <;> rfl

theorem exists_directory (success : (resolve provider request).result = .ok resolved)
    (member : target ∈ converted provider resolved) : ∃ path, target.directory = canonical path := by
  obtain ⟨-, -, -, -, -, all, -⟩ := Resolution.resolve_eq_ok_iff.mp success
  obtain ⟨own, inside, rfl⟩ := List.mem_map.mp member
  obtain ⟨project, -, as⟩ := exists_mem_of_forall₂ all.flip (List.mem_filter.mp inside).1
  obtain ⟨first, rest, -, made⟩ := as.target
  exact ⟨project.directory, by rw [made]; rfl⟩

end

end Listfile.Conversion

/-! A solution of projects that are built in one configuration. -/

namespace Listfile.Sample

/-- The projects are given by their names and the paths of their files. -/
def tree (directory : String) (projects : List (String × String)) : Snapshot where
  solution :=
    { name := "solution"
      directory
      configurations := [
        { name := "Debug"
          platform := "x64"
          contexts := projects.map fun project =>
            { project := project.1, configuration := "Debug", platform := "x64" } }] }
  projects := projects.map fun project =>
    { name := project.1
      fullPath := project.2
      native := true
      configurations := [{ name := "Debug", platform := "x64" }] }

def treeProvider (directory : String) (projects : List (String × String)) : Provider :=
  (tree directory projects).provider .error

def treeTarget (name directory : String) : ResolvedTarget where
  target :=
    { name
      kind := .executable
      useOfMfc := .none
      subsystem := .notSet
      directory
      configurations := [⟨"Debug", "Debug", "x64"⟩]
      files := []
      outputs := [("Debug", ⟨"", ""⟩)] }
  configurations := [("Debug", { name := "Debug", platform := "x64" })]

def neighbours : Provider :=
  treeProvider "C:\\solution" [("app", "C:\\solution\\app\\app.vcxproj"), ("tool", "C:\\solution\\app\\tool.vcxproj")]

/-- A project further up than its solution, both seen from elsewhere. -/
def upwards : Provider := treeProvider ".." [("app", "..\\..\\app\\app.vcxproj")]

def beside : Provider := treeProvider "C:\\work\\solution" [("app", "C:\\work\\app\\app.vcxproj")]

/-- A project below its solution, but for the case of the directory, and one beside it. -/
def scattered : Provider :=
  treeProvider "C:\\work\\solution"
    [("app", "C:\\Work\\Solution\\app\\app.vcxproj"), ("tool", "C:\\work\\tool\\tool.vcxproj")]

def scatteredTargets : List ResolvedTarget :=
  [treeTarget "app" "C:/Work/Solution/app", treeTarget "tool" "C:/work/tool"]

theorem resolve_trees :
    (resolve neighbours {}).result =
        .ok [treeTarget "app" "C:/solution/app", treeTarget "tool" "C:/solution/app"] ∧
      (resolve upwards {}).result = .ok [treeTarget "app" "../../app"] ∧
      (resolve beside {}).result = .ok [treeTarget "app" "C:/work/app"] ∧
      (resolve scattered {}).result = .ok scatteredTargets := by
  decide +kernel

open Conversion

def neighboursOutput : ConversionOutput :=
  outputOf neighbours [treeTarget "app" "C:/solution/app", treeTarget "tool" "C:/solution/app"]

def upwardsOutput : ConversionOutput := outputOf upwards [treeTarget "app" "../../app"]

def besideOutput : ConversionOutput := outputOf beside [treeTarget "app" "C:/work/app"]

def scatteredOutput : ConversionOutput := outputOf scattered scatteredTargets

theorem convert_neighbours : (convert neighbours {}).result = .ok neighboursOutput :=
  convert_of_resolve (Snapshot.failsByProject _ _) resolve_trees.1

theorem convert_upwards : (convert upwards {}).result = .ok upwardsOutput :=
  convert_of_resolve (Snapshot.failsByProject _ _) resolve_trees.2.1

theorem convert_beside : (convert beside {}).result = .ok besideOutput :=
  convert_of_resolve (Snapshot.failsByProject _ _) resolve_trees.2.2.1

theorem convert_scattered : (convert scattered {}).result = .ok scatteredOutput :=
  convert_of_resolve (Snapshot.failsByProject _ _) resolve_trees.2.2.2

theorem directories_scattered : scatteredOutput.descriptors.map (·.directory) = ["app", "tool", ""] := by
  decide +kernel

end Listfile.Sample

/-! Directories that differ. -/

namespace Listfile.Conversion

open Listfile.Path

section

variable {provider : Provider} {request : Request} {output : ConversionOutput} {base path : String}
  {rest : List String} {target : Target}

theorem normalize_descent (below : LiesBelow (canonical base) (canonical path) rest) :
    Path.normalize (descent rest) = Path.normalize ("/".intercalate rest) ∧
      (isRooted ("/".intercalate rest) = false → Path.normalize ("/".intercalate rest) = "/".intercalate rest) := by
  refine ⟨?_, fun relative => (below.normalize_rest relative).1⟩
  rw [descent]
  split
  next empty =>
    rw [empty]
    decide +kernel
  next => rfl

theorem placedAt_iff (directory : target.directory = canonical path) {place' : String} :
    PlacedAt (canonical base) target place' ↔ place' = Path.normalize (place (canonical base) target) := by
  constructor
  · intro placed
    cases placed with
    | below below relative =>
      rw [place_of_below below]
      rw [directory] at below
      obtain ⟨same, kept⟩ := normalize_descent below
      rw [same, kept relative]
    | rooted below rooted =>
      rw [place_of_below below]
      rw [directory] at below
      rw [(normalize_descent below).1]
    | outside outside => rw [place_of_outside outside]
  · rintro rfl
    by_cases inside : ∃ rest, LiesBelow (canonical base) target.directory rest
    · obtain ⟨rest, below⟩ := inside
      have canonicalBelow := directory ▸ below
      obtain ⟨same, kept⟩ := normalize_descent canonicalBelow
      rw [place_of_below below, same]
      cases rooted : isRooted ("/".intercalate rest) with
      | true => exact .rooted below rooted
      | false => exact (kept rooted).symm ▸ .below below rooted
    · have outside := not_exists.mp inside
      rw [place_of_outside outside]
      exact .outside outside

/-- Descriptors share no directory exactly if no two targets are placed alike and, where the solution gets its
own descriptor, none at the root. -/
theorem directories_differ_iff (success : (convert provider request).result = .ok output) :
    ∃ resolved, (resolve provider request).result = .ok resolved ∧
      ((output.descriptors.map fun descriptor => Path.normalize descriptor.directory).Nodup ↔
        ((converted provider resolved).Pairwise fun first second =>
          ∀ place, PlacedAt (sourceRoot provider) first place → ¬ PlacedAt (sourceRoot provider) second place) ∧
        (output.failures = [] →
          ∀ target ∈ converted provider resolved, ¬ PlacedAt (sourceRoot provider) target "")) := by
  obtain ⟨resolved, found, -, rfl⟩ := (convert_eq_ok_iff provider).mp success
  refine ⟨resolved, found, ?_⟩
  have placed {target} (member : target ∈ converted provider resolved) {place' : String} :
      PlacedAt (sourceRoot provider) target place' ↔
        place' = Path.normalize (place (sourceRoot provider) target) := by
    obtain ⟨path, directory⟩ := exists_directory found member
    exact placedAt_iff directory
  -- The root is taken by the descriptor of the solution, which is there only if no target failed.
  have directories : (outputOf provider resolved).descriptors.map (fun descriptor =>
      Path.normalize descriptor.directory) =
      (converted provider resolved).map (fun target => Path.normalize (place (sourceRoot provider) target)) ++
        if (outputOf provider resolved).failures = [] then [""] else [] := by
    have mapped := congrArg (List.map Path.normalize) (directories_outputOf provider resolved)
    rw [List.map_append, List.map_map, List.map_map, apply_ite (List.map Path.normalize)] at mapped
    exact mapped
  have apart : ((converted provider resolved).map fun target =>
      Path.normalize (place (sourceRoot provider) target)).Nodup ↔
        (converted provider resolved).Pairwise fun first second =>
          ∀ place, PlacedAt (sourceRoot provider) first place → ¬ PlacedAt (sourceRoot provider) second place := by
    rw [List.Nodup, List.pairwise_map]
    refine List.Pairwise.iff_of_mem fun first second => ?_
    simp only [placed first, placed second, forall_eq]
  have unrooted : (∀ directory ∈ (converted provider resolved).map fun target =>
      Path.normalize (place (sourceRoot provider) target), directory ≠ "") ↔
        ∀ target ∈ converted provider resolved, ¬ PlacedAt (sourceRoot provider) target "" := by
    rw [List.forall_mem_map]
    refine forall₂_congr fun target member => ?_
    rw [placed member, eq_comm]
  rw [directories, List.nodup_append, apart, ← unrooted]
  refine and_congr_right fun _ => ?_
  split <;> simp_all

theorem directories_differ_iff_scattered :
    (convert Sample.scattered {}).result = .ok Sample.scatteredOutput ∧
      Sample.scatteredOutput.descriptors.map (·.directory) = ["app", "tool", ""] ∧
      ∃ resolved, (resolve Sample.scattered {}).result = .ok resolved ∧
        ((Sample.scatteredOutput.descriptors.map fun descriptor => Path.normalize descriptor.directory).Nodup ↔
          ((converted Sample.scattered resolved).Pairwise fun first second => ∀ place,
            PlacedAt (sourceRoot Sample.scattered) first place →
              ¬ PlacedAt (sourceRoot Sample.scattered) second place) ∧
          (Sample.scatteredOutput.failures = [] →
            ∀ target ∈ converted Sample.scattered resolved, ¬ PlacedAt (sourceRoot Sample.scattered) target "")) :=
  ⟨Sample.convert_scattered, Sample.directories_scattered, directories_differ_iff Sample.convert_scattered⟩

/-- The descriptors of two projects in one directory are written over each other. -/
theorem neighbours_share_directory :
    (convert Sample.neighbours {}).result = .ok Sample.neighboursOutput ∧
      Sample.neighboursOutput.descriptors.map (fun descriptor => Path.normalize descriptor.directory) =
        ["app", "app", ""] ∧
      ¬ (Sample.neighboursOutput.descriptors.map fun descriptor => Path.normalize descriptor.directory).Nodup := by
  have directories : Sample.neighboursOutput.descriptors.map (fun descriptor =>
      Path.normalize descriptor.directory) = ["app", "app", ""] := by decide +kernel
  exact ⟨Sample.convert_neighbours, directories, by rw [directories]; decide⟩

/-! Directories that stay below that of the solution. -/

theorem staysBelow_descent_iff (below : LiesBelow (canonical base) (canonical path) rest) :
    StaysBelow (descent rest) ↔ isRooted ("/".intercalate rest) = false ∧ rest.head? ≠ some ".." := by
  have rooted : isRooted (descent rest) = isRooted ("/".intercalate rest) := by
    rw [descent]
    split
    next empty =>
      rw [empty]
      rfl
    next => rfl
  rw [StaysBelow, rooted, (normalize_descent below).1]
  refine and_congr_right fun relative => ?_
  obtain ⟨kept, fields⟩ := below.normalize_rest relative
  rw [kept, fields]

theorem staysBelow_place_iff (directory : target.directory = canonical path) :
    StaysBelow (place (canonical base) target) ↔ ¬ Escapes (canonical base) target := by
  by_cases inside : ∃ rest, LiesBelow (canonical base) target.directory rest
  · obtain ⟨rest, below⟩ := inside
    rw [place_of_below below, staysBelow_descent_iff (directory ▸ below)]
    have only {other : List String} (lies : LiesBelow (canonical base) target.directory other) : other = rest :=
      lies.rest_eq.trans below.rest_eq.symm
    constructor
    · intro stays escapes
      cases escapes with
      | upwards lies => exact stays.2 (by rw [← only lies]; rfl)
      | rooted lies rooted => simp [only lies, stays.1] at rooted
      | name outside => exact outside rest below
    · intro stays
      constructor
      · by_contra rooted
        exact stays (.rooted below (by simpa using rooted))
      · intro head
        obtain ⟨more, rfl⟩ := List.head?_eq_some_iff.mp head
        exact stays (.upwards below)
  · have outside := not_exists.mp inside
    rw [place_of_outside outside]
    constructor
    · intro stays escapes
      cases escapes with
      | upwards lies => exact outside _ lies
      | rooted lies => exact outside _ lies
      | name _ leaves => exact leaves stays
    · intro stays
      by_contra leaves
      exact stays (.name outside leaves)

/-- Descriptors stay below the directory of the solution exactly if none of the targets escapes from it. Below a
rooted directory none escapes upwards. -/
theorem descriptors_stay_below_iff (success : (convert provider request).result = .ok output) :
    ∃ resolved, (resolve provider request).result = .ok resolved ∧
      ((∀ descriptor ∈ output.descriptors, StaysBelow descriptor.directory) ↔
        ∀ target ∈ converted provider resolved, ¬ Escapes (sourceRoot provider) target) ∧
      (isRooted (sourceRoot provider) = true → ∀ target ∈ converted provider resolved, ∀ rest,
        LiesBelow (sourceRoot provider) target.directory rest → ".." ∉ rest) := by
  obtain ⟨resolved, found, -, rfl⟩ := (convert_eq_ok_iff provider).mp success
  refine ⟨resolved, found, ?_, ?_⟩
  · have empty : StaysBelow "" := by
      unfold StaysBelow
      decide +kernel
    rw [← List.forall_mem_map (f := GeneratedDescriptor.directory) (P := StaysBelow), directories_outputOf]
    simp only [List.forall_mem_append, List.forall_mem_map]
    have solution : ∀ directory ∈ if (outputOf provider resolved).failures = [] then [""] else [],
        StaysBelow directory := by
      split <;> simp [empty]
    rw [and_iff_left solution]
    refine forall₂_congr fun target member => ?_
    obtain ⟨path, directory⟩ := exists_directory found member
    exact staysBelow_place_iff directory
  · intro rooted target member rest below
    obtain ⟨path, directory⟩ := exists_directory found member
    rw [directory] at below
    exact below.parent_notMem rooted

theorem descriptors_stay_below_iff_scattered :
    (convert Sample.scattered {}).result = .ok Sample.scatteredOutput ∧
      Sample.scatteredOutput.descriptors.map (·.directory) = ["app", "tool", ""] ∧
      ∃ resolved, (resolve Sample.scattered {}).result = .ok resolved ∧
        ((∀ descriptor ∈ Sample.scatteredOutput.descriptors, StaysBelow descriptor.directory) ↔
          ∀ target ∈ converted Sample.scattered resolved, ¬ Escapes (sourceRoot Sample.scattered) target) ∧
        (isRooted (sourceRoot Sample.scattered) = true → ∀ target ∈ converted Sample.scattered resolved, ∀ rest,
          LiesBelow (sourceRoot Sample.scattered) target.directory rest → ".." ∉ rest) :=
  ⟨Sample.convert_scattered, Sample.directories_scattered, descriptors_stay_below_iff Sample.convert_scattered⟩

/-- A project further up than a solution that is itself seen from elsewhere counts as below it. -/
theorem upwards_leaves_tree :
    (convert Sample.upwards {}).result = .ok Sample.upwardsOutput ∧
      Sample.upwardsOutput.descriptors.map (·.directory) = ["../app", ""] ∧
      ∃ descriptor ∈ Sample.upwardsOutput.descriptors, ¬ StaysBelow descriptor.directory := by
  have directories : Sample.upwardsOutput.descriptors.map (·.directory) = ["../app", ""] := by decide +kernel
  have leaves : ¬ StaysBelow "../app" := by
    unfold StaysBelow
    decide +kernel
  have member : "../app" ∈ Sample.upwardsOutput.descriptors.map (·.directory) := by simp [directories]
  obtain ⟨descriptor, inside, same⟩ := List.mem_map.mp member
  exact ⟨Sample.convert_upwards, directories, descriptor, inside, same ▸ leaves⟩

/-! Descriptors beside the sources of their targets. -/

/-- Whether a directory lies below a root of the same kind, and what is left of it does not look rooted itself. -/
structure LiesInside (root directory : String) : Prop where
  named : root ≠ "//"
  shares : startsWithShare directory = startsWithShare root
  below : ∃ rest, LiesBelow root directory rest ∧ isRooted ("/".intercalate rest) = false

theorem mem_log_of_outside {resolved : List ResolvedTarget} (found : (resolve provider request).result = .ok resolved)
    (settled : stop? provider resolved = none) (member : target ∈ converted provider resolved)
    (outside : ∀ rest, ¬ LiesBelow (sourceRoot provider) target.directory rest) :
    .outsideSolution target.name ∈ (convert provider request).log := by
  rw [converted_eq] at member
  obtain ⟨prepared, inside, rfl⟩ := List.mem_map.mp member
  have noted : placementLog (sourceRoot provider) prepared.resolved.target =
      [.outsideSolution prepared.resolved.target.name] := by
    rw [placementLog, relativeTo?_eq_none_iff.mpr outside]
    rfl
  have logged : .outsideSolution prepared.resolved.target.name ∈ logOf provider resolved := by
    refine List.mem_append_right _ (List.mem_flatMap.mpr ⟨prepared, inside, ?_⟩)
    exact noted.symm ▸ List.mem_singleton_self _
  rw [convert_of_settled provider found settled]
  exact List.mem_append_right _ logged

/-- Where the descriptor of a target stands: in the directory that the paths of the target start from if that lies
inside the tree of the solution, and in one of the target's name, which is noted, if it lies outside. -/
structure Stands (provider : Provider) (request : Request) (descriptor : GeneratedDescriptor) (target : Target) :
    Prop where
  name : descriptor.name = target.name
  inside : LiesInside (sourceRoot provider) target.directory →
    same (join (sourceRoot provider) descriptor.directory) target.directory = true ∧
      same (join (sourceRoot provider) descriptor.directory)
        (Relocator.ofTarget provider target).targetDirectory = true
  outside : (∀ rest, ¬ LiesBelow (sourceRoot provider) target.directory rest) →
    descriptor.directory = target.name ∧ .outsideSolution target.name ∈ (convert provider request).log

/-- Below a rooted directory of the solution, the descriptor of a target inside the tree is written where the paths of
the target start from. -/
theorem descriptors_stand_beside_sources (success : (convert provider request).result = .ok output)
    (rooted : isRooted provider.solution.directory = true) :
    ∃ resolved, (resolve provider request).result = .ok resolved ∧
      List.Forall₂ (Stands provider request) output.targets (converted provider resolved) := by
  obtain ⟨resolved, found, settled, rfl⟩ := (convert_eq_ok_iff provider).mp success
  refine ⟨resolved, found, (targets_outputOf provider resolved).imp ?_⟩
  intro descriptor target given
  obtain ⟨member, name, placed⟩ := given
  refine ⟨name, fun inside => ?_, fun outside => ⟨?_, mem_log_of_outside found settled member outside⟩⟩
  · obtain ⟨path, directory⟩ := exists_directory found member
    obtain ⟨rest, below, relative⟩ := inside.below
    have start : (Relocator.ofTarget provider target).targetDirectory = canonical target.directory := rfl
    have shares := inside.shares
    rw [start, placed, place_of_below below, directory, same_canonical]
    rw [directory] at below shares
    have meets := below.same_join rooted shares inside.named relative
    exact ⟨meets, meets⟩
  · rw [placed, place_of_outside outside]

theorem scattered_descriptors_stand :
    (convert Sample.scattered {}).result = .ok Sample.scatteredOutput ∧
      isRooted Sample.scattered.solution.directory = true ∧
      (converted Sample.scattered Sample.scatteredTargets).map (·.directory) =
        ["C:/Work/Solution/app", "C:/work/tool"] ∧
      LiesInside (sourceRoot Sample.scattered) "C:/Work/Solution/app" ∧
      (∀ rest, ¬ LiesBelow (sourceRoot Sample.scattered) "C:/work/tool" rest) ∧
      ∃ resolved, (resolve Sample.scattered {}).result = .ok resolved ∧
        List.Forall₂ (Stands Sample.scattered {}) Sample.scatteredOutput.targets
          (converted Sample.scattered resolved) := by
  have rooted : isRooted Sample.scattered.solution.directory = true := by decide +kernel
  have root : sourceRoot Sample.scattered = "C:/work/solution" := by decide +kernel
  have inside : LiesInside "C:/work/solution" "C:/Work/Solution/app" := by
    refine ⟨by decide, by decide +kernel, ["app"], ⟨by decide, by decide +kernel, by decide +kernel, ?_⟩,
      by decide +kernel⟩
    exact ⟨["C:", "Work", "Solution"], by decide +kernel, by decide +kernel⟩
  have outside : relativeTo? "C:/work/tool" "C:/work/solution" = none := by decide +kernel
  refine ⟨Sample.convert_scattered, rooted, by decide +kernel, ?_, ?_,
    descriptors_stand_beside_sources Sample.convert_scattered rooted⟩
  · rw [root]
    exact inside
  · rw [root]
    exact relativeTo?_eq_none_iff.mp outside

/-- The descriptor of a project beside the directory of the solution is written below it, although the paths in it
start from the directory of the project. -/
theorem beside_stands_apart :
    (convert Sample.beside {}).result = .ok Sample.besideOutput ∧
      isRooted Sample.beside.solution.directory = true ∧
      (resolve Sample.beside {}).result = .ok [Sample.treeTarget "app" "C:/work/app"] ∧
      (Relocator.ofTarget Sample.beside (Sample.treeTarget "app" "C:/work/app").target).targetDirectory =
        "C:/work/app" ∧
      Sample.besideOutput.targets.map (·.directory) = ["app"] ∧
      same (join (sourceRoot Sample.beside) "app") "C:/work/app" = false := by
  refine ⟨Sample.convert_beside, ?_, Sample.resolve_trees.2.2.1, ?_, ?_, ?_⟩
  all_goals decide +kernel

end

end Listfile.Conversion

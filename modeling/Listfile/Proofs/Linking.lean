import Listfile.Link
import Listfile.Proofs.Traversal

/-!
Which libraries are targets: a library stands for the first target that makes it, on the first of its paths
on which there is one, and for itself if there is none on any.
-/

namespace Listfile

/-- Where the library lies that other targets link to use this one. An executable makes none. -/
inductive Target.Makes (target : Target) (configuration : String) : String → Prop where
  | static {outputs : Outputs} (kind : target.kind = .staticLibrary)
      (found : Keyed.get? target.outputs configuration = some outputs) (written : outputs.primary ≠ "") :
      target.Makes configuration outputs.primary
  | shared {outputs : Outputs} (kind : target.kind = .sharedLibrary)
      (found : Keyed.get? target.outputs configuration = some outputs)
      (written : outputs.importLibrary ≠ "") : target.Makes configuration outputs.importLibrary

theorem Target.linkableOutput?_eq_some_iff {target : Target} {configuration output : String} :
    target.linkableOutput? configuration = some output ↔ target.Makes configuration output := by
  constructor
  · intro linkable
    unfold linkableOutput? at linkable
    split at linkable
    next => simp at linkable
    next outputs found =>
      cases kind : target.kind with
      | executable => simp [kind] at linkable
      | staticLibrary =>
        simp only [kind, Option.filter_some, decide_eq_true_eq, Option.ite_none_right_eq_some,
          Option.some.injEq] at linkable
        obtain ⟨written, rfl⟩ := linkable
        exact .static kind found written
      | sharedLibrary =>
        simp only [kind, Option.filter_some, decide_eq_true_eq, Option.ite_none_right_eq_some,
          Option.some.injEq] at linkable
        obtain ⟨written, rfl⟩ := linkable
        exact .shared kind found written
  · rintro (⟨kind, found, written⟩ | ⟨kind, found, written⟩) <;>
      simp [linkableOutput?, kind, found, written]

/-- Whether the target is another one than the consumer, and makes the library at `path`. -/
def Target.Produces (configuration consumer path : String) (target : Target) : Prop :=
  target.name ≠ consumer ∧ ∃ output, target.Makes configuration output ∧ Path.same output path = true

section

variable (targets : List Target) (configuration consumer : String)

def Unproduced (path : String) : Prop :=
  ∀ target ∈ targets, ¬ target.Produces configuration consumer path

structure FirstProducer (path : String) (target : Target) : Prop where
  produces : target.Produces configuration consumer path
  first : ∃ before after, targets = before ++ target :: after ∧
    Unproduced before configuration consumer path

/-- What is linked for a library that is written as `literal` and may lie at each of the paths. -/
inductive RefersTo (literal : String) (paths : List String) : LinkReference → Prop where
  | target {before after : List String} {path : String} {target : Target}
      (search : paths = before ++ path :: after)
      (missing : ∀ earlier ∈ before, Unproduced targets configuration consumer earlier)
      (found : FirstProducer targets configuration consumer path target) :
      RefersTo literal paths (.target target.name)
  | literal (missing : ∀ path ∈ paths, Unproduced targets configuration consumer path) :
      RefersTo literal paths (.literal literal)

variable {targets configuration consumer}

theorem produces_iff {path : String} {target : Target} :
    (target.name ≠ consumer &&
      ((target.linkableOutput? configuration).map (Path.same · path)).getD false) = true ↔
      target.Produces configuration consumer path := by
  simp only [Target.Produces, ← Target.linkableOutput?_eq_some_iff, Bool.and_eq_true, decide_eq_true_eq]
  cases target.linkableOutput? configuration <;> simp

theorem producer?_eq_none_iff {path : String} :
    producer? targets path configuration consumer = none ↔
      Unproduced targets configuration consumer path := by
  simp only [producer?, List.find?_eq_none, produces_iff, Unproduced]

theorem producer?_eq_some_iff {path : String} {target : Target} :
    producer? targets path configuration consumer = some target ↔
      FirstProducer targets configuration consumer path target := by
  simp only [producer?, List.find?_eq_some_iff_append, Bool.not_eq_true', ← Bool.not_eq_true, produces_iff]
  constructor
  · intro ⟨produces, first⟩
    exact ⟨produces, first⟩
  · intro ⟨produces, first⟩
    exact ⟨produces, first⟩

theorem LinkCandidate.resolve_eq_iff {candidate : LinkCandidate} {reference : LinkReference} :
    candidate.resolve targets configuration consumer = reference ↔
      RefersTo targets configuration consumer candidate.literal candidate.paths reference := by
  unfold resolve
  constructor
  · rintro rfl
    split
    next target search =>
      obtain ⟨before, path, after, split, found, missing⟩ := List.findSome?_eq_some_iff.mp search
      exact .target split (fun earlier member => producer?_eq_none_iff.mp (missing earlier member))
        (producer?_eq_some_iff.mp found)
    next search =>
      rw [List.findSome?_eq_none_iff] at search
      exact .literal fun path member => producer?_eq_none_iff.mp (search path member)
  · intro refers
    cases refers with
    | target split missing found =>
      have search : (candidate.paths.findSome? fun path =>
          producer? targets path configuration consumer) = some _ :=
        List.findSome?_eq_some_iff.mpr ⟨_, _, _, split, producer?_eq_some_iff.mpr found,
          fun earlier member => producer?_eq_none_iff.mpr (missing earlier member)⟩
      rw [search]
    | literal missing =>
      have search : (candidate.paths.findSome? fun path =>
          producer? targets path configuration consumer) = none :=
        List.findSome?_eq_none_iff.mpr fun path member => producer?_eq_none_iff.mpr (missing path member)
      rw [search]

theorem LinkCandidate.resolve_of_names {others : List Target}
    (same : ∀ path, (producer? others path configuration consumer).map (·.name) =
      (producer? targets path configuration consumer).map (·.name)) (candidate : LinkCandidate) :
    candidate.resolve others configuration consumer = candidate.resolve targets configuration consumer := by
  have names : (candidate.paths.findSome? fun path => producer? others path configuration consumer).map (·.name) =
      (candidate.paths.findSome? fun path => producer? targets path configuration consumer).map (·.name) := by
    simp only [List.map_findSome?, Function.comp_def, same]
  unfold resolve
  split <;> split <;> simp_all

theorem RefersTo.exists_target {literal name : String} {paths : List String}
    (refers : RefersTo targets configuration consumer literal paths (.target name)) :
    ∃ target ∈ targets, target.name = name ∧ name ≠ consumer ∧ target.kind ≠ .executable := by
  cases refers with
  | target _ _ found =>
    obtain ⟨⟨other, _, makes, -⟩, before, after, rfl, -⟩ := found
    refine ⟨_, List.mem_append_right before List.mem_cons_self, rfl, other, ?_⟩
    cases makes <;> simp [*]

end

section

variable (relocator : Relocator) (configuration : ProjectConfiguration)

/-- The paths of a library that is written as `literal`: its own, or one below each of the directories that does
not evaluate to nothing. -/
def candidatePaths (libraryDirectories : List String) (literal : String) : List String :=
  if Path.isRooted literal then [Path.normalize literal]
  else
    (libraryDirectories.filter fun directory =>
      Text.trim (relocator.evaluate configuration directory) ≠ "").map fun directory =>
        relocator.anchor (Path.join (Text.trim (relocator.evaluate configuration directory)) literal)

/-- What a target with these settings links in one configuration: something for each library that does not
evaluate to nothing. -/
def Links (targets : List Target) (consumer : String) (settings : Settings) (name : String)
    (references : List LinkReference) : Prop :=
  List.Forall₂
    (fun token reference => RefersTo targets name consumer (relocator.path configuration token)
      (candidatePaths relocator configuration settings.libraryDirectories
        (relocator.path configuration token)) reference)
    (settings.linkLibraries.filter fun token => relocator.path configuration token ≠ "") references

variable {relocator configuration}

theorem LinkCandidate.of?_eq (libraryDirectories : List String) (token : String) :
    LinkCandidate.of? relocator configuration libraryDirectories token =
      if relocator.path configuration token ≠ "" then
        some ⟨relocator.path configuration token,
          candidatePaths relocator configuration libraryDirectories (relocator.path configuration token)⟩
      else none := by
  simp only [of?, candidatePaths, searchPaths, List.filter_map, List.map_map, Function.comp_def]
  by_cases blank : relocator.path configuration token = ""
  · simp [blank]
  · by_cases rooted : Path.isRooted (relocator.path configuration token) = true <;> simp [blank, rooted]

theorem linkReferences_eq_iff {targets : List Target} {consumer name : String}
    {defaults : Keyed Settings} {references : List LinkReference} :
    linkReferences relocator targets consumer defaults name configuration = references ↔
      Links relocator configuration targets consumer ((defaults.get? name).getD {}) name references := by
  have refers (directories : List String) (token : String) (reference : LinkReference) :
      RefersTo targets name consumer (relocator.path configuration token)
          (candidatePaths relocator configuration directories (relocator.path configuration token))
          reference ↔
        reference = LinkCandidate.resolve ⟨relocator.path configuration token,
          candidatePaths relocator configuration directories (relocator.path configuration token)⟩
            targets name consumer := by
    rw [eq_comm, LinkCandidate.resolve_eq_iff]
  simp only [linkReferences, Links, refers, forall₂_eq_map_iff, eq_comm (b := references)]
  cases defaults.get? name with
  | none => rfl
  | some settings =>
    refine Eq.congr_right (map_filterMap_eq_map_filter fun token _ => ?_)
    simp only [LinkCandidate.of?_eq, decide_eq_true_eq]
    split <;> rfl

end

section

variable (provider : Provider) (targets : List Target) (resolved : ResolvedTarget)
  (defaults : Keyed Settings)

def LinksIn (entry : String × ProjectConfiguration) (own : String × List LinkReference) : Prop :=
  own.1 = entry.1 ∧ Links (Relocator.ofTarget provider resolved.target) entry.2
    targets resolved.target.name ((defaults.get? entry.1).getD {}) entry.1 own.2

theorem linkLibraries_eq_iff {linked : List (String × List LinkReference)} :
    linkLibraries provider targets resolved defaults = linked ↔
      List.Forall₂ (LinksIn provider targets resolved defaults) resolved.configurations linked := by
  have each : LinksIn provider targets resolved defaults = fun entry own => own = (entry.1,
      linkReferences (Relocator.ofTarget provider resolved.target) targets
        resolved.target.name defaults entry.1 entry.2) := by
    funext entry own
    rw [LinksIn, ← linkReferences_eq_iff, eq_comm (b := own.2), Prod.ext_iff]
  rw [each, forall₂_eq_map_iff]
  exact eq_comm

theorem linkLibraries_of_names {others : List Target}
    (same : ∀ path configuration consumer, (producer? others path configuration consumer).map (·.name) =
      (producer? targets path configuration consumer).map (·.name)) :
    linkLibraries provider others resolved defaults = linkLibraries provider targets resolved defaults := by
  have references (relocator : Relocator) (consumer : String) :
      linkReferences relocator others consumer defaults = linkReferences relocator targets consumer defaults := by
    funext name configuration
    simp only [linkReferences, LinkCandidate.resolve_of_names fun path => same path name consumer]
  simp only [linkLibraries, references]

/-- The libraries of a target, among all targets: in each of its configurations every library is the first target
that makes it, and no target links itself. -/
theorem libraries_link_first_producers :
    (∀ linked, linkLibraries provider targets resolved defaults = linked ↔
      List.Forall₂ (LinksIn provider targets resolved defaults) resolved.configurations linked) ∧
    ∀ own ∈ linkLibraries provider targets resolved defaults, ∀ name, .target name ∈ own.2 →
      ∃ target ∈ targets, target.name = name ∧ name ≠ resolved.target.name ∧
        target.kind ≠ .executable := by
  refine ⟨fun linked => linkLibraries_eq_iff provider targets resolved defaults, ?_⟩
  intro own member name linked
  have all := (linkLibraries_eq_iff provider targets resolved defaults).mp rfl
  obtain ⟨entry, -, -, links⟩ := exists_mem_of_forall₂ all.flip member
  obtain ⟨token, -, refers⟩ := exists_mem_of_forall₂ links.flip linked
  exact refers.exists_target

end

end Listfile

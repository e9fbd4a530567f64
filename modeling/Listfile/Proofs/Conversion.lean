import Listfile.Conversion
import Listfile.Proofs.Extraction
import Listfile.Proofs.Traversal
import Listfile.Snapshot.Provider

/-!
What a conversion gives and what it records: a descriptor for each target whose project file can be used and a
failure for each other one, both in the order of the targets, unless one of them has an error of another kind. A
snapshot has no such errors.
-/

namespace Listfile

namespace Logged

variable {α β : Type}

theorem bind_ok (value : α) (log : List Notice) (next : α → Logged β) :
    (⟨.ok value, log⟩ : Logged α) >>= next = ⟨(next value).result, log ++ (next value).log⟩ := rfl

theorem mapM_eq {f : α → Logged β} {g : α → β} {notices : α → List Notice} {l : List α}
    (each : ∀ x ∈ l, f x = ⟨.ok (g x), notices x⟩) : l.mapM f = ⟨.ok (l.map g), l.flatMap notices⟩ := by
  induction l with
  | nil => rfl
  | cons x rest ih =>
    rw [List.mapM_cons, each x List.mem_cons_self, ih fun y member => each y (List.mem_cons_of_mem _ member),
      bind_ok, bind_ok]
    simp

theorem forM_note (f : α → Notice) (l : List α) :
    (l.forM fun x => note (f x)) = ⟨.ok (), l.map f⟩ := by
  induction l with
  | nil => rfl
  | cons x rest ih =>
    show note (f x) >>= (fun _ => rest.forM fun x => note (f x)) = _
    rw [ih]
    rfl

end Logged

/-! Errors of project files. -/

namespace Provider

/-- The error of a project's file that is no such error, and stops a run. -/
def stop? (provider : Provider) (name : String) : Option ConversionError :=
  match provider.projectDocument name with
  | .error error => if error.isProjectFile then none else some error
  | .ok _ => none

/-- Whether all errors of project files are about the project asked for. -/
def FailsByProject (provider : Provider) : Prop :=
  ∀ name error, provider.projectDocument name = .error error → ∃ reason, error = .projectFile name reason

variable {provider : Provider}

theorem stop?_eq_none_iff {name : String} : provider.stop? name = none ↔
    ∀ error, provider.projectDocument name = .error error → error.isProjectFile = true := by
  unfold stop?
  cases provider.projectDocument name <;> simp

theorem FailsByProject.stop?_eq_none (fails : provider.FailsByProject) (name : String) :
    provider.stop? name = none := by
  refine stop?_eq_none_iff.mpr fun error failed => ?_
  obtain ⟨reason, rfl⟩ := fails name error failed
  rfl

end Provider

theorem Snapshot.failsByProject (snapshot : Snapshot) (read : String → Except String String) :
    (snapshot.provider read).FailsByProject := by
  intro name error failed
  simp only [provider, projectDocument] at failed
  split at failed
  next => simp at failed
  next project _ =>
    cases contents : documentOf read project with
    | error reason =>
      rw [contents] at failed
      exact ⟨reason, (Except.error.inj failed).symm⟩
    | ok document =>
      rw [contents] at failed
      simp [Except.mapError] at failed

namespace Conversion

variable (provider : Provider)

def outcome (resolved : ResolvedTarget) : Except ConversionError Prepared :=
  (extract provider resolved).map fun extracted =>
    ⟨resolved, TargetDescription.ofSettings provider resolved extracted, extracted.defaults⟩

def preparationLog (resolved : ResolvedTarget) : List Notice :=
  .converting resolved.target.name ::
    match outcome provider resolved with
    | .ok prepared => prepared.description.environmentVariables.map
        (.dependsOnEnvironment resolved.target.name)
    | .error error => [.failed error]

theorem prepare_of_settled {resolved : ResolvedTarget} (settled : provider.stop? resolved.target.name = none) :
    prepare provider resolved = ⟨.ok (outcome provider resolved), preparationLog provider resolved⟩ := by
  unfold prepare preparationLog outcome
  cases extracted : extract provider resolved with
  | error error =>
    dsimp only
    rw [if_pos (Provider.stop?_eq_none_iff.mp settled error (Extraction.extract_eq_error_iff.mp extracted))]
    rfl
  | ok extracted =>
    simp only [Logged.forM_note, Except.map]
    rw [Logged.bind_ok]
    simp [Logged.note, Logged.bind_ok]

theorem result_prepare (resolved : ResolvedTarget) : (prepare provider resolved).result =
    match provider.stop? resolved.target.name with
    | some error => .error error
    | none => .ok (outcome provider resolved) := by
  cases stopped : provider.stop? resolved.target.name with
  | none => rw [prepare_of_settled provider stopped]
  | some error =>
    unfold Provider.stop? at stopped
    split at stopped
    next other failed =>
      split at stopped
      next => simp at stopped
      next foreign =>
        obtain rfl := Option.some.inj stopped
        unfold prepare
        rw [Extraction.extract_eq_error_iff.mpr failed]
        simp only [if_neg foreign, Logged.result_bind, Logged.result_note]
        rfl
    next => simp at stopped

/-- The directory of a descriptor below that of the solution. -/
def place (sourceRoot : String) (target : Target) : String :=
  match Path.relativeTo? target.directory sourceRoot with
  | some relative => if relative = "" then "." else relative
  | none => target.name

def placementLog (sourceRoot : String) (target : Target) : List Notice :=
  if (Path.relativeTo? target.directory sourceRoot).isSome then [] else [.outsideSolution target.name]

theorem placement_eq (target : Target) (sourceRoot : String) :
    placement target sourceRoot = ⟨.ok (place sourceRoot target), placementLog sourceRoot target⟩ := by
  unfold placement place placementLog
  cases Path.relativeTo? target.directory sourceRoot <;> rfl

def descriptorOf (targets : List Target) (prepared : Prepared) : GeneratedDescriptor where
  name := prepared.resolved.target.name
  directory := place (Path.canonical provider.solution.directory) prepared.resolved.target
  contents := Descriptor.ofTarget
    (prepared.description.linkedWith provider targets prepared.resolved prepared.defaults)

theorem generate_eq (targets : List Target) (prepared : Prepared) :
    generate provider targets prepared = ⟨.ok (descriptorOf provider targets prepared),
      placementLog (Path.canonical provider.solution.directory) prepared.resolved.target⟩ := by
  simp only [generate, placement_eq, Logged.bind_ok, Logged.log_pure, List.append_nil]
  rfl

def usable (resolved : List ResolvedTarget) : List Prepared :=
  (resolved.map (outcome provider)).filterMap Except.toOption

def outputOf (resolved : List ResolvedTarget) : ConversionOutput :=
  let failures := (resolved.map (outcome provider)).filterMap failure?
  let targets := (usable provider resolved).map (descriptorOf provider (resolved.map (·.target)))
  { targets
    solution := if failures.isEmpty then some (ofSolution provider.solution.name targets) else none
    failures }

def logOf (resolved : List ResolvedTarget) : List Notice :=
  resolved.flatMap (preparationLog provider) ++ (usable provider resolved).flatMap fun prepared =>
    placementLog (Path.canonical provider.solution.directory) prepared.resolved.target

theorem convert_of_resolve_error {request : Request} {error : ConversionError}
    (failed : (resolve provider request).result = .error error) :
    (convert provider request).result = .error error := by
  unfold convert
  rw [Logged.result_bind, failed]
  rfl

/-- The first error of the targets that stops a run. -/
def stop? (resolved : List ResolvedTarget) : Option ConversionError :=
  resolved.findSome? fun own => provider.stop? own.target.name

theorem stop?_eq_none_of_failsByProject {provider : Provider} (fails : provider.FailsByProject)
    (resolved : List ResolvedTarget) : stop? provider resolved = none :=
  List.findSome?_eq_none_iff.mpr fun own _ => fails.stop?_eq_none own.target.name

theorem convert_of_settled {request : Request} {resolved : List ResolvedTarget}
    (found : (resolve provider request).result = .ok resolved) (settled : stop? provider resolved = none) :
    convert provider request =
      ⟨.ok (outputOf provider resolved), (resolve provider request).log ++ logOf provider resolved⟩ := by
  have prepared : resolved.mapM (prepare provider) =
      ⟨.ok (resolved.map (outcome provider)), resolved.flatMap (preparationLog provider)⟩ :=
    Logged.mapM_eq fun own member => prepare_of_settled provider (List.findSome?_eq_none_iff.mp settled own member)
  have resolves : resolve provider request = ⟨.ok resolved, (resolve provider request).log⟩ :=
    Logged.ext found rfl
  unfold convert
  rw [resolves, Logged.bind_ok, prepared, Logged.bind_ok]
  dsimp only
  rw [Logged.mapM_eq fun own _ => generate_eq provider _ own, Logged.bind_ok]
  simp [logOf, outputOf, usable]

theorem result_convert_of_stop {request : Request} {resolved : List ResolvedTarget} {error : ConversionError}
    (found : (resolve provider request).result = .ok resolved) (stopped : stop? provider resolved = some error) :
    (convert provider request).result = .error error := by
  have prepared : (resolved.mapM (prepare provider)).result = .error error := by
    -- Up to the target that stops the run all are prepared, some of them to a failure.
    obtain ⟨before, own, after, rfl, stops, settled⟩ := List.findSome?_eq_some_iff.mp stopped
    rw [Logged.result_mapM, mapM_eq_error_iff]
    refine ⟨before, own, after, rfl, fun earlier member => ⟨outcome provider earlier, ?_⟩, ?_⟩
    · rw [result_prepare, settled earlier member]
    · rw [result_prepare, stops]
  unfold convert
  rw [Logged.result_bind, found]
  dsimp only [Except.bind]
  rw [Logged.result_bind, prepared]
  rfl

theorem result_convert (request : Request) : (convert provider request).result =
    (resolve provider request).result.bind fun resolved =>
      match stop? provider resolved with
      | some error => .error error
      | none => .ok (outputOf provider resolved) := by
  cases found : (resolve provider request).result with
  | error error =>
    rw [convert_of_resolve_error provider found]
    rfl
  | ok resolved =>
    dsimp only [Except.bind]
    cases stopped : stop? provider resolved with
    | some error => rw [result_convert_of_stop provider found stopped]
    | none => rw [convert_of_settled provider found stopped]

theorem convert_eq_ok_iff {request : Request} {output : ConversionOutput} :
    (convert provider request).result = .ok output ↔
      ∃ resolved, (resolve provider request).result = .ok resolved ∧ stop? provider resolved = none ∧
        outputOf provider resolved = output := by
  rw [result_convert, bind_eq_ok_iff]
  refine exists_congr fun resolved => and_congr_right fun _ => ?_
  cases stop? provider resolved <;> simp

section

variable {provider : Provider} {request : Request} {resolved : List ResolvedTarget}

theorem convert_of_resolve (fails : provider.FailsByProject)
    (found : (resolve provider request).result = .ok resolved) :
    (convert provider request).result = .ok (outputOf provider resolved) :=
  (convert_eq_ok_iff provider).mpr ⟨resolved, found, stop?_eq_none_of_failsByProject fails resolved, rfl⟩

end

end Conversion

end Listfile

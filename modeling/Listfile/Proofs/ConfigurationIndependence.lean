import Listfile.Proofs.Linking
import Listfile.Proofs.SamePlatform

/-!
What a target is in one configuration does not depend on the other configurations that are converted: every stage
from the resolution to the link references keeps two runs in agreement about it.
-/

namespace Listfile

variable {α β : Type}

namespace Keyed

def AgreeAt (key : String) (first second : Keyed α) : Prop :=
  ∃ value, first.get? key = some value ∧ second.get? key = some value

theorem get?_filter_isSome {known : Keyed β} {key : String} {there : β} (found : known.get? key = some there)
    (entries : Keyed α) :
    get? (entries.filter fun entry => (known.get? entry.1).isSome) key = get? entries key := by
  induction entries with
  | nil => rfl
  | cons entry rest ih =>
    rw [List.filter_cons]
    by_cases same : entry.1 = key
    · rw [same, found, Option.isSome_some, if_pos rfl, get?, get?, if_pos same, if_pos same]
    · split <;> simp [get?, same, ih]

theorem get?_filterMap {f : String → α → Option β} {key : String} (kept : ∀ value, (f key value).isSome = true)
    (entries : Keyed α) :
    get? (entries.filterMap fun entry => (f entry.1 entry.2).map fun value => (entry.1, value)) key =
      (get? entries key).bind (f key) := by
  induction entries with
  | nil => rfl
  | cons entry rest ih =>
    rw [List.filterMap_cons, get?]
    by_cases same : entry.1 = key
    · obtain ⟨value, found⟩ := Option.isSome_iff_exists.mp (kept entry.2)
      simp [same, found, get?]
    · cases f entry.1 entry.2 with
      | none => simp [same, ih]
      | some value => simp [get?, same, ih]

namespace AgreeAt

variable {key : String} {first second : Keyed α}

theorem mapValues (agree : AgreeAt key first second) (f : String → α → β) :
    AgreeAt key (first.mapValues f) (second.mapValues f) := by
  obtain ⟨value, found, found'⟩ := agree
  exact ⟨f key value, by rw [get?_mapValues, found]; rfl, by rw [get?_mapValues, found']; rfl⟩

theorem filter_isSome (agree : AgreeAt key first second) {known known' : Keyed β}
    (inside : AgreeAt key known known') :
    AgreeAt key (first.filter fun entry => (known.get? entry.1).isSome)
      (second.filter fun entry => (known'.get? entry.1).isSome) := by
  obtain ⟨value, found, found'⟩ := agree
  obtain ⟨known, there, there'⟩ := inside
  exact ⟨value, (get?_filter_isSome there first).trans found, (get?_filter_isSome there' second).trans found'⟩

theorem get?_eq (agree : AgreeAt key first second) : first.get? key = second.get? key := by
  obtain ⟨value, found, found'⟩ := agree
  rw [found, found']

end AgreeAt

end Keyed

structure ResolvedTarget.AgreesAt (name : String) (first second : ResolvedTarget) : Prop where
  target : first.target.name = second.target.name
  directory : first.target.directory = second.target.directory
  kind : first.target.kind = second.target.kind
  configurations : Keyed.AgreeAt name first.configurations second.configurations
  outputs : Keyed.AgreeAt name first.target.outputs second.target.outputs

structure ExtractedSettings.AgreesAt (name : String) (first second : ExtractedSettings) : Prop where
  defaults : Keyed.AgreeAt name first.defaults second.defaults
  files : List.Forall₂ (fun file other : FileSettings => file.file = other.file ∧
    Keyed.AgreeAt name file.perConfig other.perConfig) first.files second.files

structure TargetDescription.AgreesAt (name : String) (first second : TargetDescription) : Prop where
  includeDirectories : Keyed.AgreeAt name first.includeDirectories second.includeDirectories
  definitions : Keyed.AgreeAt name first.definitions second.definitions
  sdlChecks : Keyed.AgreeAt name first.sdlChecks second.sdlChecks
  libraryDirectories : Keyed.AgreeAt name first.libraryDirectories second.libraryDirectories
  linkLibraries : Keyed.AgreeAt name first.linkLibraries second.linkLibraries

/-! Resolved targets. -/

namespace Resolution

variable {provider : Provider} {first second : Request} {project : Project} {own other : ResolvedTarget}

theorem ResolvedAs.outputs_eq (as : ResolvedAs provider first project own) : own.target.outputs =
    own.configurations.mapValues fun _ configuration =>
      outputsOf (Relocator.of provider project.name project.directory) configuration := by
  obtain ⟨_, -, -, target⟩ := as.exists_first
  rw [target, targetOf]

theorem ResolvedAs.agreesAt (same : first.SamePlatform second) {name : String}
    (as : ResolvedAs provider first project own) (as' : ResolvedAs provider second project other)
    (named : name ∈ own.configurations.keys) (named' : name ∈ other.configurations.keys) :
    own.AgreesAt name other := by
  obtain ⟨value, found⟩ := Keyed.exists_get?_of_mem_keys named
  obtain ⟨value', found'⟩ := Keyed.exists_get?_of_mem_keys named'
  have member := Keyed.mem_of_get? found
  have member' := Keyed.mem_of_get? found'
  obtain rfl : value = value' := congrArg Prod.snd (as.entry_unique same as' member member' rfl)
  have agree : Keyed.AgreeAt name own.configurations other.configurations := ⟨value, found, found'⟩
  constructor
  case target => exact as.name.trans as'.name.symm
  case directory => exact as.directory_eq.trans as'.directory_eq.symm
  case kind => exact (as.kind _ member).symm.trans (as'.kind _ member')
  case configurations => exact agree
  case outputs =>
    rw [as.outputs_eq, as'.outputs_eq]
    exact agree.mapValues _

end Resolution

/-! Extracted settings. -/

namespace Extraction

variable {document : ProjectDocument} {configurations others : Keyed ProjectConfiguration}

theorem agreesAt_ofDocument {name : String} (agree : Keyed.AgreeAt name configurations others)
    (document : ProjectDocument) (files : List ProjectFile) :
    (ofDocument document configurations files).AgreesAt name (ofDocument document others files) := by
  constructor
  case defaults => exact agree.mapValues _
  case files =>
    rw [files_eq, files_eq, List.forall₂_map_left_iff, List.forall₂_map_right_iff, List.forall₂_same]
    exact fun file _ => ⟨rfl, agree.mapValues _⟩

theorem agreesAt_of_extract {provider : Provider} {name : String} {own other : ResolvedTarget}
    {extracted extracted' : ExtractedSettings} (agrees : own.AgreesAt name other)
    (done : extract provider own = .ok extracted) (done' : extract provider other = .ok extracted') :
    extracted.AgreesAt name extracted' := by
  obtain ⟨document, read, rfl⟩ := extract_eq_ok_iff.mp done
  obtain ⟨document', read', rfl⟩ := extract_eq_ok_iff.mp done'
  rw [← agrees.target, read, Except.ok.injEq] at read'
  rw [← read', ← agrees.target]
  exact agreesAt_ofDocument agrees.configurations document _

end Extraction

/-! Links: where the targets agree in a configuration, the same library is found among them. -/

section

variable {name consumer : String} {targets others : List ResolvedTarget}

theorem ResolvedTarget.AgreesAt.linkableOutput?_eq {own other : ResolvedTarget} (agrees : own.AgreesAt name other) :
    own.target.linkableOutput? name = other.target.linkableOutput? name := by
  unfold Target.linkableOutput?
  rw [agrees.outputs.get?_eq, agrees.kind]

theorem producerName_eq (agree : List.Forall₂ (ResolvedTarget.AgreesAt name) targets others) (path : String) :
    (producer? (targets.map (·.target)) path name consumer).map (·.name) =
      (producer? (others.map (·.target)) path name consumer).map (·.name) := by
  induction agree with
  | nil => rfl
  | cons head _ ih =>
    simp only [producer?, List.map_cons, List.find?_cons, head.target, head.linkableOutput?_eq]
    split
    next => rw [Option.map_some, Option.map_some, head.target]
    next => exact ih

theorem ResolvedTarget.AgreesAt.ofTarget_eq {own other : ResolvedTarget} (agrees : own.AgreesAt name other)
    (provider : Provider) : Relocator.ofTarget provider other.target = Relocator.ofTarget provider own.target := by
  rw [Relocator.ofTarget, Relocator.ofTarget, agrees.target, agrees.directory]

theorem linkReferences_congr (agree : List.Forall₂ (ResolvedTarget.AgreesAt name) targets others)
    {defaults defaults' : Keyed Settings} (same : defaults.get? name = defaults'.get? name) (relocator : Relocator)
    (configuration : ProjectConfiguration) :
    linkReferences relocator (targets.map (·.target)) consumer defaults name configuration =
      linkReferences relocator (others.map (·.target)) consumer defaults' name configuration := by
  simp only [linkReferences, same, LinkCandidate.resolve_of_names (producerName_eq agree)]

theorem agreeAt_linkLibraries (agree : List.Forall₂ (ResolvedTarget.AgreesAt name) targets others)
    {own other : ResolvedTarget} (agrees : own.AgreesAt name other) {defaults defaults' : Keyed Settings}
    (same : defaults.get? name = defaults'.get? name) (provider : Provider) :
    Keyed.AgreeAt name (linkLibraries provider (targets.map (·.target)) own defaults)
      (linkLibraries provider (others.map (·.target)) other defaults') := by
  obtain ⟨configuration, found, found'⟩ := agrees.configurations
  unfold linkLibraries Keyed.AgreeAt
  simp only [Keyed.get?_mapValues, found, found', agrees.target, agrees.ofTarget_eq,
    linkReferences_congr agree same, Option.map_some]
  exact ⟨_, rfl, rfl⟩

end

/-! Descriptions. -/

namespace TargetDescription

variable {relocator : Relocator} {configurations others : Keyed ProjectConfiguration} {name : String}

theorem agreeAt_relocate? {α : Type} {first second : Keyed α} (agree : Keyed.AgreeAt name configurations others)
    (values : Keyed.AgreeAt name first second) (directories : α → List String) :
    Keyed.AgreeAt name
      ((first.filterMap fun entry => relocate? relocator configurations (entry.1, directories entry.2)).map texts)
      ((second.filterMap fun entry => relocate? relocator others (entry.1, directories entry.2)).map texts) := by
  obtain ⟨configuration, found, found'⟩ := agree
  obtain ⟨value, stated, stated'⟩ := values
  have relocated {configurations : Keyed ProjectConfiguration} {values : Keyed α}
      (found : configurations.get? name = some configuration) (stated : values.get? name = some value) :
      Keyed.get? (values.filterMap fun entry =>
        relocate? relocator configurations (entry.1, directories entry.2)) name =
          some (relocator.directories configuration (directories value)) := by
    have pass (entry : String × α) : relocate? relocator configurations (entry.1, directories entry.2) =
        ((configurations.get? entry.1).map fun configuration =>
          relocator.directories configuration (directories entry.2)).map fun value => (entry.1, value) := by
      rw [relocate?, Option.map_map]
      rfl
    simp only [pass]
    rw [Keyed.get?_filterMap (f := fun key value => (configurations.get? key).map fun configuration =>
      relocator.directories configuration (directories value)) (by simp [found]), stated, Option.bind_some, found,
      Option.map_some]
  exact Keyed.AgreeAt.mapValues ⟨_, relocated found stated, relocated found' stated'⟩
    fun _ directories => directories.map (·.text)

theorem agreesAt_linkedWith {provider : Provider} {own other : ResolvedTarget}
    {extracted extracted' : ExtractedSettings} {targets targets' : List ResolvedTarget}
    (agree : List.Forall₂ (ResolvedTarget.AgreesAt name) targets targets') (agrees : own.AgreesAt name other)
    (settings : extracted.AgreesAt name extracted') :
    ((ofSettings provider own extracted).linkedWith provider (targets.map (·.target)) own
      extracted.defaults).AgreesAt name
        ((ofSettings provider other extracted').linkedWith provider (targets'.map (·.target)) other
          extracted'.defaults) := by
  have relocator := agrees.ofTarget_eq provider
  have kept := settings.defaults.filter_isSome agrees.configurations
  constructor
  case includeDirectories =>
    simp only [linkedWith, ofSettings, relocator]
    exact agreeAt_relocate? agrees.configurations kept _
  case definitions => exact kept.mapValues fun _ settings => settings.definitions
  case sdlChecks => exact kept.mapValues fun _ settings => settings.sdlCheck
  case libraryDirectories =>
    simp only [linkedWith, ofSettings, relocator]
    exact agreeAt_relocate? agrees.configurations kept _
  case linkLibraries => exact agreeAt_linkLibraries agree agrees settings.defaults.get?_eq provider

end TargetDescription

/-- Whether two targets, each among those of its own run, are the same in one configuration at every stage: as they
are resolved, and as their settings are extracted and described where their project files can be read. -/
structure ConvertsAlike (provider : Provider) (targets others : List ResolvedTarget) (name : String)
    (own other : ResolvedTarget) : Prop where
  resolved : own.AgreesAt name other
  extracted : ∀ settings settings', extract provider own = .ok settings → extract provider other = .ok settings' →
    settings.AgreesAt name settings'
  described : ∀ settings settings', extract provider own = .ok settings → extract provider other = .ok settings' →
    ((TargetDescription.ofSettings provider own settings).linkedWith provider (targets.map (·.target)) own
      settings.defaults).AgreesAt name
        ((TargetDescription.ofSettings provider other settings').linkedWith provider (others.map (·.target)) other
          settings'.defaults)

open Resolution in
/-- A configuration that two requests both convert is converted alike by them, whatever else they convert, as long as
they build the same projects. -/
theorem configuration_keeps_among_others (provider : Provider) (first second : Request)
    (platform : first.SamePlatform second) (targets others : List ResolvedTarget)
    (success : (resolve provider first).result = .ok targets)
    (success' : (resolve provider second).result = .ok others)
    (projects : provider.projects.filter (takesPart provider first) =
      provider.projects.filter (takesPart provider second)) (name : String)
    (asked : name ∈ participatingNames provider.solution first)
    (asked' : name ∈ participatingNames provider.solution second) :
    List.Forall₂ (ConvertsAlike provider targets others name) targets others := by
  obtain ⟨-, -, found, -, -, all, -⟩ := resolve_eq_ok_iff.mp success
  obtain ⟨-, -, found', -, -, all', -⟩ := resolve_eq_ok_iff.mp success'
  rw [← projects] at all'
  have agree : List.Forall₂ (ResolvedTarget.AgreesAt name) targets others := by
    refine (forall₂_resolvedAs all all').imp fun own other pair => ?_
    obtain ⟨project, as, as'⟩ := pair
    exact as.agreesAt platform as' ((as.aligned found).configurations ▸ asked)
      ((as'.aligned found').configurations ▸ asked')
  refine agree.imp fun own other agrees => ⟨agrees, fun settings settings' done done' => ?_,
    fun settings settings' done done' => ?_⟩
  · exact Extraction.agreesAt_of_extract agrees done done'
  · exact TargetDescription.agreesAt_linkedWith agree agrees (Extraction.agreesAt_of_extract agrees done done')

/-! The sample for debugging alone, and for both of its configurations. -/

namespace Sample

def debugRequest : Request := { configurations := some ["Debug"] }

def debugResolved : ResolvedTarget where
  target := Resolution.targetOf provider project [("Debug", projectConfiguration "Debug")]
    (projectConfiguration "Debug")
  configurations := [("Debug", projectConfiguration "Debug")]

theorem resolve_debugRequest : (resolve provider debugRequest).result = .ok [debugResolved] := by decide +kernel

theorem samePlatform_request : debugRequest.SamePlatform request := by
  unfold Request.SamePlatform
  decide +kernel

def debugExtracted : ExtractedSettings := Extraction.ofDocument {} debugResolved.configurations files

theorem extract_debugResolved : extract provider debugResolved = .ok debugExtracted := rfl

end Sample

open Resolution in
theorem debugging_keeps_beside_release :
    Sample.debugRequest.SamePlatform Sample.request ∧
      (resolve Sample.provider Sample.debugRequest).result = .ok [Sample.debugResolved] ∧
      (resolve Sample.provider Sample.request).result = .ok [Sample.resolved] ∧
      extract Sample.provider Sample.debugResolved = .ok Sample.debugExtracted ∧
      extract Sample.provider Sample.resolved = .ok Sample.extracted ∧
      List.Forall₂ (ConvertsAlike Sample.provider [Sample.debugResolved] [Sample.resolved] "Debug")
        [Sample.debugResolved] [Sample.resolved] := by
  refine ⟨Sample.samePlatform_request, Sample.resolve_debugRequest, Sample.resolve_eq_resolved,
    Sample.extract_debugResolved, Sample.extract_eq_extracted, ?_⟩
  exact configuration_keeps_among_others Sample.provider Sample.debugRequest Sample.request
    Sample.samePlatform_request _ _ Sample.resolve_debugRequest Sample.resolve_eq_resolved (by decide +kernel)
    "Debug" (by decide +kernel) (by decide +kernel)

end Listfile

import Listfile.Proofs.Accounting
import Listfile.Proofs.Runs

/-!
A run that fails: it works on one snapshot after the other up to the first that cannot be converted as a whole, and
leaves no files but those that were due by then.
-/

namespace Listfile

theorem ConversionOutput.solution_of_status? {provider : Provider} {request : Request} {output : ConversionOutput}
    (converted : (convert provider request).result = .ok output) {error : ConversionError}
    (failed : output.status? = some error) : output.solution = none := by
  obtain ⟨resolved, -, settled, rfl⟩ := (Conversion.convert_eq_ok_iff provider).mp converted
  have accounts := Conversion.accounts_outputOf provider resolved settled
  refine Option.not_isSome_iff_eq_none.mp fun present => ?_
  rw [accounts.succeeds.mpr present] at failed
  simp at failed

theorem ConversionOutput.descriptors_of_unlisted {output : ConversionOutput} (unlisted : output.solution = none) :
    output.descriptors = output.targets := by
  rw [ConversionOutput.descriptors, unlisted]
  exact List.append_nil _

open Run

/-- What a run is asked to convert, below the root that it has found. -/
structure Job where
  request : Request
  snapshot? : Option String := none
  output? : Option String := none
  dryRun : Bool := false
  root : String

namespace Job

def command (job : Job) : Command := .convert job.request job.snapshot? job.output? job.dryRun

def base (path : String) : String := (Files.parent? path).getD "."

def outputDirectory (job : Job) (path : String) : String := (job.output?.map (Files.join job.root)).getD (base path)

/-- The files of descriptors, by their paths, none in a dry run. -/
def files (job : Job) (path : String) (descriptors : List GeneratedDescriptor) : List (String × String) :=
  if job.dryRun then []
  else descriptors.map fun descriptor =>
    (Files.join (Files.join (job.outputDirectory path) descriptor.directory) descriptorName, descriptor.contents)

def conversion (job : Job) (tree : FileTree) (path : String) (snapshot : Snapshot) : Logged ConversionOutput :=
  convert (snapshot.provider (lookUp ((projectFiles snapshot).map (readingIn tree (base path))))) job.request

def outcome (job : Job) (tree : FileTree) (path : String) : Except RunError ConversionOutput :=
  loaded tree path >>= fun snapshot =>
    (job.conversion tree path snapshot).result.mapError fun error => .convert path (.conversion error)

def Delivers (job : Job) (path : String) (tree : FileTree) (descriptors : List GeneratedDescriptor)
    (final : FileTree) : Prop :=
  if job.dryRun then final = tree else Writes (job.outputDirectory path) tree descriptors final

/-- The work on one snapshot: the files that it writes, its result and what it makes of a tree. -/
inductive Turn (job : Job) (tree : FileTree) (path : String) :
    List (String × String) → Except RunError Unit → FileTree → Prop
  | refused {error : RunError} (stopped : job.outcome tree path = .error error) :
      Turn job tree path [] (.error error) tree
  | incomplete {output : ConversionOutput} {error : ConversionError} {final : FileTree}
      (given : job.outcome tree path = .ok output) (failed : output.status? = some error)
      (unlisted : output.solution = none) (delivered : job.Delivers path tree output.targets final) :
      Turn job tree path (job.files path output.targets) (.error (.convert path (.conversion error))) final
  | converted {output : ConversionOutput} {final : FileTree} (given : job.outcome tree path = .ok output)
      (succeeded : output.status? = none) (delivered : job.Delivers path tree output.descriptors final) :
      Turn job tree path (job.files path output.descriptors) (.ok ()) final

inductive Turns (job : Job) : FileTree → List String → List (String × String) → FileTree → Prop
  | nil (tree : FileTree) : Turns job tree [] [] tree
  | cons {tree next final : FileTree} {path : String} {rest : List String} {written more : List (String × String)}
      (turn : Turn job tree path written (.ok ()) next) (others : Turns job next rest more final) :
      Turns job tree (path :: rest) (written ++ more) final

variable {job : Job} {tree final other : FileTree} {world : World} {path : String} {paths : List String}
  {written more : List (String × String)} {result outcome : Except RunError Unit}

theorem Delivers.changes {descriptors : List GeneratedDescriptor}
    (delivered : job.Delivers path tree descriptors final) :
    FileTree.Changes (job.files path descriptors) tree final := by
  unfold Delivers at delivered
  unfold files
  by_cases dry : job.dryRun = true
  · rw [if_pos dry] at delivered ⊢
    rw [delivered]
    exact .refl tree
  · rw [if_neg dry] at delivered ⊢
    exact delivered.changes

theorem Delivers.dry {descriptors : List GeneratedDescriptor} (delivered : job.Delivers path tree descriptors final)
    (dry : job.dryRun = true) : final = tree := by
  rwa [Delivers, if_pos dry] at delivered

theorem Turn.changes (turn : job.Turn tree path written result final) : FileTree.Changes written tree final := by
  cases turn with
  | refused => exact .refl tree
  | incomplete _ _ _ delivered => exact delivered.changes
  | converted _ _ delivered => exact delivered.changes

theorem Turn.dry (turn : job.Turn tree path written result final) (dry : job.dryRun = true) : final = tree := by
  cases turn with
  | refused => rfl
  | incomplete _ _ _ delivered => exact delivered.dry dry
  | converted _ _ delivered => exact delivered.dry dry

theorem Turns.changes (turns : job.Turns tree paths written final) : FileTree.Changes written tree final := by
  induction turns with
  | nil tree => exact .refl tree
  | cons turn _ ih => exact turn.changes.trans ih

theorem Turns.dry (turns : job.Turns tree paths written final) (dry : job.dryRun = true) : final = tree := by
  induction turns with
  | nil tree => rfl
  | cons turn _ ih => exact ih.trans (turn.dry dry)

/-! The actions of a run. -/

theorem ranIn_deliver (job : Job) (path : String) (descriptors : List GeneratedDescriptor) (world : World) :
    (∃ left, job.Delivers path world.tree descriptors left.tree ∧
      ranIn (deliver Host.ofWorld (job.outputDirectory path) job.dryRun descriptors) world = (.ok (), left)) ∨
    ∃ failure left, ranIn (deliver Host.ofWorld (job.outputDirectory path) job.dryRun descriptors) world =
      (.error failure, left) ∧ failure.IsCreation := by
  unfold Delivers deliver
  cases job.dryRun with
  | true =>
    obtain ⟨printed, done⟩ := ranIn_print descriptors world
    exact .inl ⟨{ world with printed }, rfl, done⟩
  | false => exact ranIn_writeDescriptors _ descriptors world

def converting (job : Job) (path : String) (snapshot : Snapshot) : ExceptT ConvertFailure (StateM World) Unit :=
  convertSnapshot Host.ofWorld snapshot (base path) (job.outputDirectory path) job.request job.dryRun

theorem ranIn_converting (job : Job) (path : String) (snapshot : Snapshot) (world : World) :
    (∃ error left, (job.conversion world.tree path snapshot).result = .error error ∧
      ranIn (job.converting path snapshot) world = (.error (.conversion error), left) ∧ left.tree = world.tree) ∨
    (∃ output left, (job.conversion world.tree path snapshot).result = .ok output ∧
      job.Delivers path world.tree output.descriptors left.tree ∧
      ranIn (job.converting path snapshot) world =
        ((match output.status? with | some error => .error (.conversion error) | none => .ok ()), left)) ∨
    ∃ failure left, ranIn (job.converting path snapshot) world = (.error failure, left) ∧ failure.IsCreation := by
  have readings : ((projectFiles snapshot).mapM (readProjectFile Host.ofWorld (base path))).run world =
      ((projectFiles snapshot).map (readingIn world.tree (base path)), world) :=
    run_mapM (fun own => run_readProjectFile (base path) own world) _
  unfold converting convertSnapshot
  rw [ranIn_bind, ranIn_lift, readings]
  dsimp only
  have reported := ranIn_report (job.conversion world.tree path snapshot).log world
  unfold conversion at reported ⊢
  rw [ranIn_bind, reported]
  dsimp only
  cases converted : (convert (snapshot.provider (lookUp ((projectFiles snapshot).map
      (readingIn world.tree (base path))))) job.request).result with
  | error error => exact .inl ⟨error, _, rfl, rfl, rfl⟩
  | ok output =>
    dsimp only
    rw [ranIn_bind]
    rcases job.ranIn_deliver path output.descriptors { world with log := _ } with
      ⟨left, delivered, done⟩ | ⟨failure, left, stopped, creation⟩
    · rw [done]
      refine .inr (.inl ⟨output, left, rfl, delivered, ?_⟩)
      cases output.status? <;> rfl
    · rw [stopped]
      exact .inr (.inr ⟨failure, left, rfl, creation⟩)

theorem outcome_of_loaded {snapshot : Snapshot} (given : loaded tree path = .ok snapshot) :
    job.outcome tree path =
      (job.conversion tree path snapshot).result.mapError fun error => .convert path (.conversion error) := by
  rw [Job.outcome, given]
  rfl

theorem ranIn_onSnapshot_of_loaded {world : World} {snapshot : Snapshot}
    (given : loaded world.tree path = .ok snapshot) :
    ranIn (onSnapshot Host.ofWorld job.command job.root path) world =
      ((ranIn (job.converting path snapshot) world).1.mapError (RunError.convert path),
        (ranIn (job.converting path snapshot) world).2) := by
  unfold onSnapshot
  rw [ranIn_bind, ranIn_load, given]
  exact ranIn_adapt _ _ _

theorem ranIn_onSnapshot (job : Job) (path : String) (world : World) :
    (∃ written result left, job.Turn world.tree path written result left.tree ∧
      ranIn (onSnapshot Host.ofWorld job.command job.root path) world = (result, left)) ∨
    ∃ error left, ranIn (onSnapshot Host.ofWorld job.command job.root path) world = (.error error, left) ∧
      error.IsCreation := by
  cases given : loaded world.tree path with
  | error error =>
    refine .inl ⟨[], .error error, world, .refused ?_, ?_⟩
    · rw [outcome, given]
      rfl
    · unfold onSnapshot
      rw [ranIn_bind, ranIn_load, given]
  | ok snapshot =>
    have outcome_eq := job.outcome_of_loaded given
    rw [ranIn_onSnapshot_of_loaded given]
    rcases job.ranIn_converting path snapshot world with
      ⟨error, left, stopped, ran, same⟩ | ⟨output, left, converted, delivered, ran⟩ | ⟨failure, left, ran, creation⟩
    · rw [ran]
      rw [stopped] at outcome_eq
      refine .inl ⟨[], _, left, ?_, rfl⟩
      rw [same]
      exact .refused outcome_eq
    · rw [ran]
      rw [converted] at outcome_eq
      cases status : output.status? with
      | none => exact .inl ⟨_, _, left, .converted outcome_eq status delivered, rfl⟩
      | some error =>
        -- with no descriptor of the solution, all that is delivered are those of the targets
        have unlisted := ConversionOutput.solution_of_status? converted status
        rw [output.descriptors_of_unlisted unlisted] at delivered
        exact .inl ⟨_, _, left, .incomplete outcome_eq status unlisted delivered, rfl⟩
    · rw [ran]
      exact .inr ⟨.convert path failure, left, rfl, creation⟩


/-! There is but one way to work on snapshots. -/

theorem Delivers.unique {descriptors : List GeneratedDescriptor} (one : job.Delivers path tree descriptors final)
    (two : job.Delivers path tree descriptors other) : final = other := by
  unfold Delivers at one two
  split_ifs at one two
  · exact one.trans two.symm
  · exact Writes.unique one two

theorem Turn.unique (one : job.Turn tree path written result final) (two : job.Turn tree path more outcome other) :
    result = outcome ∧ final = other := by
  cases one with
  | refused stopped =>
    cases two with
    | refused stopped' =>
      obtain rfl := Except.error.inj (stopped.symm.trans stopped')
      exact ⟨rfl, rfl⟩
    | incomplete given' => simp [stopped] at given'
    | converted given' => simp [stopped] at given'
  | incomplete given failed _ delivered =>
    cases two with
    | refused stopped' => simp [given] at stopped'
    | incomplete given' failed' _ delivered' =>
      obtain rfl := Except.ok.inj (given.symm.trans given')
      obtain rfl := Option.some.inj (failed.symm.trans failed')
      exact ⟨rfl, delivered.unique delivered'⟩
    | converted given' succeeded' =>
      obtain rfl := Except.ok.inj (given.symm.trans given')
      simp [failed] at succeeded'
  | converted given succeeded delivered =>
    cases two with
    | refused stopped' => simp [given] at stopped'
    | incomplete given' failed' =>
      obtain rfl := Except.ok.inj (given.symm.trans given')
      simp [failed'] at succeeded
    | converted given' _ delivered' =>
      obtain rfl := Except.ok.inj (given.symm.trans given')
      exact ⟨rfl, delivered.unique delivered'⟩

theorem Turns.not_of_failure {failing : String} {rest : List String} {error : RunError} {middle : FileTree}
    (turns : job.Turns tree paths written middle) (turn : job.Turn middle failing more (.error error) final) :
    ∀ all last, ¬ job.Turns tree (paths ++ failing :: rest) all last := by
  -- the trees in between agree, since a turn has but one outcome
  induction turns with
  | nil tree =>
    rintro all last (_ | ⟨converted, -⟩)
    exact nomatch (converted.unique turn).1
  | cons head _ ih =>
    rintro all last (_ | ⟨converted, others⟩)
    obtain ⟨-, rfl⟩ := converted.unique head
    exact ih turn _ _ others

/-- The work of a run on its snapshots: it is done on all of them, or it stops at the first that is not converted, and
does just as if there were no others after it. -/
inductive Course (job : Job) (world : World) (paths : List String) :
    List (String × String) → Except RunError Unit × World → Prop
  | complete {written : List (String × String)} {left : World}
      (turns : job.Turns world.tree paths written left.tree) : Course job world paths written (.ok (), left)
  | stopped {before rest : List String} {failing : String} {written more : List (String × String)}
      {middle : FileTree} {error : RunError} {left : World} (order : paths = before ++ failing :: rest)
      (turns : job.Turns world.tree before written middle)
      (turn : job.Turn middle failing more (.error error) left.tree)
      (alone : ranIn ((before ++ [failing]).forM (onSnapshot Host.ofWorld job.command job.root)) world =
        (.error error, left)) : Course job world paths (written ++ more) (.error error, left)

theorem Course.cons {next : World} (turn : job.Turn world.tree path written (.ok ()) next.tree)
    (done : ranIn (onSnapshot Host.ofWorld job.command job.root path) world = (.ok (), next))
    {outcome : Except RunError Unit × World} (course : job.Course next paths more outcome) :
    job.Course world (path :: paths) (written ++ more) outcome := by
  cases course with
  | complete turns => exact .complete (.cons turn turns)
  | @stopped before rest failing _ _ _ _ _ order turns failed alone =>
    have split : path :: paths = (path :: before) ++ failing :: rest := congrArg (path :: ·) order
    rw [← List.append_assoc]
    refine .stopped split (.cons turn turns) failed ?_
    have step : ranIn ((path :: (before ++ [failing])).forM (onSnapshot Host.ofWorld job.command job.root)) world = _ :=
      ranIn_bind (onSnapshot Host.ofWorld job.command job.root path) (fun _ => (before ++ [failing]).forM _) world
    rw [List.cons_append, step, done]
    exact alone

theorem course_of_forM (job : Job) (paths : List String) (world : World)
    (creates : ∀ error, (ranIn (paths.forM (onSnapshot Host.ofWorld job.command job.root)) world).1 = .error error →
      ¬ error.IsCreation) :
    ∃ written, job.Course world paths written
      (ranIn (paths.forM (onSnapshot Host.ofWorld job.command job.root)) world) := by
  -- the world that one snapshot leaves is where the work on the next one starts
  induction paths generalizing world with
  | nil => exact ⟨[], .complete (.nil world.tree)⟩
  | cons path rest ih =>
    have step : ranIn ((path :: rest).forM (onSnapshot Host.ofWorld job.command job.root)) world = _ :=
      ranIn_bind (onSnapshot Host.ofWorld job.command job.root path) (fun _ => rest.forM _) world
    rw [step] at creates ⊢
    rcases job.ranIn_onSnapshot path world with ⟨written, result, left, turn, ran⟩ | ⟨error, left, ran, creation⟩
    · rw [ran] at creates ⊢
      cases result with
      | ok _ =>
        obtain ⟨more, course⟩ := ih left creates
        exact ⟨written ++ more, course.cons turn ran⟩
      | error error =>
        have split : path :: rest = [] ++ path :: rest := rfl
        refine ⟨written, .stopped split (.nil world.tree) turn ?_⟩
        have alone : ranIn ([path].forM (onSnapshot Host.ofWorld job.command job.root)) world = _ :=
          ranIn_bind (onSnapshot Host.ofWorld job.command job.root path) (fun _ => pure ()) world
        rw [List.nil_append, alone, ran]
    · rw [ran] at creates
      exact absurd creation (creates error rfl)

theorem Course.ok_iff {outcome : Except RunError Unit × World} (course : job.Course world paths written outcome) :
    outcome.1 = .ok () ↔ ∃ all last, job.Turns world.tree paths all last := by
  cases course with
  | complete turns => exact ⟨fun _ => ⟨_, _, turns⟩, fun _ => rfl⟩
  | stopped order turns failed _ =>
    refine ⟨fun done => (nomatch done), fun ⟨all, last, converted⟩ => ?_⟩
    rw [order] at converted
    exact absurd converted (turns.not_of_failure failed all last)

theorem Course.changes {outcome : Except RunError Unit × World} (course : job.Course world paths written outcome) :
    FileTree.Changes written world.tree outcome.2.tree := by
  cases course with
  | complete turns => exact turns.changes
  | stopped _ turns failed _ => exact turns.changes.trans failed.changes

theorem Course.dry {outcome : Except RunError Unit × World} (course : job.Course world paths written outcome)
    (dry : job.dryRun = true) : outcome.2.tree = world.tree := by
  cases course with
  | complete turns => exact turns.dry dry
  | stopped _ turns failed _ => exact (failed.dry dry).trans (turns.dry dry)

/-- A run works on the snapshots that it finds, one after the other, up to the first that cannot be loaded or converted
or has a target that fails. It ends well just if there is no such snapshot. What it writes are the descriptors of
the snapshots before, and those of the targets of that one, if it came to have any; in a dry run nothing at all. Each
snapshot is judged on the tree that those before it leave. -/
theorem failing_runs_write_no_more {job : Job} {arguments : Arguments} {directory : String} {world : World}
    {place paths : List String} (asked : arguments.command = job.command)
    (found : world.tree.find ((arguments.root.map (Files.join directory)).getD directory) = .ok place)
    (root : job.root = FileTree.pathOf place)
    (given : (ranIn (snapshots Host.ofWorld job.command job.root) world).1 = .ok paths)
    (creates : ∀ error, (ranIn (run Host.ofWorld arguments directory) world).1 = .error error → ¬ error.IsCreation) :
    paths ≠ [] ∧ ∃ written, job.Course world paths written (ranIn (run Host.ofWorld arguments directory) world) ∧
      ((ranIn (run Host.ofWorld arguments directory) world).1 = .ok () ↔
        ∃ all last, job.Turns world.tree paths all last) ∧
      FileTree.Changes written world.tree (ranIn (run Host.ofWorld arguments directory) world).2.tree ∧
      (job.dryRun = true → (ranIn (run Host.ofWorld arguments directory) world).2.tree = world.tree) := by
  have nonempty := snapshots_ne_nil given
  rw [root, ← asked] at given
  have ran := ranIn_run found given
  rw [asked, ← root] at ran
  rw [ran] at creates ⊢
  obtain ⟨written, course⟩ := job.course_of_forM paths world creates
  exact ⟨nonempty, written, course, course.ok_iff, course.changes, course.dry⟩

/-! Three snapshots, the second of which has a project whose file is no project file. -/

def sampleSnapshot : Snapshot := Sample.tree "w" [("app", "w/app/app.vcxproj")]

def brokenSnapshot : Snapshot where
  solution := (Sample.tree "w" [("app", ""), ("tool", "")]).solution
  projects := sampleSnapshot.projects ++ [{
    name := "tool"
    fullPath := "w/tool/tool.vcxproj"
    native := true
    descriptorText := some ""
    configurations := [{ name := "Debug", platform := "x64" }] }]

def appContext : String := "[\"app\",\"Debug\",\"x64\"]"

def toolContext : String := "[\"tool\",\"Debug\",\"x64\"]"

def appText : String := "[\"app\",\"w/app/app.vcxproj\",true,null,null,[[\"Debug\",\"x64\"]]]"

def toolText : String := "[\"tool\",\"w/tool/tool.vcxproj\",true,null,\"\",[[\"Debug\",\"x64\"]]]"

def snapshotText (contexts projects : List String) : String :=
  String.join
    (["[[\"solution\",\"w\",[[\"Debug\",\"x64\",["] ++ contexts ++ ["]]]],\x7b\x7d,["] ++ projects ++ ["]]"])

def sampleText : String := snapshotText [appContext] [appText]

def brokenText : String := snapshotText [appContext, ",", toolContext] [appText, ",", toolText]

theorem read?_sampleText : SnapshotFormat.json.read? sampleText = some sampleSnapshot := by
  show Json.read? sampleText >>= Snapshot.decode? = _
  unfold Json.read?
  rw [sampleText, snapshotText, String.toList_join]
  decide +kernel

theorem read?_brokenText : SnapshotFormat.json.read? brokenText = some brokenSnapshot := by
  show Json.read? brokenText >>= Snapshot.decode? = _
  unfold Json.read?
  rw [brokenText, snapshotText, String.toList_join]
  decide +kernel

def sampleWorld : World where
  tree := ⟨[
    (["work"], .directory),
    (["work", "first"], .directory),
    (["work", "second"], .directory),
    (["work", "third"], .directory),
    (["work", "first", "sln2cmake.json"], .file sampleText),
    (["work", "second", "sln2cmake.json"], .file brokenText),
    (["work", "third", "sln2cmake.json"], .file sampleText)]⟩

def sample : Job where
  request := {}
  root := "/work"

def samplePaths : List String :=
  ["/work/first/sln2cmake.json", "/work/second/sln2cmake.json", "/work/third/sln2cmake.json"]

def samplePlaces : List (List String) := [
  ["work", "first", "app", "CMakeLists.txt"], ["work", "first", "CMakeLists.txt"],
  ["work", "second", "app", "CMakeLists.txt"], ["work", "second", "CMakeLists.txt"],
  ["work", "third", "app", "CMakeLists.txt"], ["work", "third", "CMakeLists.txt"]]

theorem find_sample : sampleWorld.tree.find "/work" = .ok ["work"] := by
  decide +kernel

theorem snapshots_sample :
    (ranIn (snapshots Host.ofWorld sample.command sample.root) sampleWorld).1 = .ok samplePaths := by
  have listed : sampleWorld.tree.names ["work"] = ["first", "second", "third"] := by decide +kernel
  have names : namesAt sampleWorld.tree "/work" = ["first", "second", "third"] := by
    rw [namesAt, find_sample]
    dsimp only
    rw [listed]
    exact List.mergeSort_of_pairwise (by decide +kernel)
  have below : snapshotsBelow sampleWorld.tree 2 "/work" "work" = samplePaths := by
    rw [snapshotsBelow, if_pos (by decide +kernel), names]
    decide +kernel
  have named : (Files.fileName? sample.root).getD sample.root = "work" := by decide +kernel
  have searched : sample.command.snapshot? = none := rfl
  rw [ranIn_snapshots, searched, named]
  dsimp only
  rw [show sample.root = "/work" from rfl, below]
  rfl

theorem loaded_of_read {text : String} {snapshot : Snapshot} (format : SnapshotFormat.ofPath? path = some .json)
    (found : tree.read path = .ok text) (read : SnapshotFormat.json.read? text = some snapshot) :
    loaded tree path = .ok snapshot := by
  rw [loaded, format]
  dsimp only
  rw [found]
  dsimp only
  rw [read]

def firstRun : Except ConvertFailure Unit × World :=
  ranIn (sample.converting "/work/first/sln2cmake.json" sampleSnapshot) sampleWorld

def secondRun : Except ConvertFailure Unit × World :=
  ranIn (sample.converting "/work/second/sln2cmake.json" brokenSnapshot) firstRun.2

/-- The run on the second snapshot starts in the world that the first run leaves, so all is evaluated at once. -/
theorem runs_sample :
    firstRun.1 = .ok () ∧ secondRun.1 = .error (.conversion (.targetsFailed ["tool"])) ∧
      SnapshotFormat.ofPath? "/work/first/sln2cmake.json" = some .json ∧
      sampleWorld.tree.read "/work/first/sln2cmake.json" = .ok sampleText ∧
      SnapshotFormat.ofPath? "/work/second/sln2cmake.json" = some .json ∧
      firstRun.2.tree.read "/work/second/sln2cmake.json" = .ok brokenText ∧
      samplePlaces.map (fun place => (secondRun.2.tree.lookup? place).isSome) =
        [true, true, true, false, false, false] := by
  decide +kernel

theorem ranIn_sample : ranIn (run Host.ofWorld ⟨sample.command, 0, none⟩ "/work") sampleWorld =
    (.error (.convert "/work/second/sln2cmake.json" (.conversion (.targetsFailed ["tool"]))), secondRun.2) := by
  obtain ⟨succeeds, fails, firstFormat, firstFound, secondFormat, secondFound, -⟩ := runs_sample
  have first : loaded sampleWorld.tree "/work/first/sln2cmake.json" = .ok sampleSnapshot :=
    loaded_of_read firstFormat firstFound read?_sampleText
  have second : loaded firstRun.2.tree "/work/second/sln2cmake.json" = .ok brokenSnapshot :=
    loaded_of_read secondFormat secondFound read?_brokenText
  have step (path : String) (rest : List String) (world : World) :
      ranIn ((path :: rest).forM (onSnapshot Host.ofWorld sample.command "/work")) world = _ :=
    ranIn_bind (onSnapshot Host.ofWorld sample.command "/work" path) (fun _ => rest.forM _) world
  have done : ranIn (onSnapshot Host.ofWorld sample.command "/work" "/work/first/sln2cmake.json") sampleWorld =
      (.ok (), firstRun.2) := by
    refine (ranIn_onSnapshot_of_loaded first).trans ?_
    show (firstRun.1.mapError _, firstRun.2) = _
    rw [succeeds]
    rfl
  have failed : ranIn (onSnapshot Host.ofWorld sample.command "/work" "/work/second/sln2cmake.json") firstRun.2 =
      (.error (.convert "/work/second/sln2cmake.json" (.conversion (.targetsFailed ["tool"]))), secondRun.2) := by
    refine (ranIn_onSnapshot_of_loaded second).trans ?_
    show (secondRun.1.mapError _, secondRun.2) = _
    rw [fails]
    rfl
  have ran : ranIn (run Host.ofWorld ⟨sample.command, 0, none⟩ "/work") sampleWorld =
      ranIn (samplePaths.forM (onSnapshot Host.ofWorld sample.command "/work")) sampleWorld :=
    ranIn_run find_sample snapshots_sample
  rw [ran, samplePaths, step, done]
  dsimp only
  rw [step, failed]

/-- The first snapshot is converted as a whole, the second one up to the project that fails, and the third one is left
alone. -/
theorem sample_stops_at_second_snapshot :
    (ranIn (run Host.ofWorld ⟨sample.command, 0, none⟩ "/work") sampleWorld).1 =
      .error (.convert "/work/second/sln2cmake.json" (.conversion (.targetsFailed ["tool"]))) ∧
    samplePlaces.map (fun place =>
        ((ranIn (run Host.ofWorld ⟨sample.command, 0, none⟩ "/work") sampleWorld).2.tree.lookup? place).isSome) =
      [true, true, true, false, false, false] ∧
    ∃ written,
      sample.Course sampleWorld samplePaths written
        (ranIn (run Host.ofWorld ⟨sample.command, 0, none⟩ "/work") sampleWorld) ∧
      ((ranIn (run Host.ofWorld ⟨sample.command, 0, none⟩ "/work") sampleWorld).1 = .ok () ↔
        ∃ all last, sample.Turns sampleWorld.tree samplePaths all last) ∧
      FileTree.Changes written sampleWorld.tree
        (ranIn (run Host.ofWorld ⟨sample.command, 0, none⟩ "/work") sampleWorld).2.tree ∧
      (sample.dryRun = true →
        (ranIn (run Host.ofWorld ⟨sample.command, 0, none⟩ "/work") sampleWorld).2.tree = sampleWorld.tree) := by
  have creates : ∀ error, (ranIn (run Host.ofWorld ⟨sample.command, 0, none⟩ "/work") sampleWorld).1 = .error error →
      ¬ error.IsCreation := by
    intro error stopped
    rw [ranIn_sample] at stopped
    rw [← Except.error.inj stopped]
    exact id
  refine ⟨congrArg Prod.fst ranIn_sample, ?_,
    (failing_runs_write_no_more rfl find_sample (by decide +kernel) snapshots_sample creates).2⟩
  rw [ranIn_sample]
  exact runs_sample.2.2.2.2.2.2

end Job

end Listfile

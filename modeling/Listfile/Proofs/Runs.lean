import Listfile.Proofs.FileTrees
import Listfile.Run

/-!
What a run reads in a world and what it writes: its operations on a tree of files, one by one.
-/

namespace Listfile

/-! Actions in a world. -/

section

variable {α β ε : Type}

/-- What an action gives in a world, and the world that it leaves. -/
def ranIn (action : ExceptT ε (StateM World) α) (world : World) : Except ε α × World := action.run.run world

theorem ranIn_bind (first : ExceptT ε (StateM World) α) (next : α → ExceptT ε (StateM World) β) (world : World) :
    ranIn (first >>= next) world =
      match ranIn first world with
      | (.error error, left) => (.error error, left)
      | (.ok value, left) => ranIn (next value) left := by
  show (ExceptT.bindCont next (ranIn first world).1).run (ranIn first world).2 = _
  obtain ⟨result, left⟩ := ranIn first world
  cases result <;> rfl

theorem ranIn_lift (action : StateM World α) (world : World) :
    ranIn (liftM action : ExceptT ε (StateM World) α) world = (.ok (action.run world).1, (action.run world).2) := rfl

theorem ranIn_attempt (operation : StateM World (Except String α)) (onFailure : String → ε) (world : World) :
    ranIn (Run.attempt operation onFailure) world =
      ((operation.run world).1.mapError onFailure, (operation.run world).2) := by
  unfold Run.attempt
  rw [ranIn_bind, ranIn_lift]
  dsimp only
  cases (operation.run world).1 <;> rfl

theorem ranIn_adapt {δ : Type} (action : ExceptT ε (StateM World) α) (f : ε → δ) (world : World) :
    ranIn (action.adapt f) world = ((ranIn action world).1.mapError f, (ranIn action world).2) := by
  rfl

end

namespace Run

/-! What a run reads. -/

def loaded (tree : FileTree) (path : String) : Except RunError Snapshot :=
  match SnapshotFormat.ofPath? path with
  | none => .error (.unknownFormat path)
  | some format =>
    match tree.read path with
    | .error failure => .error (.unreadable path failure.message)
    | .ok text =>
      match format.read? text with
      | some snapshot => .ok snapshot
      | none => .error (.malformed path)

theorem ranIn_load (path : String) (world : World) :
    ranIn (load Host.ofWorld path) world = (loaded world.tree path, world) := by
  unfold load loaded
  cases SnapshotFormat.ofPath? path with
  | none => rfl
  | some format =>
    have text : ranIn (attempt (Host.ofWorld.read path) (RunError.unreadable path)) world =
        (((Host.failed (world.tree.read path)).mapError (RunError.unreadable path)), world) := ranIn_attempt _ _ _
    dsimp only
    rw [ranIn_bind, text]
    cases world.tree.read path with
    | error failure => rfl
    | ok text =>
      dsimp only [Host.failed, Except.mapError]
      cases format.read? text <;> rfl

def readingIn (tree : FileTree) (base path : String) : String × Except String String :=
  match tree.read (Files.join base path) with
  | .ok text => (path, .ok text)
  | .error failure => (path, .error (Text.quoted (Files.join base path) ++ ": " ++ failure.message))

theorem run_readProjectFile (base path : String) (world : World) :
    (readProjectFile Host.ofWorld base path).run world = (readingIn world.tree base path, world) := by
  have read : (Host.ofWorld.read (Files.join base path)).run world =
      (Host.failed (world.tree.read (Files.join base path)), world) := rfl
  unfold readProjectFile readingIn
  rw [StateT.run_bind, read]
  cases world.tree.read (Files.join base path) <;> rfl

theorem run_mapM {α β : Type} {f : α → StateM World β} {g : α → β} {world : World}
    (each : ∀ x, (f x).run world = (g x, world)) (l : List α) : (l.mapM f).run world = (l.map g, world) := by
  induction l with
  | nil => rfl
  | cons x rest ih =>
    rw [List.mapM_cons, StateT.run_bind, each]
    show (rest.mapM f >>= fun others => pure (g x :: others)).run world = _
    rw [StateT.run_bind, ih]
    rfl

theorem ranIn_report (notices : List Notice) (world : World) :
    ranIn (notices.forM fun notice => (Host.ofWorld.report notice : ExceptT ConvertFailure (StateM World) Unit)) world =
      (.ok (), { world with log := world.log ++ notices }) := by
  induction notices generalizing world with
  | nil => rw [List.append_nil]; rfl
  | cons notice rest ih =>
    have step : ranIn ((notice :: rest).forM fun notice =>
          (Host.ofWorld.report notice : ExceptT ConvertFailure (StateM World) Unit)) world =
        ranIn (rest.forM fun notice => (Host.ofWorld.report notice : ExceptT ConvertFailure (StateM World) Unit))
          { world with log := world.log ++ [notice] } := rfl
    rw [step, ih, List.append_assoc]
    rfl

theorem ranIn_print (descriptors : List GeneratedDescriptor) (world : World) : ∃ printed,
    ranIn (descriptors.forM fun descriptor =>
        (Host.ofWorld.print (shown descriptor) : ExceptT ConvertFailure (StateM World) Unit)) world =
      (.ok (), { world with printed }) := by
  induction descriptors generalizing world with
  | nil => exact ⟨world.printed, rfl⟩
  | cons descriptor rest ih =>
    obtain ⟨printed, done⟩ := ih { world with printed := world.printed ++ shown descriptor }
    exact ⟨printed, done⟩

def namesAt (tree : FileTree) (path : String) : List String :=
  (match tree.find path with
    | .ok place => tree.names place
    | .error _ => []).mergeSort (· ≤ ·)

def snapshotAt (tree : FileTree) (path name : String) : List String :=
  if Host.isEntry (· ≠ .directory) (tree.entryAt path) then ifSnapshot path name else []

def snapshotsBelow (tree : FileTree) : Nat → String → String → List String
  | 0, path, name => snapshotAt tree path name
  | depth + 1, path, name =>
    if Host.isEntry (· = .directory) (tree.entryAt path) then
      (namesAt tree path).flatMap fun name => snapshotsBelow tree depth (Files.join path name) name
    else snapshotAt tree path name

theorem run_search (depth : Nat) (path name : String) (world : World) :
    (search Host.ofWorld depth path name).run world = (snapshotsBelow world.tree depth path name, world) := by
  induction depth generalizing path name with
  | zero => rfl
  | succ depth ih =>
    have inside : (Host.ofWorld.isDirectory path).run world =
        (Host.isEntry (· = .directory) (world.tree.entryAt path), world) := rfl
    unfold search snapshotsBelow
    rw [StateT.run_bind, inside]
    dsimp only
    cases Host.isEntry (· = .directory) (world.tree.entryAt path) with
    | false => rfl
    | true =>
      have below := run_mapM (f := fun name => search Host.ofWorld depth (Files.join path name) name)
        (fun name => ih (Files.join path name) name) (namesAt world.tree path)
      simp only [if_true]
      rw [List.flatMap_def]
      exact congrArg (fun ran : List (List String) × World => (ran.1.flatten, ran.2)) below

theorem ranIn_snapshots (command : Command) (root : String) (world : World) :
    ranIn (snapshots Host.ofWorld command root) world =
      (match command.snapshot? with
        | some path => .ok [Files.join root path]
        | none =>
          if (snapshotsBelow world.tree 2 root ((Files.fileName? root).getD root)).isEmpty then
            .error (.noSnapshots root)
          else .ok (snapshotsBelow world.tree 2 root ((Files.fileName? root).getD root)), world) := by
  unfold snapshots
  cases command.snapshot? with
  | some path => rfl
  | none =>
    dsimp only
    rw [ranIn_bind, ranIn_lift, run_search]
    dsimp only
    split <;> rfl

theorem snapshots_ne_nil {command : Command} {root : String} {world : World} {paths : List String}
    (given : (ranIn (snapshots Host.ofWorld command root) world).1 = .ok paths) : paths ≠ [] := by
  rw [ranIn_snapshots] at given
  cases named : command.snapshot? with
  | some path =>
    rw [named] at given
    obtain rfl := Except.ok.inj given
    exact List.cons_ne_nil _ _
  | none =>
    simp only [named] at given
    split_ifs at given with none
    rw [← Except.ok.inj given]
    exact fun empty => none (List.isEmpty_iff.mpr empty)

theorem ranIn_run {arguments : Arguments} {directory : String} {world : World} {place : List String}
    {paths : List String}
    (found : world.tree.find ((arguments.root.map (Files.join directory)).getD directory) = .ok place)
    (given : (ranIn (snapshots Host.ofWorld arguments.command (FileTree.pathOf place)) world).1 = .ok paths) :
    ranIn (run Host.ofWorld arguments directory) world =
      ranIn (paths.forM (onSnapshot Host.ofWorld arguments.command (FileTree.pathOf place))) world := by
  have root : ranIn (attempt (Host.ofWorld.canonicalize ((arguments.root.map (Files.join directory)).getD directory))
      (RunError.root ((arguments.root.map (Files.join directory)).getD directory))) world =
        (.ok (FileTree.pathOf place), world) := by
    rw [ranIn_attempt]
    show ((Host.failed ((world.tree.find _).map FileTree.pathOf)).mapError _, world) = _
    rw [found]
    rfl
  unfold run
  rw [ranIn_bind, root]
  dsimp only
  rw [ranIn_bind]
  have still : (ranIn (snapshots Host.ofWorld arguments.command (FileTree.pathOf place)) world).2 = world := by
    rw [ranIn_snapshots]
  cases ran : ranIn (snapshots Host.ofWorld arguments.command (FileTree.pathOf place)) world with
  | mk result left =>
    rw [ran] at given still
    obtain rfl : result = .ok paths := given
    obtain rfl : left = world := still
    rfl

end Run

def ConvertFailure.IsCreation : ConvertFailure → Prop
  | .conversion _ => False
  | .directory _ _ => True
  | .descriptor _ _ => True

/-- Whether a run stopped since a directory or a file could not be made. -/
def RunError.IsCreation : RunError → Prop
  | .convert _ failure => failure.IsCreation
  | _ => False

namespace Run

/-! What a run writes. -/

/-- What writing descriptors makes of a tree. -/
inductive Writes (output : String) : FileTree → List GeneratedDescriptor → FileTree → Prop
  | nil (tree : FileTree) : Writes output tree [] tree
  | cons {tree opened written final : FileTree} {descriptor : GeneratedDescriptor} {rest : List GeneratedDescriptor}
      (directory : tree.makeDirectories (Files.join output descriptor.directory) = (.ok (), opened))
      (file : opened.write (Files.join (Files.join output descriptor.directory) descriptorName) descriptor.contents =
        (.ok (), written))
      (others : Writes output written rest final) : Writes output tree (descriptor :: rest) final

theorem Writes.changes {output : String} {tree final : FileTree} {descriptors : List GeneratedDescriptor}
    (writes : Writes output tree descriptors final) : FileTree.Changes (descriptors.map fun descriptor =>
      (Files.join (Files.join output descriptor.directory) descriptorName, descriptor.contents)) tree final := by
  induction writes with
  | nil tree => exact .refl tree
  | @cons tree opened written final descriptor rest directory file _ ih =>
    have opens := FileTree.changes_makeDirectories tree (Files.join output descriptor.directory)
    rw [directory] at opens
    exact (opens.trans (FileTree.changes_write file)).trans ih

theorem Writes.unique {output : String} {tree final other : FileTree} {descriptors : List GeneratedDescriptor}
    (one : Writes output tree descriptors final) (two : Writes output tree descriptors other) : final = other := by
  induction one with
  | nil tree =>
    cases two
    rfl
  | cons directory file _ ih =>
    cases two with
    | cons directory' file' others' =>
      obtain ⟨-, rfl⟩ := Prod.ext_iff.mp (directory.symm.trans directory')
      obtain ⟨-, rfl⟩ := Prod.ext_iff.mp (file.symm.trans file')
      exact ih others'

theorem run_change (operation : FileTree → Except FileTree.Failure Unit × FileTree) (world : World) :
    (Host.change operation).run world =
      (Host.failed (operation world.tree).1, { world with tree := (operation world.tree).2 }) := rfl

theorem ranIn_writeDescriptor (output : String) (descriptor : GeneratedDescriptor) (world : World) :
    (∃ opened left, world.tree.makeDirectories (Files.join output descriptor.directory) = (.ok (), opened) ∧
      opened.write (Files.join (Files.join output descriptor.directory) descriptorName) descriptor.contents =
        (.ok (), left.tree) ∧ ranIn (writeDescriptor Host.ofWorld output descriptor) world = (.ok (), left)) ∨
    ∃ failure left, ranIn (writeDescriptor Host.ofWorld output descriptor) world = (.error failure, left) ∧
      failure.IsCreation := by
  unfold writeDescriptor
  simp only [ranIn_bind, ranIn_attempt]
  have made : (Host.ofWorld.makeDirectories (Files.join output descriptor.directory)).run world = _ :=
    run_change (·.makeDirectories (Files.join output descriptor.directory)) world
  rw [made]
  cases directory : world.tree.makeDirectories (Files.join output descriptor.directory) with
  | mk outcome opened =>
    cases outcome with
    | error failure => exact .inr ⟨_, _, rfl, trivial⟩
    | ok _ =>
      dsimp only [Host.failed, Except.mapError]
      have file : (Host.ofWorld.write (Files.join (Files.join output descriptor.directory) descriptorName)
          descriptor.contents).run { world with tree := opened } = _ := run_change
            (·.write (Files.join (Files.join output descriptor.directory) descriptorName) descriptor.contents) _
      rw [file]
      dsimp only
      cases text : opened.write (Files.join (Files.join output descriptor.directory) descriptorName)
          descriptor.contents with
      | mk outcome written =>
        cases outcome with
        | error failure => exact .inr ⟨_, _, rfl, trivial⟩
        | ok _ => exact .inl ⟨opened, _, rfl, text, rfl⟩

theorem ranIn_writeDescriptors (output : String) (descriptors : List GeneratedDescriptor) (world : World) :
    (∃ left, Writes output world.tree descriptors left.tree ∧
      ranIn (descriptors.forM (writeDescriptor Host.ofWorld output)) world = (.ok (), left)) ∨
    ∃ failure left, ranIn (descriptors.forM (writeDescriptor Host.ofWorld output)) world = (.error failure, left) ∧
      failure.IsCreation := by
  induction descriptors generalizing world with
  | nil => exact .inl ⟨world, .nil _, rfl⟩
  | cons descriptor rest ih =>
    have step : ranIn ((descriptor :: rest).forM (writeDescriptor Host.ofWorld output)) world = _ :=
      ranIn_bind (writeDescriptor Host.ofWorld output descriptor) (fun _ => rest.forM _) world
    rw [step]
    rcases ranIn_writeDescriptor output descriptor world with
      ⟨opened, left, directory, file, done⟩ | ⟨failure, left, stopped, creation⟩
    · rw [done]
      rcases ih left with ⟨final, writes, others⟩ | ⟨failure, final, stopped, creation⟩
      · exact .inl ⟨final, .cons directory file writes, others⟩
      · exact .inr ⟨failure, final, stopped, creation⟩
    · rw [stopped]
      exact .inr ⟨failure, left, rfl, creation⟩

end Run

end Listfile

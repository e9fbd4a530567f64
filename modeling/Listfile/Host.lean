import Listfile.Files.Tree
import Listfile.Log

/-!
What a run needs from the system it runs on, and a system that is nothing but a tree of files.
-/

namespace Listfile

/-- Operations that fail give the system's reason. -/
structure Host (m : Type → Type) where
  /-- The absolute path of something that exists. -/
  canonicalize : String → m (Except String String)
  isFile : String → m Bool
  isDirectory : String → m Bool
  /-- The names in a directory, in any order; none if it cannot be read. -/
  names : String → m (List String)
  read : String → m (Except String String)
  makeDirectories : String → m (Except String Unit)
  write : String → String → m (Except String Unit)
  print : String → m Unit
  report : Notice → m Unit

structure World where
  tree : FileTree
  printed : String := ""
  log : List Notice := []

namespace Host

def failed {α : Type} : Except FileTree.Failure α → Except String α
  | .ok value => .ok value
  | .error failure => .error failure.message

def isEntry (expected : FileEntry → Bool) : Except FileTree.Failure FileEntry → Bool
  | .ok entry => expected entry
  | .error _ => false

def change (operation : FileTree → Except FileTree.Failure Unit × FileTree) :
    StateM World (Except String Unit) := fun world =>
  let (outcome, tree) := operation world.tree
  (failed outcome, { world with tree })

/-- The system in which a world is all there is. -/
def ofWorld : Host (StateM World) where
  canonicalize path := do return failed (((← get).tree.find path).map FileTree.pathOf)
  isFile path := do return isEntry (· ≠ .directory) ((← get).tree.entryAt path)
  isDirectory path := do return isEntry (· = .directory) ((← get).tree.entryAt path)
  names path := do
    let world ← get
    return match world.tree.find path with
      | .ok place => world.tree.names place
      | .error _ => []
  read path := do return failed ((← get).tree.read path)
  makeDirectories path := change (·.makeDirectories path)
  write path text := change (·.write path text)
  print text := modify fun world => { world with printed := world.printed ++ text }
  report notice := modify fun world => { world with log := world.log ++ [notice] }

end Host

end Listfile

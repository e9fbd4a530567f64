import Listfile.Proofs.References
import Listfile.Proofs.RelativePaths
import Listfile.Snapshot.Evaluation

/-!
Texts without braces: cutting, joining and evaluating them brings none in.
-/

namespace Listfile

namespace Text

theorem Braceless.of_mem {cs other : List Char} (braceless : Braceless cs)
    (inside : ∀ c ∈ other, c = '/' ∨ c ∈ cs) : Braceless other := by
  intro c member
  rcases inside c member with rfl | own
  · rfl
  · exact braceless c own

theorem mem_of_mem_strip {drop : Char → Bool} {cs : List Char} {c : Char} (member : c ∈ strip drop cs) :
    c ∈ cs :=
  (List.dropWhile_sublist _).subset (Path.mem_of_mem_stripEnd member)

variable {text : String}

end Text

open Text

namespace Path

variable {path base : String}

end Path

namespace Macro

variable {text : String}

end Macro

/-! Snapshots without braces. -/

structure ProjectConfiguration.Unbraced (configuration : ProjectConfiguration) : Prop where
  name : Braceless configuration.name.toList
  platform : Braceless configuration.platform.toList
  macros : ∀ entry ∈ configuration.macros, Braceless entry.2.toList
  includeDirectories : ∀ text ∈ configuration.compiler.includeDirectories, Braceless text.toList
  libraryDirectories : ∀ text ∈ configuration.linker.libraryDirectories, Braceless text.toList

structure ProjectSnapshot.Unbraced (project : ProjectSnapshot) : Prop where
  name : Braceless project.name.toList
  fullPath : Braceless project.fullPath.toList
  configurations : ∀ configuration ∈ project.configurations, configuration.Unbraced
  files : ∀ file ∈ project.files, ∀ entry ∈ file.configurations, ∀ texts,
    entry.2.includeDirectories = some texts → ∀ text ∈ texts, Braceless text.toList

/-- No text of a snapshot that directories can be made of holds a brace. -/
structure Snapshot.Unbraced (snapshot : Snapshot) : Prop where
  name : Braceless snapshot.solution.name.toList
  directory : Braceless snapshot.solution.directory.toList
  environment : ∀ entry ∈ snapshot.environment, Braceless entry.2.toList
  projects : ∀ project ∈ snapshot.projects, project.Unbraced

namespace Snapshot

variable {snapshot : Snapshot} {project text : String} {configuration : ProjectConfiguration}

theorem Unbraced.project? (unbraced : snapshot.Unbraced) {found : ProjectSnapshot}
    (named : snapshot.project? project = some found) : found.Unbraced :=
  unbraced.projects found (List.mem_of_find?_eq_some named)

end Snapshot

end Listfile

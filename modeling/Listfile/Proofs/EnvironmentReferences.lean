import Listfile.Proofs.Alignment
import Listfile.Proofs.Braces
import Listfile.Proofs.Conversion
import Listfile.Proofs.Notices
import Listfile.Snapshot.Provider

/-!
The environment variables of a target: they are those that its written directories refer to, in the order in which
the directories are read, and each of them is noted.
-/

namespace Listfile

open Text

/-! One directory. -/

namespace Relocator

/-- Whether no braces come in where a relocator evaluates a text. -/
structure Unbraced (relocator : Relocator) (configuration : ProjectConfiguration) : Prop where
  targetDirectory : Braceless relocator.targetDirectory.toList
  evaluate : ∀ text, Braceless text.toList → Braceless (relocator.evaluate configuration text).toList

variable {relocator : Relocator} {configuration : ProjectConfiguration} {text : String}

end Relocator

/-! All directories of a description. -/

namespace TargetDescription

variable {relocator : Relocator} {configurations : Keyed ProjectConfiguration}

end TargetDescription

/-! The settings of a snapshot without braces. -/

namespace Extraction

variable {document : ProjectDocument} {configurations : Keyed ProjectConfiguration} {files : List ProjectFile}

structure Unbraced (configurations : Keyed ProjectConfiguration) (files : List ProjectFile) : Prop where
  configurations : ∀ entry ∈ configurations, entry.2.Unbraced
  files : ∀ file ∈ files, ∀ entry ∈ file.configurations, ∀ texts,
    entry.2.includeDirectories = some texts → ∀ text ∈ texts, Braceless text.toList

end Extraction

namespace TargetDescription

end TargetDescription

/-! The targets of a snapshot without braces. -/

namespace Snapshot

open Resolution

variable {snapshot : Snapshot} {read : String → Except String String} {request : Request}
  {resolved : List ResolvedTarget}

end Snapshot

/-! What is noted. -/

namespace Conversion

variable {provider : Provider} {request : Request} {resolved : List ResolvedTarget}

def dependencies (provider : Provider) (own : ResolvedTarget) : List (String × String) :=
  match extract provider own with
  | .ok extracted =>
    (TargetDescription.ofSettings provider own extracted).environmentVariables.map (own.target.name, ·)
  | .error _ => []

end Conversion

namespace Sample

end Sample

end Listfile

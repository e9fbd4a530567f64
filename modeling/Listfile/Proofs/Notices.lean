import Listfile.Resolution

/-!
What a resolution can record: a project that is no target, and a configuration that is replaced.
-/

namespace Listfile

namespace Logged

variable {α β : Type} {allowed : Notice → Prop}

end Logged

namespace Resolution

open Logged

end Resolution

end Listfile

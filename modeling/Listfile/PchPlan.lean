import Listfile.Override

/-!
Where the options for precompiled headers are stated. A file cannot take back an option of its target, so if
a target uses a precompiled header and one of its files does without, every file states its own.
-/

namespace Listfile

structure PchGroup where
  files : List String
  flags : List (String × String)
  deriving DecidableEq, Repr

inductive PchPlan where
  | targetWide (defaults : List (String × String)) (overrides : List (Override String))
  | perFile (groups : List PchGroup)
  deriving DecidableEq, Repr

namespace PchPlan

def isMixed (defaults : Keyed Settings) (files : List FileSettings) : Bool :=
  defaults.any (fun entry => entry.2.pch.mode = .use) &&
    files.any fun file => file.perConfig.any fun entry => entry.2.pch.mode = .none

/-- The flags of a file in each configuration, empty where it has no settings. -/
def flagsOf (defaults : Keyed Settings) (file : FileSettings) : List (String × String) :=
  defaults.map fun entry =>
    (entry.1, ((Keyed.get? file.perConfig entry.1).map fun settings => settings.pch.flags).getD "")

/-- One group for each list of flags that is not empty in all configurations. -/
def groups (defaults : Keyed Settings) (files : List FileSettings) : List PchGroup :=
  let distinct := ((files.map (flagsOf defaults)).eraseDups).filter fun flags => flags.any (·.2 ≠ "")
  distinct.map fun flags =>
    ⟨(files.filter fun file => flagsOf defaults file = flags).map (·.file), flags⟩

def ofFiles (defaults : Keyed Settings) (files : List FileSettings) : PchPlan :=
  if isMixed defaults files then .perFile (groups defaults files)
  else
    .targetWide (defaults.map fun entry => (entry.1, entry.2.pch.flags)) (pchOverrides defaults files)

end PchPlan

end Listfile

import Listfile.Settings

/-!
What single files state for themselves: the values in the configurations where a file is not compiled with
the defaults of its target.
-/

namespace Listfile

structure Override (α : Type) where
  file : String
  values : List (String × α)
  deriving DecidableEq, Repr

namespace Override

variable {α : Type}

def value? (differs : Settings → Settings → Bool) (value : Settings → Option α) (file : FileSettings)
    (default : String × Settings) : Option (String × α) := do
  let settings ← Keyed.get? file.perConfig default.1
  if differs settings default.2 then (value settings).map (default.1, ·) else none

def ofFile? (differs : Settings → Settings → Bool) (value : Settings → Option α)
    (defaults : Keyed Settings) (file : FileSettings) : Option (Override α) :=
  let values := defaults.filterMap (value? differs value file)
  if values.isEmpty then none else some ⟨file.file, values⟩

def ofFiles (differs : Settings → Settings → Bool) (value : Settings → Option α)
    (defaults : Keyed Settings) (files : List FileSettings) : List (Override α) :=
  (files.filter fun file => !file.matchesDefaults defaults).filterMap (ofFile? differs value defaults)

end Override

def includeOverrides : Keyed Settings → List FileSettings → List (Override (List String)) :=
  Override.ofFiles (fun own default => own.includeDirectories != default.includeDirectories)
    fun own => some own.includeDirectories

def definitionOverrides : Keyed Settings → List FileSettings → List (Override (List String)) :=
  Override.ofFiles (fun own default => !definitionsEquivalent own.definitions default.definitions)
    fun own => some own.definitions

/-- A check that the file leaves unset is not stated. -/
def sdlOverrides : Keyed Settings → List FileSettings → List (Override Bool) :=
  Override.ofFiles (fun own default => own.sdlCheck != default.sdlCheck) fun own => own.sdlCheck

def pchOverrides : Keyed Settings → List FileSettings → List (Override String) :=
  Override.ofFiles (fun own default => own.pch != default.pch) fun own => some own.pch.flags

end Listfile

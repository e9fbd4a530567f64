import Listfile.Project

/-!
The words by which a snapshot names the values of a closed choice.
-/

namespace Listfile

/-- A choice whose values are known by one word or more. -/
class Spelled (α : Type) where
  all : List α
  name : α → String
  aliases : α → List String
  /-- The value of a word that belongs to none. -/
  unknown : Option α

namespace Spelled

variable {α : Type} [Spelled α]

def ofName? (word : String) : Option α :=
  match (all : List α).find? fun value => name value = word || (aliases value).contains word with
  | some value => some value
  | none => unknown

end Spelled

instance : Spelled TargetKind where
  all := [.executable, .staticLibrary, .sharedLibrary]
  name
    | .executable => "Executable"
    | .staticLibrary => "StaticLib"
    | .sharedLibrary => "DyLib"
  aliases
    | .executable => ["executable", "exe", "application"]
    | .staticLibrary => ["static lib", "static-lib", "static_lib", "staticlib"]
    | .sharedLibrary => ["DynamicLib", "dynamic lib", "dyn-lib", "dyn_lib", "dylib", "shared"]
  unknown := none

instance : Spelled MfcUsage where
  all := [.none, .static, .shared]
  name
    | .none => "None"
    | .static => "Static"
    | .shared => "Dynamic"
  aliases
    | .none => ["none", "std", "useMfcStdWin"]
    | .static => ["static", "useMfcStatic"]
    | .shared => ["dynamic", "shared", "useMfcDynamic"]
  unknown := none

instance : Spelled CharacterSet where
  all := [.notSet, .unicode, .multibyte]
  name
    | .notSet => "NotSet"
    | .unicode => "Unicode"
    | .multibyte => "Mbcs"
  aliases
    | .notSet => ["not_set", "none"]
    | .unicode => ["unicode"]
    | .multibyte => ["mbcs", "multibyte"]
  unknown := none

instance : Spelled Subsystem where
  all := [.notSet, .console, .windows, .other]
  name
    | .notSet => "NotSet"
    | .console => "Console"
    | .windows => "Windows"
    | .other => "Other"
  aliases
    | .notSet => ["not_set", "none"]
    | .console => ["console"]
    | .windows => ["windows"]
    | .other => []
  unknown := some .other

instance : Spelled FileKind where
  all := [.source, .header, .resource, .other]
  name
    | .source => "Source"
    | .header => "Header"
    | .resource => "Resource"
    | .other => "Other"
  aliases
    | .source => ["source", "cpp", "c"]
    | .header => ["header", "h"]
    | .resource => ["resource", "rc", "bmp", "ico"]
    | .other => []
  unknown := some .other

instance : Spelled PchMode where
  all := [.none, .use, .create]
  name
    | .none => "None"
    | .use => "Use"
    | .create => "Create"
  aliases
    | .none => ["none", "pchNone"]
    | .use => ["use", "pchUseUsingSpecific"]
    | .create => ["create", "pchCreateUsingSpecific"]
  unknown := none

end Listfile

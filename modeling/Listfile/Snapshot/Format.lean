import Listfile.Files.Name
import Listfile.Json.Reader
import Listfile.Snapshot.Decode
import Listfile.Toml.Reader

/-!
The notations that a snapshot can be written in.
-/

namespace Listfile

inductive SnapshotFormat where
  | toml
  | json
  deriving DecidableEq, Repr

namespace SnapshotFormat

def extension : SnapshotFormat → String
  | toml => "toml"
  | json => "json"

def ofExtension? (extension : String) : Option SnapshotFormat :=
  [toml, json].find? fun format => Text.sameIgnoringAsciiCase format.extension extension

def ofPath? (path : String) : Option SnapshotFormat := Files.extension? path >>= ofExtension?

def document? : SnapshotFormat → String → Option Document
  | toml => Toml.read?
  | json => Json.read?

def read? (format : SnapshotFormat) (text : String) : Option Snapshot :=
  format.document? text >>= Snapshot.decode?

end SnapshotFormat

end Listfile

import ControlQuery.Json.Reader
import ControlQuery.Snapshot.Tree

/-!
# Snapshot files

A snapshot is written in JSON, YAML or TOML. The notation is named by the caller or told from the
extension of the file. How YAML and TOML are read is for their readers to say.
-/

namespace ControlQuery

/-- A notation of snapshots. -/
inductive SnapshotFormat where
  | json
  | yaml
  | toml
deriving DecidableEq, Repr

/-- Why there is no snapshot. -/
inductive SnapshotError where
  | unknownFormat (path : String)
  | unreadableFile (path : String)
  | invalid (format : SnapshotFormat) (fault : SnapshotFault)
deriving DecidableEq, Repr

namespace SnapshotFormat

/-- The format of a given name, which counts without regard to the case of ASCII letters. -/
def ofName? (name : String) : Option SnapshotFormat :=
  match name.toLower with
  | "json" => some json
  | "yaml" => some yaml
  | "yml" => some yaml
  | "toml" => some toml
  | _ => none

/-- The message for a name that is no format. -/
def unsupportedMessage (name : String) : String :=
  s!"unsupported snapshot format `{name.toLower}`"

/-- The name of the format in messages. -/
def title : SnapshotFormat → String
  | json => "JSON"
  | yaml => "YAML"
  | toml => "TOML"

/-- The last name on a path. Empty names and single dots do not count, and two dots are no name. -/
def fileName? (path : String) : Option (List Char) :=
  let names := (path.toList.splitOn '/').filter fun name => !name.isEmpty && name != ['.']
  names.getLast?.filter (· != ['.', '.'])

/-- What stands behind the last dot of a name, unless nothing stands in front of it. -/
def extension? (name : List Char) : Option (List Char) :=
  let behind := (name.reverse.takeWhile (· != '.')).reverse
  if behind.length + 1 < name.length then some behind else none

/-- The format that the extension of a path stands for. -/
def ofPath? (path : String) : Option SnapshotFormat := do
  ofName? (String.ofList (← extension? (← fileName? path)))

/-- The readers of the notations that are not read here. -/
class Readers where
  yaml : (text : String) → Document × Bool
  toml : (text : String) → Document × Bool

variable [Readers]

/-- The document that a text writes, and whether nothing else follows it. -/
def read (format : SnapshotFormat) (text : String) : Document × Bool :=
  match format with
  | json => Json.read text
  | yaml => Readers.yaml text
  | toml => Readers.toml text

end SnapshotFormat

namespace SnapshotNode

variable [SnapshotFormat.Readers]

/-- The snapshot that a text writes. -/
def parse (format : SnapshotFormat) (text : String) : Except SnapshotError SnapshotNode :=
  let (document, isWhole) := format.read text
  match document.node with
  | .error fault => .error (.invalid format fault)
  | .ok root => if isWhole then .ok root else .error (.invalid format .malformed)

/-- The snapshot in a file, whose format is told from its path unless it is given. The file is only
looked at if its format is known. -/
def load (content? : String → Option String) (path : String) (format : Option SnapshotFormat) :
    Except SnapshotError SnapshotNode :=
  match format.or (SnapshotFormat.ofPath? path) with
  | none => .error (.unknownFormat path)
  | some format =>
    match content? path with
    | none => .error (.unreadableFile path)
    | some text => parse format text

end SnapshotNode

namespace SnapshotError

/-- The failure in words. -/
def message : SnapshotError → String
  | unknownFormat path => s!"Cannot tell the snapshot format of {path}"
  | unreadableFile path => s!"Failed to read file {path}"
  | invalid format _ => s!"Failed to parse {format.title} snapshot"

/-- The unknown property behind the failure, in words. -/
def cause? : SnapshotError → Option String
  | invalid _ (.unknownProperty name) => some (unknownPropertyMessage name)
  | _ => none

end SnapshotError

end ControlQuery

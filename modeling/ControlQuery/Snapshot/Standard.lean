import ControlQuery.Snapshot.Format
import ControlQuery.Toml.Reader
import ControlQuery.Yaml.Reader

/-!
# The standard readers of snapshots

The readers that the program runs with: YAML and TOML are read as described in this library.
-/

namespace ControlQuery.SnapshotFormat

/-- The readers `Yaml.read` and `Toml.read`. -/
instance standardReaders : Readers where
  yaml := Yaml.read
  toml text := ((Toml.read text).getD .unreadable, true)

end ControlQuery.SnapshotFormat

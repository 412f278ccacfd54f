import ControlQuery.Json.Value
import ControlQuery.Json.Writer
import ControlQuery.Report.Colour
import ControlQuery.Snapshot.Tree

/-!
# Reporting matches

A match is reported by the way from the root down to it and by its recorded properties as a JSON
object, whose keys are in alphabetical order. A stale control has no properties, and null stands for
them.
-/

namespace ControlQuery

namespace Report

/-- A line break with some indentation, if the output is spread over lines. -/
def lineBreak (pretty : Bool) (indent : Nat) : List Piece :=
  if pretty then [.plain ("\n" ++ String.ofList (List.replicate indent ' '))] else []

mutual

/-- A JSON value whose last line has some indentation. -/
def valuePieces (pretty : Bool) (indent : Nat) : JsonValue → List Piece
  | .null => [⟨.null, "null"⟩]
  | .bool b => [⟨.truthValue, toString b⟩]
  | .integer n => [⟨.number, toString n.toInt⟩]
  | .text s => [⟨.text, Json.quote s⟩]
  | .array items =>
    [.plain "["] ++ itemPieces pretty (indent + 2) items ++
      (if items.isEmpty then [] else lineBreak pretty indent) ++ [.plain "]"]
  | .object members =>
    [.plain "\x7b"] ++ memberPieces pretty (indent + 2) members ++
      (if members.isEmpty then [] else lineBreak pretty indent) ++ [.plain "\x7d"]

/-- The items of an array with commas between them. -/
def itemPieces (pretty : Bool) (indent : Nat) : List JsonValue → List Piece
  | [] => []
  | v :: vs =>
    lineBreak pretty indent ++ valuePieces pretty indent v ++
      (if vs.isEmpty then [] else [.plain ","]) ++ itemPieces pretty indent vs

/-- The members of an object with commas between them. -/
def memberPieces (pretty : Bool) (indent : Nat) : List (String × JsonValue) → List Piece
  | [] => []
  | (name, v) :: ms =>
    lineBreak pretty indent ++ [⟨.key, Json.quote name⟩, .plain (if pretty then ": " else ":")] ++
      valuePieces pretty indent v ++ (if ms.isEmpty then [] else [.plain ","]) ++
      memberPieces pretty indent ms

end

end Report

namespace PropertyMap

/-- The names and values of the properties in alphabetical order. -/
def alphabetical (m : PropertyMap) : List (String × PropertyValue) :=
  (m.entries.map fun (id, v) => (id.text, v)).mergeSort fun a b => a.1 ≤ b.1

end PropertyMap

namespace Report

/-- The recorded properties of a control. -/
def properties (pretty : Bool) : Option PropertyMap → List Piece
  | none => valuePieces pretty 0 .null
  | some m => valuePieces pretty 0 (.object (m.alphabetical.map fun (name, v) => (name, v.json)))

/-- How matches are reported. -/
structure Style where
  /-- Whether objects are spread over lines. -/
  pretty : Bool := true
  /-- Whether the way to the match is reported. -/
  path : Bool := true
deriving DecidableEq, Repr

end Report

/-- The report of a control. -/
def SnapshotTree.report (t : SnapshotTree) (style : Report.Style) (n : NodeId) :
    List Report.Piece :=
  (if style.path then [⟨.path, t.ancestryPath n⟩, .plain ":\n"] else []) ++
    Report.properties style.pretty (t.properties? n) ++ [.plain "\n"]

namespace Report

/-- Why output cannot be written. -/
inductive WriteFault where
  /-- Nobody reads it any more. -/
  | closedPipe
  | other
deriving DecidableEq, Repr

/-- What is being written. -/
inductive Output where
  | report
  | line
deriving DecidableEq, Repr

/-- The message for output that cannot be written. That nobody reads it is no failure. -/
def WriteFault.message? (output : Output) : WriteFault → Option String
  | closedPipe => none
  | other =>
    match output with
    | .report => some "write colorized match to stdout"
    | .line => some "write to stdout"

end Report

end ControlQuery

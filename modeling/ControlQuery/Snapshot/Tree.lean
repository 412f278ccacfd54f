import ControlQuery.Snapshot.Node
import ControlQuery.Tree.Provider

/-!
# Snapshot trees

A snapshot tree numbers the controls of a snapshot in document order and answers the questions of a
search. Controls can be marked as removed, each together with everything below it; the tree then
reports them as stale, but their numbers and links stay.
-/

namespace ControlQuery

/-- The number of a control in document order, the root being 0. -/
abbrev NodeId := Nat

/-- What the tree holds of one control. -/
structure TreeEntry where
  parent : Option NodeId
  children : List NodeId
  properties : PropertyMap
deriving DecidableEq

namespace SnapshotNode

/-- The numbers of nodes in a row of which the first has the number `start`. -/
def numbers (start : NodeId) : List SnapshotNode → List NodeId
  | [] => []
  | c :: cs => start :: numbers (start + c.size) cs

mutual

/-- The entries of a node and all below it, in document order, if the node has the number `start`. -/
def entries (parent : Option NodeId) (start : NodeId) : SnapshotNode → List TreeEntry
  | node properties cs =>
    { parent, children := numbers (start + 1) cs, properties } ::
      entriesAll (some start) (start + 1) cs

/-- The entries of nodes in a row and all below them. -/
def entriesAll (parent : Option NodeId) (start : NodeId) : List SnapshotNode → List TreeEntry
  | [] => []
  | c :: cs => c.entries parent start ++ entriesAll parent (start + c.size) cs

end

end SnapshotNode

/-- A recorded tree of controls, some of which may have been removed. -/
structure SnapshotTree where
  entries : Array TreeEntry
  /-- The removed controls, in any order. -/
  removed : List NodeId := []

namespace SnapshotTree

/-- The tree of a snapshot, with nothing removed. -/
def ofNode (root : SnapshotNode) : SnapshotTree :=
  { entries := (root.entries none 0).toArray }

/-- The number of the root. -/
def root : NodeId := 0

/-- The number of controls, removed ones included. -/
def size (t : SnapshotTree) : Nat :=
  t.entries.size

/-- What was recorded of a control, unless it is removed or there is none. -/
def entry (t : SnapshotTree) (n : NodeId) : Except ProviderError TreeEntry :=
  if n ∈ t.removed then .error .stale
  else
    match t.entries[n]? with
    | some e => .ok e
    | none => .error .stale

/-- A control with everything at most so many levels below it. -/
def below (t : SnapshotTree) : Nat → NodeId → List NodeId
  | levels, n =>
    match t.entries[n]? with
    | none => []
    | some e =>
      match levels with
      | 0 => [n]
      | levels + 1 => n :: e.children.flatMap (t.below levels)

/-- Removes a control and everything below it. -/
def remove (t : SnapshotTree) (n : NodeId) : SnapshotTree :=
  { t with removed := t.below t.size n ++ t.removed }

/-- The recorded properties of a control, unless it is stale. -/
def properties? (t : SnapshotTree) (n : NodeId) : Option PropertyMap :=
  (t.entry n).toOption.map TreeEntry.properties

/-- A control and at most so many of its ancestors, nearest first. -/
def upward (t : SnapshotTree) : Nat → NodeId → List NodeId
  | levels, n =>
    match t.entries[n]? with
    | none => []
    | some e =>
      match levels, e.parent with
      | levels + 1, some p => n :: t.upward levels p
      | _, _ => [n]

/-- The way from the root down to a control, both included. Removed controls are on it too. -/
def ancestry (t : SnapshotTree) (n : NodeId) : List NodeId :=
  (t.upward t.size n).reverse

/-- A short name of a control: its type, and its name in quotes if it has one. -/
def label (t : SnapshotTree) (n : NodeId) : String :=
  match t.properties? n with
  | none => s!"<stale #{n}>"
  | some properties =>
    let type := ((properties.get? .controlType).map PropertyValue.plain).getD "*"
    match properties.get? .name with
    | some name => type ++ " '" ++ name.plain ++ "'"
    | none => type

/-- The names of the controls from the root down to a control. -/
def ancestryPath (t : SnapshotTree) (n : NodeId) : String :=
  " > ".intercalate ((t.ancestry n).map t.label)

/-- The answers of the tree to a search. -/
def provider (t : SnapshotTree) : Provider NodeId where
  parent n := (t.entry n).map TreeEntry.parent
  children n := (t.entry n).map TreeEntry.children
  property n id := (t.entry n).map fun e => e.properties.get? id
  isValid n := (t.entry n).isOk

end SnapshotTree

end ControlQuery

import ControlQuery.Snapshot.Node

/-!
# Documents

The content of a snapshot file, whatever its notation: scalars, lists and tables. A file may break
off or go wrong at some place, and what stands before that place still counts, since an unknown
property there is reported in preference to what comes later. So lists and tables say whether they
are complete.
-/

namespace ControlQuery

/-- The content of a file as far as it can be read. -/
inductive Document where
  /-- A place where a value might stand and nothing is written. -/
  | nothing
  | null
  | bool (b : Bool)
  | integer (n : Int)
  /-- A number that is no integer; which one never matters. -/
  | real
  | text (s : String)
  | list (items : List Document) (complete : Bool)
  | table (entries : List (String × Document)) (complete : Bool)
  /-- A value that goes wrong by itself. -/
  | unreadable

/-- Why a document is no snapshot. -/
inductive SnapshotFault where
  /-- A notation that is broken, or a value where none of its kind belongs. -/
  | malformed
  | unknownProperty (name : String)
deriving DecidableEq, Repr

namespace Document

mutual

/-- Whether a value could be read to its end. -/
def isComplete : Document → Bool
  | list items complete => complete && areComplete items
  | table entries complete => complete && entriesComplete entries
  | unreadable => false
  | _ => true

/-- Whether all values could be read to their end. -/
def areComplete : List Document → Bool
  | [] => true
  | d :: ds => d.isComplete && areComplete ds

/-- Whether all values of a table could be read to their end. -/
def entriesComplete : List (String × Document) → Bool
  | [] => true
  | (_, d) :: es => d.isComplete && entriesComplete es

end

/-- The property value that a scalar stands for. -/
def propertyValue? : Document → Option PropertyValue
  | bool b => some (.bool b)
  | integer n => PropertyValue.ofInt? n
  | text s => some (.str s)
  | _ => none

/-- The properties of the entries of a table; of two values for one property the last one counts. -/
def properties (m : PropertyMap) : List (String × Document) → Except SnapshotFault PropertyMap
  | [] => .ok m
  | (name, d) :: es =>
    match PropertyId.ofName? name with
    | none => .error (.unknownProperty name)
    | some id =>
      match d.propertyValue? with
      | none => .error .malformed
      | some v => properties (m.insert id v) es

/-- The key of the children of a node. -/
def childrenKey : String := "children"

mutual

/-- The node that a document stands for. The children are looked at where they stand, and the
properties at the end of the table. -/
def node : Document → Except SnapshotFault SnapshotNode
  | nothing => .ok (.node ∅ [])
  | table entries complete => do
    let (kept, children) ← nodeEntries entries [] none
    if !complete then throw .malformed
    return .node (← properties ∅ kept) children
  | _ => .error .malformed

/-- The entries of a table that are about properties, and the nodes of its children. -/
def nodeEntries : List (String × Document) → List (String × Document) →
    Option (List SnapshotNode) → Except SnapshotFault (List (String × Document) × List SnapshotNode)
  | [], kept, children => .ok (kept.reverse, children.getD [])
  | (key, d) :: es, kept, children =>
    if key = childrenKey then
      match children with
      | some _ => .error .malformed
      | none => do
        let cs ← d.nodes
        nodeEntries es kept (some cs)
    else if d.isComplete then nodeEntries es ((key, d) :: kept) children
    else .error .malformed

/-- The nodes that a document stands for. -/
def nodes : Document → Except SnapshotFault (List SnapshotNode)
  | nothing => .ok []
  | list items complete => do
    let ns ← nodeList items
    if complete then return ns else throw .malformed
  | _ => .error .malformed

/-- The nodes that the items of a list stand for. -/
def nodeList : List Document → Except SnapshotFault (List SnapshotNode)
  | [] => .ok []
  | d :: ds => do
    let n ← d.node
    return n :: (← nodeList ds)

end

end Document

end ControlQuery

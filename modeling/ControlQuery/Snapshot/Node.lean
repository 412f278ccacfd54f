import ControlQuery.Snapshot.Properties

/-!
# Snapshot nodes

A snapshot records a tree of controls: each node holds the properties of one control and the nodes
of its children.
-/

namespace ControlQuery

/-- A recorded control with everything below it. -/
inductive SnapshotNode where
  | node (properties : PropertyMap) (children : List SnapshotNode)

namespace SnapshotNode

/-- The properties of the control. -/
def properties : SnapshotNode → PropertyMap
  | node properties _ => properties

/-- The children of the control. -/
def children : SnapshotNode → List SnapshotNode
  | node _ children => children

instance : Inhabited SnapshotNode := ⟨node ∅ []⟩

mutual

/-- Whether two recorded trees are equal. -/
def same : SnapshotNode → SnapshotNode → Bool
  | node p cs, node q ds => p == q && sameAll cs ds

/-- Whether two lists of recorded trees are equal. -/
def sameAll : List SnapshotNode → List SnapshotNode → Bool
  | [], [] => true
  | c :: cs, d :: ds => c.same d && sameAll cs ds
  | _, _ => false

end

mutual

theorem same_iff : ∀ m n : SnapshotNode, m.same n = true ↔ m = n
  | node p cs, node q ds => by simp [same, sameAll_iff cs]

theorem sameAll_iff : ∀ cs ds : List SnapshotNode, sameAll cs ds = true ↔ cs = ds
  | [], ds => by cases ds <;> simp [sameAll]
  | c :: cs, ds => by cases ds <;> simp [sameAll, same_iff c, sameAll_iff cs]

end

instance : DecidableEq SnapshotNode := fun m n => decidable_of_iff _ (same_iff m n)

mutual

/-- The number of controls. -/
def size : SnapshotNode → Nat
  | node _ cs => 1 + sizeAll cs

/-- The number of controls in several trees. -/
def sizeAll : List SnapshotNode → Nat
  | [] => 0
  | c :: cs => c.size + sizeAll cs

end

end SnapshotNode

end ControlQuery

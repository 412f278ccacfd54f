import ControlQuery.Snapshot.Tree

/-!
# Filling the table of a snapshot tree

The entries of a snapshot tree can be written one after the other into one growing table. A control
is entered before its children, so its list of children is empty at first and is completed in
place: each child is noted once everything below it has been entered.
-/

namespace ControlQuery.SnapshotNode

/-- Notes in the entry of a control that it has one more child. -/
def noteChild (arena : Array TreeEntry) (parent child : NodeId) : Array TreeEntry :=
  arena.modify parent fun e => { e with children := e.children ++ [child] }

mutual

/-- Enters a node and everything below it behind what is there, and gives the number of the node. -/
def insert (parent : Option NodeId) : SnapshotNode → Array TreeEntry → NodeId × Array TreeEntry
  | node properties cs, arena =>
    (arena.size, insertAll arena.size cs (arena.push { parent, children := [], properties }))

/-- Enters the children of a control that has been entered. -/
def insertAll (parent : NodeId) : List SnapshotNode → Array TreeEntry → Array TreeEntry
  | [], arena => arena
  | c :: cs, arena =>
    let (child, arena) := c.insert (some parent) arena
    insertAll parent cs (noteChild arena parent child)

end

end ControlQuery.SnapshotNode

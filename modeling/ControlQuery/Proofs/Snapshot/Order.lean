import ControlQuery.Snapshot.Tree
import Mathlib.Tactic.Lemma

/-!
# The order of the numbers in a snapshot tree

Controls are numbered in document order, so the number of a parent is smaller than those of its
children. Chains of links in one direction are therefore no longer than the tree has controls.
-/

namespace ControlQuery

namespace SnapshotNode

lemma le_of_mem_numbers {start c : NodeId} {cs : List SnapshotNode} (h : c ∈ numbers start cs) :
    start ≤ c := by
  induction cs generalizing start with
  | nil => simp [numbers] at h
  | cons d ds ih =>
    rw [numbers] at h
    rcases List.mem_cons.1 h with rfl | h
    · exact Nat.le_refl _
    · exact Nat.le_trans (Nat.le_add_right start d.size) (ih h)

mutual

lemma length_entries (parent : Option NodeId) (start : NodeId) :
    ∀ n : SnapshotNode, (n.entries parent start).length = n.size
  | node _ cs => by
    rw [entries, size, List.length_cons, length_entriesAll (some start) (start + 1) cs]
    omega

lemma length_entriesAll (parent : Option NodeId) (start : NodeId) :
    ∀ cs : List SnapshotNode, (entriesAll parent start cs).length = sizeAll cs
  | [] => rfl
  | c :: cs => by
    rw [entriesAll, sizeAll, List.length_append, length_entries parent start c,
      length_entriesAll parent (start + c.size) cs]

end

lemma lt_succ_of_mem_some (start : Nat) : ∀ p ∈ some start, p < start + 1 := by
  intro p hp
  obtain rfl := Option.some.inj hp
  exact Nat.lt_succ_self start

/-- The links of an entry with the number `n` respect the order. -/
def LinksOrdered (n : Nat) (e : TreeEntry) : Prop :=
  (∀ p ∈ e.parent, p < n) ∧ ∀ c ∈ e.children, n < c

mutual

lemma linksOrdered_entries {parent : Option NodeId} {start : Nat}
    (hp : ∀ p ∈ parent, p < start) : ∀ (n : SnapshotNode) (i : Nat) (e : TreeEntry),
    (n.entries parent start)[i]? = some e → LinksOrdered (start + i) e
  | node properties cs, 0, e, h => by
    rw [entries] at h
    obtain rfl := Option.some.inj h
    exact ⟨hp, fun c hc => le_of_mem_numbers hc⟩
  | node properties cs, i + 1, e, h => by
    rw [entries, List.getElem?_cons_succ] at h
    have hrest := linksOrdered_entriesAll (lt_succ_of_mem_some start) cs i e h
    rwa [show start + (i + 1) = start + 1 + i by omega]

lemma linksOrdered_entriesAll {parent : Option NodeId} {start : Nat}
    (hp : ∀ p ∈ parent, p < start) : ∀ (cs : List SnapshotNode) (i : Nat) (e : TreeEntry),
    (entriesAll parent start cs)[i]? = some e → LinksOrdered (start + i) e
  | [], i, e, h => by simp [entriesAll] at h
  | c :: cs, i, e, h => by
    rw [entriesAll] at h
    by_cases hi : i < c.size
    · rw [List.getElem?_append_left (by rwa [length_entries])] at h
      exact linksOrdered_entries hp c i e h
    · rw [List.getElem?_append_right (by rw [length_entries]; omega), length_entries] at h
      have hparents : ∀ p ∈ parent, p < start + c.size := fun p hpar =>
        Nat.lt_of_lt_of_le (hp p hpar) (Nat.le_add_right start c.size)
      have hrest := linksOrdered_entriesAll hparents cs (i - c.size) e h
      rwa [show start + i = start + c.size + (i - c.size) by omega]

end

end SnapshotNode

namespace SnapshotTree

/-- Removes several controls, each with everything below it. -/
def removeAll (t : SnapshotTree) (ns : List NodeId) : SnapshotTree :=
  ns.foldl remove t

lemma entry_eq_stale_or_ok (t : SnapshotTree) (n : NodeId) :
    t.entry n = .error .stale ∨ ∃ e, t.entry n = .ok e ∧ t.entries[n]? = some e := by
  unfold entry
  split
  · exact .inl rfl
  · split
    · exact .inr ⟨_, rfl, by assumption⟩
    · exact .inl rfl

/-- Every control has a greater number than its parent and a smaller one than its children. -/
def Ordered (t : SnapshotTree) : Prop :=
  ∀ (n : NodeId) (e : TreeEntry), t.entries[n]? = some e → SnapshotNode.LinksOrdered n e

@[simp] lemma entries_removeAll (t : SnapshotTree) (ns : List NodeId) :
    (t.removeAll ns).entries = t.entries := by
  induction ns generalizing t with
  | nil => rfl
  | cons n ns ih => exact ih (t.remove n)

@[simp] lemma size_removeAll (t : SnapshotTree) (ns : List NodeId) :
    (t.removeAll ns).size = t.size := by
  simp [size]

lemma size_ofNode (root : SnapshotNode) : (ofNode root).size = root.size := by
  simp [size, ofNode, SnapshotNode.length_entries]

theorem ordered_ofNode (root : SnapshotNode) : (ofNode root).Ordered := by
  intro n e h
  have h' : (root.entries none 0)[n]? = some e := by simpa [ofNode] using h
  simpa using SnapshotNode.linksOrdered_entries (by simp) root n e h'

theorem Ordered.removeAll {t : SnapshotTree} (h : t.Ordered) (ns : List NodeId) :
    (t.removeAll ns).Ordered := by
  intro n e he
  rw [entries_removeAll] at he
  exact h n e he

end SnapshotTree

end ControlQuery

import ControlQuery.Proofs.Snapshot.Subtrees

/-!
# Pruned snapshots

A tree with removed controls keeps their numbers. A snapshot that was taken without them numbers
what is left afresh: each control by how many before it are still there. Both trees hold the same
controls then, with the same properties and links.
-/

namespace ControlQuery

namespace SnapshotNode

mutual

/-- A node of the number `start` without the nodes below it whose numbers are listed. -/
def without (gone : List NodeId) (start : NodeId) : SnapshotNode → SnapshotNode
  | node properties cs => node properties (withoutAll gone (start + 1) cs)

/-- Nodes in a row of which the first has the number `start`, without those whose numbers are
listed. -/
def withoutAll (gone : List NodeId) (start : NodeId) : List SnapshotNode → List SnapshotNode
  | [] => []
  | c :: cs =>
    if start ∈ gone then withoutAll gone (start + c.size) cs
    else c.without gone start :: withoutAll gone (start + c.size) cs

end

end SnapshotNode

namespace SnapshotTree

/-- How many controls before a control are still there. -/
def rank (t : SnapshotTree) (n : NodeId) : NodeId :=
  (List.range n).countP t.alive

/-- A numbering of the valid controls of one tree by those of another that keeps their order. -/
structure Renumbers (t t' : SnapshotTree) (ρ : NodeId → NodeId) : Prop where
  lt_iff : ∀ n m, t.alive n = true → t.alive m = true → (ρ n < ρ m ↔ n < m)
  alive_iff : ∀ m, t'.alive m = true ↔ ∃ n, t.alive n = true ∧ ρ n = m

/-- A numbering under which the valid controls have the same links and properties. -/
structure Mirrors (t t' : SnapshotTree) (ρ : NodeId → NodeId) : Prop extends
    t.Renumbers t' ρ where
  parent? : ∀ n, t.alive n = true → t'.parent? (ρ n) = (t.parent? n).map ρ
  kids : ∀ n, t.alive n = true → t'.kids (ρ n) = (t.kids n).map ρ
  properties? : ∀ n, t.alive n = true → t'.properties? (ρ n) = t.properties? n

variable {t t' : SnapshotTree} {gone : List NodeId} {parent : Option NodeId} {n m p : Nat}
  {d : SnapshotNode} {ds : List SnapshotNode} {properties : PropertyMap}

lemma Renumbers.eq_of_eq {ρ : NodeId → NodeId} (h : t.Renumbers t' ρ) (hn : t.alive n = true)
    (hm : t.alive m = true) (heq : ρ n = ρ m) : n = m := by
  have hlt := h.lt_iff n m hn hm
  have hgt := h.lt_iff m n hm hn
  rw [heq] at hlt hgt
  have hle : ¬n < m := fun hnm => Nat.lt_irrefl _ (hlt.2 hnm)
  have hge : ¬m < n := fun hmn => Nat.lt_irrefl _ (hgt.2 hmn)
  omega

lemma Renumbers.alive {ρ : NodeId → NodeId} (h : t.Renumbers t' ρ) (hn : t.alive n = true) :
    t'.alive (ρ n) = true :=
  (h.alive_iff _).2 ⟨n, hn, rfl⟩

/-! ### Counting valid controls -/

lemma rank_add (t : SnapshotTree) (n k : Nat) :
    t.rank (n + k) = t.rank n + (List.range' n k).countP t.alive := by
  have hsplit : List.range (n + k) = List.range n ++ List.range' n k := by
    rw [List.range_eq_range', List.range_eq_range', ← List.range'_append_1, Nat.zero_add]
  rw [rank, hsplit, List.countP_append, rank]

lemma rank_succ_of_alive (hn : t.alive n = true) : t.rank (n + 1) = t.rank n + 1 := by
  rw [rank_add, List.range'_one, List.countP_singleton, if_pos hn]

lemma rank_succ_of_not_alive (hn : ¬t.alive n = true) : t.rank (n + 1) = t.rank n := by
  rw [rank_add, List.range'_one, List.countP_singleton, if_neg hn]
  rfl

lemma rank_lt_rank (hn : t.alive n = true) (h : n < m) : t.rank n < t.rank m := by
  have hsucc := rank_succ_of_alive hn
  have hrest := t.rank_add (n + 1) (m - (n + 1))
  have hm : n + 1 + (m - (n + 1)) = m := by omega
  rw [hm, hsucc] at hrest
  have hlt : t.rank n < t.rank n + 1 := Nat.lt_succ_self _
  rw [hrest]
  exact Nat.lt_of_lt_of_le hlt (Nat.le_add_right _ _)

lemma rank_lt_rank_iff (hn : t.alive n = true) (hm : t.alive m = true) :
    t.rank n < t.rank m ↔ n < m := by
  constructor
  · intro h
    by_contra hle
    rcases Nat.lt_or_eq_of_le (Nat.le_of_not_lt hle) with hlt | heq
    · exact Nat.lt_asymm h (rank_lt_rank hm hlt)
    · rw [heq] at h
      exact Nat.lt_irrefl _ h
  · exact rank_lt_rank hn

/-- Every smaller rank belongs to a valid control. -/
lemma exists_rank_eq (h : m < t.rank n) : ∃ k, t.alive k = true ∧ t.rank k = m := by
  induction n with
  | zero => exact absurd h (Nat.not_lt_zero m)
  | succ n ih =>
    by_cases hn : t.alive n = true
    · rw [rank_succ_of_alive hn] at h
      rcases Nat.lt_or_eq_of_le (Nat.le_of_lt_succ h) with hlt | heq
      · exact ih hlt
      · exact ⟨n, hn, heq.symm⟩
    · rw [rank_succ_of_not_alive hn] at h
      exact ih h

/-! ### Subtrees before and after pruning -/

lemma Records.alive_child_iff (hr : t.RemovedAt (· ∈ gone))
    (h : t.Records parent n (.node properties ds)) (hn : t.alive n = true) :
    ∀ c ∈ SnapshotNode.numbers (n + 1) ds, (t.alive c = true ↔ c ∉ gone) := by
  intro c hc
  have hchild : t.IsChild n c := ⟨_, h.entry_eq, hc⟩
  rw [hr n c hchild]
  simp [hn]

/-- Nothing is left of a subtree whose root has gone. -/
lemma Records.rank_add_size_of_not_alive (hclosed : t.Closed) (h : t.Records parent n d)
    (hn : ¬t.alive n = true) : t.rank (n + d.size) = t.rank n := by
  have hnone : (List.range' n d.size).countP t.alive = 0 := by
    refine List.countP_eq_zero.2 fun m hm hal => hn ?_
    rw [List.mem_range'_1] at hm
    have hmt := alive_lt hal
    have hmem : m ∈ t.subtree n := (h.mem_subtree (by omega)).2 hm
    exact hclosed.alive_of_mem_below hmem hal
  rw [rank_add, hnone, Nat.add_zero]

mutual

/-- What is left of a subtree is as large as the pruned node. -/
lemma Records.rank_add_size (hr : t.RemovedAt (· ∈ gone)) :
    ∀ (d : SnapshotNode) {parent : Option NodeId} {n : Nat}, t.Records parent n d →
    t.alive n = true → t.rank (n + d.size) = t.rank n + (d.without gone n).size
  | .node properties ds, parent, n, h, hn => by
    have hrow := RecordsAll.rank_add_sizeAll hr ds h.children (h.alive_child_iff hr hn)
    rw [SnapshotNode.without, SnapshotNode.size, SnapshotNode.size, ← Nat.add_assoc, hrow,
      rank_succ_of_alive hn, Nat.add_assoc]

lemma RecordsAll.rank_add_sizeAll (hr : t.RemovedAt (· ∈ gone)) :
    ∀ (ds : List SnapshotNode) {parent : Option NodeId} {n : Nat}, t.RecordsAll parent n ds →
    (∀ c ∈ SnapshotNode.numbers n ds, (t.alive c = true ↔ c ∉ gone)) →
    t.rank (n + SnapshotNode.sizeAll ds) =
      t.rank n + SnapshotNode.sizeAll (SnapshotNode.withoutAll gone n ds)
  | [], _, _, _, _ => rfl
  | d :: ds, parent, n, h, hal => by
    rw [SnapshotNode.numbers, List.forall_mem_cons] at hal
    have htail := RecordsAll.rank_add_sizeAll hr ds h.tail hal.2
    rw [SnapshotNode.sizeAll, SnapshotNode.withoutAll, ← Nat.add_assoc, htail]
    by_cases hn : n ∈ gone
    · have hdead : ¬t.alive n = true := fun hal' => hal.1.1 hal' hn
      rw [if_pos hn, h.head.rank_add_size_of_not_alive hr.closed hdead]
    · have hhead := Records.rank_add_size hr d h.head (hal.1.2 hn)
      rw [if_neg hn, hhead, SnapshotNode.sizeAll, Nat.add_assoc]

end

/-- The children that are left have the numbers of the pruned children. -/
lemma RecordsAll.map_rank_filter_alive (hr : t.RemovedAt (· ∈ gone)) (h : t.RecordsAll parent n ds)
    (hal : ∀ c ∈ SnapshotNode.numbers n ds, (t.alive c = true ↔ c ∉ gone)) :
    ((SnapshotNode.numbers n ds).filter t.alive).map t.rank =
      SnapshotNode.numbers (t.rank n) (SnapshotNode.withoutAll gone n ds) := by
  induction ds generalizing n with
  | nil => rfl
  | cons d ds ih =>
    rw [SnapshotNode.numbers, List.forall_mem_cons] at hal
    have htail := ih h.tail hal.2
    rw [SnapshotNode.numbers, SnapshotNode.withoutAll]
    by_cases hn : n ∈ gone
    · have hdead : ¬t.alive n = true := fun hal' => hal.1.1 hal' hn
      rw [List.filter_cons_of_neg hdead, if_pos hn, htail,
        h.head.rank_add_size_of_not_alive hr.closed hdead]
    · have halive := hal.1.2 hn
      rw [List.filter_cons_of_pos halive, if_neg hn, List.map_cons, htail, SnapshotNode.numbers,
        Records.rank_add_size hr d h.head halive]

mutual

/-- Below a node that both trees record, one whole and the other pruned, they record every valid
control in this way. -/
lemma Records.exists_pruned (hr : t.RemovedAt (· ∈ gone)) (hm : t.alive m = true) :
    ∀ (d : SnapshotNode) {parent : Option NodeId} {n : Nat}, t.Records parent n d →
    t'.Records (parent.map t.rank) (t.rank n) (d.without gone n) →
    (∀ p ∈ parent, t.alive p = true) → n ≤ m → m < n + d.size →
    ∃ q e, t.Records q m e ∧ t'.Records (q.map t.rank) (t.rank m) (e.without gone m) ∧
      ∀ p ∈ q, t.alive p = true
  | .node properties ds, parent, n, h, h', hparent, hle, hlt => by
    by_cases heq : m = n
    · subst heq
      exact ⟨parent, _, h, h', hparent⟩
    · have hmt := alive_lt hm
      have hmem : m ∈ t.subtree n := (h.mem_subtree (by omega)).2 ⟨hle, hlt⟩
      have hn : t.alive n = true := hr.closed.alive_of_mem_below hmem hm
      rw [SnapshotNode.without] at h'
      have hrow := h'.children
      rw [← rank_succ_of_alive hn] at hrow
      rw [SnapshotNode.size] at hlt
      exact RecordsAll.exists_pruned hr hm ds h.children hrow hn (h.alive_child_iff hr hn)
        (by omega) (by omega)

lemma RecordsAll.exists_pruned (hr : t.RemovedAt (· ∈ gone)) (hm : t.alive m = true) :
    ∀ (ds : List SnapshotNode) {p n : Nat}, t.RecordsAll (some p) n ds →
    t'.RecordsAll (some (t.rank p)) (t.rank n) (SnapshotNode.withoutAll gone n ds) →
    t.alive p = true → (∀ c ∈ SnapshotNode.numbers n ds, (t.alive c = true ↔ c ∉ gone)) →
    n ≤ m → m < n + SnapshotNode.sizeAll ds →
    ∃ q e, t.Records q m e ∧ t'.Records (q.map t.rank) (t.rank m) (e.without gone m) ∧
      ∀ p ∈ q, t.alive p = true
  | [], p, n, _, _, _, _, hle, hlt => by
    rw [SnapshotNode.sizeAll] at hlt
    omega
  | d :: ds, p, n, h, h', hp, hal, hle, hlt => by
    rw [SnapshotNode.numbers, List.forall_mem_cons] at hal
    rw [SnapshotNode.sizeAll] at hlt
    rw [SnapshotNode.withoutAll] at h'
    by_cases hn : n ∈ gone
    · have hdead : ¬t.alive n = true := fun hal' => hal.1.1 hal' hn
      rw [if_pos hn, ← h.head.rank_add_size_of_not_alive hr.closed hdead] at h'
      -- A valid control is not in the part that is gone.
      have hpast : n + d.size ≤ m := by
        by_contra hin
        have hmt := alive_lt hm
        have hmem : m ∈ t.subtree n := (h.head.mem_subtree (by omega)).2 ⟨hle, by omega⟩
        exact hdead (hr.closed.alive_of_mem_below hmem hm)
      exact RecordsAll.exists_pruned hr hm ds h.tail h' hp hal.2 hpast (by omega)
    · have hsize := Records.rank_add_size hr d h.head (hal.1.2 hn)
      rw [if_neg hn] at h'
      by_cases hin : m < n + d.size
      · have hparent : ∀ q ∈ some p, t.alive q = true := by
          intro q hq
          obtain rfl := Option.some.inj hq
          exact hp
        exact Records.exists_pruned hr hm d h.head h'.head hparent hle hin
      · have hrest := h'.tail
        rw [← hsize] at hrest
        exact RecordsAll.exists_pruned hr hm ds h.tail hrest hp hal.2 (Nat.le_of_not_lt hin)
          (by omega)

end

/-! ### The tree of the pruned snapshot -/

lemma alive_root_removeAll {node : SnapshotNode} {ns : List NodeId} (h : root ∉ ns) :
    ((ofNode node).removeAll ns).alive root = true := by
  have hpos : 0 < (ofNode node).size := by
    rw [size_ofNode]
    exact size_pos node
  have hroot : (ofNode node).alive root = true := alive_iff.2 ⟨hpos, List.not_mem_nil⟩
  refine alive_removeAll.2 ⟨hroot, fun r hr hmem => h ?_⟩
  have hle := (recorded_ofNode node).le_of_mem_subtree hmem
  have hzero : r = root := Nat.le_zero.1 hle
  rwa [← hzero]

section Whole

variable {node : SnapshotNode} (hr : t.RemovedAt (· ∈ gone)) (hnode : t.Records none root node)
  (hsize : t.size = node.size) (hroot : t.alive root = true)
include hr hnode hsize hroot

lemma renumbers_without : t.Renumbers (ofNode (node.without gone root)) t.rank := by
  have hcount := Records.rank_add_size hr node hnode hroot
  have hstart : root + node.size = t.size := by rw [hsize, root, Nat.zero_add]
  have hnone : t.rank root = 0 := rfl
  rw [hstart, hnone, Nat.zero_add] at hcount
  refine ⟨fun n m hn hm => rank_lt_rank_iff hn hm, fun m => ?_⟩
  rw [alive_ofNode_iff, ← hcount]
  constructor
  · exact exists_rank_eq
  · rintro ⟨n, hn, rfl⟩
    exact rank_lt_rank hn (alive_lt hn)

/-- The entries of a control in the two trees. -/
lemma exists_entry_without (hn : t.alive n = true) : ∃ q properties ds,
    t.entry n = .ok ⟨q, SnapshotNode.numbers (n + 1) ds, properties⟩ ∧
    (ofNode (node.without gone root)).entry (t.rank n) =
      .ok ⟨q.map t.rank, ((SnapshotNode.numbers (n + 1) ds).filter t.alive).map t.rank,
        properties⟩ ∧
    ∀ p ∈ q, t.alive p = true := by
  have hnode' : (ofNode (node.without gone root)).Records none root (node.without gone root) :=
    records_root rfl
  have hlt : n < root + node.size := by
    rw [root, Nat.zero_add, ← hsize]
    exact alive_lt hn
  have hnoparent : ∀ p ∈ (none : Option NodeId), t.alive p = true := fun p hp => by cases hp
  obtain ⟨q, ⟨properties, ds⟩, hrec, hrec', hq⟩ :=
    Records.exists_pruned hr hn node hnode hnode' hnoparent (Nat.zero_le n) hlt
  have hkids := hrec.children.map_rank_filter_alive hr (hrec.alive_child_iff hr hn)
  refine ⟨q, properties, ds, entry_of_alive hn hrec.entry_eq, ?_, hq⟩
  rw [hkids, rank_succ_of_alive hn]
  rw [SnapshotNode.without] at hrec'
  exact entry_of_alive ((renumbers_without hr hnode hsize hroot).alive hn) hrec'.entry_eq

lemma mirrors_without : t.Mirrors (ofNode (node.without gone root)) t.rank := by
  have hρ := renumbers_without hr hnode hsize hroot
  refine { toRenumbers := hρ, parent? := ?_, kids := ?_, properties? := ?_ }
  · intro n hn
    obtain ⟨q, properties, ds, he, he', hq⟩ := exists_entry_without hr hnode hsize hroot hn
    rw [SnapshotTree.parent?, SnapshotTree.parent?, he, he']
    cases q with
    | none => rfl
    | some p =>
      have hp := hq p rfl
      have hp' := hρ.alive hp
      simp [Except.toOption, Option.filter_some, hp, hp']
  · intro n hn
    obtain ⟨q, properties, ds, he, he', -⟩ := exists_entry_without hr hnode hsize hroot hn
    rw [SnapshotTree.kids, SnapshotTree.kids, he, he']
    refine List.filter_eq_self.2 fun c hc => ?_
    obtain ⟨k, hk, rfl⟩ := List.mem_map.1 hc
    exact hρ.alive (List.mem_filter.1 hk).2
  · intro n hn
    obtain ⟨q, properties, ds, he, he', -⟩ := exists_entry_without hr hnode hsize hroot hn
    rw [SnapshotTree.properties?, SnapshotTree.properties?, he, he']
    rfl

end Whole

/-- What is left of a tree after removals is the tree of the pruned snapshot, renumbered. -/
theorem mirrors_removeAll (node : SnapshotNode) {removed : List NodeId} (h : root ∉ removed) :
    ((ofNode node).removeAll removed).Mirrors (ofNode (node.without removed root))
      ((ofNode node).removeAll removed).rank := by
  have hr := removedAt_removeAll node removed
  have hnode : ((ofNode node).removeAll removed).Records none root node :=
    records_root (entries_removeAll _ _)
  have hsize : ((ofNode node).removeAll removed).size = node.size := by
    rw [size_removeAll, size_ofNode]
  exact mirrors_without hr hnode hsize (alive_root_removeAll h)

end SnapshotTree

end ControlQuery

import ControlQuery.Proofs.Search.Walks

/-!
# Subtrees of a snapshot tree

The numbers of a control and of everything below it are consecutive, and the intervals of two
controls are disjoint unless one holds the other. The entries of a subtree are those of the node
that it was recorded from, so facts about it are proved along the nodes. A child goes when its
parent goes, and otherwise only when it is removed itself.
-/

namespace ControlQuery

namespace SnapshotTree

/-- The entries from `n` on begin with those of the node, recorded below `parent`. -/
def Records (t : SnapshotTree) (parent : Option NodeId) (n : NodeId) (c : SnapshotNode) : Prop :=
  c.entries parent n <+: t.entries.toList.drop n

/-- The entries from `n` on begin with those of the nodes in a row. -/
def RecordsAll (t : SnapshotTree) (parent : Option NodeId) (n : NodeId)
    (cs : List SnapshotNode) : Prop :=
  SnapshotNode.entriesAll parent n cs <+: t.entries.toList.drop n

/-- All entries of the tree come from one snapshot. -/
def Recorded (t : SnapshotTree) : Prop :=
  ∃ root : SnapshotNode, t.entries = (root.entries none 0).toArray

/-- A control and everything below it. -/
def subtree (t : SnapshotTree) (n : NodeId) : List NodeId :=
  t.below t.size n

/-- One control is recorded as a child of another. -/
def IsChild (t : SnapshotTree) (p c : NodeId) : Prop :=
  ∃ e, t.entries[p]? = some e ∧ c ∈ e.children

variable {t : SnapshotTree} {parent : Option NodeId} {n m p c r : Nat} {d : SnapshotNode}
  {ds : List SnapshotNode}

lemma alive_iff : t.alive n = true ↔ n < t.size ∧ n ∉ t.removed := by
  unfold alive entry
  by_cases hr : n ∈ t.removed
  · simp [hr, Except.isOk, Except.toBool]
  · rw [if_neg hr]
    by_cases hn : n < t.size
    · have he : t.entries[n]? = some t.entries[n] := Array.getElem?_eq_getElem hn
      simp [he, hr, hn, Except.isOk, Except.toBool]
    · have he : t.entries[n]? = none := Array.getElem?_eq_none (Nat.le_of_not_lt hn)
      simp [he, hn, Except.isOk, Except.toBool]

lemma entry_of_alive {e : TreeEntry} (hn : t.alive n = true) (he : t.entries[n]? = some e) :
    t.entry n = .ok e := by
  have hremoved := (alive_iff.1 hn).2
  rw [entry, if_neg hremoved, he]

/-! ### Entries along the nodes -/

lemma recorded_ofNode (root : SnapshotNode) : (ofNode root).Recorded :=
  ⟨root, rfl⟩

lemma Recorded.remove (h : t.Recorded) (r : NodeId) : (t.remove r).Recorded :=
  h

lemma Recorded.removeAll (h : t.Recorded) (ns : List NodeId) : (t.removeAll ns).Recorded := by
  unfold Recorded at h ⊢
  rwa [entries_removeAll]

lemma Recorded.ordered (h : t.Recorded) : t.Ordered := by
  obtain ⟨root, hroot⟩ := h
  intro n e he
  rw [hroot] at he
  exact ordered_ofNode root n e he

lemma records_root {root : SnapshotNode} (h : t.entries = (root.entries none 0).toArray) :
    t.Records none 0 root := by
  have hall : t.entries.toList.drop 0 = root.entries none 0 := by simp [h]
  exact ⟨[], (List.append_nil _).trans hall.symm⟩

lemma Records.entry_eq {properties : PropertyMap}
    (h : t.Records parent n (.node properties ds)) :
    t.entries[n]? = some ⟨parent, SnapshotNode.numbers (n + 1) ds, properties⟩ := by
  obtain ⟨rest, hrest⟩ := h
  rw [SnapshotNode.entries, List.cons_append] at hrest
  have hhead : (t.entries.toList.drop n)[0]? =
      some ⟨parent, SnapshotNode.numbers (n + 1) ds, properties⟩ := by
    rw [← hrest]
    rfl
  rwa [List.getElem?_drop, Array.getElem?_toList] at hhead

lemma Records.children {properties : PropertyMap}
    (h : t.Records parent n (.node properties ds)) : t.RecordsAll (some n) (n + 1) ds := by
  obtain ⟨rest, hrest⟩ := h
  rw [SnapshotNode.entries, List.cons_append] at hrest
  refine ⟨rest, ?_⟩
  rw [← List.tail_drop, ← hrest, List.tail_cons]

lemma RecordsAll.head (h : t.RecordsAll parent n (d :: ds)) : t.Records parent n d := by
  unfold RecordsAll at h
  rw [SnapshotNode.entriesAll] at h
  exact (List.prefix_append _ _).trans h

lemma RecordsAll.tail (h : t.RecordsAll parent n (d :: ds)) :
    t.RecordsAll parent (n + d.size) ds := by
  obtain ⟨rest, hrest⟩ := h
  rw [SnapshotNode.entriesAll, List.append_assoc] at hrest
  refine ⟨rest, ?_⟩
  rw [← List.drop_drop, ← hrest]
  exact (List.drop_left' (SnapshotNode.length_entries parent n d)).symm

lemma Records.le_size (h : t.Records parent n d) (hn : n ≤ t.size) : n + d.size ≤ t.size := by
  have hlength := h.length_le
  rw [SnapshotNode.length_entries, List.length_drop] at hlength
  have hsize : t.entries.toList.length = t.size := Array.length_toList
  rw [hsize] at hlength
  omega

lemma size_pos (d : SnapshotNode) : 0 < d.size := by
  cases d with
  | node _ ds =>
    rw [SnapshotNode.size]
    omega

mutual

/-- Every number of the interval has a node, and its interval lies inside. -/
lemma Records.inside : ∀ (d : SnapshotNode) {parent : Option NodeId} {n : Nat},
    t.Records parent n d → n ≤ m → m < n + d.size →
    ∃ q e, t.Records q m e ∧ m + e.size ≤ n + d.size
  | .node properties ds, parent, n, h, hle, hlt => by
    by_cases hm : m = n
    · subst hm
      exact ⟨parent, _, h, Nat.le_refl _⟩
    · rw [SnapshotNode.size] at hlt ⊢
      obtain ⟨q, e, he, hin⟩ := RecordsAll.inside ds h.children (by omega) (by omega)
      exact ⟨q, e, he, by omega⟩

lemma RecordsAll.inside : ∀ (ds : List SnapshotNode) {parent : Option NodeId} {n : Nat},
    t.RecordsAll parent n ds → n ≤ m → m < n + SnapshotNode.sizeAll ds →
    ∃ q e, t.Records q m e ∧ m + e.size ≤ n + SnapshotNode.sizeAll ds
  | [], parent, n, h, hle, hlt => by
    rw [SnapshotNode.sizeAll] at hlt
    omega
  | d :: ds, parent, n, h, hle, hlt => by
    rw [SnapshotNode.sizeAll] at hlt ⊢
    by_cases hm : m < n + d.size
    · obtain ⟨q, e, he, hin⟩ := Records.inside d h.head hle hm
      exact ⟨q, e, he, by omega⟩
    · obtain ⟨q, e, he, hin⟩ := RecordsAll.inside ds h.tail (by omega) (by omega)
      exact ⟨q, e, he, by omega⟩

end

lemma Recorded.exists_records (h : t.Recorded) (hn : n < t.size) :
    ∃ parent d, t.Records parent n d := by
  obtain ⟨root, hroot⟩ := h
  have hsize : t.size = root.size := by
    rw [size, hroot, List.size_toArray, SnapshotNode.length_entries]
  obtain ⟨q, e, he, -⟩ := Records.inside root (records_root hroot) (Nat.zero_le n) (by omega)
  exact ⟨q, e, he⟩

/-- A child has its entry inside the interval of its parent. -/
lemma RecordsAll.of_mem_numbers (h : t.RecordsAll parent n ds)
    (hc : c ∈ SnapshotNode.numbers n ds) :
    ∃ d, t.Records parent c d ∧ n ≤ c ∧ c + d.size ≤ n + SnapshotNode.sizeAll ds := by
  induction ds generalizing n with
  | nil => simp [SnapshotNode.numbers] at hc
  | cons d ds ih =>
    rw [SnapshotNode.numbers] at hc
    rw [SnapshotNode.sizeAll]
    rcases List.mem_cons.1 hc with rfl | hc
    · exact ⟨d, h.head, Nat.le_refl _, by omega⟩
    · obtain ⟨e, he, hle, hin⟩ := ih h.tail hc
      exact ⟨e, he, by omega, by omega⟩

/-! ### Subtrees are intervals -/

mutual

lemma Records.below_eq : ∀ (d : SnapshotNode) {parent : Option NodeId} {n levels : Nat},
    t.Records parent n d → d.size ≤ levels + 1 → t.below levels n = List.range' n d.size
  | .node properties ds, parent, n, 0, h, hsize => by
    rw [SnapshotNode.size] at hsize ⊢
    rw [below, h.entry_eq, show 1 + SnapshotNode.sizeAll ds = 1 by omega]
    rfl
  | .node properties ds, parent, n, levels + 1, h, hsize => by
    rw [SnapshotNode.size] at hsize ⊢
    rw [below, h.entry_eq]
    dsimp only
    rw [RecordsAll.below_eq ds h.children (by omega), Nat.add_comm 1, List.range'_succ]

lemma RecordsAll.below_eq : ∀ (ds : List SnapshotNode) {parent : Option NodeId} {n levels : Nat},
    t.RecordsAll parent n ds → SnapshotNode.sizeAll ds ≤ levels + 1 →
    (SnapshotNode.numbers n ds).flatMap (t.below levels) =
      List.range' n (SnapshotNode.sizeAll ds)
  | [], parent, n, levels, h, hsize => rfl
  | d :: ds, parent, n, levels, h, hsize => by
    rw [SnapshotNode.sizeAll] at hsize ⊢
    rw [SnapshotNode.numbers, List.flatMap_cons, Records.below_eq d h.head (by omega),
      RecordsAll.below_eq ds h.tail (by omega), List.range'_append_1]

end

lemma Records.mem_subtree (h : t.Records parent n d) (hn : n ≤ t.size) :
    m ∈ t.subtree n ↔ n ≤ m ∧ m < n + d.size := by
  have hsize := h.le_size hn
  unfold subtree
  rw [Records.below_eq d h (by omega), List.mem_range'_1]

lemma mem_subtree_lt (h : m ∈ t.subtree n) : n < t.size := by
  unfold subtree at h
  by_contra hn
  have he : t.entries[n]? = none := Array.getElem?_eq_none (Nat.le_of_not_lt hn)
  cases hs : t.size <;> simp [hs, below, he] at h

lemma Recorded.le_of_mem_subtree (h : t.Recorded) (hm : m ∈ t.subtree n) : n ≤ m := by
  have hn := mem_subtree_lt hm
  obtain ⟨parent, d, hd⟩ := h.exists_records hn
  exact ((hd.mem_subtree (Nat.le_of_lt hn)).1 hm).1

lemma Recorded.subtree_trans (h : t.Recorded) (hm : m ∈ t.subtree n) (ha : c ∈ t.subtree m) :
    c ∈ t.subtree n := by
  have hn := mem_subtree_lt hm
  have hmlt := mem_subtree_lt ha
  obtain ⟨parent, d, hd⟩ := h.exists_records hn
  obtain ⟨hle, hlt⟩ := (hd.mem_subtree (Nat.le_of_lt hn)).1 hm
  obtain ⟨q, e, he, hin⟩ := Records.inside d hd hle hlt
  obtain ⟨hle', hlt'⟩ := (he.mem_subtree (Nat.le_of_lt hmlt)).1 ha
  exact (hd.mem_subtree (Nat.le_of_lt hn)).2 ⟨by omega, by omega⟩

/-! ### Parents and children -/

lemma IsChild.lt_size (h : t.IsChild p c) : p < t.size := by
  obtain ⟨e, he, -⟩ := h
  exact (Array.getElem?_eq_some_iff.1 he).1

lemma Recorded.child (h : t.Recorded) (hc : t.IsChild p c) :
    ∃ q e d, t.Records q p e ∧ t.Records (some p) c d ∧ p < c ∧ c + d.size ≤ p + e.size := by
  have hp := hc.lt_size
  obtain ⟨entry, he, hmem⟩ := hc
  obtain ⟨q, ⟨properties, ds⟩, hrec⟩ := h.exists_records hp
  have heq := he.symm.trans hrec.entry_eq
  obtain rfl := Option.some.inj heq
  obtain ⟨d, hd, hle, hin⟩ := hrec.children.of_mem_numbers hmem
  refine ⟨q, _, d, hrec, hd, by omega, ?_⟩
  rw [SnapshotNode.size]
  omega

lemma Recorded.lt_of_isChild (h : t.Recorded) (hc : t.IsChild p c) : p < c := by
  obtain ⟨q, e, d, -, -, hlt, -⟩ := h.child hc
  exact hlt

/-- A control is the child of one control only. -/
lemma Recorded.parent_unique (h : t.Recorded) (hp : t.IsChild p c) (hr : t.IsChild r c) :
    p = r := by
  obtain ⟨-, -, ⟨properties, ds⟩, -, hd, -, -⟩ := h.child hp
  obtain ⟨-, -, ⟨properties', ds'⟩, -, hd', -, -⟩ := h.child hr
  have heq := hd.entry_eq.symm.trans hd'.entry_eq
  have hparent := congrArg TreeEntry.parent (Option.some.inj heq)
  exact Option.some.inj hparent

lemma mem_below_succ {levels : Nat} (h : m ∈ t.below (levels + 1) n) :
    m = n ∨ ∃ k, t.IsChild n k ∧ m ∈ t.below levels k := by
  rw [below] at h
  cases he : t.entries[n]? with
  | none => simp [he] at h
  | some e =>
    simp only [he] at h
    rcases List.mem_cons.1 h with h | h
    · exact .inl h
    · obtain ⟨k, hk, hm⟩ := List.mem_flatMap.1 h
      exact .inr ⟨k, ⟨e, he, hk⟩, hm⟩

lemma mem_below_of_isChild {levels : Nat} {k : Nat} (hk : t.IsChild n k)
    (h : m ∈ t.below levels k) : m ∈ t.below (levels + 1) n := by
  obtain ⟨e, he, hmem⟩ := hk
  rw [below, he]
  exact List.mem_cons_of_mem n (List.mem_flatMap.2 ⟨k, hmem, h⟩)

lemma mem_below_zero (h : m ∈ t.below 0 n) : m = n := by
  rw [below] at h
  cases he : t.entries[n]? with
  | none => simp [he] at h
  | some e =>
    rw [he] at h
    exact List.mem_singleton.1 h

lemma mem_below_self {levels : Nat} (hn : n < t.size) : n ∈ t.below levels n := by
  have he : t.entries[n]? = some t.entries[n] := Array.getElem?_eq_getElem hn
  cases levels with
  | zero => simp [below, he]
  | succ levels => simp [below, he]

lemma exists_isChild_of_mem_below {levels : Nat} (h : c ∈ t.below levels r) :
    c = r ∨ ∃ p, p ∈ t.below levels r ∧ t.IsChild p c := by
  induction levels generalizing r with
  | zero => exact .inl (mem_below_zero h)
  | succ levels ih =>
    rcases mem_below_succ h with h | ⟨k, hk, hck⟩
    · exact .inl h
    · refine .inr ?_
      rcases ih hck with rfl | ⟨p, hp, hchild⟩
      · exact ⟨r, mem_below_self hk.lt_size, hk⟩
      · exact ⟨p, mem_below_of_isChild hk hp, hchild⟩

/-- A child is in a subtree as the root of it or along with its parent. -/
lemma Recorded.mem_subtree_child (h : t.Recorded) (hc : t.IsChild p c) :
    c ∈ t.subtree r ↔ c = r ∨ p ∈ t.subtree r := by
  obtain ⟨q, e, d, he, hd, hlt, hin⟩ := h.child hc
  have hp := hc.lt_size
  have hpe := he.le_size (Nat.le_of_lt hp)
  have hpos := size_pos d
  constructor
  · intro hmem
    rcases exists_isChild_of_mem_below hmem with hcr | ⟨p', hp', hchild⟩
    · exact .inl hcr
    · rw [h.parent_unique hc hchild]
      exact .inr hp'
  · rintro (rfl | hmem)
    · exact mem_below_self (by omega)
    · have hcp : c ∈ t.subtree p := (he.mem_subtree (Nat.le_of_lt hp)).2 ⟨by omega, by omega⟩
      exact h.subtree_trans hmem hcp

/-! ### Removing subtrees -/

lemma below_remove (t : SnapshotTree) (r : NodeId) (levels : Nat) (k : NodeId) :
    (t.remove r).below levels k = t.below levels k := by
  induction levels generalizing k with
  | zero =>
    rw [below, below]
    rfl
  | succ levels ih =>
    have hbelow : (t.remove r).below levels = t.below levels := funext ih
    have hentry : (t.remove r).entries[k]? = t.entries[k]? := rfl
    rw [below, below, hentry]
    cases t.entries[k]? with
    | none => rfl
    | some e =>
      dsimp only
      rw [hbelow]

lemma alive_remove : (t.remove r).alive n = true ↔ t.alive n = true ∧ n ∉ t.subtree r := by
  rw [alive_iff, alive_iff]
  have hremoved : (t.remove r).removed = t.subtree r ++ t.removed := rfl
  have hsize : (t.remove r).size = t.size := rfl
  rw [hremoved, hsize, List.mem_append, not_or]
  tauto

lemma alive_of_alive_removeAll {ns : List NodeId} (h : (t.removeAll ns).alive n = true) :
    t.alive n = true := by
  induction ns generalizing t with
  | nil => exact h
  | cons r ns ih => exact (alive_remove.1 (ih h)).1

lemma alive_removeAll {ns : List NodeId} :
    (t.removeAll ns).alive n = true ↔ t.alive n = true ∧ ∀ r ∈ ns, n ∉ t.subtree r := by
  induction ns generalizing t with
  | nil => simp [removeAll]
  | cons r ns ih =>
    have hsame : ∀ k, (t.remove r).subtree k = t.subtree k := t.below_remove r t.size
    have hstep : t.removeAll (r :: ns) = (t.remove r).removeAll ns := rfl
    rw [hstep, ih, alive_remove, List.forall_mem_cons]
    simp only [hsame]
    tauto

lemma alive_ofNode_iff {root : SnapshotNode} : (ofNode root).alive n = true ↔ n < root.size := by
  rw [alive_iff, size_ofNode]
  simp [ofNode]

/-- A child is there just if its parent is and it has not gone by itself. -/
def RemovedAt (t : SnapshotTree) (gone : NodeId → Prop) : Prop :=
  ∀ p c, t.IsChild p c → (t.alive c = true ↔ t.alive p = true ∧ ¬gone c)

lemma Recorded.removedAt_remove (h : t.Recorded) {gone : NodeId → Prop} (hg : t.RemovedAt gone)
    (r : NodeId) : (t.remove r).RemovedAt fun c => c = r ∨ gone c := by
  intro p c hc
  have hchild : t.IsChild p c := hc
  rw [alive_remove, alive_remove, hg p c hchild, h.mem_subtree_child hchild]
  tauto

lemma Recorded.removedAt_removeAll (h : t.Recorded) {gone : NodeId → Prop}
    (hg : t.RemovedAt gone) (ns : List NodeId) :
    (t.removeAll ns).RemovedAt fun c => c ∈ ns ∨ gone c := by
  induction ns generalizing t gone with
  | nil =>
    intro p c hc
    have hstep := hg p c hc
    rw [show t.removeAll [] = t from rfl]
    simpa using hstep
  | cons r ns ih =>
    have hrest := ih (h.remove r) (h.removedAt_remove hg r)
    intro p c hc
    have hstep := hrest p c hc
    simp only [List.mem_cons]
    rw [show (t.removeAll (r :: ns)) = (t.remove r).removeAll ns from rfl, hstep]
    tauto

lemma removedAt_ofNode (root : SnapshotNode) : (ofNode root).RemovedAt fun _ => False := by
  intro p c hc
  obtain ⟨q, e, d, he, hd, hlt, hin⟩ := (recorded_ofNode root).child hc
  have hp := hc.lt_size
  have hpe := he.le_size (Nat.le_of_lt hp)
  have hpos := size_pos d
  have hnone : ∀ n, n ∉ (ofNode root).removed := fun n hn => by cases hn
  rw [alive_iff, alive_iff]
  constructor
  · intro h
    exact ⟨⟨hp, hnone p⟩, not_false⟩
  · intro h
    exact ⟨by omega, hnone c⟩

/-- After any removals a child is there just if its parent is and it was not removed itself. -/
theorem removedAt_removeAll (root : SnapshotNode) (ns : List NodeId) :
    ((ofNode root).removeAll ns).RemovedAt (· ∈ ns) := by
  have h := (recorded_ofNode root).removedAt_removeAll (removedAt_ofNode root) ns
  simpa using h

/-- Whatever is still there has its parent. -/
def Closed (t : SnapshotTree) : Prop :=
  ∀ p c, t.IsChild p c → t.alive c = true → t.alive p = true

lemma RemovedAt.closed {gone : NodeId → Prop} (h : t.RemovedAt gone) : t.Closed :=
  fun p c hc hal => ((h p c hc).1 hal).1

lemma Recorded.closed_removeAll (h : t.Recorded) (hclosed : t.Closed) (ns : List NodeId) :
    (t.removeAll ns).Closed := by
  have hgone : t.RemovedAt fun c => ¬t.alive c = true := by
    intro p c hc
    have hparent := hclosed p c hc
    tauto
  exact (h.removedAt_removeAll hgone ns).closed

lemma mem_kids : c ∈ t.kids p ↔ t.alive p = true ∧ t.IsChild p c ∧ t.alive c = true := by
  unfold kids IsChild
  rw [List.mem_filter]
  rcases t.stale_or_alive p with ⟨hp, he⟩ | ⟨hp, e, he, hentry⟩
  · simp [hp, he, Except.toOption]
  · simp [hp, he, hentry, Except.toOption]

/-- Whatever is still there is not below something that has gone. -/
lemma Closed.alive_of_mem_below (h : t.Closed) {levels : Nat} (hm : m ∈ t.below levels n)
    (hal : t.alive m = true) : t.alive n = true := by
  induction levels generalizing n with
  | zero => rwa [← mem_below_zero hm]
  | succ levels ih =>
    rcases mem_below_succ hm with rfl | ⟨k, hk, hmk⟩
    · exact hal
    · exact h n k hk (ih hmk)

/-! ### Walks down and subtrees -/

lemma mem_below_of_mem_preorder {levels : Nat} (h : m ∈ t.preorder levels n) :
    m ∈ t.below levels n := by
  induction levels generalizing n with
  | zero => simp [preorder] at h
  | succ levels ih =>
    rw [preorder] at h
    obtain ⟨c, hc, hm⟩ := List.mem_flatMap.1 h
    obtain ⟨-, hchild, hal⟩ := mem_kids.1 hc
    rcases List.mem_cons.1 hm with rfl | hm
    · exact mem_below_of_isChild hchild (mem_below_self (alive_lt hal))
    · exact mem_below_of_isChild hchild (ih hm)

/-- A walk down misses nothing that is still there. -/
lemma Closed.mem_preorder_of_mem_below (h : t.Closed) {levels : Nat} (hm : m ∈ t.below levels n)
    (hal : t.alive m = true) (hne : m ≠ n) : m ∈ t.preorder levels n := by
  induction levels generalizing n with
  | zero => exact absurd (mem_below_zero hm) hne
  | succ levels ih =>
    rcases mem_below_succ hm with heq | ⟨k, hk, hmk⟩
    · exact absurd heq hne
    · have hkal := h.alive_of_mem_below hmk hal
      have hkids : k ∈ t.kids n := mem_kids.2 ⟨h n k hk hkal, hk, hkal⟩
      rw [preorder]
      refine List.mem_flatMap.2 ⟨k, hkids, ?_⟩
      by_cases hmk' : m = k
      · exact hmk' ▸ List.mem_cons_self
      · exact List.mem_cons_of_mem k (ih hmk hmk')

end SnapshotTree

end ControlQuery

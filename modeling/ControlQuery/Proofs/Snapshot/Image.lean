import ControlQuery.Proofs.Snapshot.Subtrees
import ControlQuery.Snapshot.Arena
import Mathlib.Data.List.Chain
import Mathlib.Logic.Relation

/-!
# Snapshot trees are images of their documents

The number of a control is its place in the document, counted from the top. Filling one growing
table, where the entry of a control is completed while those below it are being written, comes to
the same entries as writing each entry at once. Below a control stands an interval of numbers, the
links up are the links down read backwards, and the way up from any control ends at the root.
-/

namespace ControlQuery

namespace SnapshotNode

/-! ### Filling the table -/

/-- A child is noted where the entry of its parent stands, whatever stands behind. -/
lemma toList_noteChild {arena : Array TreeEntry} {before after : List TreeEntry} {e : TreeEntry}
    (h : arena.toList = before ++ e :: after) (child : NodeId) :
    (noteChild arena before.length child).toList =
      before ++ { e with children := e.children ++ [child] } :: after := by
  rw [noteChild, Array.toList_modify, h, List.modify_eq_take_cons_drop (by simp)]
  simp

lemma size_of_toList {arena : Array TreeEntry} {es : List TreeEntry} (h : arena.toList = es) :
    arena.size = es.length := by
  rw [← h, Array.length_toList]

mutual

lemma toList_insert : ∀ (c : SnapshotNode) (parent : Option NodeId) (arena : Array TreeEntry),
    (c.insert parent arena).1 = arena.size ∧
      (c.insert parent arena).2.toList = arena.toList ++ c.entries parent arena.size
  | node properties cs, parent, arena => by
    have hpush : (arena.push ⟨parent, [], properties⟩).toList =
        arena.toList ++ ⟨parent, [], properties⟩ :: [] := Array.toList_push
    have hchildren := toList_insertAll cs hpush
    rw [Array.length_toList, Array.size_push, List.nil_append, List.nil_append] at hchildren
    rw [insert, entries]
    exact ⟨rfl, hchildren⟩

/-- The children of a control are entered behind all that is there, and their numbers are added to
the entry of the control, which stands somewhere in front. -/
lemma toList_insertAll : ∀ (cs : List SnapshotNode) {arena : Array TreeEntry}
    {before after : List TreeEntry} {e : TreeEntry}, arena.toList = before ++ e :: after →
    (insertAll before.length cs arena).toList =
      before ++ { e with children := e.children ++ numbers arena.size cs } ::
        (after ++ entriesAll (some before.length) arena.size cs)
  | [], arena, before, after, e, h => by
    rw [insertAll, numbers, entriesAll, List.append_nil, List.append_nil, h]
  | c :: cs, arena, before, after, e, h => by
    obtain ⟨hnumber, hentered⟩ := toList_insert c (some before.length) arena
    rw [h, List.append_assoc, List.cons_append] at hentered
    have hnoted := toList_noteChild hentered arena.size
    have hsize := size_of_toList hnoted
    rw [List.length_append, List.length_cons, List.length_append, length_entries] at hsize
    have hbefore := size_of_toList h
    rw [List.length_append, List.length_cons] at hbefore
    have hmore := toList_insertAll cs hnoted
    -- the next child gets the number behind everything below this one
    rw [show (noteChild (c.insert (some before.length) arena).2 before.length arena.size).size =
      arena.size + c.size by omega] at hmore
    rw [insertAll, numbers, entriesAll]
    dsimp only
    rw [hnumber, hmore]
    simp only [List.append_assoc, List.singleton_append]

end

/-! ### Document order -/

mutual

/-- The node and everything below it, in the order of the document. -/
def preorder : SnapshotNode → List SnapshotNode
  | node properties cs => node properties cs :: preorderAll cs

/-- The nodes in a row and everything below them, in the order of the document. -/
def preorderAll : List SnapshotNode → List SnapshotNode
  | [] => []
  | c :: cs => c.preorder ++ preorderAll cs

end

mutual

lemma length_preorder : ∀ c : SnapshotNode, c.preorder.length = c.size
  | node properties cs => by
    rw [preorder, size, List.length_cons, length_preorderAll cs, Nat.add_comm]

lemma length_preorderAll : ∀ cs : List SnapshotNode, (preorderAll cs).length = sizeAll cs
  | [] => rfl
  | c :: cs => by
    rw [preorderAll, sizeAll, List.length_append, length_preorder c, length_preorderAll cs]

end

variable {c d : SnapshotNode} {cs ds : List SnapshotNode} {i n : Nat}

mutual

/-- Behind a node stands what is below it. -/
lemma prefix_drop_preorder : ∀ (c : SnapshotNode) {i : Nat}, c.preorder[i]? = some d →
    d.preorder <+: c.preorder.drop i
  | node properties cs, 0, h => by
    rw [preorder, List.getElem?_cons_zero] at h
    exact Option.some.inj h ▸ List.prefix_rfl
  | node properties cs, i + 1, h => by
    rw [preorder, List.getElem?_cons_succ] at h
    rw [preorder, List.drop_succ_cons]
    exact prefix_drop_preorderAll cs h

lemma prefix_drop_preorderAll : ∀ (cs : List SnapshotNode) {i : Nat},
    (preorderAll cs)[i]? = some d → d.preorder <+: (preorderAll cs).drop i
  | [], i, h => by simp [preorderAll] at h
  | c :: cs, i, h => by
    rw [preorderAll] at h ⊢
    have hlength := length_preorder c
    by_cases hi : i < c.size
    · rw [List.getElem?_append_left (by omega)] at h
      rw [List.drop_append_of_le_length (by omega)]
      exact (prefix_drop_preorder c h).trans (List.prefix_append _ _)
    · rw [List.getElem?_append_right (by omega), hlength] at h
      rw [List.drop_append, List.drop_eq_nil_of_le (by omega), hlength, List.nil_append]
      exact prefix_drop_preorderAll cs h

end

/-- The numbers of children lead to the children in their order. -/
lemma map_getElem?_numbers {ns : List SnapshotNode} (h : preorderAll ds <+: ns.drop n) :
    (numbers n ds).map (ns[·]?) = ds.map some := by
  induction ds generalizing n with
  | nil => rfl
  | cons d ds ih =>
    obtain ⟨rest, hrest⟩ := h
    obtain ⟨properties, es⟩ := d
    have hhead : (ns.drop n)[0]? = some (node properties es) := by
      rw [← hrest]
      rfl
    have htail : preorderAll ds <+: ns.drop (n + (node properties es).size) := by
      refine ⟨rest, ?_⟩
      rw [← List.drop_drop, ← hrest, preorderAll, List.append_assoc]
      exact (List.drop_left' (length_preorder _)).symm
    rw [List.getElem?_drop] at hhead
    rw [numbers, List.map_cons, List.map_cons, ih htail]
    exact congrArg (· :: ds.map some) hhead

lemma pairwise_numbers (n : NodeId) (ds : List SnapshotNode) :
    (numbers n ds).Pairwise (· < ·) := by
  induction ds generalizing n with
  | nil => exact .nil
  | cons d ds ih =>
    rw [numbers]
    refine List.pairwise_cons.mpr ⟨fun m hm => ?_, ih _⟩
    have hle := le_of_mem_numbers hm
    have hpos := SnapshotTree.size_pos d
    exact Nat.lt_of_lt_of_le (Nat.lt_add_of_pos_right hpos) hle

end SnapshotNode

namespace SnapshotTree

variable {t : SnapshotTree} {parent : Option NodeId} {n m p c i : Nat} {d e : SnapshotNode}
  {root : SnapshotNode}

open SnapshotNode (preorderAll)

/-! ### Numbers and places -/

mutual

/-- The number of a node is its place. -/
lemma Records.of_preorder : ∀ (d : SnapshotNode) {parent : Option NodeId} {n i : Nat},
    t.Records parent n d → d.preorder[i]? = some e → ∃ q, t.Records q (n + i) e
  | .node properties ds, parent, n, 0, h, he => by
    rw [SnapshotNode.preorder, List.getElem?_cons_zero] at he
    obtain rfl := Option.some.inj he
    exact ⟨parent, h⟩
  | .node properties ds, parent, n, i + 1, h, he => by
    rw [SnapshotNode.preorder, List.getElem?_cons_succ] at he
    obtain ⟨q, hq⟩ := RecordsAll.of_preorderAll ds h.children he
    exact ⟨q, by rwa [show n + (i + 1) = n + 1 + i by omega]⟩

lemma RecordsAll.of_preorderAll : ∀ (ds : List SnapshotNode) {parent : Option NodeId} {n i : Nat},
    t.RecordsAll parent n ds → (preorderAll ds)[i]? = some e → ∃ q, t.Records q (n + i) e
  | [], parent, n, i, h, he => by simp [SnapshotNode.preorderAll] at he
  | d :: ds, parent, n, i, h, he => by
    rw [SnapshotNode.preorderAll] at he
    have hlength := SnapshotNode.length_preorder d
    by_cases hi : i < d.size
    · rw [List.getElem?_append_left (by omega)] at he
      exact Records.of_preorder d h.head he
    · rw [List.getElem?_append_right (by omega), hlength] at he
      obtain ⟨q, hq⟩ := RecordsAll.of_preorderAll ds h.tail he
      exact ⟨q, by rwa [show n + i = n + d.size + (i - d.size) by omega]⟩

end

/-! ### Links -/

/-- What is below a control is what the links down lead to from it. -/
lemma Recorded.mem_subtree_iff (h : t.Recorded) (hn : n < t.size) :
    m ∈ t.subtree n ↔ Relation.ReflTransGen t.IsChild n m := by
  constructor
  · have hreach : ∀ {levels n}, m ∈ t.below levels n → Relation.ReflTransGen t.IsChild n m := by
      intro levels
      induction levels with
      | zero =>
        intro n hm
        rw [mem_below_zero hm]
      | succ levels ih =>
        intro n hm
        rcases mem_below_succ hm with rfl | ⟨k, hk, hmk⟩
        · exact .refl
        · exact .head hk (ih hmk)
    exact hreach
  · intro hreach
    induction hreach with
    | refl => exact mem_below_self hn
    | tail _ hchild ih => exact (h.mem_subtree_child hchild).mpr (.inr ih)

/-- The control that an entry gives as the parent. -/
def parentLink (t : SnapshotTree) (n : NodeId) : Option NodeId :=
  t.entries[n]?.bind TreeEntry.parent

lemma Records.parentLink_eq (h : t.Records parent n d) : t.parentLink n = parent := by
  obtain ⟨properties, ds⟩ := d
  rw [parentLink, h.entry_eq]
  rfl

lemma Recorded.parentLink_root (h : t.Recorded) : t.parentLink 0 = none := by
  obtain ⟨root, hroot⟩ := h
  exact (records_root hroot).parentLink_eq

lemma Recorded.exists_isChild (h : t.Recorded) (hc : c < t.size) (hne : c ≠ 0) :
    ∃ p, t.IsChild p c := by
  obtain ⟨root, hroot⟩ := h
  have hsize : t.size = root.size := by
    rw [size, hroot, List.size_toArray, SnapshotNode.length_entries]
  have hmem : c ∈ t.subtree 0 :=
    ((records_root hroot).mem_subtree (Nat.zero_le _)).mpr ⟨Nat.zero_le c, by omega⟩
  rcases exists_isChild_of_mem_below hmem with heq | ⟨p, -, hchild⟩
  · exact absurd heq hne
  · exact ⟨p, hchild⟩

lemma lt_size_of_parentLink (h : t.parentLink c = some p) : c < t.size := by
  by_contra hc
  have hnone : t.entries[c]? = none := Array.getElem?_eq_none (Nat.le_of_not_lt hc)
  simp [parentLink, hnone] at h

/-- Links up are links down read backwards. -/
lemma Recorded.isChild_iff (h : t.Recorded) : t.IsChild p c ↔ t.parentLink c = some p := by
  have hup : ∀ {p}, t.IsChild p c → t.parentLink c = some p := by
    intro p hchild
    obtain ⟨-, -, d, -, hd, -, -⟩ := h.child hchild
    exact hd.parentLink_eq
  refine ⟨hup, fun hlink => ?_⟩
  have hne : c ≠ 0 := by
    rintro rfl
    rw [h.parentLink_root] at hlink
    cases hlink
  obtain ⟨q, hchild⟩ := h.exists_isChild (lt_size_of_parentLink hlink) hne
  rw [hup hchild] at hlink
  exact Option.some.inj hlink ▸ hchild

lemma Recorded.parentLink_eq_none_iff (h : t.Recorded) (hc : c < t.size) :
    t.parentLink c = none ↔ c = 0 := by
  constructor
  · intro hlink
    by_contra hne
    obtain ⟨p, hchild⟩ := h.exists_isChild hc hne
    rw [h.isChild_iff.mp hchild] at hlink
    cases hlink
  · rintro rfl
    exact h.parentLink_root

lemma Recorded.parentLink_lt (h : t.Recorded) (hlink : t.parentLink c = some p) : p < c :=
  h.lt_of_isChild (h.isChild_iff.mpr hlink)

/-! ### The way up -/

lemma upward_eq_nil (h : t.size ≤ n) (levels : Nat) : t.upward levels n = [] := by
  have hnone : t.entries[n]? = none := Array.getElem?_eq_none h
  cases levels <;> simp [upward, hnone]

lemma upward_top (hn : n < t.size) (hlink : t.parentLink n = none) (levels : Nat) :
    t.upward levels n = [n] := by
  have he : t.entries[n]? = some t.entries[n] := Array.getElem?_eq_getElem hn
  rw [parentLink, he, Option.bind_some] at hlink
  cases levels <;> simp [upward, he, hlink]

lemma upward_step (hlink : t.parentLink n = some p) (levels : Nat) :
    t.upward (levels + 1) n = n :: t.upward levels p := by
  have hn := lt_size_of_parentLink hlink
  have he : t.entries[n]? = some t.entries[n] := Array.getElem?_eq_getElem hn
  rw [parentLink, he, Option.bind_some] at hlink
  rw [upward, he]
  simp only [hlink]

/-- The way up from a control, which ends at the root and nowhere before it. -/
structure LeadsUp (t : SnapshotTree) (n : NodeId) (way : List NodeId) : Prop where
  first : way.head? = some n
  last : way.getLast? = some 0
  linked : way.IsChain fun c p => t.parentLink c = some p

/-- A control has a number, so few enough links lead up from it. -/
lemma Recorded.leadsUp_upward (h : t.Recorded) (hn : n < t.size) {levels : Nat}
    (hlevels : n ≤ levels) : t.LeadsUp n (t.upward levels n) := by
  induction levels generalizing n with
  | zero =>
    obtain rfl := Nat.le_zero.mp hlevels
    rw [upward_top hn h.parentLink_root]
    exact ⟨rfl, rfl, .singleton 0⟩
  | succ levels ih =>
    cases hlink : t.parentLink n with
    | none =>
      rw [upward_top hn hlink]
      exact ⟨rfl, congrArg some ((h.parentLink_eq_none_iff hn).mp hlink), .singleton n⟩
    | some p =>
      have hlt := h.parentLink_lt hlink
      have hp := ih (Nat.lt_trans hlt hn) (Nat.le_of_lt_succ (Nat.lt_of_lt_of_le hlt hlevels))
      rw [upward_step hlink]
      cases hway : t.upward levels p with
      | nil =>
        have hfirst := hp.first
        rw [hway] at hfirst
        cases hfirst
      | cons q way =>
        rw [hway] at hp
        obtain rfl := Option.some.inj hp.first
        exact ⟨rfl, hp.last, List.isChain_cons_cons.mpr ⟨hlink, hp.linked⟩⟩

/-- Going on for longer than there are controls adds nothing to a way up. -/
lemma Recorded.upward_eq (h : t.Recorded) {levels levels' : Nat} (hl : n ≤ levels)
    (hl' : n ≤ levels') (hn : n < t.size) : t.upward levels n = t.upward levels' n := by
  induction levels generalizing n levels' with
  | zero =>
    obtain rfl := Nat.le_zero.mp hl
    rw [upward_top hn h.parentLink_root, upward_top hn h.parentLink_root]
  | succ levels ih =>
    cases hlink : t.parentLink n with
    | none => rw [upward_top hn hlink, upward_top hn hlink]
    | some p =>
      have hlt := h.parentLink_lt hlink
      have hp : p ≤ levels := Nat.le_of_lt_succ (Nat.lt_of_lt_of_le hlt hl)
      cases levels' with
      | zero => exact absurd (Nat.lt_of_lt_of_le hlt hl') (Nat.not_lt_zero p)
      | succ levels' =>
        have hp' : p ≤ levels' := Nat.le_of_lt_succ (Nat.lt_of_lt_of_le hlt hl')
        rw [upward_step hlink, upward_step hlink, ih hp hp' (Nat.lt_trans hlt hn)]

lemma upward_congr {u : SnapshotTree} (h : u.entries = t.entries) (levels : Nat) (n : NodeId) :
    u.upward levels n = t.upward levels n := by
  induction levels generalizing n with
  | zero => rw [upward, upward, h]
  | succ levels ih =>
    rw [upward, upward, h]
    cases t.entries[n]? with
    | none => rfl
    | some e =>
      cases hp : e.parent with
      | none => simp [hp]
      | some p => simp [hp, ih]

/-- The ancestry of a control is its way up read backwards. Nothing of it is lost by removals. -/
lemma Recorded.ancestry_removeAll (h : t.Recorded) (removed : List NodeId) (i : NodeId) :
    (∀ levels, t.size ≤ levels →
        ((t.removeAll removed).upward levels i).reverse = (t.removeAll removed).ancestry i) ∧
      (t.removeAll removed).ancestry i = (t.upward t.size i).reverse := by
  have hsame : ∀ levels, (t.removeAll removed).upward levels i = t.upward levels i := fun levels =>
    upward_congr (entries_removeAll t removed) levels i
  rw [ancestry, size_removeAll]
  refine ⟨fun levels hlevels => congrArg List.reverse ?_, congrArg List.reverse (hsame t.size)⟩
  rw [hsame, hsame]
  by_cases hi : i < t.size
  · exact h.upward_eq (Nat.le_trans (Nat.le_of_lt hi) hlevels) (Nat.le_of_lt hi) hi
  · rw [upward_eq_nil (Nat.le_of_not_lt hi), upward_eq_nil (Nat.le_of_not_lt hi)]

/-! ### The image of a document -/

section OfNode

variable (root : SnapshotNode)

lemma entry_ofNode (i : NodeId) :
    (ofNode root).entry i = ((ofNode root).entries[i]?).elim (.error .stale) .ok := by
  rw [entry, if_neg (by exact List.not_mem_nil)]
  cases (ofNode root).entries[i]? <;> rfl

lemma children_ofNode {cs : List NodeId} : (ofNode root).provider.children p = .ok cs ↔
    ∃ e, (ofNode root).entries[p]? = some e ∧ e.children = cs := by
  change ((ofNode root).entry p).map TreeEntry.children = _ ↔ _
  rw [entry_ofNode]
  cases (ofNode root).entries[p]? <;> simp [Except.map]

lemma parent_ofNode {parent : Option NodeId} : (ofNode root).provider.parent c = .ok parent ↔
    c < (ofNode root).size ∧ (ofNode root).parentLink c = parent := by
  change ((ofNode root).entry c).map TreeEntry.parent = _ ↔ _
  rw [entry_ofNode, parentLink]
  by_cases hc : c < (ofNode root).size
  · have he : (ofNode root).entries[c]? = some (ofNode root).entries[c] :=
      Array.getElem?_eq_getElem hc
    simp [he, hc, Except.map]
  · have he : (ofNode root).entries[c]? = none := Array.getElem?_eq_none (Nat.le_of_not_lt hc)
    simp [he, hc, Except.map]

lemma parent_ofNode_eq_some : (ofNode root).provider.parent c = .ok (some p) ↔
    (ofNode root).parentLink c = some p := by
  rw [parent_ofNode]
  exact ⟨fun h => h.2, fun h => ⟨lt_size_of_parentLink h, h⟩⟩

lemma parent_ofNode_eq_none : (ofNode root).provider.parent c = .ok none ↔
    c = SnapshotTree.root := by
  have h := recorded_ofNode root
  have hroot : 0 < (ofNode root).size := by
    rw [size_ofNode]
    exact size_pos root
  rw [parent_ofNode]
  constructor
  · rintro ⟨hc, hlink⟩
    exact (h.parentLink_eq_none_iff hc).mp hlink
  · rintro rfl
    exact ⟨hroot, h.parentLink_root⟩

lemma isChild_ofNode : (ofNode root).IsChild p c ↔
    ∃ cs, (ofNode root).provider.children p = .ok cs ∧ c ∈ cs := by
  constructor
  · rintro ⟨e, he, hc⟩
    exact ⟨e.children, (children_ofNode root).mpr ⟨e, he, rfl⟩, hc⟩
  · rintro ⟨cs, hcs, hc⟩
    obtain ⟨e, he, rfl⟩ := (children_ofNode root).mp hcs
    exact ⟨e, he, hc⟩

lemma insert_eq_ofNode : root.insert none #[] = (SnapshotTree.root, (ofNode root).entries) := by
  obtain ⟨hnumber, hentries⟩ := SnapshotNode.toList_insert root none #[]
  have harray : (root.insert none #[]).2 = (ofNode root).entries := Array.toList_inj.mp hentries
  exact Prod.ext hnumber harray

/-- The node at a place and the entry with that number. -/
lemma image_of_getElem? (hd : root.preorder[i]? = some d) :
    (ofNode root).properties? i = some d.properties ∧
      (∀ j, Relation.ReflTransGen (ofNode root).IsChild i j ↔ i ≤ j ∧ j < i + d.preorder.length) ∧
      ∃ cs, (ofNode root).provider.children i = .ok cs ∧ cs.Pairwise (· < ·) ∧
        cs.map (root.preorder[·]?) = d.children.map some := by
  have hplace : i < (ofNode root).size := by
    rw [size_ofNode, ← SnapshotNode.length_preorder]
    exact (List.getElem?_eq_some_iff.mp hd).1
  obtain ⟨q, hrecords⟩ := (records_root rfl : (ofNode root).Records none 0 root).of_preorder _ hd
  rw [Nat.zero_add] at hrecords
  obtain ⟨properties, ds⟩ := d
  have hentry := hrecords.entry_eq
  refine ⟨?_, fun j => ?_, _, (children_ofNode root).mpr ⟨_, hentry, rfl⟩,
    SnapshotNode.pairwise_numbers _ _, ?_⟩
  · rw [properties?, entry_ofNode, hentry]
    rfl
  · rw [← (recorded_ofNode root).mem_subtree_iff hplace,
      hrecords.mem_subtree (Nat.le_of_lt hplace), SnapshotNode.length_preorder]
  · have hprefix := SnapshotNode.prefix_drop_preorder root hd
    obtain ⟨rest, hrest⟩ := hprefix
    rw [SnapshotNode.preorder, List.cons_append] at hrest
    apply SnapshotNode.map_getElem?_numbers
    refine ⟨rest, ?_⟩
    rw [← List.tail_drop, ← hrest, List.tail_cons]

/-- The ancestry of a control is its way up read backwards, whatever is removed. -/
lemma ancestry_ofNode (removed : List NodeId) (hi : i < (ofNode root).size) :
    let way := ((ofNode root).removeAll removed).ancestry i
    way.head? = some SnapshotTree.root ∧ way.getLast? = some i ∧
      way.IsChain (fun p c => (ofNode root).provider.parent c = .ok (some p)) ∧
      way.Pairwise (· < ·) := by
  have h := recorded_ofNode root
  obtain ⟨hfirst, hlast, hlinked⟩ := h.leadsUp_upward hi (Nat.le_of_lt hi)
  have hordered : ((ofNode root).upward (ofNode root).size i).IsChain (· > ·) :=
    hlinked.imp fun c p hlink => h.parentLink_lt hlink
  dsimp only
  rw [(h.ancestry_removeAll removed i).2, List.head?_reverse, List.getLast?_reverse,
    List.isChain_reverse, List.pairwise_reverse]
  refine ⟨hlast, hfirst, ?_, List.isChain_iff_pairwise.mp hordered⟩
  exact hlinked.imp fun c p hlink => (parent_ofNode_eq_some root).mpr hlink

end OfNode

/-- A snapshot tree is the image of its document: filling one growing table gives its entries, and
there are as many as nodes in the document. The control `i` has the properties of the `i`-th node;
what its links lead down to is an interval that is as long as the node has nodes in it, and its
children are those of the node, in their order. Links up are links down read backwards, and only the
root has none. Whatever is removed, the ancestry of a control is the way from the root to it along
links, and looking further up finds nothing more. -/
theorem image_ofNode (root : SnapshotNode) :
    let t := ofNode root
    root.insert none #[] = (SnapshotTree.root, t.entries) ∧
      t.size = root.preorder.length ∧
      (∀ i d, root.preorder[i]? = some d →
        t.properties? i = some d.properties ∧
        (∀ j, Relation.ReflTransGen t.IsChild i j ↔ i ≤ j ∧ j < i + d.preorder.length) ∧
        ∃ cs, t.provider.children i = .ok cs ∧ cs.Pairwise (· < ·) ∧
          cs.map (root.preorder[·]?) = d.children.map some) ∧
      (∀ p c, (∃ cs, t.provider.children p = .ok cs ∧ c ∈ cs) ↔
        t.provider.parent c = .ok (some p)) ∧
      (∀ c, t.provider.parent c = .ok none ↔ c = SnapshotTree.root) ∧
      ∀ removed,
        let u := t.removeAll removed
        (∀ i, i < t.size →
          (u.ancestry i).head? = some SnapshotTree.root ∧ (u.ancestry i).getLast? = some i ∧
          (u.ancestry i).IsChain (fun p c => t.provider.parent c = .ok (some p)) ∧
          (u.ancestry i).Pairwise (· < ·)) ∧
        (∀ i, t.size ≤ i → u.ancestry i = []) ∧
        ∀ i levels, t.size ≤ levels → (u.upward levels i).reverse = u.ancestry i := by
  intro t
  have h : t.Recorded := recorded_ofNode root
  refine ⟨insert_eq_ofNode root, ?_, fun i d => image_of_getElem? root, fun p c => ?_,
    fun c => parent_ofNode_eq_none root, fun removed => ?_⟩
  · rw [size_ofNode, SnapshotNode.length_preorder]
  · rw [← isChild_ofNode, h.isChild_iff, parent_ofNode_eq_some]
  · refine ⟨fun i => ancestry_ofNode root removed, fun i hi => ?_,
      fun i => (h.ancestry_removeAll removed i).1⟩
    rw [(h.ancestry_removeAll removed i).2, upward_eq_nil hi, List.reverse_nil]

/-- The second control of four, and the way to the third once the second is removed. -/
theorem image_ofNode_two_levels :
    let leaf : SnapshotNode := .node ∅ []
    let d : SnapshotNode := .node (PropertyMap.empty.insert .name (.str "a")) [leaf]
    let root : SnapshotNode := .node ∅ [d, leaf]
    let t := ofNode root
    root.preorder[1]? = some d ∧ t.properties? 1 = some d.properties ∧
      (∀ j, Relation.ReflTransGen t.IsChild 1 j ↔ 1 ≤ j ∧ j < 3) ∧
      t.provider.children 0 = .ok [1, 3] ∧ t.provider.parent 2 = .ok (some 1) ∧
      (t.removeAll [1]).ancestry 2 = [0, 1, 2] ∧
      ((t.removeAll [1]).ancestry 2).Pairwise (· < ·) ∧ (t.removeAll [1]).ancestry 4 = [] := by
  intro leaf d root t
  obtain ⟨-, -, hplace, hlinks, -, hup⟩ := image_ofNode root
  have hd : root.preorder[1]? = some d := by decide +kernel
  have hthird : 2 < t.size := by decide +kernel
  have hsize : t.size ≤ 4 := by decide +kernel
  obtain ⟨hproperties, hbelow, -⟩ := hplace 1 d hd
  obtain ⟨hway, hpast, -⟩ := hup [1]
  obtain ⟨-, -, -, hordered⟩ := hway 2 hthird
  have hchildren : t.provider.children 0 = .ok [1, 3] := by decide +kernel
  have hparent : t.provider.parent 2 = .ok (some 1) :=
    (hlinks 1 2).mp ⟨[2], by decide +kernel, List.mem_singleton_self 2⟩
  have hancestry : (t.removeAll [1]).ancestry 2 = [0, 1, 2] := by decide +kernel
  exact ⟨hd, hproperties, hbelow, hchildren, hparent, hancestry, hordered, hpast 4 hsize⟩

end SnapshotTree

end ControlQuery

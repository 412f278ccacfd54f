import ControlQuery.Proofs.Search.Eager
import ControlQuery.Proofs.Query.Downward
import ControlQuery.Proofs.Snapshot.Subtrees
import Mathlib.Data.List.Flatten
import Mathlib.Data.List.Induction

/-!
# Document order

Numbers follow document order, so results stand in document order when their numbers increase. A
walk down from one control keeps the order, with a limit or without. Walks down from several
contexts are put one behind the other and repetitions are dropped. Without a limit this keeps the
order: the walk from a context below another one brings nothing new. With a limit it does not, since
the lower walk may go deeper, and its controls then stand behind those that the upper walk found
further on. Results are in document order if no walk with a limit has contexts that lie below one
another.
-/

namespace ControlQuery

lemma eraseDups_sublist (ns : List NodeId) : ns.eraseDups.Sublist ns := by
  match ns with
  | [] => exact List.Sublist.slnil
  | n :: ns =>
    rw [List.eraseDups_cons]
    have hrest := eraseDups_sublist (ns.filter fun m => !m == n)
    exact (hrest.trans List.filter_sublist).cons_cons n
termination_by ns.length
decreasing_by exact Nat.lt_succ_of_le (List.length_filter_le _ _)

namespace SnapshotTree

variable {t : SnapshotTree} {parent : Option NodeId} {n m a b : Nat}

/-! ### One walk -/

lemma Records.kids_sublist {properties : PropertyMap} {ds : List SnapshotNode}
    (h : t.Records parent n (.node properties ds)) :
    (t.kids n).Sublist (SnapshotNode.numbers (n + 1) ds) := by
  unfold kids
  rcases entry_eq_stale_or_ok t n with he | ⟨e, he, hentry⟩
  · simp [he, Except.toOption]
  · rw [h.entry_eq] at hentry
    obtain rfl := Option.some.inj hentry
    simp only [he, Except.toOption, Option.map_some, Option.getD_some]
    exact List.filter_sublist

mutual

lemma Records.preorder_sublist : ∀ (levels : Nat) (d : SnapshotNode) {parent : Option NodeId}
    {n : Nat}, t.Records parent n d →
    (t.preorder levels n).Sublist (List.range' (n + 1) (d.size - 1))
  | 0, _, _, n, h => List.nil_sublist _
  | levels + 1, .node properties ds, parent, n, h => by
    have hkids := h.kids_sublist.flatMap fun c => c :: t.preorder levels c
    have hrange := RecordsAll.preorder_sublist levels ds h.children
    rw [preorder, SnapshotNode.size, Nat.add_sub_cancel_left]
    exact hkids.trans hrange

lemma RecordsAll.preorder_sublist : ∀ (levels : Nat) (ds : List SnapshotNode)
    {parent : Option NodeId} {n : Nat}, t.RecordsAll parent n ds →
    ((SnapshotNode.numbers n ds).flatMap fun c => c :: t.preorder levels c).Sublist
      (List.range' n (SnapshotNode.sizeAll ds))
  | _, [], _, n, h => List.nil_sublist _
  | levels, d :: ds, parent, n, h => by
    -- The numbers of the first subtree, then those of the others.
    have hhead := (Records.preorder_sublist levels d h.head).cons_cons n
    have htail := RecordsAll.preorder_sublist levels ds h.tail
    have hpos := size_pos d
    have hsplit : List.range' n (SnapshotNode.sizeAll (d :: ds)) =
        (n :: List.range' (n + 1) (d.size - 1)) ++
          List.range' (n + d.size) (SnapshotNode.sizeAll ds) := by
      rw [SnapshotNode.sizeAll, ← List.range'_append_1, ← List.range'_succ,
        Nat.sub_add_cancel hpos]
    rw [SnapshotNode.numbers, List.flatMap_cons, hsplit]
    exact hhead.append htail

end

lemma preorder_eq_nil_of_size_le {levels : Nat} (hn : t.size ≤ n) : t.preorder levels n = [] := by
  cases levels with
  | zero => rfl
  | succ levels =>
    have hkids : t.kids n = [] := by
      refine List.eq_nil_iff_forall_not_mem.2 fun c hc => ?_
      have hlt := alive_lt (mem_kids.1 hc).1
      omega
    rw [preorder, hkids, List.flatMap_nil]

section Recorded

variable (h : t.Recorded)
include h

/-- A walk down is in document order. -/
lemma Recorded.pairwise_preorder (levels n : Nat) : (t.preorder levels n).Pairwise (· < ·) := by
  by_cases hn : n < t.size
  · obtain ⟨parent, d, hd⟩ := h.exists_records hn
    have hrange : (List.range' (n + 1) (d.size - 1)).Pairwise (· < ·) :=
      List.pairwise_lt_range' 1
    exact hrange.sublist (Records.preorder_sublist levels d hd)
  · rw [preorder_eq_nil_of_size_le (Nat.le_of_not_lt hn)]
    exact List.Pairwise.nil

lemma Recorded.of_mem_preorder {levels : Nat} (hm : m ∈ t.preorder levels n) :
    n < m ∧ m ∈ t.subtree n := by
  by_cases hn : n < t.size
  · obtain ⟨parent, d, hd⟩ := h.exists_records hn
    have hrange := (Records.preorder_sublist levels d hd).subset hm
    rw [List.mem_range'_1] at hrange
    have hpos := size_pos d
    exact ⟨by omega, (hd.mem_subtree (Nat.le_of_lt hn)).2 ⟨by omega, by omega⟩⟩
  · rw [preorder_eq_nil_of_size_le (Nat.le_of_not_lt hn)] at hm
    cases hm

/-- A later control outside a subtree is behind all of it. -/
lemma Recorded.lt_of_mem_subtree (hlt : n < m) (hm : m ∉ t.subtree n) (ha : a ∈ t.subtree n)
    (hb : b ∈ t.subtree m) : a < b := by
  have hn := mem_subtree_lt ha
  obtain ⟨parent, d, hd⟩ := h.exists_records hn
  rw [hd.mem_subtree (Nat.le_of_lt hn)] at hm ha
  have hle := h.le_of_mem_subtree hb
  omega

end Recorded

/-! ### Walks from several contexts -/

/-- Walks put together stay in order if each control of a later walk is behind the earlier walk or
on it. -/
lemma pairwise_union {walk : NodeId → List NodeId} {ns : List NodeId}
    (hwalk : ∀ n ∈ ns, (walk n).Pairwise (· < ·))
    (hcross : ns.Pairwise fun m n => ∀ a ∈ walk m, ∀ b ∈ walk n, b ∈ walk m ∨ a < b) :
    (union walk ns).Pairwise (· < ·) := by
  unfold union
  induction ns using List.reverseRecOn with
  | nil => exact List.Pairwise.nil
  | append_singleton ns n ih =>
    obtain ⟨hns, -, hlast⟩ := List.pairwise_append.1 hcross
    have hbefore := ih (fun m hm => hwalk m (List.mem_append_left _ hm)) hns
    have hnew : (((walk n).removeAll (ns.flatMap walk)).eraseDups).Sublist (walk n) :=
      (eraseDups_sublist _).trans List.filter_sublist
    rw [List.flatMap_append, List.flatMap_singleton, List.eraseDups_append, List.pairwise_append]
    refine ⟨hbefore, (hwalk n (by simp)).sublist hnew, fun a ha b hb => ?_⟩
    rw [List.mem_eraseDups] at ha hb
    -- The last walk adds only what no walk before it led to.
    obtain ⟨m, hm, ham⟩ := List.mem_flatMap.1 ha
    obtain ⟨hbn, hbnew⟩ : b ∈ walk n ∧ b ∉ ns.flatMap walk := by
      simpa [List.removeAll] using hb
    rcases hlast m hm n (List.mem_singleton_self n) a ham b hbn with hbm | hlt
    · exact absurd (List.mem_flatMap.2 ⟨m, hm, hbm⟩) hbnew
    · exact hlt

/-- A walk of no levels stays where it is. -/
lemma pairwise_union_zero {ns : List NodeId} (includeSelf : Bool)
    (hns : ns.Pairwise (· < ·)) :
    (union (fun n => withSelf includeSelf n (t.preorder 0 n)) ns).Pairwise (· < ·) := by
  cases includeSelf with
  | false =>
    have hnil : ns.flatMap (fun n => withSelf false n (t.preorder 0 n)) = [] := by
      simp [withSelf, preorder]
    rw [union, hnil]
    exact List.Pairwise.nil
  | true =>
    have hsame : ns.flatMap (fun n => withSelf true n (t.preorder 0 n)) = ns := by
      simp [withSelf, preorder]
    rw [union, hsame]
    exact hns.sublist (eraseDups_sublist ns)

/-- No control of a list is below another one. -/
def Apart (t : SnapshotTree) (ns : List NodeId) : Prop :=
  ∀ m ∈ ns, ∀ n ∈ ns, n ∈ t.subtree m → n = m

instance (t : SnapshotTree) (ns : List NodeId) : Decidable (t.Apart ns) :=
  inferInstanceAs (Decidable (∀ m ∈ ns, ∀ n ∈ ns, n ∈ t.subtree m → n = m))

section Recorded

variable (h : t.Recorded) {ns : List NodeId}
include h

lemma Recorded.mem_subtree_of_mem_withSelf {levels : Nat} {includeSelf : Bool} (hn : n < t.size)
    (hm : m ∈ withSelf includeSelf n (t.preorder levels n)) : m ∈ t.subtree n := by
  rcases of_mem_withSelf hm with rfl | hm
  · exact mem_below_self hn
  · exact (h.of_mem_preorder hm).2

lemma Recorded.pairwise_withSelf (includeSelf : Bool) (levels n : Nat) :
    (withSelf includeSelf n (t.preorder levels n)).Pairwise (· < ·) := by
  have hwalk := h.pairwise_preorder levels n
  cases includeSelf with
  | false => exact hwalk
  | true => exact List.pairwise_cons.2 ⟨fun m hm => (h.of_mem_preorder hm).1, hwalk⟩

/-- Walks from contexts of which none is below another stay in order, limited or not. -/
lemma Recorded.pairwise_union_of_apart (includeSelf : Bool) (levels : Nat)
    (hal : ∀ n ∈ ns, t.alive n = true) (hns : ns.Pairwise (· < ·)) (hapart : t.Apart ns) :
    (union (fun n => withSelf includeSelf n (t.preorder levels n)) ns).Pairwise (· < ·) := by
  refine pairwise_union (fun n _ => h.pairwise_withSelf includeSelf levels n) ?_
  refine List.Pairwise.imp_of_mem (fun {m n} hm hn hlt a ha b hb => ?_) hns
  have hout : n ∉ t.subtree m := fun hmem => Nat.ne_of_gt hlt (hapart m hm n hn hmem)
  have ham := h.mem_subtree_of_mem_withSelf (alive_lt (hal m hm)) ha
  have hbn := h.mem_subtree_of_mem_withSelf (alive_lt (hal n hn)) hb
  exact .inr (h.lt_of_mem_subtree hlt hout ham hbn)

/-- Walks without a limit stay in order, whatever their contexts. -/
lemma Recorded.pairwise_union_of_size_le (hclosed : t.Closed)
    (includeSelf : Bool) {levels : Nat} (hlevels : t.size ≤ levels)
    (hal : ∀ n ∈ ns, t.alive n = true) (hns : ns.Pairwise (· < ·)) :
    (union (fun n => withSelf includeSelf n (t.preorder levels n)) ns).Pairwise (· < ·) := by
  refine pairwise_union (fun n _ => h.pairwise_withSelf includeSelf levels n) ?_
  refine List.Pairwise.imp_of_mem (fun {m n} hm hn hlt a ha b hb => ?_) hns
  have ham := h.mem_subtree_of_mem_withSelf (alive_lt (hal m hm)) ha
  have hbn := h.mem_subtree_of_mem_withSelf (alive_lt (hal n hn)) hb
  by_cases hin : n ∈ t.subtree m
  · have hbal : t.alive b = true := by
      rcases of_mem_withSelf hb with rfl | hb
      · exact hal b hn
      · exact alive_of_mem_preorder hb
    have hle := h.le_of_mem_subtree hbn
    have hbm : b ∈ t.preorder levels m := by
      rw [h.ordered.preorder_of_size_le hlevels]
      exact hclosed.mem_preorder_of_mem_below (h.subtree_trans hin hbn) hbal
        (Nat.ne_of_gt (Nat.lt_of_lt_of_le hlt hle))
    cases includeSelf with
    | false => exact .inl hbm
    | true => exact .inl (List.mem_cons_of_mem m hbm)
  · exact .inr (h.lt_of_mem_subtree hlt hin ham hbn)

end Recorded

end SnapshotTree

/-! ### Results of queries -/

lemma size_removeAll_ofNode_le {root : SnapshotNode} {s : Setting} (h : root.size ≤ s.reach)
    (removed : List NodeId) : ((SnapshotTree.ofNode root).removeAll removed).size ≤ s.reach := by
  rwa [SnapshotTree.size_removeAll, SnapshotTree.size_ofNode]

section Engine

variable [Regex.Engine]

mutual

/-- Whether, wherever a walk down with a limit sets out, none of its contexts is below another. A
limit that no walk in the tree can reach is none. -/
def Part.walksApart (t : SnapshotTree) (s : Setting) : Part → List NodeId → Bool
  | .identity, _ => true
  | .ancestors _ _, _ => true
  | .descendants none _, _ => true
  | .descendants (some levels) _, contexts =>
    levels == 0 || decide (t.size ≤ levels.toNat) || decide (t.Apart contexts)
  | .composite element, contexts => element.walksApart t s contexts

/-- Whether this is so for parts, one after the other. -/
def Part.allWalkApart (t : SnapshotTree) (s : Setting) : List Part → List NodeId → Bool
  | [], _ => true
  | part :: parts, contexts =>
    part.walksApart t s contexts && Part.allWalkApart t s parts (part.follow t s contexts)

/-- Whether this is so in the scope of an element. -/
def Element.walksApart (t : SnapshotTree) (s : Setting) : Element → List NodeId → Bool
  | { scope, .. }, contexts => Part.allWalkApart t s scope contexts

end

/-- Whether this is so for all walks of a query from a start. -/
def Query.walksApart (t : SnapshotTree) (s : Setting) (q : Query) (n : NodeId) : Bool :=
  Part.allWalkApart t s q.path [n] && q.element.walksApart t s (Part.followAll t s q.path [n])

section Follow

variable {t : SnapshotTree} {s : Setting}

mutual

theorem Part.pairwise_follow (h : t.Recorded) (hclosed : t.Closed) (hreach : t.size ≤ s.reach) :
    ∀ (p : Part) {ns : List NodeId}, p.isDownward = true → p.walksApart t s ns = true →
    t.Contexts ns → ns.Pairwise (· < ·) → (p.follow t s ns).Pairwise (· < ·)
  | .identity, _, _, _, _, hns => by
    rw [Part.follow]
    exact hns
  | .ancestors maxDepth includeSelf, _, hdown, _, _, _ => by
    rw [Part.isDownward] at hdown
    cases hdown
  | .descendants none includeSelf, _, _, _, hcontexts, hns => by
    rw [Part.follow]
    exact h.pairwise_union_of_size_le hclosed includeSelf hreach hcontexts.alive hns
  | .descendants (some levels) includeSelf, _, _, hapart, hcontexts, hns => by
    rw [Part.follow]
    rw [Part.walksApart, Bool.or_eq_true, Bool.or_eq_true, beq_iff_eq, decide_eq_true_eq,
      decide_eq_true_eq] at hapart
    rcases hapart with (rfl | hlevels) | hapart
    · exact SnapshotTree.pairwise_union_zero includeSelf hns
    · exact h.pairwise_union_of_size_le hclosed includeSelf hlevels hcontexts.alive hns
    · exact h.pairwise_union_of_apart includeSelf levels.toNat hcontexts.alive hns hapart
  | .composite e, _, hdown, hapart, hcontexts, hns => by
    rw [Part.isDownward] at hdown
    rw [Part.walksApart] at hapart
    rw [Part.follow]
    exact Element.pairwise_follow h hclosed hreach e hdown hapart hcontexts hns

theorem Part.pairwise_followAll (h : t.Recorded) (hclosed : t.Closed)
    (hreach : t.size ≤ s.reach) : ∀ (ps : List Part) {ns : List NodeId},
    Part.allDownward ps = true → Part.allWalkApart t s ps ns = true → t.Contexts ns →
    ns.Pairwise (· < ·) → (Part.followAll t s ps ns).Pairwise (· < ·)
  | [], _, _, _, _, hns => by
    rw [Part.followAll]
    exact hns
  | p :: ps, _, hdown, hapart, hcontexts, hns => by
    rw [Part.allDownward, Bool.and_eq_true] at hdown
    rw [Part.allWalkApart, Bool.and_eq_true] at hapart
    rw [Part.followAll]
    have hfirst := Part.pairwise_follow h hclosed hreach p hdown.1 hapart.1 hcontexts hns
    exact Part.pairwise_followAll h hclosed hreach ps hdown.2 hapart.2
      (Part.contexts_follow p hcontexts) hfirst

theorem Element.pairwise_follow (h : t.Recorded) (hclosed : t.Closed)
    (hreach : t.size ≤ s.reach) : ∀ (e : Element) {ns : List NodeId}, e.isDownward = true →
    e.walksApart t s ns = true → t.Contexts ns → ns.Pairwise (· < ·) →
    (e.follow t s ns).Pairwise (· < ·)
  | ⟨condition, scope, skip, take⟩, _, hdown, hapart, hcontexts, hns => by
    rw [Element.isDownward] at hdown
    rw [Element.walksApart] at hapart
    rw [Element.follow]
    have hscope := Part.pairwise_followAll h hclosed hreach scope hdown hapart hcontexts hns
    exact (hscope.sublist List.filter_sublist).sublist (Search.pageOf_sublist _ _ _)

end

end Follow

namespace Query

lemma pairwise_results {t : SnapshotTree} {s : Setting} (h : t.Recorded) (hclosed : t.Closed)
    (hreach : t.size ≤ s.reach) {q : Query} {n : NodeId}
    (hdown : q.isDownward = true) (hapart : q.walksApart t s n = true) :
    (q.results t s n).Pairwise (· < ·) := by
  obtain ⟨path, element⟩ := q
  rw [isDownward, Bool.and_eq_true] at hdown
  rw [walksApart, Bool.and_eq_true] at hapart
  rw [results]
  split
  · next hn =>
    have hstart := SnapshotTree.Contexts.singleton hn
    have hpath := Part.pairwise_followAll h hclosed hreach path hdown.1 hapart.1 hstart
      (List.pairwise_singleton _ n)
    have hcontexts := Part.contexts_followAll (s := s) path hstart
    exact Element.pairwise_follow h hclosed hreach element hdown.2 hapart.2 hcontexts hpath
  · exact List.Pairwise.nil

/-- What a search that only looks down yields in a recorded tree. -/
lemma pairwise_drain {t : SnapshotTree} {s : Setting} (h : t.Recorded) (hclosed : t.Closed)
    (hreach : t.size ≤ s.reach) {q : Query} {n : NodeId} (hdown : q.isDownward = true)
    (hapart : q.walksApart t s n = true) :
    ((q.findAll s t.provider n).drain t.provider).1.Pairwise (· < ·) := by
  by_cases hdepth : q.depth ≤ s.maxNesting.toNat
  · rw [q.yields_findAll (SnapshotTree.Agree.refl t s) n hdepth]
    exact pairwise_results h hclosed hreach hdown hapart
  · rw [findAll_of_not_le hdepth]
    exact List.Pairwise.nil

/-- A search that only looks down gives its results in document order if no walk with a limit has
contexts below one another. -/
theorem pairwise_lt_drain_findAll (root : SnapshotNode) (removed : List NodeId) (s : Setting)
    (q : Query) (n : NodeId) (hreach : root.size ≤ s.reach) (hdown : q.isDownward = true)
    (hapart : q.walksApart ((SnapshotTree.ofNode root).removeAll removed) s n = true) :
    let t := (SnapshotTree.ofNode root).removeAll removed
    ((q.findAll s t.provider n).drain t.provider).1.Pairwise (· < ·) := by
  have hrecorded := (SnapshotTree.recorded_ofNode root).removeAll removed
  have hclosed := (SnapshotTree.removedAt_removeAll root removed).closed
  exact pairwise_drain hrecorded hclosed (size_removeAll_ofNode_le hreach removed) hdown hapart

end Query

end Engine

/-- A walk with a limit from two controls that are apart, one below each of them being removed. -/
theorem Query.pairwise_lt_drain_findAll_two_levels :
    let root : SnapshotNode :=
      .node ∅ [.node ∅ [.node ∅ [.node ∅ []]], .node ∅ [.node ∅ [], .node ∅ []]]
    let t := (SnapshotTree.ofNode root).removeAll [5]
    let q : Query :=
      { path := [.children], element := .ofScope [.descendants (some 2) true] }
    (root.size ≤ 7 ∧ q.isDownward = true ∧ q.walksApart t { reach := 7 } 0 = true) ∧
      ((q.findAll { reach := 7 } t.provider 0).drain t.provider).1.Pairwise (· < ·) := by
  intro root t q
  have hreach : root.size ≤ ({ reach := 7 } : Setting).reach := by decide
  have hdown : q.isDownward = true := by decide +kernel
  have hapart : q.walksApart t { reach := 7 } 0 = true := by decide +kernel
  exact ⟨⟨hreach, hdown, hapart⟩,
    pairwise_lt_drain_findAll root [5] { reach := 7 } q 0 hreach hdown hapart⟩

/-- The children of each control of a tree: those of an upper control come before those of a lower
one that lies between them. -/
theorem Query.drain_findAll_not_pairwise :
    let t := SnapshotTree.ofNode (.node ∅ [.node ∅ [.node ∅ [.node ∅ []], .node ∅ []]])
    let q : Query :=
      { path := [.composite (.ofScope [.descendants none false])]
        element := .ofScope [.children] }
    q.isDownward = true ∧
      (q.findAll { reach := 5 } t.provider 0).drain t.provider = ([2, 4, 3], none) ∧
      ¬[2, 4, 3].Pairwise (· < ·) := by
  decide +kernel

end ControlQuery

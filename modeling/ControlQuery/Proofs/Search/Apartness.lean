import ControlQuery.Proofs.Search.DocumentOrder

/-!
# Queries whose results are in document order on any tree

What stands in a query can tell that no walk with a limit will have contexts below one another. A
search starts from one control. Children of controls that are apart are apart again, and so are the
controls of a page of one. Past a walk that goes deeper only walks without a limit are safe.
-/

namespace ControlQuery

section Engine

variable [Regex.Engine]

mutual

/-- Whether the results of a part are apart whatever the tree, where `apart` says this of its
contexts. There is no answer if a walk with a limit may have contexts below one another. -/
def Part.apartness : Part → Bool → Option Bool
  | .identity, apart => some apart
  | .ancestors _ _, _ => some false
  | .descendants none _, _ => some false
  | .descendants (some levels) includeSelf, apart =>
    if apart then some (decide (levels.toNat ≤ 1) && !includeSelf) else none
  | .composite element, apart => element.apartness apart

/-- Whether the results of parts, one after the other, are apart. -/
def Part.apartnessOfList : List Part → Bool → Option Bool
  | [], apart => some apart
  | part :: parts, apart => (part.apartness apart).bind (Part.apartnessOfList parts)

/-- Whether the results of an element are apart. -/
def Element.apartness : Element → Bool → Option Bool
  | { scope, take, .. }, apart =>
    (Part.apartnessOfList scope apart).map fun apart =>
      apart || take.any fun count => decide (count.toNat ≤ 1)

end

/-- Whether each walk of a query with a limit has contexts that are apart, whatever the tree. -/
def Query.isOrderly (q : Query) : Bool :=
  ((Part.apartnessOfList q.path true).bind q.element.apartness).isSome

end Engine

namespace SnapshotTree

variable {t : SnapshotTree} {ns ms : List NodeId} {n m : Nat}

lemma apart_of_length_le (h : ns.length ≤ 1) : t.Apart ns := by
  intro m hm n hn _
  match ns, h with
  | [k], _ => rw [List.mem_singleton.1 hm, List.mem_singleton.1 hn]

lemma Apart.sublist (h : t.Apart ns) (hs : ms.Sublist ns) : t.Apart ms := by
  intro m hm n hn hmem
  exact h m (hs.subset hm) n (hs.subset hn) hmem

lemma isChild_of_mem_preorder {levels : Nat} (hlevels : levels ≤ 1)
    (hm : m ∈ t.preorder levels n) : t.IsChild n m := by
  match levels, hlevels with
  | 1, _ =>
    obtain ⟨c, hc, hm⟩ := List.mem_flatMap.1 hm
    obtain rfl := List.mem_singleton.1 hm
    exact (mem_kids.1 hc).2.1

/-- Children of controls that are apart are apart. -/
lemma Recorded.apart_children (h : t.Recorded) (hapart : t.Apart ns) {levels : Nat}
    (hlevels : levels ≤ 1) :
    t.Apart (union (fun n => withSelf false n (t.preorder levels n)) ns) := by
  intro c hc d hd hmem
  rw [union, List.mem_eraseDups] at hc hd
  obtain ⟨p, hp, hc⟩ := List.mem_flatMap.1 hc
  obtain ⟨q, hq, hd⟩ := List.mem_flatMap.1 hd
  have hpc := isChild_of_mem_preorder hlevels hc
  have hqd := isChild_of_mem_preorder hlevels hd
  rcases (h.mem_subtree_child hqd).1 hmem with heq | hqc
  · exact heq
  · -- The parent of the second one would be below the first one, hence below that one's parent.
    have hqp := h.subtree_trans (h.of_mem_preorder hc).2 hqc
    obtain rfl := hapart p hp q hq hqp
    have hle := h.le_of_mem_subtree hqc
    have hlt := h.lt_of_isChild hpc
    exact absurd hle (Nat.not_le_of_lt hlt)

end SnapshotTree

section Engine

variable [Regex.Engine]

section Follow

variable {t : SnapshotTree} {s : Setting}

mutual

theorem Part.walksApart_of_apartness (h : t.Recorded) : ∀ (p : Part) {apart result : Bool}
    {ns : List NodeId}, p.apartness apart = some result → (apart = true → t.Apart ns) →
    p.walksApart t s ns = true ∧ (result = true → t.Apart (p.follow t s ns))
  | .identity, _, _, _, hp, hns => by
    rw [Part.apartness] at hp
    obtain rfl := Option.some.inj hp
    rw [Part.walksApart, Part.follow]
    exact ⟨rfl, hns⟩
  | .ancestors _ _, _, _, _, hp, _ => by
    rw [Part.apartness] at hp
    obtain rfl := Option.some.inj hp
    rw [Part.walksApart]
    exact ⟨rfl, fun hfalse => by cases hfalse⟩
  | .descendants none _, _, _, _, hp, _ => by
    rw [Part.apartness] at hp
    obtain rfl := Option.some.inj hp
    rw [Part.walksApart]
    exact ⟨rfl, fun hfalse => by cases hfalse⟩
  | .descendants (some levels) includeSelf, apart, _, ns, hp, hns => by
    rw [Part.apartness] at hp
    cases apart with
    | false => cases hp
    | true =>
      obtain rfl := Option.some.inj hp
      have hapart := hns rfl
      rw [Part.walksApart, Part.follow, Bool.or_eq_true, decide_eq_true_eq, Bool.and_eq_true,
        decide_eq_true_eq]
      refine ⟨.inr hapart, ?_⟩
      rintro ⟨hlevels, hself⟩
      rw [Bool.not_eq_true'] at hself
      subst hself
      exact h.apart_children hapart hlevels
  | .composite e, _, _, _, hp, hns => by
    rw [Part.apartness] at hp
    rw [Part.walksApart, Part.follow]
    exact Element.walksApart_of_apartness h e hp hns

theorem Part.allWalkApart_of_apartness (h : t.Recorded) : ∀ (ps : List Part)
    {apart result : Bool} {ns : List NodeId}, Part.apartnessOfList ps apart = some result →
    (apart = true → t.Apart ns) →
    Part.allWalkApart t s ps ns = true ∧ (result = true → t.Apart (Part.followAll t s ps ns))
  | [], _, _, _, hps, hns => by
    rw [Part.apartnessOfList] at hps
    obtain rfl := Option.some.inj hps
    rw [Part.allWalkApart, Part.followAll]
    exact ⟨rfl, hns⟩
  | p :: ps, _, _, _, hps, hns => by
    rw [Part.apartnessOfList] at hps
    obtain ⟨between, hp, hps⟩ := Option.bind_eq_some_iff.1 hps
    obtain ⟨hwalk, hbetween⟩ := Part.walksApart_of_apartness h p hp hns
    obtain ⟨hwalks, hresult⟩ := Part.allWalkApart_of_apartness h ps hps hbetween
    rw [Part.allWalkApart, Part.followAll, hwalk, hwalks]
    exact ⟨rfl, hresult⟩

theorem Element.walksApart_of_apartness (h : t.Recorded) : ∀ (e : Element) {apart result : Bool}
    {ns : List NodeId}, e.apartness apart = some result → (apart = true → t.Apart ns) →
    e.walksApart t s ns = true ∧ (result = true → t.Apart (e.follow t s ns))
  | ⟨condition, scope, skip, take⟩, _, _, ns, he, hns => by
    rw [Element.apartness] at he
    obtain ⟨found, hscope, rfl⟩ := Option.map_eq_some_iff.1 he
    obtain ⟨hwalks, hfound⟩ := Part.allWalkApart_of_apartness h scope hscope hns
    rw [Element.walksApart, Element.follow]
    refine ⟨hwalks, fun hresult => ?_⟩
    rw [Bool.or_eq_true] at hresult
    rcases hresult with hresult | hresult
    · exact ((hfound hresult).sublist List.filter_sublist).sublist (Search.pageOf_sublist _ _ _)
    · obtain ⟨count, rfl, hcount⟩ := (Option.any_eq_true _ _).1 hresult
      have hone : count.toNat ≤ 1 := of_decide_eq_true hcount
      exact SnapshotTree.apart_of_length_le (Nat.le_trans (List.length_take_le _ _) hone)

end

end Follow

namespace Query

lemma walksApart_of_isOrderly {t : SnapshotTree} (h : t.Recorded) {q : Query}
    (hq : q.isOrderly = true) (s : Setting) (n : NodeId) : q.walksApart t s n = true := by
  obtain ⟨result, hresult⟩ := Option.isSome_iff_exists.1 hq
  obtain ⟨between, hpath, helement⟩ := Option.bind_eq_some_iff.1 hresult
  have hstart : true = true → t.Apart [n] := fun _ =>
    SnapshotTree.apart_of_length_le (Nat.le_refl 1)
  obtain ⟨hwalks, hbetween⟩ := Part.allWalkApart_of_apartness (s := s) h q.path hpath hstart
  obtain ⟨hwalk, -⟩ := Element.walksApart_of_apartness h q.element helement hbetween
  rw [walksApart, hwalks, hwalk]
  rfl

/-- A search with an orderly query that only looks down gives its results in document order, whatever
the tree. -/
theorem pairwise_drain_of_isOrderly (root : SnapshotNode) (removed : List NodeId) (s : Setting)
    (q : Query) (n : NodeId) (hreach : root.size ≤ s.reach) (hdown : q.isDownward = true)
    (hq : q.isOrderly = true) :
    let t := (SnapshotTree.ofNode root).removeAll removed
    ((q.findAll s t.provider n).drain t.provider).1.Pairwise (· < ·) := by
  have hrecorded := (SnapshotTree.recorded_ofNode root).removeAll removed
  have hclosed := (SnapshotTree.removedAt_removeAll root removed).closed
  have hapart := walksApart_of_isOrderly hrecorded hq s n
  exact pairwise_drain hrecorded hclosed (size_removeAll_ofNode_le hreach removed) hdown hapart

end Query

end Engine

/-- The first match anywhere, then its children, then all below these. -/
example : Query.isOrderly
    { path := [.composite { scope := [.descendants none false], take := some 1 }, .children]
      element := .ofScope [.descendants none false] } = true := by
  decide

end ControlQuery

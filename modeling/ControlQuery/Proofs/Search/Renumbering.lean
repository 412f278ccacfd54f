import ControlQuery.Proofs.Search.Eager
import ControlQuery.Proofs.Snapshot.Pruning

/-!
# Searches in pruned trees

A search cannot tell a tree that has lost some controls from the tree of a snapshot that never had
them. If one tree mirrors another, walks from a control and from its counterpart lead to
counterparts in the same order, so parts, conditions and pages give counterparts too.
-/

namespace ControlQuery

/-- Distinct images can be told apart as well as what they come from. -/
lemma eraseDups_map {ρ : NodeId → NodeId} {ns : List NodeId}
    (h : ∀ n ∈ ns, ∀ m ∈ ns, ρ n = ρ m → n = m) :
    (ns.map ρ).eraseDups = ns.eraseDups.map ρ := by
  match ns with
  | [] => rfl
  | n :: ns =>
    have hsame : (ns.map ρ).filter (fun m => !m == ρ n) = (ns.filter fun m => !m == n).map ρ := by
      rw [List.filter_map]
      congr 1
      refine List.filter_congr fun m hm => ?_
      have heq := h m (List.mem_cons_of_mem n hm) n List.mem_cons_self
      by_cases hmn : m = n
      · simp [hmn]
      · have hne : ρ m ≠ ρ n := fun hρ => hmn (heq hρ)
        simp [hmn, hne]
    have hrest : ∀ m ∈ ns.filter (fun m => !m == n), ∀ k ∈ ns.filter (fun m => !m == n),
        ρ m = ρ k → m = k := fun m hm k hk =>
      h m (List.mem_cons_of_mem n (List.mem_filter.1 hm).1) k
        (List.mem_cons_of_mem n (List.mem_filter.1 hk).1)
    rw [List.map_cons, List.eraseDups_cons, List.eraseDups_cons, List.map_cons, hsame,
      eraseDups_map hrest]
termination_by ns.length
decreasing_by exact Nat.lt_succ_of_le (List.length_filter_le _ _)

lemma Search.pageOf_map {α β : Type} (f : α → β) (skip : Nat) (take : Option Nat) (ns : List α) :
    pageOf skip take (ns.map f) = (pageOf skip take ns).map f := by
  cases take with
  | none => simp [pageOf]
  | some count => simp [pageOf]

namespace SnapshotTree

variable {t t' : SnapshotTree} {ρ : NodeId → NodeId} {n m : NodeId}

lemma alive_of_mem_within {steps : Nat} (hn : t.alive n = true) (hm : m ∈ t.within steps n) :
    t.alive m = true := by
  induction steps generalizing n with
  | zero =>
    obtain rfl := List.mem_singleton.1 hm
    exact hn
  | succ steps ih =>
    rcases mem_within_succ.1 hm with rfl | ⟨c, hc, hm⟩
    · exact hn
    · exact ih (alive_of_mem_links hc) hm

lemma map_withSelf (includeSelf : Bool) (n : NodeId) (ns : List NodeId) :
    withSelf includeSelf (ρ n) (ns.map ρ) = (withSelf includeSelf n ns).map ρ := by
  cases includeSelf <;> rfl

lemma alive_of_mem_nearby (hn : t.alive n = true) {d : Distance} (hm : m ∈ t.nearby n d) :
    t.alive m = true := by
  cases d with
  | up steps => exact alive_of_mem_chain hm
  | down steps => exact alive_of_mem_preorder hm
  | any steps => exact alive_of_mem_within hn (List.mem_filter.1 hm).1

/-- Walks that go on from counterparts lead to counterparts. -/
lemma map_flatMap_of_eq {ns : List NodeId} {walk walk' : NodeId → List NodeId}
    (hwalk : ∀ c ∈ ns, walk' (ρ c) = (walk c).map ρ) :
    (ns.map ρ).flatMap walk' = (ns.flatMap walk).map ρ := by
  rw [List.flatMap_map, List.map_flatMap]
  exact List.flatMap_congr hwalk

section Mirrors

variable (h : t.Mirrors t' ρ)
include h

/-! ### Walks -/

lemma Mirrors.value (hn : t.alive n = true) : t'.value (ρ n) = t.value n := by
  funext id
  rw [SnapshotTree.value, SnapshotTree.value, h.properties? n hn]

lemma Mirrors.chain (levels : Nat) (hn : t.alive n = true) :
    t'.chain levels (ρ n) = (t.chain levels n).map ρ := by
  induction levels generalizing n with
  | zero => rfl
  | succ levels ih =>
    rw [SnapshotTree.chain, SnapshotTree.chain, h.parent? n hn]
    cases hp : t.parent? n with
    | none => rfl
    | some p =>
      have hrest := ih (alive_of_parent? hp)
      simp only [Option.map_some, List.map_cons, hrest]

lemma Mirrors.preorder (levels : Nat) (hn : t.alive n = true) :
    t'.preorder levels (ρ n) = (t.preorder levels n).map ρ := by
  induction levels generalizing n with
  | zero => rfl
  | succ levels ih =>
    rw [SnapshotTree.preorder, SnapshotTree.preorder, h.kids n hn]
    refine map_flatMap_of_eq fun c hc => ?_
    rw [ih (alive_of_mem_kids hc), List.map_cons]

lemma Mirrors.links (hn : t.alive n = true) : t'.links (ρ n) = (t.links n).map ρ := by
  rw [SnapshotTree.links, SnapshotTree.links, h.parent? n hn, h.kids n hn, List.map_append]
  cases t.parent? n <;> rfl

lemma Mirrors.within (steps : Nat) (hn : t.alive n = true) :
    t'.within steps (ρ n) = (t.within steps n).map ρ := by
  induction steps generalizing n with
  | zero => rfl
  | succ steps ih =>
    have hlinks : (t'.links (ρ n)).flatMap (t'.within steps) =
        ((t.links n).flatMap (t.within steps)).map ρ := by
      rw [h.links hn]
      exact map_flatMap_of_eq fun c hc => ih (alive_of_mem_links hc)
    rw [SnapshotTree.within, SnapshotTree.within, hlinks, List.map_cons]

lemma Mirrors.nearby (hn : t.alive n = true) (d : Distance) :
    t'.nearby (ρ n) d = (t.nearby n d).map ρ := by
  cases d with
  | up steps => exact h.chain steps.toNat hn
  | down steps => exact h.preorder steps.toNat hn
  | any steps =>
    rw [SnapshotTree.nearby, SnapshotTree.nearby, h.within steps.toNat hn, List.filter_map]
    congr 1
    refine List.filter_congr fun m hm => ?_
    have hm := alive_of_mem_within hn hm
    have heq : ρ m = ρ n ↔ m = n := ⟨h.eq_of_eq hm hn, fun heq => heq ▸ rfl⟩
    simp [heq]

lemma Mirrors.union {ns : List NodeId} {includeSelf : Bool} {walk walk' : NodeId → List NodeId}
    (hns : t.Contexts ns) (hw : ∀ n, ∀ m ∈ walk n, t.alive m = true)
    (hwalk : ∀ n, t.alive n = true → walk' (ρ n) = (walk n).map ρ) :
    SnapshotTree.union (fun n => withSelf includeSelf n (walk' n)) (ns.map ρ) =
      (SnapshotTree.union (fun n => withSelf includeSelf n (walk n)) ns).map ρ := by
  have hall := (hns.union includeSelf hw).alive
  have hmap : (ns.map ρ).flatMap (fun n => withSelf includeSelf n (walk' n)) =
      (ns.flatMap fun n => withSelf includeSelf n (walk n)).map ρ := by
    refine map_flatMap_of_eq fun c hc => ?_
    rw [hwalk c (hns.alive c hc), map_withSelf]
  rw [SnapshotTree.union, SnapshotTree.union, hmap]
  refine eraseDups_map fun n hn m hm => h.eq_of_eq (hall n ?_) (hall m ?_)
  · exact List.mem_eraseDups.2 hn
  · exact List.mem_eraseDups.2 hm

end Mirrors

end SnapshotTree

/-! ### Results of queries -/

section Engine

variable [Regex.Engine]

section Mirrors

variable {t t' : SnapshotTree} {ρ : NodeId → NodeId}

mutual

theorem Condition.holds_of_mirrors (s : Setting) (h : t.Mirrors t' ρ) :
    ∀ (c : Condition) {n : NodeId}, t.alive n = true → c.holds t' s (ρ n) = c.holds t s n
  | .property c, n, hn => by
    rw [Condition.holds, Condition.holds, h.value hn]
  | .function f, n, hn => by
    rw [Condition.holds, Condition.holds, h.value hn]
  | .logical .and left right, n, hn => by
    rw [Condition.holds, Condition.holds, Condition.holds_of_mirrors s h left hn,
      Condition.holds_of_mirrors s h right hn]
  | .logical .or left right, n, hn => by
    rw [Condition.holds, Condition.holds, Condition.holds_of_mirrors s h left hn,
      Condition.holds_of_mirrors s h right hn]
  | .hasElement q, n, hn => by
    rw [Condition.holds, Condition.holds, Query.results_of_mirrors s h q hn, List.isEmpty_map]
  | .relative d c, n, hn => by
    rw [Condition.holds, Condition.holds, h.nearby hn d, List.any_map]
    rw [Bool.eq_iff_iff, List.any_eq_true, List.any_eq_true]
    refine exists_congr fun m => and_congr_right fun hm => ?_
    have halive := SnapshotTree.alive_of_mem_nearby hn hm
    rw [Function.comp_apply, Condition.targetHolds_of_mirrors s h c halive]

theorem Condition.targetHolds_of_mirrors (s : Setting) (h : t.Mirrors t' ρ) :
    ∀ (c : Option Condition) {n : NodeId}, t.alive n = true →
    Condition.targetHolds t' s c (ρ n) = Condition.targetHolds t s c n
  | none, n, hn => by
    rw [Condition.targetHolds, Condition.targetHolds]
  | some c, n, hn => by
    rw [Condition.targetHolds, Condition.targetHolds, Condition.holds_of_mirrors s h c hn]

theorem Part.follow_of_mirrors (s : Setting) (h : t.Mirrors t' ρ) :
    ∀ (p : Part) {ns : List NodeId}, t.Contexts ns →
    p.follow t' s (ns.map ρ) = (p.follow t s ns).map ρ
  | .identity, ns, _ => by
    rw [Part.follow, Part.follow]
  | .ancestors maxDepth includeSelf, ns, hns => by
    rw [Part.follow, Part.follow]
    exact h.union hns (fun n m hm => SnapshotTree.alive_of_mem_chain hm)
      fun n hn => h.chain (s.levels maxDepth) hn
  | .descendants maxDepth includeSelf, ns, hns => by
    rw [Part.follow, Part.follow]
    exact h.union hns (fun n m hm => SnapshotTree.alive_of_mem_preorder hm)
      fun n hn => h.preorder (s.levels maxDepth) hn
  | .composite e, ns, hns => by
    rw [Part.follow, Part.follow]
    exact Element.follow_of_mirrors s h e hns

theorem Part.followAll_of_mirrors (s : Setting) (h : t.Mirrors t' ρ) :
    ∀ (ps : List Part) {ns : List NodeId}, t.Contexts ns →
    Part.followAll t' s ps (ns.map ρ) = (Part.followAll t s ps ns).map ρ
  | [], ns, _ => by
    rw [Part.followAll, Part.followAll]
  | p :: ps, ns, hns => by
    have hrest := Part.followAll_of_mirrors s h ps (Part.contexts_follow (s := s) p hns)
    rw [Part.followAll, Part.followAll, Part.follow_of_mirrors s h p hns, hrest]

theorem Element.follow_of_mirrors (s : Setting) (h : t.Mirrors t' ρ) :
    ∀ (e : Element) {ns : List NodeId}, t.Contexts ns →
    e.follow t' s (ns.map ρ) = (e.follow t s ns).map ρ
  | ⟨condition, scope, skip, take⟩, ns, hns => by
    have hscope := (Part.contexts_followAll (s := s) scope hns).alive
    rw [Element.follow, Element.follow, Part.followAll_of_mirrors s h scope hns, List.filter_map,
      Search.pageOf_map]
    congr 2
    refine List.filter_congr fun n hn => ?_
    exact Condition.targetHolds_of_mirrors s h condition (hscope n hn)

/-- From a counterpart a query finds the counterparts, in the same order. -/
theorem Query.results_of_mirrors (s : Setting) (h : t.Mirrors t' ρ) :
    ∀ (q : Query) {n : NodeId}, t.alive n = true →
    q.results t' s (ρ n) = (q.results t s n).map ρ
  | ⟨path, element⟩, n, hn => by
    have hstart := SnapshotTree.Contexts.singleton hn
    have hpath := Part.followAll_of_mirrors s h path hstart
    rw [Query.results, Query.results, if_pos hn, if_pos (h.alive hn)]
    rw [List.map_singleton] at hpath
    rw [hpath]
    exact Element.follow_of_mirrors s h element (Part.contexts_followAll path hstart)

end

end Mirrors

end Engine

namespace Query

/-- A search in a tree from which controls were removed answers as one in the tree of a snapshot
that never had them, up to the numbers of the controls. -/
theorem answers_findAll_without [Regex.Engine] (node : SnapshotNode) (removed : List NodeId)
    (h : SnapshotTree.root ∉ removed) (s : Setting) (q : Query) (n : NodeId)
    (hn : ((SnapshotTree.ofNode node).removeAll removed).alive n = true) :
    let t := (SnapshotTree.ofNode node).removeAll removed
    let t' := SnapshotTree.ofNode (node.without removed SnapshotTree.root)
    t.Renumbers t' t.rank ∧
      ∀ k, (q.findAll s t'.provider (t.rank n)).answers t'.provider k =
        ((q.findAll s t.provider n).answers t.provider k).map (Except.map t.rank) := by
  intro t t'
  have hmirrors : t.Mirrors t' t.rank := SnapshotTree.mirrors_removeAll node h
  refine ⟨hmirrors.toRenumbers, fun k => ?_⟩
  by_cases hdepth : q.depth ≤ s.maxNesting.toNat
  · have hanswers := (q.yields_findAll (SnapshotTree.Agree.refl t s) n hdepth).answers k
    have hanswers' :=
      (q.yields_findAll (SnapshotTree.Agree.refl t' s) (t.rank n) hdepth).answers k
    rw [hanswers, hanswers', q.results_of_mirrors s hmirrors hn]
    rw [List.map_map, List.getElem?_map, List.getElem?_map, Option.map_map]
    rfl
  · rw [findAll_of_not_le hdepth, findAll_of_not_le hdepth, Search.answers_eq, Search.answers_eq]
    cases k <;> rfl

/-- Of two subtrees one is removed whole and the other in part. A walk up from what is left finds
the second control as the only child of the root. -/
theorem answers_findAll_without_two_subtrees :
    let node : SnapshotNode := .node ∅ [.node ∅ [.node ∅ []], .node ∅ [.node ∅ [], .node ∅ []]]
    let t := (SnapshotTree.ofNode node).removeAll [4, 1]
    let t' := SnapshotTree.ofNode (.node ∅ [.node ∅ [.node ∅ []]])
    let q : Query := { path := [], element := .ofScope [.ancestors none true] }
    (SnapshotTree.root ∉ [4, 1] ∧ t.alive 5 = true) ∧
      (q.findAll { reach := 6 } t.provider 5).answers t.provider 1 = some (.ok 3) ∧
      (q.findAll { reach := 6 } t'.provider 2).answers t'.provider 1 = some (.ok 1) := by
  intro node t t' q
  have hroot : SnapshotTree.root ∉ [4, 1] := by decide
  have hn : t.alive 5 = true := by decide +kernel
  have hfirst : (q.findAll { reach := 6 } t.provider 5).answers t.provider 1 = some (.ok 3) := rfl
  have hanswers := (answers_findAll_without node [4, 1] hroot { reach := 6 } q 5 hn).2 1
  exact ⟨⟨hroot, hn⟩, hfirst, hanswers.trans (congrArg _ hfirst)⟩

end Query

end ControlQuery

import ControlQuery.Proofs.Search.Results
import ControlQuery.Regex.Standard

/-!
# Searches come to their results

A search is a tower of conversations: walks that remember where they are, filters that ask in
between, sub-queries inside of conditions. The main statement is that the answers to one request
after the other are the results of the query in order, and then nothing more. The induction goes
over conditions, parts, elements and queries at once, and carries that the contexts of each part
are valid controls without repetition.
-/

namespace ControlQuery

/-- Two settings under which walks and predicates come to the same in a tree. -/
structure SnapshotTree.Agree (t : SnapshotTree) (s r : Setting) : Prop where
  predicates : s.predicates = r.predicates
  chain : ∀ maxDepth n, t.chain (s.levels maxDepth) n = t.chain (r.levels maxDepth) n
  preorder : ∀ maxDepth n, t.preorder (s.levels maxDepth) n = t.preorder (r.levels maxDepth) n

section Drain

variable {t : SnapshotTree} {s r : Setting}

open SnapshotTree (entry_eq_stale_or_ok)

lemma SnapshotTree.reply_property (t : SnapshotTree) (n : NodeId) (id : PropertyId) :
    t.provider.property n id = .error .stale ∧ t.value n id = none ∨
      t.provider.property n id = .ok (t.value n id) := by
  rcases entry_eq_stale_or_ok t n with he | ⟨e, he, -⟩
  · exact .inl ⟨by simp [provider, he, Except.map],
      by simp [value, properties?, he, Except.toOption]⟩
  · exact .inr (by simp [provider, value, properties?, he, Except.map, Except.toOption])

lemma Predicate.run_evaluate (p : Predicate) (n : NodeId) :
    (p.evaluate n none).run t.provider = .ok (p.holds (t.value n)) := by
  induction p with
  | answer b => rfl
  | read id next ih =>
    rw [Predicate.evaluate, Inquiry.run, Predicate.holds]
    rcases t.reply_property n id with ⟨h, hv⟩ | h
    · simp only [Provider.reply, h, hv]
      exact ih none
    · simp only [Provider.reply, h]
      exact ih _

lemma PropertyCondition.run_evaluate [Regex.Engine] (c : PropertyCondition) (n : NodeId) :
    (c.evaluate n).run t.provider = .ok (c.holds (t.value n c.property)) := by
  rw [PropertyCondition.evaluate, Inquiry.run]
  rcases t.reply_property n c.property with ⟨h, hv⟩ | h
  · simp only [Provider.reply, h, hv]
    rfl
  · simp only [Provider.reply, h]
    rfl

lemma Connective.run_evaluate (op : Connective) {first second : Inquiry NodeId Bool} {a b : Bool}
    {P : Provider NodeId} (hfirst : first.run P = .ok a) (hsecond : second.run P = .ok b) :
    (op.evaluate first second).run P =
      .ok (match op with
        | .and => a && b
        | .or => a || b) := by
  rw [Connective.evaluate, Inquiry.run_bind hfirst]
  cases op with
  | and =>
    cases a with
    | true => exact hsecond
    | false => rfl
  | or =>
    cases a with
    | true => rfl
    | false => exact hsecond

/-- The walk of a distance, up to the order in which it finds its controls. -/
lemma Distance.yields_walk (d : Distance) (n : NodeId) : ∃ ns : List NodeId,
    (d.walk n).Yields t.provider ns ∧ ∀ m, m ∈ ns ↔ m ∈ t.nearby n d := by
  cases d with
  | up steps => exact ⟨_, Search.yields_climb t steps.toNat n, fun m => Iff.rfl⟩
  | down steps =>
    exact ⟨_, Search.yields_descendants t steps.toNat false (by simp), fun m => Iff.rfl⟩
  | any steps => exact Search.yields_neighbourhood t steps.toNat n

lemma any_eq_any_of_mem_iff {ns ms : List NodeId} (h : ∀ m, m ∈ ns ↔ m ∈ ms) (b : NodeId → Bool) :
    ns.any b = ms.any b := by
  rw [Bool.eq_iff_iff, List.any_eq_true, List.any_eq_true]
  simp only [h]

variable [Regex.Engine]

mutual

theorem Condition.run_evaluate (h : t.Agree s r) : ∀ (c : Condition) (n : NodeId),
    (c.evaluate s n).run t.provider = .ok (c.holds t r n)
  | .property c, n => by
    rw [Condition.evaluate, Condition.holds]
    exact PropertyCondition.run_evaluate c n
  | .function f, n => by
    rw [Condition.evaluate, Condition.holds, h.predicates]
    exact Predicate.run_evaluate _ n
  | .logical .and left right, n => by
    rw [Condition.evaluate, Condition.holds]
    exact Connective.run_evaluate .and (Condition.run_evaluate h left n)
      (Condition.run_evaluate h right n)
  | .logical .or left right, n => by
    rw [Condition.evaluate, Condition.holds]
    exact Connective.run_evaluate .or (Condition.run_evaluate h left n)
      (Condition.run_evaluate h right n)
  | .hasElement q, n => by
    rw [Condition.evaluate, Condition.holds, Inquiry.run,
      Inquiry.run_bind (Query.yields_search h q n).run_nonempty]
    rfl
  | .relative d c, n => by
    rw [Condition.evaluate, Condition.holds]
    obtain ⟨ns, hns, hmem⟩ := d.yields_walk n
    rw [hns.run_any fun m _ => Condition.run_evaluateTarget h c m, any_eq_any_of_mem_iff hmem]

theorem Condition.run_evaluateTarget (h : t.Agree s r) : ∀ (c : Option Condition) (n : NodeId),
    (Condition.evaluateTarget s c n).run t.provider = .ok (Condition.targetHolds t r c n)
  | none, _ => by
    rw [Condition.evaluateTarget, Condition.targetHolds]
    rfl
  | some c, n => by
    rw [Condition.evaluateTarget, Condition.targetHolds]
    exact Condition.run_evaluate h c n

theorem Part.yields_pursue (h : t.Agree s r) :
    ∀ (p : Part) {found : Search NodeId} {ns : List NodeId},
    found.Yields t.provider ns → t.Contexts ns →
    (p.pursue s found).Yields t.provider (p.follow t r ns)
  | .identity, found, ns, hs, _ => by
    rw [Part.pursue, Part.follow]
    exact hs
  | .ancestors maxDepth includeSelf, found, ns, hs, _ => by
    rw [Part.pursue, Part.follow]
    refine (hs.flatMap fun n _ => ?_).distinct_nil
    rw [← h.chain]
    exact Search.yields_ancestors t _ includeSelf n
  | .descendants maxDepth includeSelf, found, ns, hs, hns => by
    rw [Part.pursue, Part.follow]
    refine (hs.flatMap fun n hn => ?_).distinct_nil
    rw [← h.preorder]
    exact Search.yields_descendants t _ includeSelf fun _ => hns.alive n hn
  | .composite e, found, ns, hs, hns => by
    rw [Part.pursue, Part.follow]
    exact Element.yields_pursue h e hs hns

theorem Part.yields_pursueAll (h : t.Agree s r) :
    ∀ (ps : List Part) {found : Search NodeId} {ns : List NodeId},
    found.Yields t.provider ns → t.Contexts ns →
    (Part.pursueAll s ps found).Yields t.provider (Part.followAll t r ps ns)
  | [], found, ns, hs, _ => by
    rw [Part.pursueAll, Part.followAll]
    exact hs
  | p :: ps, found, ns, hs, hns => by
    rw [Part.pursueAll, Part.followAll]
    exact Part.yields_pursueAll h ps (Part.yields_pursue h p hs hns) (Part.contexts_follow p hns)

theorem Element.yields_pursue (h : t.Agree s r) :
    ∀ (e : Element) {found : Search NodeId} {ns : List NodeId},
    found.Yields t.provider ns → t.Contexts ns →
    (e.pursue s found).Yields t.provider (e.follow t r ns)
  | ⟨condition, scope, skip, take⟩, found, ns, hs, hns => by
    rw [Element.pursue, Element.follow]
    have hscope := Part.yields_pursueAll h scope hs hns
    have hselect : (Condition.select s condition (Part.pursueAll s scope found)).Yields t.provider
        ((Part.followAll t r scope ns).filter (Condition.targetHolds t r condition)) := by
      cases condition with
      | none =>
        rw [Condition.select, List.filter_eq_self.2 fun n _ => by rw [Condition.targetHolds]]
        exact hscope
      | some c =>
        rw [Condition.select]
        exact hscope.filter fun n _ => by
          rw [Condition.targetHolds]
          exact Condition.run_evaluate h c n
    cases skip with
    | some k => exact hselect.page _ _
    | none =>
      cases take with
      | some k => exact hselect.page _ _
      | none => exact hselect

theorem Query.yields_search (h : t.Agree s r) : ∀ (q : Query) (n : NodeId),
    (q.search s n).Yields t.provider (q.results t r n)
  | ⟨path, element⟩, n => by
    rw [Query.search, Query.results]
    refine Search.yields_isValid t ?_
    cases hn : t.alive n with
    | false => exact Search.yields_finish
    | true =>
      have hns := SnapshotTree.Contexts.singleton hn
      exact Element.yields_pursue h element
        (Part.yields_pursueAll h path (Search.yields_one n) hns) (Part.contexts_followAll path hns)

end

end Drain

/-! ### The answers of a search -/

lemma SnapshotTree.Ordered.agree {t : SnapshotTree} (ht : t.Ordered) {s : Setting}
    (h : t.size ≤ s.reach) : t.Agree s { s with reach := t.size } where
  predicates := rfl
  chain := by
    intro maxDepth n
    cases maxDepth with
    | none => exact ht.chain_of_size_le h n
    | some count => rfl
  preorder := by
    intro maxDepth n
    cases maxDepth with
    | none => exact ht.preorder_of_size_le h n
    | some count => rfl

lemma SnapshotTree.Agree.refl (t : SnapshotTree) (s : Setting) : t.Agree s s where
  predicates := rfl
  chain := fun _ _ => rfl
  preorder := fun _ _ => rfl

namespace Query

section Engine

variable [Regex.Engine]

lemma yields_findAll {t : SnapshotTree} {s r : Setting} (h : t.Agree s r) (q : Query) (n : NodeId)
    (hdepth : q.depth ≤ s.maxNesting.toNat) :
    (q.findAll s t.provider n).Yields t.provider (q.results t r n) := by
  unfold findAll
  rw [nestingError?_eq_none hdepth]
  have hsearch := Query.yields_search h q n
  obtain ⟨path, element⟩ := q
  exact hsearch

/-- A search in a tree that stays as it is gives the results of the query one by one and then ends.
For a walk without limit the results go down or up as many levels as the tree has controls. -/
theorem answers_findAll (root : SnapshotNode) (removed : List NodeId) (s : Setting) (q : Query)
    (n : NodeId) (hreach : root.size ≤ s.reach) (hdepth : q.depth ≤ s.maxNesting.toNat)
    (k : Nat) :
    let t := (SnapshotTree.ofNode root).removeAll removed
    (q.findAll s t.provider n).answers t.provider k =
      ((q.results t { s with reach := t.size } n).map Except.ok)[k]? := by
  intro t
  have ht : t.Ordered := (SnapshotTree.ordered_ofNode root).removeAll removed
  have hsize : t.size = root.size := by
    rw [SnapshotTree.size_removeAll, SnapshotTree.size_ofNode]
  exact (q.yields_findAll (ht.agree (hsize ▸ hreach)) n hdepth).answers k

end Engine

/-- The second control with a child among the ancestors of what is left of a tree. -/
theorem answers_findAll_second_ancestor :
    let root : SnapshotNode := .node ∅ [.node ∅ [.node ∅ []], .node ∅ [.node ∅ []]]
    let t := (SnapshotTree.ofNode root).removeAll [3]
    let q : Query :=
      { path := [.descendants none true]
        element :=
          { condition := some (.hasElement { path := [], element := .ofScope [.children] })
            scope := [.ancestors none false], skip := some 1, take := some 1 } }
    (root.size ≤ 5 ∧ q.depth ≤ 32) ∧
      (q.findAll { reach := 5 } t.provider 0).answers t.provider 0 = some (.ok 1) ∧
      (q.findAll { reach := 5 } t.provider 0).answers t.provider 1 = none := by
  intro root t q
  have hreach : root.size ≤ ({ reach := 5 } : Setting).reach := by decide
  have hdepth : q.depth ≤ ({ reach := 5 } : Setting).maxNesting.toNat := by decide
  have hresults : q.results t { reach := t.size } 0 = [1] := by decide +kernel
  have hanswers := answers_findAll root [3] { reach := 5 } q 0 hreach hdepth
  refine ⟨⟨hreach, hdepth⟩, (hanswers 0).trans ?_, (hanswers 1).trans ?_⟩
  · change ((q.results t { reach := t.size } 0).map Except.ok)[0]? = _
    rw [hresults]
    rfl
  · change ((q.results t { reach := t.size } 0).map Except.ok)[1]? = _
    rw [hresults]
    rfl

end Query

end ControlQuery

import ControlQuery.Proofs.Query.Downward
import ControlQuery.Proofs.Query.Plain
import ControlQuery.Proofs.Search.Eager
import ControlQuery.Proofs.Search.Remainder

/-!
# Removals during a search

Whatever is removed while a search is open, and whenever, a search that only looks down under plain
conditions yields the controls that it would have yielded anyway, in the same order, except some
that have gone by then. When it says that there is nothing more, it has left out nothing that is
still there.
-/

namespace ControlQuery

open SnapshotTree (Later)

/-! ### Queries -/

section Engine

variable [Regex.Engine]

section Pursue

variable {t₀ : SnapshotTree}

open Search (not_alive_of_mem_preorder owes_descendants vouched_flatMap_descendants)

/-- A plain condition comes out as before the removals, unless the control has gone. -/
lemma Condition.judge_of_later {t : SnapshotTree} (ht : t₀.Later t) (s : Setting) {c : Condition}
    (hplain : c.isPlain = true) (n : NodeId) :
    ∃ keep, (c.evaluate s n).run t.provider = .ok keep ∧
      (keep = true → Condition.targetHolds t₀ s (some c) n = true) ∧
      (keep = false → t.alive n = true → Condition.targetHolds t₀ s (some c) n = false) := by
  rw [Condition.targetHolds]
  refine ⟨c.holds t s n, Condition.run_evaluate (SnapshotTree.Agree.refl t s) c n, ?_, ?_⟩
  · intro hkeep
    have hn : t.alive n = true := by
      by_contra hn
      rw [Condition.holds_of_not_alive hplain hn] at hkeep
      cases hkeep
    rwa [← Condition.holds_congr hplain (ht.value hn)]
  · intro hdrop hn
    rwa [← Condition.holds_congr hplain (ht.value hn)]

mutual

theorem Part.owes_pursue (h₀ : t₀.Recorded) (hclosed : t₀.Closed) (s : Setting) :
    ∀ (p : Part) {contexts : Search NodeId} {ns : List NodeId}, p.isDownward = true →
    p.isPlain = true → (∀ t, t₀.Later t → contexts.Owes t ns) →
    ∀ t, t₀.Later t → (p.pursue s contexts).Owes t (p.follow t₀ s ns)
  | .identity, _, _, _, _, h => by
    intro t ht
    rw [Part.pursue, Part.follow]
    exact h t ht
  | .ancestors maxDepth includeSelf, _, _, hdown, _, _ => by
    rw [Part.isDownward] at hdown
    cases hdown
  | .descendants maxDepth includeSelf, contexts, ns, _, _, h => by
    intro t ht
    rw [Part.pursue, Part.follow, SnapshotTree.union]
    have hwalks : (contexts.flatMap (.descendants (s.levels maxDepth) includeSelf)).Owes t
        (ns.flatMap fun n =>
          SnapshotTree.withSelf includeSelf n (t₀.preorder (s.levels maxDepth) n)) := by
      refine (h t ht).flatMap (fun t' ht' n => ?_) fun t' ht' n hn m hm => ?_
      · exact owes_descendants h₀ hclosed _ includeSelf n (ht.trans ht')
      · exact Search.not_alive_of_mem_withSelf h₀ hclosed (ht.trans ht') includeSelf hn hm
    have hvouched := vouched_flatMap_descendants (s.levels maxDepth) includeSelf contexts t
    have hdistinct := hwalks.distinct hvouched [] [] (by simp) (by simp)
    rwa [List.filter_eq_self.2 (fun n _ => by simp)] at hdistinct
  | .composite e, _, _, hdown, hplain, h => by
    rw [Part.isDownward] at hdown
    rw [Part.isPlain] at hplain
    intro t ht
    rw [Part.pursue, Part.follow]
    exact Element.owes_pursue h₀ hclosed s e hdown hplain h t ht

theorem Part.owes_pursueAll (h₀ : t₀.Recorded) (hclosed : t₀.Closed) (s : Setting) :
    ∀ (ps : List Part) {contexts : Search NodeId} {ns : List NodeId},
    Part.allDownward ps = true → Part.allPlain ps = true →
    (∀ t, t₀.Later t → contexts.Owes t ns) →
    ∀ t, t₀.Later t → (Part.pursueAll s ps contexts).Owes t (Part.followAll t₀ s ps ns)
  | [], _, _, _, _, h => by
    intro t ht
    rw [Part.pursueAll, Part.followAll]
    exact h t ht
  | p :: ps, _, _, hdown, hplain, h => by
    rw [Part.allDownward, Bool.and_eq_true] at hdown
    rw [Part.allPlain, Bool.and_eq_true] at hplain
    intro t ht
    rw [Part.pursueAll, Part.followAll]
    have hfirst := Part.owes_pursue h₀ hclosed s p hdown.1 hplain.1 h
    exact Part.owes_pursueAll h₀ hclosed s ps hdown.2 hplain.2 hfirst t ht

theorem Element.owes_pursue (h₀ : t₀.Recorded) (hclosed : t₀.Closed) (s : Setting) :
    ∀ (e : Element) {contexts : Search NodeId} {ns : List NodeId}, e.isDownward = true →
    e.isPlain = true → (∀ t, t₀.Later t → contexts.Owes t ns) →
    ∀ t, t₀.Later t → (e.pursue s contexts).Owes t (e.follow t₀ s ns)
  | ⟨condition, scope, some _, take⟩, _, _, _, hplain, _ => by
    simp [Element.isPlain] at hplain
  | ⟨condition, scope, none, some _⟩, _, _, _, hplain, _ => by
    simp [Element.isPlain] at hplain
  | ⟨condition, scope, none, none⟩, contexts, ns, hdown, hplain, h => by
    rw [Element.isDownward] at hdown
    simp only [Element.isPlain, Option.isNone_none, Bool.and_true, Bool.and_eq_true] at hplain
    intro t ht
    have hscope := Part.owes_pursueAll h₀ hclosed s scope hdown hplain.2 h
    rw [Element.pursue, Element.follow]
    change (Condition.select s condition (Part.pursueAll s scope contexts)).Owes t
      ((Part.followAll t₀ s scope ns).filter (Condition.targetHolds t₀ s condition))
    cases condition with
    | none =>
      rw [Condition.select, List.filter_eq_self.2 fun n _ => by rw [Condition.targetHolds]]
      exact hscope t ht
    | some c =>
      rw [Condition.select]
      exact (hscope t ht).filter fun t' ht' n =>
        Condition.judge_of_later (ht.trans ht') s hplain.1 n

end

lemma Query.owes_findAll (h₀ : t₀.Recorded) (hclosed : t₀.Closed) {s : Setting} {q : Query}
    (n : NodeId) (hdown : q.isDownward = true) (hplain : q.isPlain = true)
    (hdepth : q.depth ≤ s.maxNesting.toNat) (t : SnapshotTree) (ht : t₀.Later t) :
    (q.findAll s t₀.provider n).Owes t (q.results t₀ s n) := by
  unfold findAll
  rw [nestingError?_eq_none hdepth]
  obtain ⟨path, element⟩ := q
  rw [isDownward, Bool.and_eq_true] at hdown
  rw [isPlain, Bool.and_eq_true] at hplain
  change (if t₀.alive n = true then element.pursue s (Part.pursueAll s path (.one n))
    else .finish).Owes t _
  rw [results]
  by_cases hn : t₀.alive n = true
  · rw [if_pos hn, if_pos hn]
    have hpath := Part.owes_pursueAll h₀ hclosed s path hdown.1 hplain.1 fun t _ =>
      Search.owes_one n t
    exact Element.owes_pursue h₀ hclosed s element hdown.2 hplain.2 hpath t ht
  · rw [if_neg hn, if_neg hn]
    exact Search.owes_finish t

lemma Query.contexts_results (t : SnapshotTree) (s : Setting) (q : Query) (n : NodeId) :
    t.Contexts (q.results t s n) := by
  obtain ⟨path, element⟩ := q
  rw [results]
  split
  · next hn =>
    exact Element.contexts_follow element
      (Part.contexts_followAll path (SnapshotTree.Contexts.singleton hn))
  · exact ⟨by simp, List.nodup_nil⟩

end Pursue

end Engine

/-! ### Answers during removals -/

/-- The controls that were yielded, in order. -/
def yielded (history : List Moment) : List NodeId :=
  history.filterMap fun moment => moment.answer.bind Except.toOption

namespace Search

variable {s : Search NodeId} {t t' : SnapshotTree} {ns : List NodeId}

/-- One request: the next control of the list that has not gone. -/
lemma Owes.next (h : s.Owes t ns) :
    match s.next t.provider with
    | .found n rest => ∃ gone ns', ns = gone ++ n :: ns' ∧ (∀ m ∈ gone, ¬t.alive m = true) ∧
      ∀ t', t.Later t' → rest.Owes t' ns'
    | .failed _ => False
    | .finished => ∀ n ∈ ns, ¬t.alive n = true := by
  induction s with
  | finish => exact h
  | fail e => exact h
  | yield n rest ih => exact h
  | ask r next ih => exact ih _ h

lemma later_of_mem_replay {moves : List Move} {answer : Option (Except SearchError NodeId)}
    (h : ⟨t', answer⟩ ∈ s.replay t moves) : t.Later t' := by
  induction moves generalizing s t with
  | nil => cases h
  | cons move moves ih =>
    cases move with
    | remove n => exact (t.later_remove n).trans (ih h)
    | next =>
      rcases List.mem_cons.1 h with h | h
      · obtain ⟨rfl, -⟩ := Moment.mk.inj h
        exact Later.refl _
      · exact ih h

lemma Owes.sublist_yielded_replay (h : ∀ t', t.Later t' → s.Owes t' ns) (moves : List Move) :
    (yielded (s.replay t moves)).Sublist ns := by
  induction moves generalizing s t ns with
  | nil => exact List.nil_sublist ns
  | cons move moves ih =>
    cases move with
    | remove n => exact ih fun t' ht => h t' ((t.later_remove n).trans ht)
    | next =>
      have hnext := (h t (Later.refl t)).next
      rw [Search.replay]
      cases hs : s.next t.provider with
      | found n rest =>
        rw [hs] at hnext
        obtain ⟨gone, ns', rfl, -, hrest⟩ := hnext
        have htail := (ih hrest).cons_cons n
        exact htail.trans (List.sublist_append_right gone _)
      | failed e =>
        rw [hs] at hnext
        exact hnext.elim
      | finished =>
        -- A search that has ended yields nothing if it is asked again.
        have htail : (yielded ((finish : Search NodeId).replay t moves)).Sublist [] :=
          ih fun t' _ => owes_finish t'
        exact htail.trans (List.nil_sublist ns)

/-- When the search says that there is nothing more, it has yielded all that is still there. -/
lemma Owes.mem_yielded_of_none (h : ∀ t', t.Later t' → s.Owes t' ns) {moves : List Move} {k : Nat}
    (hk : (s.replay t moves)[k]? = some ⟨t', none⟩) {m : NodeId} (hm : m ∈ ns)
    (hal : t'.alive m = true) : m ∈ yielded ((s.replay t moves).take k) := by
  induction moves generalizing s t ns k with
  | nil => simp [Search.replay] at hk
  | cons move moves ih =>
    cases move with
    | remove n => exact ih (fun t' ht => h t' ((t.later_remove n).trans ht)) hk hm
    | next =>
      have hnext := (h t (Later.refl t)).next
      have hnow : t.alive m = true := (later_of_mem_replay (List.mem_of_getElem? hk)).alive hal
      rw [Search.replay] at hk ⊢
      cases hs : s.next t.provider with
      | found n rest =>
        rw [hs] at hnext hk
        obtain ⟨gone, ns', rfl, hgone, hrest⟩ := hnext
        cases k with
        | zero => simp [Outcome.answer] at hk
        | succ k =>
          have hsplit : yielded ((⟨t, some (.ok n)⟩ :: rest.replay t moves).take (k + 1)) =
              n :: yielded ((rest.replay t moves).take k) := rfl
          rcases List.mem_append.1 hm with hm | hm
          · exact absurd hnow (hgone m hm)
          · refine hsplit ▸ ?_
            rcases List.mem_cons.1 hm with rfl | hm
            · exact List.mem_cons_self
            · exact List.mem_cons_of_mem n (ih hrest hk hm)
      | failed e =>
        rw [hs] at hnext
        exact hnext.elim
      | finished =>
        rw [hs] at hnext
        exact absurd hnow (hnext m hm)

lemma yielded_replay_fail (e : SearchError) (t : SnapshotTree) (moves : List Move) :
    yielded ((fail e).replay t moves) = [] := by
  induction moves generalizing t with
  | nil => rfl
  | cons move moves ih =>
    cases move with
    | remove n => exact ih (t.remove n)
    | next =>
      have htail : (yielded ((finish : Search NodeId).replay t moves)).Sublist [] :=
        Owes.sublist_yielded_replay (fun t' _ => owes_finish t') moves
      exact List.eq_nil_of_sublist_nil htail

end Search

namespace Query

/-- Removals during a plain search that only looks down cost nothing but what they remove: the
search keeps to the list that it gives without them, repeats nothing, and at its end has yielded all
of the list that is still there. -/
theorem yielded_replay_findAll [Regex.Engine] (root : SnapshotNode) (removed : List NodeId)
    (s : Setting) (q : Query) (n : NodeId) (hdown : q.isDownward = true) (hplain : q.isPlain = true)
    (moves : List Move) :
    let t := (SnapshotTree.ofNode root).removeAll removed
    let undisturbed := ((q.findAll s t.provider n).drain t.provider).1
    let history := (q.findAll s t.provider n).replay t moves
    (yielded history).Sublist undisturbed ∧ (yielded history).Nodup ∧
      ∀ k t', history[k]? = some ⟨t', none⟩ → ∀ m ∈ undisturbed, t'.alive m = true →
        m ∈ yielded (history.take k) := by
  intro t undisturbed history
  by_cases hdepth : q.depth ≤ s.maxNesting.toNat
  · have h₀ : t.Recorded := (SnapshotTree.recorded_ofNode root).removeAll removed
    have hclosed : t.Closed := (SnapshotTree.removedAt_removeAll root removed).closed
    have hlist : undisturbed = q.results t s n :=
      congrArg Prod.fst (q.yields_findAll (SnapshotTree.Agree.refl t s) n hdepth)
    have howes : ∀ t', t.Later t' → (q.findAll s t.provider n).Owes t' undisturbed := by
      rw [hlist]
      exact owes_findAll h₀ hclosed n hdown hplain hdepth
    have hnodup : undisturbed.Nodup := by
      rw [hlist]
      exact (q.contexts_results t s n).nodup
    have hsub := Search.Owes.sublist_yielded_replay howes moves
    exact ⟨hsub, hnodup.sublist hsub, fun k t' hk m hm hal =>
      Search.Owes.mem_yielded_of_none howes hk hm hal⟩
  · have hfail := findAll_of_not_le hdepth t.provider n
    have hlist : undisturbed = [] := by
      change ((q.findAll s t.provider n).drain t.provider).1 = []
      rw [hfail]
      rfl
    have hnone : yielded history = [] := by
      change yielded ((q.findAll s t.provider n).replay t moves) = []
      rw [hfail, Search.yielded_replay_fail]
    rw [hlist, hnone]
    exact ⟨List.Sublist.refl [], List.nodup_nil, fun k t' _ m hm _ => by cases hm⟩

/-- The children of all panes, when a pane that was found is removed before its turn. -/
theorem yielded_replay_findAll_children_of_panes :
    let pane := PropertyMap.empty.insert .controlType (.str "Pane")
    let root : SnapshotNode :=
      .node ∅ [.node pane [.node ∅ []], .node pane [.node ∅ []], .node pane [.node ∅ []]]
    let t := (SnapshotTree.ofNode root).removeAll []
    let isPane : Condition := .property (.equals .controlType (.str "Pane"))
    let q : Query :=
      { path := [.composite { condition := some isPane, scope := [.descendants none false] }]
        element := .ofScope [.children] }
    let search := q.findAll { reach := 7 } t.provider 0
    let history := search.replay t [.next, .remove 3, .next, .next]
    (q.isDownward = true ∧ q.isPlain = true ∧ (search.drain t.provider).1 = [2, 4, 6] ∧
        yielded history = [2, 6]) ∧
      6 ∈ yielded (history.take 2) := by
  intro pane root t isPane q search history
  have hdown : q.isDownward = true := by decide +kernel
  have hplain : q.isPlain = true := by decide +kernel
  have hlist : (search.drain t.provider).1 = [2, 4, 6] := by decide +kernel
  have hyielded : yielded history = [2, 6] := by decide +kernel
  obtain ⟨-, -, hend⟩ := yielded_replay_findAll root [] { reach := 7 } q 0 hdown hplain
    [.next, .remove 3, .next, .next]
  have hmem : 6 ∈ (search.drain t.provider).1 := by
    rw [hlist]
    decide
  have hlast : history[2]?.map (fun moment => (moment.answer, moment.tree.alive 6)) =
      some (none, true) := by decide +kernel
  obtain ⟨⟨t', answer⟩, hk, heq⟩ := Option.map_eq_some_iff.1 hlast
  obtain ⟨rfl, halive⟩ := Prod.mk.inj heq
  exact ⟨⟨hdown, hplain, hlist, hyielded⟩, hend 2 t' hk 6 hmem halive⟩

end Query

end ControlQuery

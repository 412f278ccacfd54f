import ControlQuery.Proofs.Query.Spine
import ControlQuery.Proofs.Search.Eager

/-!
# Removing a condition widens a search

What a removal takes off an `and`-spine is just the contribution of the target: the condition holds
of a control if the target does and what is left does. So a query without a page finds among the
matches of the query without the target those that fulfil the target, and no match gets lost.
-/

namespace ControlQuery

section Engine

variable [Regex.Engine] {t : SnapshotTree} {s : Setting} {target : Condition} {n : NodeId}

namespace Condition

/-- What is left of two operands holds if what is left of either does. -/
lemma targetHolds_remove_and {left right : Condition} (h : left.and right ≠ target) :
    Condition.targetHolds t s (remove target (left.and right)) n =
      (Condition.targetHolds t s (remove target left) n &&
        Condition.targetHolds t s (remove target right) n) := by
  rw [remove_and h]
  cases remove target left <;> cases remove target right <;>
    simp [Condition.targetHolds, Condition.holds]

/-- The contribution of a target: a condition with the target on its spine holds if the target does
and what is left does. -/
lemma holds_eq_target_and_rest {c : Condition} (h : target ∈ c.andSpine) :
    c.holds t s n =
      (target.holds t s n && Condition.targetHolds t s (remove target c) n) := by
  induction c using andSpine_induction with
  | link c hc =>
    rw [hc.andSpine_eq, List.mem_singleton] at h
    rw [← h, remove_self, Condition.targetHolds, Bool.and_true]
  | and left right ihleft ihright =>
    by_cases hne : left.and right = target
    · rw [hne, remove_self, Condition.targetHolds, Bool.and_true]
    · rw [targetHolds_remove_and hne, Condition.holds]
      simp only [andSpine_and, List.mem_cons, List.mem_append, Ne.symm hne, false_or] at h
      by_cases hleft : target ∈ left.andSpine
      · rw [ihleft hleft]
        by_cases hright : target ∈ right.andSpine
        · rw [ihright hright]
          cases target.holds t s n <;> simp
        · rw [remove_of_not_mem hright, Condition.targetHolds, Bool.and_assoc]
      · rw [ihright (h.resolve_left hleft), remove_of_not_mem hleft, Condition.targetHolds]
        cases target.holds t s n <;> simp

/-- Whatever the target, a condition that holds goes on to hold. -/
lemma targetHolds_remove_of_holds {c : Condition} (h : c.holds t s n = true) :
    Condition.targetHolds t s (remove target c) n = true := by
  by_cases hmem : target ∈ c.andSpine
  · rw [holds_eq_target_and_rest hmem, Bool.and_eq_true] at h
    exact h.2
  · rwa [remove_of_not_mem hmem, Condition.targetHolds]

lemma depth_remove_le (target c : Condition) :
    Condition.depthOfOption (remove target c) ≤ c.depth := by
  induction c using andSpine_induction with
  | link c hc =>
    rw [hc.remove_eq]
    split <;> simp [Condition.depthOfOption]
  | and left right ihleft ihright =>
    by_cases hne : left.and right = target
    · rw [hne, remove_self, Condition.depthOfOption]
      exact Nat.zero_le _
    · rw [remove_and hne, Condition.depth]
      revert ihleft ihright
      cases remove target left <;> cases remove target right <;>
        simp [Condition.depthOfOption, Condition.depth] <;> omega

end Condition

namespace Query

lemma depth_removeCondition_le (q : Query) (target : Condition) :
    (q.removeCondition target).depth ≤ q.depth := by
  obtain ⟨path, condition, scope, skip, take⟩ := q
  rw [removeCondition, Element.removeCondition, Query.depth, Query.depth, Element.depth,
    Element.depth]
  have hle : Condition.depthOfOption (condition.bind (Condition.remove target)) ≤
      Condition.depthOfOption condition := by
    cases condition with
    | none => exact Nat.le_refl _
    | some c =>
      rw [Option.bind_some, Condition.depthOfOption]
      exact Condition.depth_remove_le target c
  dsimp only
  omega

/-- Without a page, the matches are among those of the query without the target. -/
lemma results_sublist_removeCondition (q : Query) (hskip : q.element.skip = none)
    (htake : q.element.take = none) (target : Condition) (n : NodeId) :
    (q.results t s n).Sublist ((q.removeCondition target).results t s n) := by
  obtain ⟨path, condition, scope, _, _⟩ := q
  obtain rfl : _ = none := hskip
  obtain rfl : _ = none := htake
  rw [removeCondition, Element.removeCondition, Query.results, Query.results, Element.follow,
    Element.follow]
  split
  · simp only [Option.map_none, Option.getD_none, Search.pageOf, List.drop_zero]
    cases condition with
    | none => exact List.Sublist.refl _
    | some c =>
      rw [Option.bind_some]
      refine List.monotone_filter_right _ fun m hm => ?_
      exact Condition.targetHolds_remove_of_holds hm
  · exact List.Sublist.refl _

lemma drain_findAll_sublist_removeCondition (q : Query) (hskip : q.element.skip = none)
    (htake : q.element.take = none) (target : Condition) (n : NodeId) :
    ((q.findAll s t.provider n).drain t.provider).1.Sublist
      (((q.removeCondition target).findAll s t.provider n).drain t.provider).1 := by
  by_cases hdepth : q.depth ≤ s.maxNesting.toNat
  · have hdepth' := Nat.le_trans (q.depth_removeCondition_le target) hdepth
    rw [q.yields_findAll (.refl t s) n hdepth,
      (q.removeCondition target).yields_findAll (.refl t s) n hdepth']
    exact q.results_sublist_removeCondition hskip htake target n
  · rw [findAll_of_not_le hdepth]
    exact List.nil_sublist _

end Query

/-- Where the target of a removal does not stand on the spine of a condition nothing changes. Where
it does, the condition holds of a control exactly if the target does and what is left, if anything,
does. No match of a query without a page gets lost. -/
theorem Condition.run_evaluate_remove (root : SnapshotNode) (removed : List NodeId) (s : Setting)
    (target : Condition) :
    let P := ((SnapshotTree.ofNode root).removeAll removed).provider
    (∀ c, target ∉ c.andSpine → remove target c = some c) ∧
    (∀ c, target ∈ c.andSpine → ∀ n, ∃ whole part rest,
      (c.evaluate s n).run P = .ok whole ∧ (target.evaluate s n).run P = .ok part ∧
        (Condition.evaluateTarget s (remove target c) n).run P = .ok rest ∧
          (whole = true ↔ part = true ∧ rest = true)) ∧
    ∀ q : Query, q.element.skip = none → q.element.take = none → ∀ n,
      ((q.findAll s P n).drain P).1.Sublist
        (((q.removeCondition target).findAll s P n).drain P).1 := by
  intro P
  refine ⟨fun c => remove_of_not_mem, fun c hmem n => ?_, fun q hskip htake n =>
    q.drain_findAll_sublist_removeCondition hskip htake target n⟩
  refine ⟨_, _, _, Condition.run_evaluate (.refl _ s) c n,
    Condition.run_evaluate (.refl _ s) target n,
    Condition.run_evaluateTarget (.refl _ s) (remove target c) n, ?_⟩
  rw [holds_eq_target_and_rest hmem, Bool.and_eq_true]

end Engine

/-- The target is an `and` itself and stands twice on the spine. Of the two controls that the rest
matches one fulfils the target. -/
theorem Condition.run_evaluate_remove_and_target :
    let root : SnapshotNode := .node ∅
      [.node ((PropertyMap.empty.insert .controlType (.str "Button")).insert .name (.str "a")) [],
        .node ((PropertyMap.empty.insert .controlType (.str "Edit")).insert .name (.str "a")) []]
    let P := ((SnapshotTree.ofNode root).removeAll []).provider
    let s : Setting := { reach := 3 }
    let a : Condition := .property (.equals .name (.str "a"))
    let target := Condition.and (.property (.equals .controlType (.str "Button"))) a
    let c := (target.and a).and target
    let q := Query.everything.require c
    (target.or a ∉ c.andSpine ∧ target ∈ c.andSpine ∧ q.element.skip = none ∧
      q.element.take = none) ∧
      (remove (target.or a) c = some c ∧ remove target c = some a) ∧
      (∃ whole part rest, (c.evaluate s 2).run P = .ok whole ∧
        (target.evaluate s 2).run P = .ok part ∧
        (Condition.evaluateTarget s (remove target c) 2).run P = .ok rest ∧
          (whole = true ↔ part = true ∧ rest = true)) ∧
      ((q.findAll s P 0).drain P).1.Sublist
        (((q.removeCondition target).findAll s P 0).drain P).1 ∧
      ((q.findAll s P 0).drain P).1 = [1] ∧
        (((q.removeCondition target).findAll s P 0).drain P).1 = [1, 2] := by
  intro root P s a target c q
  have hother : target.or a ∉ c.andSpine := by decide +kernel
  have hmem : target ∈ c.andSpine := by decide +kernel
  have hrest : remove target c = some a := by decide +kernel
  obtain ⟨hsame, -, -⟩ := run_evaluate_remove root [] s (target.or a)
  obtain ⟨-, hholds, hmatches⟩ := run_evaluate_remove root [] s target
  exact ⟨⟨hother, hmem, rfl, rfl⟩, ⟨hsame c hother, hrest⟩, hholds c hmem 2,
    hmatches q rfl rfl 0, by decide +kernel, by decide +kernel⟩

end ControlQuery

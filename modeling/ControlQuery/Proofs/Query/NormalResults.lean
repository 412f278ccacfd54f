import ControlQuery.Proofs.Query.Normal
import ControlQuery.Proofs.Search.Eager

/-!
# Normal forms have the same results

A query and its normal form find the same controls in the same order in every tree with fewer
controls than the greatest count. Only pages need the bound: a page that would begin or end behind
the greatest count is cut off there. The induction carries that contexts have no repetition, so that
no more of them come to a page than there are controls.
-/

namespace ControlQuery

open CPath (Page)

/-! ## Pages -/

namespace Search

variable {α : Type} {xs : List α}

lemma pageOf_from (start : Count) (take : Option Count) :
    pageOf (((Page.from start take).skip.map UInt64.toNat).getD 0)
        ((Page.from start take).take.map UInt64.toNat) xs =
      pageOf start.toNat (take.map UInt64.toNat) xs := by
  rw [toNat_getD]
  unfold Page.from
  by_cases h : start = 0
  · simp [h]
  · simp [h]

lemma take_drop_of_capped {start count : Nat} (h : xs.length < greatestCount) :
    (xs.drop start).take (min (start + count) greatestCount - start) =
      (xs.drop start).take count := by
  by_cases hle : start + count ≤ greatestCount
  · rw [Nat.min_eq_left hle, Nat.add_sub_cancel_left]
  · rw [List.take_of_length_le, List.take_of_length_le]
    · rw [List.length_drop]
      omega
    · rw [List.length_drop]
      omega

lemma drop_of_capped {start : Nat} (h : xs.length < greatestCount) (hs : start ≤ greatestCount) :
    xs.drop (min (start + 1) greatestCount - 1) = xs.drop start := by
  by_cases hle : start + 1 ≤ greatestCount
  · rw [Nat.min_eq_left hle, Nat.add_sub_cancel]
  · rw [List.drop_eq_nil_of_le, List.drop_eq_nil_of_le]
    · omega
    · omega

lemma pageOf_normalPage (skip take : Option Count) (h : xs.length < greatestCount) :
    pageOf (((normalPage skip take).skip.map UInt64.toNat).getD 0)
        ((normalPage skip take).take.map UInt64.toNat) xs =
      pageOf ((skip.map UInt64.toNat).getD 0) (take.map UInt64.toNat) xs := by
  have hstart := Count.toNat_le (skip.getD 0)
  rw [toNat_getD skip]
  cases take with
  | none => exact pageOf_from _ _
  | some count =>
    unfold normalPage
    by_cases hone : count = 1
    · dsimp only
      rw [if_pos hone, hone, pageOf_from, UInt64.toNat_sub_of_le, toNat_cappedCount]
      · exact congrArg (List.take 1) (drop_of_capped h hstart)
      · rw [UInt64.le_iff_toNat_le, toNat_cappedCount]
        apply Nat.le_min.mpr
        exact ⟨Nat.le_add_left _ _, by decide⟩
    · dsimp only
      rw [if_neg hone, pageOf_from]
      simp only [pageOf, Option.map_some]
      rw [UInt64.toNat_sub_of_le, toNat_cappedCount]
      · exact take_drop_of_capped h
      · rw [UInt64.le_iff_toNat_le, toNat_cappedCount]
        apply Nat.le_min.mpr
        exact ⟨Nat.le_add_right _ _, hstart⟩

end Search

lemma SnapshotTree.Contexts.length_le {t : SnapshotTree} {ns : List NodeId} (h : t.Contexts ns) :
    ns.length ≤ t.size := by
  have hsub : ns ⊆ List.range t.size := by
    intro n hn
    rw [List.mem_range]
    exact SnapshotTree.alive_lt (h.alive n hn)
  have hlength := h.nodup.length_le_of_subset hsub
  rwa [List.length_range] at hlength

/-! ## Chains -/

variable [Regex.Engine]

section Chains

variable {t : SnapshotTree} {s : Setting} {n : NodeId} {op : Connective} {c : Condition}
  {cs ds : List Condition}

/-- Whether all conditions hold, or at least one of them. -/
def Connective.holdsOf (t : SnapshotTree) (s : Setting) (n : NodeId) (cs : List Condition) :
    Connective → Bool
  | and => cs.all fun c => c.holds t s n
  | or => cs.any fun c => c.holds t s n

namespace Connective

lemma holdsOf_singleton : op.holdsOf t s n [c] = c.holds t s n := by
  cases op <;> simp [holdsOf]

lemma holds_logical {left right : Condition} (hl : op.holdsOf t s n cs = left.holds t s n)
    (hr : op.holdsOf t s n ds = right.holds t s n) :
    op.holdsOf t s n (cs ++ ds) = (Condition.logical op left right).holds t s n := by
  cases op with
  | and =>
    rw [Condition.holds, ← hl, ← hr]
    exact List.all_append
  | or =>
    rw [Condition.holds, ← hl, ← hr]
    exact List.any_append

lemma holds_foldl : (cs.foldl (.logical op) c).holds t s n = op.holdsOf t s n (c :: cs) := by
  induction cs generalizing c with
  | nil => exact holdsOf_singleton.symm
  | cons d cs ih =>
    rw [List.foldl_cons, ih]
    cases op with
    | and => simp [holdsOf, Condition.holds, Bool.and_assoc]
    | or => simp [holdsOf, Condition.holds, Bool.or_assoc]

lemma holdsOf_fold {op' : Connective} (h : cs ≠ []) :
    op.holdsOf t s n (op'.fold cs).toList = op'.holdsOf t s n cs := by
  cases cs with
  | nil => exact absurd rfl h
  | cons c cs => exact holdsOf_singleton.trans holds_foldl

lemma all_fold_and :
    ((Connective.and.fold cs).toList.all fun c => c.holds t s n) =
      cs.all fun c => c.holds t s n := by
  cases cs with
  | nil => rfl
  | cons c cs => simp [fold, holds_foldl, holdsOf]

lemma targetHolds_fold_and :
    Condition.targetHolds t s (Connective.and.fold cs) n = cs.all fun c => c.holds t s n := by
  cases cs with
  | nil => rfl
  | cons c cs => exact holds_foldl

lemma targetHolds_fold_split {count : Nat} :
    Condition.targetHolds t s
        (Connective.and.fold (cs.take count ++ (Connective.and.fold (cs.drop count)).toList)) n =
      cs.all fun c => c.holds t s n := by
  rw [targetHolds_fold_and, List.all_append, all_fold_and, ← List.all_append,
    List.take_append_drop]

end Connective

end Chains

/-! ## Results -/

section Results

variable {t : SnapshotTree} {s : Setting}

lemma Condition.spine_ne_nil (op : Connective) (c : Condition) : c.spine op ≠ [] := by
  cases c with
  | property _ => simp [Condition.spine]
  | function _ => simp [Condition.spine]
  | logical op' left right =>
    rw [Condition.spine]
    by_cases h : op' = op
    · rw [if_pos h]
      exact List.append_ne_nil_of_left_ne_nil (left.spine_ne_nil op) _
    · rw [if_neg h, Ne, Option.toList_eq_nil_iff, Connective.fold_eq_none_iff]
      exact List.append_ne_nil_of_left_ne_nil (left.spine_ne_nil op') _
  | hasElement _ => simp [Condition.spine]
  | relative _ _ => simp [Condition.spine]

lemma Element.follow_ofScope (p : Part) (ns : List NodeId) :
    (Element.ofScope [p]).follow t s ns = p.follow t s ns := by
  simp [Element.follow, Part.followAll, Search.pageOf, Condition.targetHolds]

mutual

theorem Condition.holds_spine (ht : t.size < greatestCount) (op : Connective) (n : NodeId) :
    ∀ c : Condition, op.holdsOf t s n (c.spine op) = c.holds t s n
  | .property condition => by
    rw [Condition.spine]
    exact Connective.holdsOf_singleton
  | .function condition => by
    rw [Condition.spine]
    exact Connective.holdsOf_singleton
  | .logical op' left right => by
    have hsides := Connective.holds_logical (Condition.holds_spine ht op' n left)
      (Condition.holds_spine ht op' n right)
    rw [Condition.spine]
    by_cases h : op' = op
    · rw [if_pos h, ← h]
      exact hsides
    · rw [if_neg h, Connective.holdsOf_fold]
      · exact hsides
      · exact List.append_ne_nil_of_left_ne_nil (left.spine_ne_nil op') _
  | .hasElement query => by
    rw [Condition.spine, Connective.holdsOf_singleton, Condition.holds, Condition.holds,
      Query.results_normal ht n query]
  | .relative distance condition => by
    rw [Condition.spine, Connective.holdsOf_singleton, Condition.holds, Condition.holds]
    congr 1
    funext m
    exact Condition.targetHolds_normalTarget ht m condition

theorem Condition.targetHolds_normalTarget (ht : t.size < greatestCount) (n : NodeId) :
    ∀ c : Option Condition,
      Condition.targetHolds t s (Condition.normalTarget c) n = Condition.targetHolds t s c n
  | none => by rw [Condition.normalTarget]
  | some c => by
    rw [Condition.normalTarget, Connective.targetHolds_fold_and, Condition.targetHolds]
    exact Condition.holds_spine ht .and n c

theorem Condition.all_spineOption (ht : t.size < greatestCount) (n : NodeId) :
    ∀ c : Option Condition,
      ((Condition.spineOption c).all fun d => d.holds t s n) = Condition.targetHolds t s c n
  | none => by rw [Condition.spineOption, Condition.targetHolds, List.all_nil]
  | some c => by
    rw [Condition.spineOption, Condition.targetHolds]
    exact Condition.holds_spine ht .and n c

theorem Part.followAll_front (ht : t.size < greatestCount) : ∀ (p : Part) {ns : List NodeId},
    t.Contexts ns →
    (Part.lastWalk [p]).follow t s (Part.followAll t s (p.front.map .composite) ns) =
      p.follow t s ns
  | .identity, _, _ => by simp [Part.front, Part.lastWalk, Part.followAll]
  | .ancestors _ _, _, _ => by simp [Part.front, Part.lastWalk, Part.followAll]
  | .descendants _ _, _, _ => by simp [Part.front, Part.lastWalk, Part.followAll]
  | .composite e, ns, hns => by
    rw [Part.front, Part.lastWalk, Part.follow, Part.follow]
    exact Element.followAll_steps ht e hns

theorem Part.followAll_steps (ht : t.size < greatestCount) : ∀ (p : Part) {ns : List NodeId},
    t.Contexts ns → Part.followAll t s (p.steps.map .composite) ns = p.follow t s ns
  | .identity, ns, _ => by
    rw [Part.steps, List.map_singleton, Part.followAll_composite, Element.follow_ofScope]
  | .ancestors _ _, ns, _ => by
    rw [Part.steps, List.map_singleton, Part.followAll_composite, Element.follow_ofScope]
  | .descendants _ _, ns, _ => by
    rw [Part.steps, List.map_singleton, Part.followAll_composite, Element.follow_ofScope]
  | .composite e, ns, hns => by
    rw [Part.steps, Part.follow]
    exact Element.followAll_steps ht e hns

theorem Part.followAll_stepsList (ht : t.size < greatestCount) :
    ∀ (ps : List Part) {ns : List NodeId}, t.Contexts ns →
      Part.followAll t s ((Part.stepsList ps).map .composite) ns = Part.followAll t s ps ns
  | [], ns, _ => by rw [Part.stepsList, List.map_nil]
  | p :: ps, ns, hns => by
    rw [Part.stepsList, List.map_append, Part.followAll_append, Part.followAll_steps ht p hns,
      Part.followAll_stepsList ht ps (Part.contexts_follow p hns), Part.followAll]

theorem Part.followAll_frontList (ht : t.size < greatestCount) :
    ∀ (ps : List Part) {ns : List NodeId}, t.Contexts ns →
      (Part.lastWalk ps).follow t s (Part.followAll t s ((Part.frontList ps).map .composite) ns) =
        Part.followAll t s ps ns
  | [], ns, _ => by simp [Part.lastWalk, Part.frontList, Part.followAll, Part.follow]
  | [p], ns, hns => by
    rw [Part.frontList, Part.followAll_front ht p hns, Part.followAll, Part.followAll]
  | p :: p' :: ps, ns, hns => by
    have hmore := Part.followAll_frontList ht (p' :: ps) (Part.contexts_follow (s := s) p hns)
    rw [Part.frontList_cons_cons, List.map_append, Part.followAll_append,
      Part.followAll_steps ht p hns, Part.lastWalk_cons_cons, Part.followAll]
    exact hmore

theorem Element.followAll_steps (ht : t.size < greatestCount) :
    ∀ (e : Element) {ns : List NodeId}, t.Contexts ns →
      Part.followAll t s ((e.front ++ [e.last]).map .composite) ns = e.follow t s ns
  | ⟨condition, scope, skip, take⟩, ns, hns => by
    have hscope := Part.contexts_followAll (s := s) scope hns
    have hlength := (hscope.sublist
      (List.filter_sublist (p := Condition.targetHolds t s condition))).length_le
    rw [List.map_append, Part.followAll_append, List.map_singleton, Part.followAll_composite,
      Element.front, Element.last, Element.follow, Element.follow, Part.followAll, Part.followAll,
      Part.followAll_frontList ht scope hns]
    rw [List.filter_congr fun m _ => Connective.targetHolds_fold_split.trans
      (Condition.all_spineOption ht m condition)]
    apply Search.pageOf_normalPage
    exact Nat.lt_of_le_of_lt hlength ht

theorem Query.results_normal (ht : t.size < greatestCount) (n : NodeId) :
    ∀ q : Query, q.normal.results t s n = q.results t s n
  | ⟨path, element⟩ => by
    rw [Query.normal, Query.results, Query.results]
    cases hn : t.alive n with
    | false => rfl
    | true =>
      have hns := SnapshotTree.Contexts.singleton hn
      have hpath := Part.contexts_followAll (s := s) path hns
      have hsteps := Element.followAll_steps ht element hpath
      rw [List.map_append, Part.followAll_append, List.map_singleton, Part.followAll_composite]
        at hsteps
      rw [if_pos rfl, if_pos rfl, List.map_append, Part.followAll_append,
        Part.followAll_stepsList ht path hns, hsteps]

end

/-- A search for the normal form of a query answers every request as a search for the query. -/
theorem Query.answers_findAll_normal (ht : t.size < greatestCount) (q : Query) (n : NodeId)
    (k : Nat) :
    (q.normal.findAll s t.provider n).answers t.provider k =
      (q.findAll s t.provider n).answers t.provider k := by
  by_cases h : q.depth ≤ s.maxNesting.toNat
  · have hnormal : q.normal.depth ≤ s.maxNesting.toNat := by
      rw [q.depth_normal]
      exact h
    rw [(q.yields_findAll (.refl t s) n h).answers k,
      (q.normal.yields_findAll (.refl t s) n hnormal).answers k, Query.results_normal ht n q]
  · unfold findAll nestingError?
    rw [q.depth_normal, if_neg h]

end Results

end ControlQuery

import ControlQuery.Proofs.Search.Eager
import ControlQuery.Query.Compose

/-!
# Queries composed of two

Two queries are composed in two ways. Either the inner one is searched for from the matches of the
outer one, or the outer one keeps those of its matches from which the inner one has a match. In the
first case all matches are handed on at once, and what they lead to is merged on the way; in the
second case a new search begins at each match. Unless a page cuts something off, whether anything is
found is the same in both cases: what some contexts lead to together is what each of them leads to
alone.
-/

namespace ControlQuery

lemma SnapshotTree.mem_union_iff_exists_singleton {walk : NodeId → List NodeId}
    {ns : List NodeId} {m : NodeId} :
    m ∈ union walk ns ↔ ∃ n ∈ ns, m ∈ union walk [n] := by
  simp [mem_union]

section Engine

variable [Regex.Engine]

mutual

/-- Whether nothing in a part has a page. -/
def Part.isUnpaged : Part → Bool
  | .identity => true
  | .ancestors _ _ => true
  | .descendants _ _ => true
  | .composite element => element.isUnpaged

def Part.allUnpaged : List Part → Bool
  | [] => true
  | part :: parts => part.isUnpaged && Part.allUnpaged parts

/-- Whether neither the element nor anything in its scope has a page. -/
def Element.isUnpaged : Element → Bool
  | { scope, skip, take, .. } => Part.allUnpaged scope && skip.isNone && take.isNone

end

section Contexts

variable {t : SnapshotTree} {s : Setting} {ns : List NodeId} {n m : NodeId}

lemma Element.follow_unpaged (condition : Option Condition) (scope : List Part)
    (contexts : List NodeId) :
    Element.follow t s { condition, scope } contexts =
      (Part.followAll t s scope contexts).filter (Condition.targetHolds t s condition) := by
  rw [Element.follow]
  rfl

mutual

theorem Part.mem_follow_iff_exists : ∀ (p : Part), p.isUnpaged = true →
    ∀ {ns : List NodeId} {m : NodeId}, m ∈ p.follow t s ns ↔ ∃ n ∈ ns, m ∈ p.follow t s [n]
  | .identity, _, ns, m => by simp [Part.follow]
  | .ancestors _ _, _, ns, m => by
    simp only [Part.follow]
    exact SnapshotTree.mem_union_iff_exists_singleton
  | .descendants _ _, _, ns, m => by
    simp only [Part.follow]
    exact SnapshotTree.mem_union_iff_exists_singleton
  | .composite e, h, ns, m => by
    rw [Part.isUnpaged] at h
    simp only [Part.follow]
    exact Element.mem_follow_iff_exists e h

theorem Part.mem_followAll_iff_exists : ∀ (ps : List Part), Part.allUnpaged ps = true →
    ∀ {ns : List NodeId} {m : NodeId},
      m ∈ Part.followAll t s ps ns ↔ ∃ n ∈ ns, m ∈ Part.followAll t s ps [n]
  | [], _, ns, m => by simp [Part.followAll]
  | p :: ps, h, ns, m => by
    rw [Part.allUnpaged, Bool.and_eq_true] at h
    simp only [Part.followAll]
    constructor
    · intro hm
      obtain ⟨k, hk, hm⟩ := (Part.mem_followAll_iff_exists ps h.2).1 hm
      obtain ⟨n, hn, hk⟩ := (Part.mem_follow_iff_exists p h.1).1 hk
      exact ⟨n, hn, (Part.mem_followAll_iff_exists ps h.2).2 ⟨k, hk, hm⟩⟩
    · rintro ⟨n, hn, hm⟩
      obtain ⟨k, hk, hm⟩ := (Part.mem_followAll_iff_exists ps h.2).1 hm
      have hk' := (Part.mem_follow_iff_exists p h.1).2 ⟨n, hn, hk⟩
      exact (Part.mem_followAll_iff_exists ps h.2).2 ⟨k, hk', hm⟩

theorem Element.mem_follow_iff_exists : ∀ (e : Element), e.isUnpaged = true →
    ∀ {ns : List NodeId} {m : NodeId}, m ∈ e.follow t s ns ↔ ∃ n ∈ ns, m ∈ e.follow t s [n]
  | ⟨condition, scope, skip, take⟩, h, ns, m => by
    simp only [Element.isUnpaged, Bool.and_eq_true, Option.isNone_iff_eq_none] at h
    obtain ⟨⟨hscope, rfl⟩, rfl⟩ := h
    simp only [Element.follow_unpaged, List.mem_filter]
    rw [Part.mem_followAll_iff_exists scope hscope]
    constructor
    · rintro ⟨⟨n, hn, hm⟩, hholds⟩
      exact ⟨n, hn, hm, hholds⟩
    · rintro ⟨n, hn, hm, hholds⟩
      exact ⟨⟨n, hn, hm⟩, hholds⟩

end

end Contexts

/-! ## The two compositions -/

lemma Condition.targetHolds_append {t : SnapshotTree} {s : Setting}
    {existing : Option Condition} {c : Condition} {n : NodeId} :
    Condition.targetHolds t s (some (.append existing c)) n =
      (Condition.targetHolds t s existing n && c.holds t s n) := by
  cases existing with
  | none => simp [append, targetHolds]
  | some d => simp [append, targetHolds, holds]

namespace Query

variable {t : SnapshotTree} {s : Setting} {p c : Query} {n : NodeId}

lemma results_of_alive {q : Query} (hn : t.alive n = true) :
    q.results t s n = q.element.follow t s (Part.followAll t s q.path [n]) := by
  obtain ⟨path, element⟩ := q
  rw [results, if_pos hn]

lemma results_of_not_alive {q : Query} (hn : ¬t.alive n = true) : q.results t s n = [] := by
  obtain ⟨path, element⟩ := q
  rw [results, if_neg hn]

lemma alive_of_mem_results {q : Query} {m : NodeId} (hn : t.alive n = true)
    (hm : m ∈ q.results t s n) : t.alive m = true := by
  rw [results_of_alive hn] at hm
  have hpath := Part.contexts_followAll (s := s) q.path (SnapshotTree.Contexts.singleton hn)
  exact (Element.contexts_follow q.element hpath).alive m hm

/-- The second composition filters the matches of the outer query. -/
lemma results_hasChild (hskip : p.element.skip = none) (htake : p.element.take = none) :
    (p.hasChild c).results t s n =
      (p.results t s n).filter fun m => !(c.results t s m).isEmpty := by
  obtain ⟨path, condition, scope, _, _⟩ := p
  obtain rfl : _ = none := hskip
  obtain rfl : _ = none := htake
  by_cases hn : t.alive n = true
  · rw [results_of_alive hn, results_of_alive hn]
    simp only [hasChild, require, Element.appendCondition, Element.follow_unpaged,
      List.filter_filter]
    refine List.filter_congr fun m _ => ?_
    rw [Condition.targetHolds_append, Condition.holds, Bool.and_comm]
  · rw [results_of_not_alive hn, results_of_not_alive hn]
    rfl

/-- The first composition finds what the inner query finds from some match of the outer one. -/
lemma mem_results_childOf (hpath : c.path = []) (hc : c.element.isUnpaged = true) {m : NodeId} :
    m ∈ (c.childOf p).results t s n ↔ ∃ k ∈ p.results t s n, m ∈ c.results t s k := by
  by_cases hn : t.alive n = true
  · have hcontexts : Part.followAll t s (c.childOf p).path [n] = p.results t s n := by
      rw [results_of_alive hn, childOf, hpath, List.nil_append, Part.followAll_append,
        Part.followAll_composite]
    rw [results_of_alive hn, hcontexts]
    refine (Element.mem_follow_iff_exists c.element hc).trans ?_
    refine exists_congr fun k => and_congr_right fun hk => ?_
    rw [results_of_alive (alive_of_mem_results hn hk), hpath, Part.followAll]
  · simp [results_of_not_alive hn]

/-- A query whose pages are all in its conditions is found from the matches of another query if and
only if some match of the other query has a match of it. The other query may have pages on its way,
but not at its end. -/
theorem findFirst_childOf_iff_hasChild (t : SnapshotTree) (s : Setting) (p c : Query) (n : NodeId)
    (hskip : p.element.skip = none) (htake : p.element.take = none) (hpath : c.path = [])
    (hc : c.element.isUnpaged = true) (hchildOf : (c.childOf p).depth ≤ s.maxNesting.toNat)
    (hhasChild : (p.hasChild c).depth ≤ s.maxNesting.toNat) :
    ∃ x y, (c.childOf p).findFirst s t.provider n = .ok x ∧
      (p.hasChild c).findFirst s t.provider n = .ok y ∧ (x.isSome ↔ y.isSome) := by
  have hfirst := findFirst_of_yields ((c.childOf p).yields_findAll (.refl t s) n hchildOf)
  have hsecond := findFirst_of_yields ((p.hasChild c).yields_findAll (.refl t s) n hhasChild)
  refine ⟨_, _, hfirst, hsecond, ?_⟩
  rw [List.isSome_head?, List.isSome_head?, results_hasChild hskip htake]
  constructor
  · intro hfound
    obtain ⟨m, hm⟩ := List.exists_mem_of_ne_nil _ hfound
    obtain ⟨k, hk, hm⟩ := (mem_results_childOf hpath hc).1 hm
    have hkeep : (!(c.results t s k).isEmpty) = true := by simp [List.ne_nil_of_mem hm]
    exact List.ne_nil_of_mem (List.mem_filter.2 ⟨hk, hkeep⟩)
  · intro hfound
    obtain ⟨k, hk⟩ := List.exists_mem_of_ne_nil _ hfound
    obtain ⟨hk, hkeep⟩ := List.mem_filter.1 hk
    obtain ⟨m, hm⟩ := List.exists_mem_of_ne_nil (c.results t s k) (by simpa using hkeep)
    exact List.ne_nil_of_mem ((mem_results_childOf hpath hc).2 ⟨k, hk, hm⟩)

end Query

end Engine

/-- Only the second child has a child left. -/
theorem Query.findFirst_childOf_iff_hasChild_two_children :
    let root : SnapshotNode := .node ∅ [.node ∅ [.node ∅ []], .node ∅ [.node ∅ []]]
    let t := (SnapshotTree.ofNode root).removeAll [2]
    let s : Setting := { reach := 5 }
    let p : Query := { path := [], element := .ofScope [.children] }
    let c : Query := { path := [], element := .ofScope [.composite (.ofScope [.children])] }
    (p.element.skip = none ∧ p.element.take = none ∧ c.path = [] ∧ c.element.isUnpaged = true ∧
      (c.childOf p).depth ≤ s.maxNesting.toNat ∧ (p.hasChild c).depth ≤ s.maxNesting.toNat) ∧
      (c.childOf p).findFirst s t.provider 0 = .ok (some 4) ∧
      ∃ k, (p.hasChild c).findFirst s t.provider 0 = .ok (some k) := by
  intro root t s p c
  have hc : c.element.isUnpaged = true := by decide
  have hchildOf : (c.childOf p).depth ≤ s.maxNesting.toNat := by decide
  have hhasChild : (p.hasChild c).depth ≤ s.maxNesting.toNat := by decide
  have hfound : (c.childOf p).findFirst s t.provider 0 = .ok (some 4) := by decide +kernel
  obtain ⟨x, y, hx, hy, hsome⟩ :=
    findFirst_childOf_iff_hasChild t s p c 0 rfl rfl rfl hc hchildOf hhasChild
  rw [hfound] at hx
  cases hx
  obtain ⟨k, rfl⟩ := Option.isSome_iff_exists.1 (hsome.1 rfl)
  exact ⟨⟨rfl, rfl, rfl, hc, hchildOf, hhasChild⟩, hfound, k, hy⟩

end ControlQuery

import ControlQuery.Proofs.Search.Eager
import ControlQuery.Proofs.Snapshot.Distances

/-!
# Looking up and looking down

A walk up follows one parent link after the other and counts down; a walk down lists whatever is
below, level by level, and passes over what is not valid. Both say of two controls how many valid
links lead up from one to the other. So a control is among the ancestors of another one within some
limit just if the other is among its descendants within the same limit.
-/

namespace ControlQuery

namespace SnapshotTree

variable {t : SnapshotTree} {n m x y : NodeId} {steps levels : Nat}

/-- The control that so many parent links lead up to, if all controls on the way are valid. -/
def climb? (t : SnapshotTree) : Nat → NodeId → Option NodeId
  | 0, n => some n
  | steps + 1, n => (t.parent? n).bind (t.climb? steps)

lemma climb?_succ_last (t : SnapshotTree) (steps : Nat) (n : NodeId) :
    t.climb? (steps + 1) n = (t.climb? steps n).bind t.parent? := by
  induction steps generalizing n with
  | zero =>
    rw [climb?, climb?, Option.bind_some]
    cases t.parent? n <;> rfl
  | succ steps ih =>
    rw [climb?, climb?]
    cases t.parent? n with
    | none => rfl
    | some p => exact ih p

/-- A walk up lists the controls that links lead up to, as many links as it has levels. -/
lemma mem_chain_iff : m ∈ t.chain levels n ↔ ∃ steps < levels, t.climb? (steps + 1) n = some m := by
  induction levels generalizing n with
  | zero => simp [chain]
  | succ levels ih =>
    rw [chain, Nat.exists_lt_succ_left]
    simp only [climb?]
    cases hp : t.parent? n with
    | none => simp
    | some p => simp [ih, climb?, eq_comm]

/-- A child that is still there is one whose parent link leads to the control. -/
lemma Recorded.mem_kids_iff (h : t.Recorded) : m ∈ t.kids n ↔ t.parent? m = some n := by
  rw [mem_kids, h.parent?_eq_some_iff]
  tauto

/-- A walk down lists the controls from which links lead up to its start, as many links as it has
levels. -/
lemma Recorded.mem_preorder_iff (h : t.Recorded) :
    m ∈ t.preorder levels n ↔ ∃ steps < levels, t.climb? (steps + 1) m = some n := by
  induction levels generalizing n with
  | zero => simp [preorder]
  | succ levels ih =>
    rw [preorder, List.mem_flatMap, Nat.exists_lt_succ_left]
    simp only [List.mem_cons, h.mem_kids_iff, ih]
    -- the level of a child is the last link on the way up
    constructor
    · rintro ⟨c, hc, rfl | ⟨steps, hsteps, hclimb⟩⟩
      · exact .inl (by rw [climb?_succ_last, climb?, Option.bind_some, hc])
      · exact .inr ⟨steps, hsteps, by rw [climb?_succ_last, hclimb, Option.bind_some, hc]⟩
    · rintro (hclimb | ⟨steps, hsteps, hclimb⟩)
      · rw [climb?_succ_last, climb?, Option.bind_some] at hclimb
        exact ⟨m, hclimb, .inl rfl⟩
      · rw [climb?_succ_last, Option.bind_eq_some_iff] at hclimb
        obtain ⟨c, hclimb, hc⟩ := hclimb
        exact ⟨c, hc, .inr ⟨steps, hsteps, hclimb⟩⟩

lemma Recorded.mem_chain_iff_mem_preorder (h : t.Recorded) :
    y ∈ t.chain levels x ↔ x ∈ t.preorder levels y := by
  rw [mem_chain_iff, h.mem_preorder_iff]

end SnapshotTree

/-! ### Relative conditions -/

section Engine

variable [Regex.Engine]

section Relative

variable {t : SnapshotTree} {s : Setting} {c : Condition} {d : Distance} {n m : NodeId}

/-- A condition that is true of one control only holds at a distance just if that control is there. -/
lemma Condition.run_evaluate_relative_of_unique
    (halive : ∀ k ∈ t.nearby n d, t.alive k = true)
    (hc : ∀ k, t.provider.isValid k = true →
      ((c.evaluate s k).run t.provider = .ok true ↔ k = m)) :
    ((Condition.relative d (some c)).evaluate s n).run t.provider =
      .ok (decide (m ∈ t.nearby n d)) := by
  have hholds : ∀ k ∈ t.nearby n d, Condition.targetHolds t s (some c) k = decide (k = m) := by
    intro k hk
    have hunique := hc k (halive k hk)
    rw [Condition.run_evaluate (.refl t s), Except.ok.injEq] at hunique
    rw [Condition.targetHolds, Bool.eq_iff_iff, hunique, decide_eq_true_eq]
  rw [Condition.run_evaluate (.refl t s), Condition.holds]
  congr 1
  rw [Bool.eq_iff_iff, List.any_eq_true, decide_eq_true_eq]
  constructor
  · rintro ⟨k, hk, htrue⟩
    rw [hholds k hk, decide_eq_true_eq] at htrue
    exact htrue ▸ hk
  · intro hm
    exact ⟨m, hm, by rw [hholds m hm, decide_eq_true_eq]⟩

end Relative

/-- Of two controls of a tree, whatever has been removed, one is among the ancestors of the other
within some limit just if the other is among its descendants within that limit. So a condition that
is true of the one alone holds within so many steps up from the other just if a condition that is
true of the other alone holds within so many levels down from the one. -/
theorem Search.mem_ancestors_iff_mem_descendants (root : SnapshotNode) (removed : List NodeId)
    (s : Setting) (x y : NodeId) :
    let P := ((SnapshotTree.ofNode root).removeAll removed).provider
    (∀ maxDepth, ∃ up down,
        (ancestors (s.levels maxDepth) false x).drain P = (up, none) ∧
          (descendants (s.levels maxDepth) false y).drain P = (down, none) ∧
          (y ∈ up ↔ x ∈ down)) ∧
      ∀ (steps : Count) (c c' : Condition),
        (∀ n, P.isValid n = true → ((c.evaluate s n).run P = .ok true ↔ n = y)) →
        (∀ n, P.isValid n = true → ((c'.evaluate s n).run P = .ok true ↔ n = x)) →
        ∃ holds,
          ((Condition.relative (.up steps) (some c)).evaluate s x).run P = .ok holds ∧
            ((Condition.relative (.down steps) (some c')).evaluate s y).run P = .ok holds := by
  intro P
  set t := (SnapshotTree.ofNode root).removeAll removed
  have h : t.Recorded := (SnapshotTree.recorded_ofNode root).removeAll removed
  refine ⟨fun maxDepth => ⟨_, _, yields_climb t (s.levels maxDepth) x,
    yields_descendants t (s.levels maxDepth) false (by simp),
    h.mem_chain_iff_mem_preorder⟩, fun steps c c' hc hc' => ?_⟩
  have hup := Condition.run_evaluate_relative_of_unique
    (fun k (hk : k ∈ t.nearby x (.up steps)) => SnapshotTree.alive_of_mem_chain hk) hc
  have hdown := Condition.run_evaluate_relative_of_unique
    (fun k (hk : k ∈ t.nearby y (.down steps)) => SnapshotTree.alive_of_mem_preorder hk) hc'
  have hsame : x ∈ t.nearby y (.down steps) ↔ y ∈ t.nearby x (.up steps) :=
    h.mem_chain_iff_mem_preorder.symm
  rw [decide_eq_decide.2 hsame] at hdown
  exact ⟨_, hup, hdown⟩

end Engine

/-- The grandchild of the root, next to which a control has been removed. -/
theorem Search.mem_ancestors_iff_mem_descendants_grandchild :
    let named (name : String) (cs : List SnapshotNode) : SnapshotNode :=
      .node (PropertyMap.empty.insert .name (.str name)) cs
    let t := (SnapshotTree.ofNode (named "a" [named "b" [named "c" []], named "c" []])).removeAll [3]
    let P := t.provider
    let s : Setting := { reach := 4 }
    let isA : Condition := .property (.equals .name (.str "a"))
    let isC : Condition := .property (.equals .name (.str "c"))
    ((∀ n, P.isValid n = true → ((isA.evaluate s n).run P = .ok true ↔ n = 0)) ∧
        ∀ n, P.isValid n = true → ((isC.evaluate s n).run P = .ok true ↔ n = 2)) ∧
      (∃ up down, (ancestors (s.levels none) false 2).drain P = (up, none) ∧
        (descendants (s.levels none) false 0).drain P = (down, none) ∧ (0 ∈ up ↔ 2 ∈ down)) ∧
      ∃ holds, ((Condition.relative (.up 2) (some isA)).evaluate s 2).run P = .ok holds ∧
        ((Condition.relative (.down 2) (some isC)).evaluate s 0).run P = .ok holds := by
  intro named t P s isA isC
  obtain ⟨hwalks, hrelative⟩ := mem_ancestors_iff_mem_descendants
    (named "a" [named "b" [named "c" []], named "c" []]) [3] s 2 0
  have hsize : t.size = 4 := by decide +kernel
  have hbelow : ∀ n < 4, P.isValid n = true →
      ((isA.evaluate s n).run P = .ok true ↔ n = 0) ∧
        ((isC.evaluate s n).run P = .ok true ↔ n = 2) := by decide +kernel
  have hnumber : ∀ n, P.isValid n = true → n < 4 := fun n hn => hsize ▸ SnapshotTree.alive_lt hn
  have hA : ∀ n, P.isValid n = true → ((isA.evaluate s n).run P = .ok true ↔ n = 0) :=
    fun n hn => (hbelow n (hnumber n hn) hn).1
  have hC : ∀ n, P.isValid n = true → ((isC.evaluate s n).run P = .ok true ↔ n = 2) :=
    fun n hn => (hbelow n (hnumber n hn) hn).2
  exact ⟨⟨hA, hC⟩, hwalks none, hrelative 2 isA isC hA hC⟩

end ControlQuery

import ControlQuery.Proofs.CPath.Prescription
import ControlQuery.Query.Render

/-!
# Normal forms of queries

The normal form of a query is the one that its canonical text writes: every part of a path and every
element becomes a list of elements with a single walk each, chains of a connective are joined from
the left, and pages are bounded by the greatest count. The main statement here is that queries nest
as deep as their normal forms.
-/

namespace ControlQuery

open CPath (Page)

section Engine

variable [Regex.Engine]

mutual

/-- Whether a function condition stands anywhere in a condition. -/
def Condition.hasFunction : Condition → Bool
  | .property _ => false
  | .function _ => true
  | .logical _ left right => left.hasFunction || right.hasFunction
  | .hasElement query => query.hasFunction
  | .relative _ condition => Condition.hasFunctionOption condition

def Condition.hasFunctionOption : Option Condition → Bool
  | none => false
  | some condition => condition.hasFunction

def Part.hasFunction : Part → Bool
  | .identity => false
  | .ancestors _ _ => false
  | .descendants _ _ => false
  | .composite element => element.hasFunction

def Part.hasFunctionList : List Part → Bool
  | [] => false
  | part :: parts => part.hasFunction || Part.hasFunctionList parts

def Element.hasFunction : Element → Bool
  | { condition, scope, .. } =>
    Condition.hasFunctionOption condition || Part.hasFunctionList scope

def Query.hasFunction : Query → Bool
  | { path, element } => Part.hasFunctionList path || element.hasFunction

end

/-- The number as a count, or the greatest count if it is greater. -/
def cappedCount (n : Nat) : Count :=
  UInt64.ofNat (min n greatestCount)

/-- The page that the text of a page is read as. -/
def normalPage (skip take : Option Count) : Page :=
  let start := skip.getD 0
  match take with
  | none => .from start none
  | some take =>
    if take = 1 then .from (cappedCount (start.toNat + 1) - 1) (some 1)
    else .from start (some (cappedCount (start.toNat + take.toNat) - start))

/-- The walk of the last step of a scope. -/
def Part.lastWalk : List Part → Part
  | [] => .identity
  | [.composite _] => .identity
  | [part] => part
  | _ :: parts => Part.lastWalk parts

/-- The number of conjuncts that the node test takes over. -/
def Condition.testCount (condition : Option Condition) : Nat :=
  if (condition.bind Condition.nodeTest?).isSome then 1 else 0

mutual

/-- The normal forms of the operands of a condition in a chain of the connective. -/
def Condition.spine (op : Connective) : Condition → List Condition
  | .property condition => [.property condition]
  | .function condition => [.function condition]
  | .logical op' left right =>
    if op' = op then left.spine op ++ right.spine op
    else (op'.fold (left.spine op' ++ right.spine op')).toList
  | .hasElement query => [.hasElement query.normal]
  | .relative distance condition => [.relative distance (Condition.normalTarget condition)]

def Condition.normalTarget : Option Condition → Option Condition
  | none => none
  | some condition => Connective.and.fold (condition.spine .and)

def Condition.spineOption : Option Condition → List Condition
  | none => []
  | some condition => condition.spine .and

/-- The elements that a part writes in front of the step that its own walk stands in. -/
def Part.front : Part → List Element
  | .identity => []
  | .ancestors _ _ => []
  | .descendants _ _ => []
  | .composite element => element.front ++ [element.last]

/-- The elements that a part writes. -/
def Part.steps : Part → List Element
  | .identity => [.ofScope [.identity]]
  | .ancestors maxDepth includeSelf => [.ofScope [.ancestors maxDepth includeSelf]]
  | .descendants maxDepth includeSelf => [.ofScope [.descendants maxDepth includeSelf]]
  | .composite element => element.front ++ [element.last]

def Part.stepsList : List Part → List Element
  | [] => []
  | part :: parts => part.steps ++ Part.stepsList parts

/-- The elements that a scope writes in front of its last walk. -/
def Part.frontList : List Part → List Element
  | [] => []
  | [part] => part.front
  | part :: parts => part.steps ++ Part.frontList parts

def Element.front : Element → List Element
  | { scope, .. } => Part.frontList scope

/-- The last element that an element writes: it has the condition and the page. -/
def Element.last : Element → Element
  | { condition, scope, skip, take } =>
    let conjuncts := Condition.spineOption condition
    let count := Condition.testCount condition
    { condition := Connective.and.fold
        (conjuncts.take count ++ (Connective.and.fold (conjuncts.drop count)).toList)
      scope := [Part.lastWalk scope]
      skip := (normalPage skip take).skip
      take := (normalPage skip take).take }

def Query.normal : Query → Query
  | { path, element } =>
    { path := (Part.stepsList path ++ element.front).map .composite, element := element.last }

end

end Engine

lemma toNat_cappedCount (n : Nat) : (cappedCount n).toNat = min n greatestCount := by
  apply UInt64.toNat_ofNat_of_lt'
  apply Nat.lt_of_le_of_lt (Nat.min_le_right _ _)
  decide

lemma Count.toNat_le (n : Count) : n.toNat ≤ greatestCount := by
  have h := n.toNat_lt
  unfold greatestCount
  omega

lemma toNat_getD (n : Option Count) : (n.map UInt64.toNat).getD 0 = (n.getD 0).toNat := by
  cases n <;> rfl

variable [Regex.Engine]

lemma Part.lastWalk_cons_cons (p q : Part) (ps : List Part) :
    Part.lastWalk (p :: q :: ps) = Part.lastWalk (q :: ps) := by
  cases p <;> rfl

lemma Part.frontList_cons_cons (p q : Part) (ps : List Part) :
    Part.frontList (p :: q :: ps) = p.steps ++ Part.frontList (q :: ps) := by
  rw [Part.frontList]
  simp

/-! ## Chains -/

namespace Connective

variable {op : Connective} {c : Condition} {cs : List Condition} {b : Nat}

lemma fold_eq_none_iff : op.fold cs = none ↔ cs = [] := by
  cases cs <;> simp [fold]

lemma exists_fold (op : Connective) (h : cs ≠ []) : ∃ d, op.fold cs = some d := by
  cases cs with
  | nil => exact absurd rfl h
  | cons c cs => exact ⟨_, rfl⟩

lemma depth_foldl_le_iff :
    (cs.foldl (.logical op) c).depth ≤ b ↔ c.depth ≤ b ∧ ∀ d ∈ cs, d.depth ≤ b := by
  induction cs generalizing c with
  | nil => simp
  | cons d cs ih =>
    rw [List.foldl_cons, ih, Condition.depth, Nat.max_le]
    simp [and_assoc]

lemma depthOfOption_fold_le_iff :
    Condition.depthOfOption (op.fold cs) ≤ b ↔ ∀ d ∈ cs, d.depth ≤ b := by
  cases cs with
  | nil => simp [fold, Condition.depthOfOption]
  | cons c cs => simp [fold, Condition.depthOfOption, depth_foldl_le_iff]

lemma depth_fold_toList_le_iff :
    (∀ d ∈ (op.fold cs).toList, d.depth ≤ b) ↔ ∀ d ∈ cs, d.depth ≤ b := by
  apply Iff.trans _ depthOfOption_fold_le_iff
  · exact op
  · cases op.fold cs <;> simp [Condition.depthOfOption]

end Connective

lemma forall_mem_take_append_fold_drop {cs : List Condition} {n b : Nat} :
    (∀ d ∈ cs.take n ++ (Connective.and.fold (cs.drop n)).toList, d.depth ≤ b) ↔
      ∀ d ∈ cs, d.depth ≤ b := by
  rw [List.forall_mem_append, Connective.depth_fold_toList_le_iff, ← List.forall_mem_append,
    List.take_append_drop]

lemma Part.depth_lastWalk (ps : List Part) : (Part.lastWalk ps).depth = 0 := by
  induction ps with
  | nil => rfl
  | cons p ps ih =>
    cases ps with
    | nil => cases p <;> rfl
    | cons q ps =>
      rw [Part.lastWalk_cons_cons]
      exact ih

lemma Part.depthOfList_map_composite_le_iff {es : List Element} {b : Nat} :
    Part.depthOfList (es.map .composite) ≤ b ↔ ∀ e ∈ es, e.depth ≤ b := by
  induction es with
  | nil => simp [Part.depthOfList]
  | cons e es ih =>
    rw [List.map_cons, Part.depthOfList, Part.depth, Nat.max_le, ih, List.forall_mem_cons]

/-! ## Depths -/

mutual

theorem Condition.depth_spine_le_iff (op : Connective) {b : Nat} :
    ∀ c : Condition, (∀ d ∈ c.spine op, d.depth ≤ b) ↔ c.depth ≤ b
  | .property condition => by simp [Condition.spine]
  | .function condition => by simp [Condition.spine]
  | .logical op' left right => by
    have hsides : (∀ d ∈ left.spine op' ++ right.spine op', d.depth ≤ b) ↔
        (Condition.logical op' left right).depth ≤ b := by
      rw [List.forall_mem_append, Condition.depth_spine_le_iff op' left,
        Condition.depth_spine_le_iff op' right, Condition.depth, Nat.max_le]
    rw [Condition.spine]
    by_cases h : op' = op
    · rw [if_pos h, ← h]
      exact hsides
    · rw [if_neg h, Connective.depth_fold_toList_le_iff]
      exact hsides
  | .hasElement query => by
    simp [Condition.spine, Condition.depth, Query.depth_normal_le_iff query]
  | .relative distance condition => by
    simp [Condition.spine, Condition.depth, Condition.depth_normalTarget_le_iff condition]

theorem Condition.depth_normalTarget_le_iff {b : Nat} : ∀ c : Option Condition,
    Condition.depthOfOption (Condition.normalTarget c) ≤ b ↔ Condition.depthOfOption c ≤ b
  | none => by simp [Condition.normalTarget]
  | some c => by
    rw [Condition.normalTarget, Connective.depthOfOption_fold_le_iff,
      Condition.depth_spine_le_iff .and c, Condition.depthOfOption]

theorem Condition.depth_spineOption_le_iff {b : Nat} : ∀ c : Option Condition,
    (∀ d ∈ Condition.spineOption c, d.depth ≤ b) ↔ Condition.depthOfOption c ≤ b
  | none => by simp [Condition.spineOption, Condition.depthOfOption]
  | some c => by
    rw [Condition.spineOption, Condition.depth_spine_le_iff .and c, Condition.depthOfOption]

theorem Part.depth_front_le_iff {b : Nat} : ∀ p : Part, (∀ e ∈ p.front, e.depth ≤ b) ↔ p.depth ≤ b
  | .identity => by simp [Part.front, Part.depth]
  | .ancestors _ _ => by simp [Part.front, Part.depth]
  | .descendants _ _ => by simp [Part.front, Part.depth]
  | .composite e => by
    rw [Part.front, Part.depth]
    exact Element.depth_steps_le_iff e

theorem Part.depth_steps_le_iff {b : Nat} : ∀ p : Part, (∀ e ∈ p.steps, e.depth ≤ b) ↔ p.depth ≤ b
  | .identity => by
    simp [Part.steps, Part.depth, Element.depth, Condition.depthOfOption, Part.depthOfList]
  | .ancestors _ _ => by
    simp [Part.steps, Part.depth, Element.depth, Condition.depthOfOption, Part.depthOfList]
  | .descendants _ _ => by
    simp [Part.steps, Part.depth, Element.depth, Condition.depthOfOption, Part.depthOfList]
  | .composite e => by
    rw [Part.steps, Part.depth]
    exact Element.depth_steps_le_iff e

theorem Part.depth_stepsList_le_iff {b : Nat} : ∀ ps : List Part,
    (∀ e ∈ Part.stepsList ps, e.depth ≤ b) ↔ Part.depthOfList ps ≤ b
  | [] => by simp [Part.stepsList, Part.depthOfList]
  | p :: ps => by
    rw [Part.stepsList, Part.depthOfList, List.forall_mem_append, Part.depth_steps_le_iff p,
      Part.depth_stepsList_le_iff ps, Nat.max_le]

theorem Part.depth_frontList_le_iff {b : Nat} : ∀ ps : List Part,
    (∀ e ∈ Part.frontList ps, e.depth ≤ b) ↔ Part.depthOfList ps ≤ b
  | [] => by simp [Part.frontList, Part.depthOfList]
  | [p] => by
    rw [Part.frontList, Part.depth_front_le_iff p]
    simp [Part.depthOfList]
  | p :: p' :: ps => by
    have hmore := Part.depth_frontList_le_iff (b := b) (p' :: ps)
    rw [Part.frontList_cons_cons, Part.depthOfList, List.forall_mem_append,
      Part.depth_steps_le_iff p, hmore, Nat.max_le]

theorem Element.depth_steps_le_iff {b : Nat} : ∀ e : Element,
    (∀ d ∈ e.front ++ [e.last], d.depth ≤ b) ↔ e.depth ≤ b
  | ⟨condition, scope, skip, take⟩ => by
    rw [List.forall_mem_append, Element.front, Part.depth_frontList_le_iff scope,
      List.forall_mem_singleton, Element.last, Element.depth, Element.depth, Nat.max_le, Nat.max_le,
      Connective.depthOfOption_fold_le_iff, forall_mem_take_append_fold_drop,
      Condition.depth_spineOption_le_iff condition]
    simp [Part.depthOfList, Part.depth_lastWalk, and_comm]

theorem Query.depth_normal_le_iff {b : Nat} : ∀ q : Query, q.normal.depth ≤ b ↔ q.depth ≤ b
  | ⟨path, element⟩ => by
    have hsteps := Element.depth_steps_le_iff (b := b - 1) element
    rw [List.forall_mem_append, List.forall_mem_singleton] at hsteps
    have hmax : max element.last.depth
          (Part.depthOfList ((Part.stepsList path ++ element.front).map .composite)) ≤ b - 1 ↔
        max element.depth (Part.depthOfList path) ≤ b - 1 := by
      rw [Nat.max_le, Nat.max_le, Part.depthOfList_map_composite_le_iff, List.forall_mem_append,
        Part.depth_stepsList_le_iff path, ← hsteps]
      tauto
    rw [Query.normal, Query.depth, Query.depth]
    omega

end

theorem Query.depth_normal (q : Query) : q.normal.depth = q.depth := by
  apply Nat.le_antisymm
  · exact (Query.depth_normal_le_iff q).mpr (Nat.le_refl _)
  · exact (Query.depth_normal_le_iff q).mp (Nat.le_refl _)

end ControlQuery

import ControlQuery.CPath.Parse
import ControlQuery.Proofs.Search.Drain

/-!
# Layers of queries

A query that takes over page and scope of another one is a layer below it. Of three layers it makes
no difference which two are joined first: the conditions come to be grouped differently, but nothing
that a query is used for depends on how the operands of a chain are grouped. The main statement
compares the two ways to join three layers.
-/

namespace ControlQuery

variable {ν : Type}

/-! ### Chains of conditions -/

/-- The operands of a chain are found out about one after the other, whatever their grouping. -/
lemma Connective.evaluate_assoc (op : Connective) (first second third : Inquiry ν Bool) :
    op.evaluate (op.evaluate first second) third =
      op.evaluate first (op.evaluate second third) := by
  simp only [Connective.evaluate]
  rw [Inquiry.bind_assoc]
  congr 1
  funext b
  cases op <;> cases b <;> rfl

variable [Regex.Engine]

namespace Condition

section Chain

variable (c d e : Condition)

lemma evaluate_and_assoc [DecidableEq ν] (s : Setting) :
    ((c.and d).and e).evaluate s = (c.and (d.and e)).evaluate (ν := ν) s := by
  funext n
  simp only [evaluate]
  exact Connective.and.evaluate_assoc _ _ _

/-- A chain is written flat. -/
lemma conjuncts_and_assoc :
    conjuncts (some ((c.and d).and e)) = conjuncts (some (c.and (d.and e))) := by
  simp [conjuncts, operands]

lemma depth_and_assoc : ((c.and d).and e).depth = (c.and (d.and e)).depth := by
  simp only [depth, Nat.max_assoc]

end Chain

/-- What two conditions require together, where either may be left out. -/
def merge (existing other : Option Condition) : Option Condition :=
  match other with
  | some c => some (append existing c)
  | none => existing

/-- What is the same for the two groupings of a chain is the same for the two ways to merge. With a
condition left out the two ways give the same condition. -/
lemma merge_assoc_congr {β : Type} (f : Option Condition → β)
    (h : ∀ c d e : Condition, f (some ((c.and d).and e)) = f (some (c.and (d.and e)))) :
    ∀ c d e : Option Condition, f (merge (merge c d) e) = f (merge c (merge d e))
  | _, _, none => rfl
  | _, none, some _ => rfl
  | none, some _, some _ => rfl
  | some c, some d, some e => h c d e

end Condition

namespace Query

/-! ### Joining layers -/

/-- The query with another one as the layer below it. -/
abbrev layer (q other : Query) : Query :=
  q.append other true true

section Layers

variable (a b c : Query)

lemma layer_eq : a.layer b =
    ⟨a.path ++ b.path, { b.element with
      condition := Condition.merge a.element.condition b.element.condition }⟩ := rfl

/-- What does not depend on the grouping in the condition of the element does not depend on which
two of three layers are joined first. -/
lemma layer_assoc_congr {β : Type} (f : Query → β)
    (h : ∀ path scope skip take, ∀ c d e : Condition,
      f ⟨path, ⟨some ((c.and d).and e), scope, skip, take⟩⟩ =
        f ⟨path, ⟨some (c.and (d.and e)), scope, skip, take⟩⟩) :
    f ((a.layer b).layer c) = f (a.layer (b.layer c)) := by
  simp only [layer_eq]
  rw [List.append_assoc]
  exact Condition.merge_assoc_congr
    (fun condition => f ⟨_, { c.element with condition }⟩) (h _ _ _ _) _ _ _

lemma depth_layer_assoc : ((a.layer b).layer c).depth = (a.layer (b.layer c)).depth := by
  refine layer_assoc_congr a b c Query.depth fun path scope skip take c d e => ?_
  simp only [Query.depth, Element.depth, Condition.depthOfOption, Condition.depth_and_assoc]

lemma render_layer_assoc : ((a.layer b).layer c).render = (a.layer (b.layer c)).render := by
  refine layer_assoc_congr a b c Query.render fun path scope skip take c d e => ?_
  have htest : (some ((c.and d).and e)).bind Condition.nodeTest? =
      (some (c.and (d.and e))).bind Condition.nodeTest? := rfl
  rw [Query.render, Query.render, Element.render, Element.render, htest,
    Condition.conjuncts_and_assoc]

variable [DecidableEq ν]

/-- The search itself is the same: it has the same depth limit to keep, and it puts the same
requests whatever the replies are. -/
lemma findAll_layer_assoc (s : Setting) (P : Provider ν) (n : ν) :
    ((a.layer b).layer c).findAll s P n = (a.layer (b.layer c)).findAll s P n := by
  have hlimit : ((a.layer b).layer c).nestingError? s = (a.layer (b.layer c)).nestingError? s := by
    rw [nestingError?, nestingError?, depth_layer_assoc]
  have hsearch : ((a.layer b).layer c).element.pursue s
        (Part.pursueAll s ((a.layer b).layer c).path (.one n)) =
      (a.layer (b.layer c)).element.pursue s
        (Part.pursueAll s (a.layer (b.layer c)).path (.one n)) := by
    refine layer_assoc_congr a b c (fun q => q.element.pursue s (Part.pursueAll s q.path (.one n)))
      fun path scope skip take c d e => ?_
    simp only [Element.pursue, Condition.select, Condition.evaluate_and_assoc]
  rw [findAll, findAll, hlimit, hsearch]

end Layers

/-- Joining layers is associative up to the grouping of the conditions. Whichever two of three
layers are joined first, path, scope, page and depth are the same, the canonical text is the same,
and a search is one and the same conversation: it puts the same requests and, on every provider,
yields the same controls and ends in the same failure, if any. The query for everything is a layer
that adds nothing, so a text that is added to it gives what the text is read as. -/
theorem findAll_append_append (a b c : Query) (text : String) :
    let left := (a.append b true true).append c true true
    let right := a.append (b.append c true true) true true
    (left.path = right.path ∧ left.element.scope = right.element.scope ∧
        left.element.skip = right.element.skip ∧ left.element.take = right.element.take ∧
        left.depth = right.depth) ∧
      left.render = right.render ∧
      (∀ {ν : Type} [DecidableEq ν] (s : Setting) (P : Provider ν) (n : ν),
        left.findAll s P n = right.findAll s P n) ∧
      everything.append a true true = a ∧ everything.appendText text = CPath.parse text := by
  intro left right
  have hfirst : ∀ q : Query, everything.append q true true = q := by
    rintro ⟨path, _ | condition, scope, skip, take⟩
    · rfl
    · rfl
  refine ⟨⟨List.append_assoc _ _ _, rfl, rfl, rfl, depth_layer_assoc a b c⟩,
    render_layer_assoc a b c, findAll_layer_assoc a b c, hfirst a, ?_⟩
  rw [appendText]
  cases CPath.parse text with
  | error e => rfl
  | ok q => exact congrArg Except.ok (hfirst q)

end Query

end ControlQuery

import ControlQuery.Proofs.Search.Results

/-!
# Plain queries

A plain condition compares properties and joins such comparisons. A query is plain if its conditions
are, in every element, and if no element has a page. A plain condition looks at nothing but the
properties of the control itself, and it never holds of a control that has gone.
-/

namespace ControlQuery

lemma SnapshotTree.value_of_not_alive {t : SnapshotTree} {n : NodeId} (hn : ¬t.alive n = true)
    (id : PropertyId) : t.value n id = none := by
  rcases t.stale_or_alive n with ⟨-, he⟩ | ⟨hal, -⟩
  · simp [value, properties?, he, Except.toOption]
  · exact absurd hal hn

variable [Regex.Engine]

/-- Whether a condition is made of comparisons of properties only. -/
def Condition.isPlain : Condition → Bool
  | .property _ => true
  | .function _ => false
  | .logical _ left right => left.isPlain && right.isPlain
  | .hasElement _ => false
  | .relative _ _ => false

mutual

/-- Whether all conditions in a part are plain and nothing in it is paged. -/
def Part.isPlain : Part → Bool
  | .identity => true
  | .ancestors _ _ => true
  | .descendants _ _ => true
  | .composite element => element.isPlain

/-- Whether this is so in all parts. -/
def Part.allPlain : List Part → Bool
  | [] => true
  | part :: parts => part.isPlain && Part.allPlain parts

/-- Whether this is so in an element. -/
def Element.isPlain : Element → Bool
  | { condition, scope, skip, take } =>
    condition.all Condition.isPlain && Part.allPlain scope && skip.isNone && take.isNone

end

/-- Whether this is so in a query. -/
def Query.isPlain (q : Query) : Bool :=
  Part.allPlain q.path && q.element.isPlain

variable {t t' : SnapshotTree} {s : Setting} {n : NodeId}

/-- What is true of comparisons and passes through connectives is true of plain conditions. -/
lemma Condition.plain_induction {motive : Condition → Prop}
    (property : ∀ c, motive (.property c))
    (logical : ∀ op left right, motive left → motive right → motive (.logical op left right)) :
    ∀ {c : Condition}, c.isPlain = true → motive c
  | .property c, _ => property c
  | .logical op left right, hplain => by
    rw [isPlain, Bool.and_eq_true] at hplain
    exact logical op left right (plain_induction property logical hplain.1)
      (plain_induction property logical hplain.2)
  | .function _, hplain => by
    rw [isPlain] at hplain
    cases hplain
  | .hasElement _, hplain => by
    rw [isPlain] at hplain
    cases hplain
  | .relative _ _, hplain => by
    rw [isPlain] at hplain
    cases hplain

lemma Condition.holds_of_not_alive {c : Condition} (hplain : c.isPlain = true)
    (hn : ¬t.alive n = true) : c.holds t s n = false := by
  refine plain_induction (motive := fun c => c.holds t s n = false) (fun c => ?_) ?_ hplain
  · rw [holds, SnapshotTree.value_of_not_alive hn]
    rfl
  · intro op left right hleft hright
    cases op <;> simp [holds, hleft, hright]

lemma Condition.holds_congr {c : Condition} (hplain : c.isPlain = true)
    (h : t.value n = t'.value n) : c.holds t s n = c.holds t' s n := by
  refine plain_induction (motive := fun c => c.holds t s n = c.holds t' s n) (fun c => ?_) ?_ hplain
  · rw [holds, holds, h]
  · intro op left right hleft hright
    cases op <;> simp [holds, hleft, hright]

end ControlQuery

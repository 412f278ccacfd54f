import ControlQuery.Query.Basic

/-!
# Equality of queries

Queries, elements, parts and conditions hold lists of one another, so their equality is decided by
a recursion over all four types at once. The main statement is that the recursion decides equality.
-/

namespace ControlQuery

variable [Regex.Engine]

mutual

/-- Whether two conditions are equal. -/
def Condition.same : Condition → Condition → Bool
  | .property c, .property d => c == d
  | .function f, .function g => f == g
  | .logical op l r, .logical op' l' r' => op == op' && l.same l' && r.same r'
  | .hasElement q, .hasElement q' => q.same q'
  | .relative d c, .relative d' c' => d == d' && Condition.sameOption c c'
  | _, _ => false

/-- Whether two optional conditions are equal. -/
def Condition.sameOption : Option Condition → Option Condition → Bool
  | none, none => true
  | some c, some d => c.same d
  | _, _ => false

/-- Whether two parts are equal. -/
def Part.same : Part → Part → Bool
  | .identity, .identity => true
  | .ancestors m s, .ancestors m' s' => m == m' && s == s'
  | .descendants m s, .descendants m' s' => m == m' && s == s'
  | .composite e, .composite e' => e.same e'
  | _, _ => false

/-- Whether two lists of parts are equal. -/
def Part.sameList : List Part → List Part → Bool
  | [], [] => true
  | p :: ps, q :: qs => p.same q && Part.sameList ps qs
  | _, _ => false

/-- Whether two elements are equal. -/
def Element.same : Element → Element → Bool
  | ⟨c, ps, s, t⟩, ⟨c', ps', s', t'⟩ =>
    Condition.sameOption c c' && Part.sameList ps ps' && s == s' && t == t'

/-- Whether two queries are equal. -/
def Query.same : Query → Query → Bool
  | ⟨ps, e⟩, ⟨ps', e'⟩ => Part.sameList ps ps' && e.same e'

end

mutual

theorem Condition.same_iff : ∀ c d : Condition, c.same d = true ↔ c = d
  | .property c, d => by cases d <;> simp [Condition.same]
  | .function f, d => by cases d <;> simp [Condition.same]
  | .logical op l r, d => by
    cases d <;> simp [Condition.same, Condition.same_iff l, Condition.same_iff r, and_assoc]
  | .hasElement q, d => by cases d <;> simp [Condition.same, Query.same_iff q]
  | .relative e c, d => by cases d <;> simp [Condition.same, Condition.sameOption_iff c]

theorem Condition.sameOption_iff :
    ∀ c d : Option Condition, Condition.sameOption c d = true ↔ c = d
  | none, d => by cases d <;> simp [Condition.sameOption]
  | some c, d => by cases d <;> simp [Condition.sameOption, Condition.same_iff c]

theorem Part.same_iff : ∀ p q : Part, p.same q = true ↔ p = q
  | .identity, q => by cases q <;> simp [Part.same]
  | .ancestors _ _, q => by cases q <;> simp [Part.same]
  | .descendants _ _, q => by cases q <;> simp [Part.same]
  | .composite e, q => by cases q <;> simp [Part.same, Element.same_iff e]

theorem Part.sameList_iff : ∀ ps qs : List Part, Part.sameList ps qs = true ↔ ps = qs
  | [], qs => by cases qs <;> simp [Part.sameList]
  | p :: ps, qs => by
    cases qs <;> simp [Part.sameList, Part.same_iff p, Part.sameList_iff ps]

theorem Element.same_iff : ∀ e f : Element, e.same f = true ↔ e = f
  | ⟨c, ps, s, t⟩, ⟨c', ps', s', t'⟩ => by
    simp [Element.same, Condition.sameOption_iff c, Part.sameList_iff ps, and_assoc]

theorem Query.same_iff : ∀ q r : Query, q.same r = true ↔ q = r
  | ⟨ps, e⟩, ⟨ps', e'⟩ => by simp [Query.same, Part.sameList_iff ps, Element.same_iff e]

end

instance : DecidableEq Condition := fun c d => decidable_of_iff _ (Condition.same_iff c d)

instance : DecidableEq Part := fun p q => decidable_of_iff _ (Part.same_iff p q)

instance : DecidableEq Element := fun e f => decidable_of_iff _ (Element.same_iff e f)

instance : DecidableEq Query := fun q r => decidable_of_iff _ (Query.same_iff q r)

end ControlQuery

import ControlQuery.Query.Basic

/-!
# Queries that only look down

The parts of such a query stay where they are or walk down, at every level of nesting. It may have
any conditions and pages.
-/

namespace ControlQuery

variable [Regex.Engine]

mutual

/-- Whether a part leads nowhere but down. -/
def Part.isDownward : Part → Bool
  | .identity => true
  | .ancestors _ _ => false
  | .descendants _ _ => true
  | .composite element => element.isDownward

/-- Whether all parts lead nowhere but down. -/
def Part.allDownward : List Part → Bool
  | [] => true
  | part :: parts => part.isDownward && Part.allDownward parts

/-- Whether the scope of an element leads nowhere but down. -/
def Element.isDownward : Element → Bool
  | { scope, .. } => Part.allDownward scope

end

/-- Whether a query leads nowhere but down. -/
def Query.isDownward (q : Query) : Bool :=
  Part.allDownward q.path && q.element.isDownward

end ControlQuery

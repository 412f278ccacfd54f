import ControlQuery.CPath.Grammar
import ControlQuery.CPath.Meaning

/-!
# Reading queries

A text is read as a path expression first and then looked at for its meaning, so a text that does
not follow the grammar is reported as such whatever else is wrong with it.
-/

namespace ControlQuery

variable [Regex.Engine]

namespace CPath

/-- The steps that a text writes. -/
def steps (text : String) : Except ParseError (List Step) :=
  match wholePath text (.start text) {} with
  | (some (steps, _), _) => .ok steps
  | (none, σ) => .error (σ.error text)

/-- The query that a text writes. -/
def parse (text : String) : Except ParseError Query := do
  let elements ← Step.elements (← steps text)
  return queryOfElements elements

end CPath

/-- Adds the query that a text writes, and takes over its scope and its page. -/
def Query.appendText (q : Query) (text : String) : Except CPath.ParseError Query := do
  return q.append (← CPath.parse text) true true

end ControlQuery

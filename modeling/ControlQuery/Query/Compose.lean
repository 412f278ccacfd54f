import ControlQuery.Query.Equality
import ControlQuery.Query.Scope

/-!
# Building queries

Queries are built up step by step from other queries, conditions, scopes and pages. A composed query
holds copies of its parts, so two queries built from a common one never affect each other.
-/

namespace ControlQuery

variable [Regex.Engine]

namespace Condition

/-- Adds a condition to an optional one. -/
def append (existing : Option Condition) (other : Condition) : Condition :=
  match existing with
  | some c => c.and other
  | none => other

/-- Removes each occurrence of a condition among the operands of a chain of `and`s; nothing is left
if all operands are removed. -/
def remove (target : Condition) : Condition → Option Condition
  | .logical .and left right =>
    if Condition.and left right = target then none
    else
      match remove target left, remove target right with
      | some left, some right => some (left.and right)
      | some rest, none => some rest
      | none, some rest => some rest
      | none, none => none
  | c => if c = target then none else some c

end Condition

namespace Element

/-- Adds a condition. -/
def appendCondition (e : Element) (c : Condition) : Element :=
  { e with condition := some (.append e.condition c) }

/-- Removes a condition from the chain of `and`s. -/
def removeCondition (e : Element) (target : Condition) : Element :=
  { e with condition := e.condition.bind (Condition.remove target) }

end Element

namespace Query

/-- Requires a condition of the matches. -/
def require (q : Query) (c : Condition) : Query :=
  { q with element := q.element.appendCondition c }

/-- Requires that a property has a value. -/
def property (q : Query) (id : PropertyId) (value : PropertyValue)
    (options : ComparisonOptions := {}) : Query :=
  q.require (.property (.equals id value options))

/-- Requires that the plain form of a property contains a text. -/
def propertyContains (q : Query) (id : PropertyId) (text : String)
    (options : ComparisonOptions := {}) : Query :=
  q.require (.property (.contains id text options))

/-- Requires that the plain form of a property matches a regular expression, if the text is one. -/
def propertyMatches? (q : Query) (id : PropertyId) (pattern : String)
    (options : ComparisonOptions := {}) : Option Query :=
  (PropertyCondition.matches? id pattern options).map fun c => q.require (.property c)

/-- Requires the name. -/
def name (q : Query) (text : String) : Query :=
  q.property .name (.str text)

/-- Requires the automation identifier. -/
def automationId (q : Query) (text : String) : Query :=
  q.property .automationId (.str text)

/-- Requires the class name. -/
def className (q : Query) (text : String) : Query :=
  q.property .className (.str text)

/-- Requires the control type. -/
def controlType (q : Query) (text : String) : Query :=
  q.property .controlType (.str text)

/-- Requires that the control supports a pattern. -/
def patternAvailable (q : Query) (pattern : ControlPattern) : Query :=
  q.property (.patternAvailable pattern) (.bool true)

/-- Requires a predicate of the caller. -/
def function (q : Query) (f : FunctionCondition) : Query :=
  q.require (.function f)

/-- Replaces the scope of the element. -/
def withParts (q : Query) (parts : List Part) : Query :=
  { q with element := { q.element with scope := parts } }

/-- Replaces the scope of the element, unless no walk covers it. -/
def withScope (q : Query) (scope : Scope) : Except ScopeError Query :=
  scope.toParts.map q.withParts

/-- Considers only the children of the context. -/
def children (q : Query) : Query :=
  q.withParts [.children]

/-- Considers only what lies at most `maxDepth` levels below the context. -/
def descendants (q : Query) (maxDepth : Count) : Query :=
  q.withParts [.descendants (some maxDepth) false]

/-- Sets the depth limit of every walk in the scope of the element. -/
def maxDepth (q : Query) (depth : Option Count) : Query :=
  q.withParts (q.element.scope.map (Part.setMaxDepth depth))

/-- Skips the first matches. -/
def skip (q : Query) (n : Count) : Query :=
  { q with element := { q.element with skip := some n } }

/-- Takes only so many matches. -/
def take (q : Query) (n : Count) : Query :=
  { q with element := { q.element with take := some n } }

/-- Requires that the matches are found from a match of `parent`: its stages follow the path. -/
def childOf (q parent : Query) : Query :=
  { q with path := q.path ++ parent.path ++ [.composite parent.element] }

/-- Requires that `child` has a match from the control. -/
def hasChild (q child : Query) : Query :=
  q.require (.hasElement child)

/-- Requires that a control within the distance fulfils the condition of `other`'s element. -/
def relativeTo (q other : Query) (distance : Distance) : Query :=
  q.require (.relative distance other.element.condition)

/-- Adds the path and the condition of another query, and takes over its page and its scope if
asked to. -/
def append (q other : Query) (takePage takeScope : Bool) : Query :=
  let condition := match other.element.condition with
    | some c => some (Condition.append q.element.condition c)
    | none => q.element.condition
  { path := q.path ++ other.path
    element :=
      { condition
        scope := if takeScope then other.element.scope else q.element.scope
        skip := if takePage then other.element.skip else q.element.skip
        take := if takePage then other.element.take else q.element.take } }

/-- Removes a condition from the chain of `and`s of the element. -/
def removeCondition (q : Query) (target : Condition) : Query :=
  { q with element := q.element.removeCondition target }

end Query

end ControlQuery

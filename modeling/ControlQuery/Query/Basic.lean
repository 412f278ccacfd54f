import ControlQuery.Property.Condition

/-!
# Queries

A query describes where a control lives in a tree of controls. Its path narrows the set of context
controls part by part, and its element gives the matches. A part either walks along the links of
the tree or is an element again, and an element has a scope of parts, a condition and a page.
Conditions may hold whole queries, so the four types are defined together.
-/

namespace ControlQuery

/-- A number of controls, levels or steps: a natural number below `2 ^ 64`. -/
abbrev Count := UInt64

/-- How far, and in which direction, a relative condition looks. -/
inductive Distance where
  /-- Along at most this many parent links. -/
  | up (steps : Count)
  /-- At most this many levels down. -/
  | down (steps : Count)
  /-- Along at most this many links, up or down in any mixture. -/
  | any (steps : Count)
deriving DecidableEq, Repr

/-- The connectives between conditions. -/
inductive Connective where
  | and
  | or
deriving DecidableEq, Repr

/-- Tells the predicates apart that a caller supplies. -/
abbrev PredicateId := Nat

/-- A named predicate that a caller supplies. Two of them are equal only if they share the name and
the predicate. -/
structure FunctionCondition where
  name : String
  predicate : PredicateId
deriving DecidableEq, Repr

mutual

/-- A condition on a single control. -/
inductive Condition [Regex.Engine] where
  | property (condition : PropertyCondition)
  | function (condition : FunctionCondition)
  | logical (op : Connective) (left right : Condition)
  /-- The query has a match if it starts at the control. -/
  | hasElement (query : Query)
  /-- Some control within the distance fulfils the condition, or exists at all if there is none. -/
  | relative (distance : Distance) (condition : Option Condition)

/-- One stage of a search, from context controls to the controls that they lead to. -/
inductive Part [Regex.Engine] where
  | identity
  /-- Along parent links, nearest first. -/
  | ancestors (maxDepth : Option Count) (includeSelf : Bool)
  /-- Down the subtree, each control before its children. -/
  | descendants (maxDepth : Option Count) (includeSelf : Bool)
  | composite (element : Element)

/-- A scope, then a condition, then a page. With no scope the context itself is considered, and
with no condition every control passes. -/
structure Element [Regex.Engine] where
  condition : Option Condition := none
  scope : List Part := []
  skip : Option Count := none
  take : Option Count := none

/-- A search for controls: the parts of the path in order, then the element. -/
structure Query [Regex.Engine] where
  path : List Part
  element : Element

end

variable [Regex.Engine]

namespace Condition

/-- Both conditions. -/
abbrev and (c d : Condition) : Condition :=
  .logical .and c d

/-- One of the conditions at least. -/
abbrev or (c d : Condition) : Condition :=
  .logical .or c d

end Condition

namespace Part

/-- The children of a context. -/
abbrev children : Part :=
  .descendants (some 1) false

/-- The parent of a context. -/
abbrev parent : Part :=
  .ancestors (some 1) false

/-- The depth limit of a part that walks; the outer option is empty for the others. -/
def maxDepth? : Part → Option (Option Count)
  | .ancestors maxDepth _ => some maxDepth
  | .descendants maxDepth _ => some maxDepth
  | .identity => none
  | .composite _ => none

/-- The part with another depth limit, if it is one that walks. -/
def withMaxDepth? (depth : Option Count) : Part → Option Part
  | .ancestors _ includeSelf => some (.ancestors depth includeSelf)
  | .descendants _ includeSelf => some (.descendants depth includeSelf)
  | .identity => none
  | .composite _ => none

/-- The part with another depth limit; a part that does not walk stays as it is. -/
def setMaxDepth (depth : Option Count) (p : Part) : Part :=
  (p.withMaxDepth? depth).getD p

end Part

namespace Element

/-- An element with the given scope, for any control. -/
abbrev ofScope (scope : List Part) : Element :=
  { scope }

end Element

namespace Query

/-- The query that matches everything below the start. -/
def everything : Query :=
  { path := [], element := .ofScope [.descendants none false] }

/-- The number of stages: the parts of the path and the element. -/
def stepCount (q : Query) : Nat :=
  q.path.length + 1

end Query

mutual

/-- How deep sub-queries nest inside a condition. -/
def Condition.depth : Condition → Nat
  | .property _ => 0
  | .function _ => 0
  | .logical _ left right => max left.depth right.depth
  | .hasElement query => query.depth
  | .relative _ condition => Condition.depthOfOption condition

/-- How deep sub-queries nest inside a condition, if there is one. -/
def Condition.depthOfOption : Option Condition → Nat
  | none => 0
  | some condition => condition.depth

/-- How deep sub-queries nest inside a part. -/
def Part.depth : Part → Nat
  | .identity => 0
  | .ancestors _ _ => 0
  | .descendants _ _ => 0
  | .composite element => element.depth

/-- How deep sub-queries nest inside some of the parts. -/
def Part.depthOfList : List Part → Nat
  | [] => 0
  | part :: parts => max part.depth (Part.depthOfList parts)

/-- How deep sub-queries nest inside an element. -/
def Element.depth : Element → Nat
  | { condition, scope, .. } => max (Condition.depthOfOption condition) (Part.depthOfList scope)

/-- How deep queries nest: one for the query, and more for each sub-query inside another. -/
def Query.depth : Query → Nat
  | { path, element } => 1 + max element.depth (Part.depthOfList path)

end

end ControlQuery

import ControlQuery.Query.Basic

/-!
# Scopes

A scope says which controls an element considers relative to its context: the context itself, what
lies below it, or what lies above it. One walk goes either down or up, so a scope that mixes the two
has no parts.
-/

namespace ControlQuery

/-- The controls to consider, relative to a context. -/
structure Scope where
  /-- The context itself. -/
  element : Bool := false
  children : Bool := false
  descendants : Bool := false
  parent : Bool := false
  ancestors : Bool := false
deriving DecidableEq, Repr

/-- Why a scope is no walk. -/
inductive ScopeError where
  | empty
  | mixed (scope : Scope)
deriving DecidableEq, Repr

variable [Regex.Engine]

namespace Scope

/-- The context and everything below it. -/
def subtree : Scope :=
  { element := true, children := true, descendants := true }

/-- What either scope considers. -/
def union (s t : Scope) : Scope where
  element := s.element || t.element
  children := s.children || t.children
  descendants := s.descendants || t.descendants
  parent := s.parent || t.parent
  ancestors := s.ancestors || t.ancestors

/-- Whether a scope considers all that another one does. -/
def contains (s t : Scope) : Bool :=
  s.union t == s

/-- The scope as a sum of powers of two, one for each kind of control. -/
def bits (s : Scope) : Nat :=
  s.element.toNat + 2 * s.children.toNat + 4 * s.descendants.toNat + 8 * s.parent.toNat +
    16 * s.ancestors.toNat

/-- The parts that walk the scope. -/
def toParts (s : Scope) : Except ScopeError (List Part) :=
  let down := s.children || s.descendants
  let up := s.parent || s.ancestors
  match down, up with
  | false, false => if s.element then .ok [] else .error .empty
  | true, false => .ok [.descendants (if s.descendants then none else some 1) s.element]
  | false, true => .ok [.ancestors (if s.ancestors then none else some 1) s.element]
  | true, true => .error (.mixed s)

end Scope

/-- What is wrong with the scope, in words. -/
def ScopeError.message : ScopeError → String
  | empty => "empty scope"
  | mixed scope => s!"scope Scope({scope.bits}) mixes upward and downward traversal"

end ControlQuery

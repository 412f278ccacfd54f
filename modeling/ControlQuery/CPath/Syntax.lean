import ControlQuery.CPath.Reader

/-!
# The syntax of path expressions

The shape of a path expression that follows the grammar, before names and numbers in it are looked
at. Names and numbers keep their place in the text, so that a message can point at them.
-/

namespace ControlQuery.CPath

/-- How a step is attached to what stands before it: by one slash or none, or by two. -/
inductive Separator where
  | child
  | descendant
deriving DecidableEq, Repr

/-- An axis: its name, and its depth limit if it has one. -/
structure AxisSyntax where
  name : Lexeme
  depth : Option Lexeme
deriving DecidableEq, Repr

/-- What a step asks of the type of a control. -/
inductive NodeTest where
  | any
  | controlType (name : String)
deriving DecidableEq, Repr

/-- What a comparison looks for. -/
inductive Relation where
  | equals
  | contains
  | matches
deriving DecidableEq, Repr

/-- The sign of a comparison. -/
structure Operator where
  negated : Bool
  relation : Relation
deriving DecidableEq, Repr

/-- The value that a property is compared with, and its place. -/
inductive Literal where
  /-- A quoted text; `body` is what stands between the quotes. -/
  | string (offset : Nat) (body : String)
  | boolean (offset : Nat) (value : Bool)
  | number (digits : Lexeme)
deriving DecidableEq, Repr

/-- The place of a literal. -/
def Literal.offset : Literal → Nat
  | string offset _ => offset
  | boolean offset _ => offset
  | number digits => digits.offset

/-- The direction of a relative condition. -/
inductive Direction where
  | up
  | down
  | any
deriving DecidableEq, Repr

/-- The distance of a relative condition: the whole of it, and its sign and digits. -/
structure DistanceSyntax where
  whole : Lexeme
  direction : Direction
  digits : String
deriving DecidableEq, Repr

mutual

/-- A condition in brackets. -/
inductive Expr where
  | either (left right : Expr)
  | both (left right : Expr)
  | comparison (property : Lexeme) (operator : Operator) (literal : Literal) (ignoreCase : Bool)
  /-- A condition on some control at a distance, or on its existence. -/
  | relative (distance : DistanceSyntax) (target : Option Expr)
  /-- A path from the control itself. -/
  | subPath (steps : List Step)

/-- One step of a path. -/
inductive Step where
  | self (separator : Separator)
  | parent (separator : Separator)
  | axis (separator : Separator) (axis : Option AxisSyntax) (test : NodeTest)
      (predicates : List Predicate)

/-- What stands in one pair of brackets. -/
inductive Predicate where
  | position (whole number : Lexeme)
  /-- A page from `start` on, up to `stop`, where `bounds` is the text between the brackets. -/
  | slice (whole bounds : Lexeme) (start stop : Option Lexeme)
  | condition (expr : Expr)

end

end ControlQuery.CPath

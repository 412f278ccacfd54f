import ControlQuery.Query.Basic

/-!
# The canonical text of a query

Every query has one canonical text. A chain of `and`s or `or`s is written flat, and an operand is
put in parentheses only if it is a chain of the other connective. A condition that starts with a
node test writes it in front of the brackets. A part that is an element writes its own steps.
-/

namespace ControlQuery

/-- The greatest count. -/
def greatestCount : Nat := 0xFFFFFFFFFFFFFFFF

/-- An operand of a chain: its text by itself and inside the chain. -/
structure Operand where
  alone : String
  inside : String

namespace Connective

/-- The keyword of the connective. -/
def keyword : Connective → String
  | and => "and"
  | or => "or"

/-- The texts with the keyword between them. -/
def join (op : Connective) : List String → String
  | [] => ""
  | [s] => s
  | s :: ss => s ++ " " ++ op.keyword ++ " " ++ op.join ss

/-- The text of a chain. An operand that is the whole chain needs no parentheses. -/
def chain (op : Connective) : List Operand → String
  | [x] => x.alone
  | xs => op.join (xs.map Operand.inside)

end Connective

namespace Operand

/-- An operand that needs no parentheses. -/
def plain (text : String) : Operand :=
  ⟨text, text⟩

/-- An operand that needs parentheses inside a chain. -/
def grouped (text : String) : Operand :=
  ⟨text, "(" ++ text ++ ")"⟩

end Operand

/-- The distance as it is written in a relative condition. -/
def Distance.render : Distance → String
  | up n => "-" ++ toString n.toNat
  | down n => toString n.toNat
  | any n => "~" ++ toString n.toNat

/-- An axis with its depth limit. -/
def axisText (name : String) : Option Count → String
  | none => name
  | some n => name ++ "\x7b" ++ toString n.toNat ++ "\x7d"

/-- The step of a walk along parent links. -/
def ancestorsStep (maxDepth : Option Count) (includeSelf : Bool) (test : String) : String :=
  if includeSelf then "/" ++ axisText "ancestor-or-self" maxDepth ++ "::" ++ test
  else if maxDepth = some 1 then "/parent::" ++ test
  else "/" ++ axisText "ancestor" maxDepth ++ "::" ++ test

/-- The step of a walk down the subtree. -/
def descendantsStep (maxDepth : Option Count) (includeSelf : Bool) (test : String) : String :=
  if includeSelf then "/" ++ axisText "descendant-or-self" maxDepth ++ "::" ++ test
  else if maxDepth = none then "//" ++ test
  else if maxDepth = some 1 then "/" ++ test
  else "/" ++ axisText "descendant" maxDepth ++ "::" ++ test

/-- A page in brackets, or nothing if there is no page. A single control is given by its position,
counted from one; other pages are given by their bounds, which stop at the greatest count. -/
def pageText : Option Count → Option Count → String
  | none, none => ""
  | skip, take =>
    let start := (skip.map UInt64.toNat).getD 0
    match take with
    | some take =>
      if take = 1 then "[" ++ toString (min (start + 1) greatestCount) ++ "]"
      else if start = 0 then "[:" ++ toString take.toNat ++ "]"
      else "[" ++ toString start ++ ":" ++ toString (min (start + take.toNat) greatestCount) ++ "]"
    | none => "[" ++ toString start ++ ":]"

variable [Regex.Engine]

/-- The node test that a condition starts with, if any. -/
def Condition.nodeTest? : Condition → Option String
  | .property condition => condition.nodeTest?
  | .logical .and left _ => left.nodeTest?
  | _ => none

mutual

/-- The operands of a condition in a chain of the connective. -/
def Condition.operands (op : Connective) : Condition → List Operand
  | .property condition => [.plain condition.render]
  | .function condition => [.plain ("fn('" ++ condition.name ++ "')")]
  | .logical op' left right =>
    if op' = op then left.operands op ++ right.operands op
    else [.grouped (op'.chain (left.operands op' ++ right.operands op'))]
  | .hasElement query => [.plain ("." ++ query.render)]
  | .relative distance condition =>
    [.plain ("relative(" ++ distance.render ++ ", " ++ Condition.renderTarget condition ++ ")")]

/-- The target of a relative condition. -/
def Condition.renderTarget : Option Condition → String
  | none => "*"
  | some condition => Connective.and.chain (condition.operands .and)

/-- The steps of a part that ends in the node test, or that has none of its own. -/
def Part.render (test : Option String) : Part → String
  | .identity => "/self::" ++ test.getD "*"
  | .ancestors maxDepth includeSelf => ancestorsStep maxDepth includeSelf (test.getD "*")
  | .descendants maxDepth includeSelf => descendantsStep maxDepth includeSelf (test.getD "*")
  | .composite element =>
    match test with
    | some test => element.render ++ "/self::" ++ test
    | none => element.render

/-- The steps of a path. -/
def Part.renderPath : List Part → String
  | [] => ""
  | part :: parts => part.render none ++ Part.renderPath parts

/-- The steps of a scope, with the node test on the last one. -/
def Part.renderScope (test : String) : List Part → String
  | [] => "/self::" ++ test
  | [part] => part.render (some test)
  | part :: parts => part.render none ++ Part.renderScope test parts

/-- The steps of an element, its condition in brackets, and its page. -/
def Element.render : Element → String
  | { condition, scope, skip, take } =>
    let test := condition.bind Condition.nodeTest?
    let conjuncts := Condition.conjuncts condition
    let rest := if test.isSome then conjuncts.tail else conjuncts
    Part.renderScope (test.getD "*") scope ++
      (if rest.isEmpty then "" else "[" ++ Connective.and.chain rest ++ "]") ++
      pageText skip take

/-- The operands of an optional condition in a chain of `and`s. -/
def Condition.conjuncts : Option Condition → List Operand
  | none => []
  | some condition => condition.operands .and

/-- The canonical text of a query. -/
def Query.render : Query → String
  | { path, element } => Part.renderPath path ++ element.render

end

/-- The canonical text of a condition. -/
def Condition.render (c : Condition) : String :=
  Connective.and.chain (c.operands .and)

end ControlQuery

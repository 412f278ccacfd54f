/-!
# Names of the grammar's rules

A message about a text that is no query names the rules that could have gone on where the text went
wrong. The rules have a fixed order, with the end of the input first, and a message keeps to it.
-/

namespace ControlQuery.CPath

/-- A rule of the grammar that a message may name. -/
inductive Rule where
  | endOfInput
  | cpath
  | path
  | leadingStep
  | separator
  | step
  | parentStep
  | selfStep
  | axisStep
  | axis
  | axisName
  | depth
  | wildcard
  | identifier
  | integer
  | predicate
  | slice
  | sliceStart
  | sliceEnd
  | position
  | orExpr
  | andExpr
  | orKeyword
  | andKeyword
  | group
  | comparison
  | property
  | operator
  | caseFlag
  | string
  | singleInner
  | doubleInner
  | boolean
  | number
  | relative
  | distance
  | anyNode
  | subPath
deriving DecidableEq, Repr

namespace Rule

/-- The rules in the order in which messages name them. -/
def all : List Rule :=
  [endOfInput, cpath, path, leadingStep, separator, step, parentStep, selfStep, axisStep, axis,
    axisName, depth, wildcard, identifier, integer, predicate, slice, sliceStart, sliceEnd,
    position, orExpr, andExpr, orKeyword, andKeyword, group, comparison, property, operator,
    caseFlag, string, singleInner, doubleInner, boolean, number, relative, distance, anyNode,
    subPath]

theorem mem_all (r : Rule) : r ∈ all := by
  cases r <;> decide

/-- The name of a rule in a message. -/
def text : Rule → String
  | endOfInput => "EOI"
  | cpath => "cpath"
  | path => "path"
  | leadingStep => "leading_step"
  | separator => "separator"
  | step => "step"
  | parentStep => "parent_step"
  | selfStep => "self_step"
  | axisStep => "axis_step"
  | axis => "axis"
  | axisName => "axis_name"
  | depth => "depth"
  | wildcard => "wildcard"
  | identifier => "identifier"
  | integer => "integer"
  | predicate => "predicate"
  | slice => "slice"
  | sliceStart => "slice_start"
  | sliceEnd => "slice_end"
  | position => "position"
  | orExpr => "or_expr"
  | andExpr => "and_expr"
  | orKeyword => "or_kw"
  | andKeyword => "and_kw"
  | group => "group"
  | comparison => "comparison"
  | property => "property"
  | operator => "operator"
  | caseFlag => "case_flag"
  | string => "string"
  | singleInner => "single_inner"
  | doubleInner => "double_inner"
  | boolean => "boolean"
  | number => "number"
  | relative => "relative"
  | distance => "distance"
  | anyNode => "any_node"
  | subPath => "sub_path"

/-- The names of several rules as a list in words. -/
def listText : List Rule → String
  | [] => ""
  | [r] => r.text
  | [r, s] => r.text ++ " or " ++ s.text
  | rs => commaText rs
where
  /-- The names with commas between them, and an "or" before the last one. -/
  commaText : List Rule → String
    | [] => ""
    | [r] => "or " ++ r.text
    | r :: rs => r.text ++ ", " ++ commaText rs

end Rule

end ControlQuery.CPath

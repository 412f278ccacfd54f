import ControlQuery.Property.Name
import ControlQuery.Property.Value
import ControlQuery.Regex.Engine
import ControlQuery.Unicode.Lowercase

/-!
# Conditions on a property

A property condition compares the value that a control reports for one property with an expected
one: for equality, for containing a text, or for matching a regular expression. A property that is
not reported never fulfils a condition, not even a negated one.
-/

namespace ControlQuery

/-- Whether a text stands somewhere inside another one. -/
def occursIn (needle : List Char) : List Char → Bool
  | [] => needle.isEmpty
  | c :: cs => needle.isPrefixOf (c :: cs) || occursIn needle cs

theorem occursIn_iff {needle text : List Char} :
    occursIn needle text = true ↔ needle <:+: text := by
  induction text with
  | nil => simp [occursIn]
  | cons c cs ih =>
    simp [occursIn, ih, List.infix_cons_iff]

variable [Regex.Engine]

/-- How the value of a property is compared with the expected one. -/
inductive Comparison where
  /-- Values are equal if they are of one kind and agree. -/
  | equals (value : PropertyValue)
  /-- The plain form of the value contains the text. -/
  | contains (text : String)
  /-- The plain form of the value holds a match. -/
  | matches (regex : Regex)
deriving DecidableEq

/-- The options of a comparison. -/
structure ComparisonOptions where
  ignoreCase : Bool := false
  /-- Whether the condition holds where the comparison fails. -/
  negated : Bool := false
deriving DecidableEq, Repr

/-- A condition on one property of a control. -/
structure PropertyCondition where
  property : PropertyId
  comparison : Comparison
  options : ComparisonOptions := {}
deriving DecidableEq

namespace Comparison

/-- The expected value, as it is written in a query. -/
def operand : Comparison → PropertyValue
  | equals v => v
  | contains t => .str t
  | «matches» r => .str r.source

/-- Whether the comparison holds for a reported value, before any negation. -/
def holds (ignoreCase : Bool) : Comparison → PropertyValue → Bool
  | equals expected, actual =>
    match expected, actual with
    | .str e, .str a =>
      if ignoreCase then Unicode.lowercase e == Unicode.lowercase a else e == a
    | e, a => e == a
  | contains needle, actual =>
    if ignoreCase then
      occursIn (Unicode.lowercase needle).toList (Unicode.lowercase actual.plain).toList
    else occursIn needle.toList actual.plain.toList
  | «matches» r, actual => r.isMatch ignoreCase actual.plain

/-- The sign of the comparison in a query, without a negation. -/
def sign : Comparison → String
  | equals _ => "="
  | contains _ => "*="
  | «matches» _ => "~="

end Comparison

/-- Whether a text is a name that a query can give as a node test. -/
def isIdentifier (s : String) : Bool :=
  match s.toList with
  | [] => false
  | c :: cs => (c.isAlpha || c == '_') && cs.all fun c => c.isAlphanum || c == '_'

namespace PropertyCondition

/-- Whether the condition holds for what a control reports. -/
def holds (c : PropertyCondition) : Option PropertyValue → Bool
  | none => false
  | some actual => c.comparison.holds c.options.ignoreCase actual != c.options.negated

/-- The control type that the condition asks for, if a query can write it as a node test: a plain
equality on the control type with an identifier. -/
def nodeTest? (c : PropertyCondition) : Option String :=
  match c.comparison with
  | .equals (.str name) =>
    if c.property = .controlType ∧ c.options = {} ∧ isIdentifier name then some name else none
  | _ => none

/-- The condition as it is written in a query. -/
def render (c : PropertyCondition) : String :=
  "@" ++ c.property.text ++ (if c.options.negated then "!" else "") ++ c.comparison.sign ++
    c.comparison.operand.literal ++ (if c.options.ignoreCase then " i" else "")

/-- A condition that the property has the value. -/
def equals (property : PropertyId) (value : PropertyValue) (options : ComparisonOptions := {}) :
    PropertyCondition :=
  { property, comparison := .equals value, options }

/-- A condition that the plain form of the property contains the text. -/
def contains (property : PropertyId) (text : String) (options : ComparisonOptions := {}) :
    PropertyCondition :=
  { property, comparison := .contains text, options }

/-- A condition that the plain form of the property matches the regular expression, if the text
writes one. -/
def matches? (property : PropertyId) (pattern : String) (options : ComparisonOptions := {}) :
    Option PropertyCondition :=
  (Regex.ofText? pattern).map fun regex => { property, comparison := .matches regex, options }

end PropertyCondition

end ControlQuery

import ControlQuery.CPath.Error
import ControlQuery.Query.Compose
import ControlQuery.Text.Digits

/-!
# The meaning of path expressions

Every path expression stands for a query, unless a name or a number in it means nothing. The last
step becomes the element and those before it become the path. What is read first is looked at
first, so of several errors the leftmost one is reported.
-/

namespace ControlQuery.CPath

/-- The count that digits write, if it is in range. -/
def count? (digits : String) : Option Count :=
  let n := Digits.value digits.toList
  if n < UInt64.size then some (UInt64.ofNat n) else none

/-- The value that digits with an optional sign write, if it is in range. -/
def integer? (number : String) : Option PropertyValue :=
  match number.toList with
  | '-' :: digits => PropertyValue.ofInt? (-(Digits.value digits : Int))
  | digits => PropertyValue.ofInt? (Digits.value digits)

/-- The count that a number writes. -/
def Lexeme.count (l : Lexeme) : Except ParseError Count :=
  match count? l.text with
  | some n => .ok n
  | none => .error (.invalidNumber l .outOfRange)

variable [Regex.Engine]

/-- The parts that two slashes put in front of an axis. -/
def Separator.leadingParts : Separator → List Part
  | child => []
  | descendant => [.descendants none false]

/-- The part that a separator stands for where no axis follows. -/
def Separator.part : Separator → Part
  | child => .children
  | descendant => .descendants none false

/-- The part that an axis of a given name walks. -/
def axisPart? : String → Option Part
  | "self" => some .identity
  | "child" => some .children
  | "parent" => some .parent
  | "descendant" => some (.descendants none false)
  | "descendant-or-self" => some (.descendants none true)
  | "ancestor" => some (.ancestors none false)
  | "ancestor-or-self" => some (.ancestors none true)
  | _ => none

/-- The part that an axis walks, with its depth limit. -/
def AxisSyntax.part (a : AxisSyntax) : Except ParseError Part := do
  let some part := axisPart? a.name.text | throw (.unknownAxis a.name)
  let some depth := a.depth | return part
  let limit ← depth.count
  match part.withMaxDepth? (some limit) with
  | some part => return part
  | none => throw (.invalidNumber depth .selfDepth)

/-- The value that a literal writes. -/
def Literal.value : Literal → Except ParseError PropertyValue
  | string _ body => return .str (String.ofList (Quoted.decode body.toList))
  | boolean _ b => return .bool b
  | number digits =>
    match integer? digits.text with
    | some v => .ok v
    | none => .error (.invalidNumber digits .outOfRange)

/-- The condition that a comparison writes. -/
def comparisonCondition (property : Lexeme) (operator : Operator) (literal : Literal)
    (ignoreCase : Bool) : Except ParseError Condition := do
  let some id := PropertyId.ofName? property.text | throw (.unknownProperty property)
  let value ← literal.value
  let options := { ignoreCase, negated := operator.negated }
  match operator.relation with
  | .equals => return .property (.equals id value options)
  | .contains => return .property (.contains id value.plain options)
  | .matches =>
    match PropertyCondition.matches? id value.plain options with
    | some c => return .property c
    | none => throw (.invalidRegex literal.offset value.plain)

/-- The distance of a relative condition. -/
def DistanceSyntax.distance (d : DistanceSyntax) : Except ParseError Distance :=
  match count? d.digits with
  | none => .error (.invalidNumber d.whole .outOfRange)
  | some n =>
    .ok <| match d.direction with
      | .up => .up n
      | .down => .down n
      | .any => .any n

/-- Takes over the page of a predicate, unless the element has one already. -/
def withPage (e : Element) (whole : Lexeme) (skip : Count) (take : Option Count) :
    Except ParseError Element :=
  if e.skip.isSome || e.take.isSome then .error (.duplicatePosition whole)
  else .ok { e with skip := if skip = 0 then none else some skip, take }

/-- The page of a single position, counted from one. -/
def positionPage (number : Lexeme) : Except ParseError (Count × Option Count) := do
  let n ← number.count
  if n = 0 then throw (.invalidNumber number .positionZero)
  return (n - 1, some 1)

/-- The page between two bounds. -/
def slicePage (bounds : Lexeme) (start stop : Option Lexeme) :
    Except ParseError (Count × Option Count) := do
  let skip ← match start with
    | some start => start.count
    | none => pure 0
  let some stop := stop | return (skip, none)
  let stop ← stop.count
  if stop < skip then throw (.invalidNumber bounds .sliceReversed)
  return (skip, some (stop - skip))

/-- The query of some elements: the last one gives the matches. No element at all stands for the
context itself. -/
def queryOfElements (elements : List Element) : Query where
  path := elements.dropLast.map .composite
  element := elements.getLast?.getD {}

mutual

/-- The condition that an expression writes. -/
def Expr.condition : Expr → Except ParseError Condition
  | .either left right => do
    let l ← left.condition
    let r ← right.condition
    return l.or r
  | .both left right => do
    let l ← left.condition
    let r ← right.condition
    return l.and r
  | .comparison property operator literal ignoreCase =>
    comparisonCondition property operator literal ignoreCase
  | .relative distance target => do
    let d ← distance.distance
    return .relative d (← Expr.target target)
  | .subPath steps => do
    return .hasElement (queryOfElements (← Step.elements steps))

/-- The condition on the control at a distance. -/
def Expr.target : Option Expr → Except ParseError (Option Condition)
  | none => return none
  | some expr => do return some (← expr.condition)

/-- The element that a step writes. -/
def Step.element : Step → Except ParseError Element
  | .self separator => return .ofScope separator.leadingParts
  | .parent separator => return .ofScope (separator.leadingParts ++ [.parent])
  | .axis separator axis test predicates => do
    let scope ← match axis with
      | some axis => do
        let part ← axis.part
        pure (separator.leadingParts ++ [part])
      | none => pure [separator.part]
    let condition := match test with
      | .any => none
      | .controlType name => some (.property (.equals .controlType (.str name)))
    Predicate.apply predicates { condition, scope }

/-- The elements that steps write. -/
def Step.elements : List Step → Except ParseError (List Element)
  | [] => return []
  | step :: steps => do
    let e ← step.element
    return e :: (← Step.elements steps)

/-- Adds to an element what its predicates ask for. -/
def Predicate.apply : List Predicate → Element → Except ParseError Element
  | [], e => return e
  | .condition expr :: more, e => do
    let c ← expr.condition
    Predicate.apply more (e.appendCondition c)
  | .position whole number :: more, e => do
    let (skip, take) ← positionPage number
    Predicate.apply more (← withPage e whole skip take)
  | .slice whole bounds start stop :: more, e => do
    let (skip, take) ← slicePage bounds start stop
    Predicate.apply more (← withPage e whole skip take)

end

end ControlQuery.CPath

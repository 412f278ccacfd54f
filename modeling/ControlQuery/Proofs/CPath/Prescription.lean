import ControlQuery.CPath.Parse
import Mathlib.Algebra.Group.Int.Defs
import Mathlib.Algebra.Ring.Nat
import Mathlib.Tactic.Lemma
import Mathlib.Tactic.Common

/-!
# What a syntax tree prescribes

The published meaning of a syntax tree: its faults in the order of reading, and the query it writes
if it has none. Where a name, a number or a pattern is at fault, what is read in its place is of no
account. The second position of a step is a fault even if the positions before it are slices that
leave nothing out, and such faults are marked as overlooked.
-/

namespace ControlQuery

/-- The conditions joined from left to right, if there are any. -/
def Connective.fold [Regex.Engine] (op : Connective) : List Condition → Option Condition
  | [] => none
  | c :: cs => some (cs.foldl (.logical op) c)

namespace CPath

/-! ## Faults -/

/-- What can be wrong with a text that follows the grammar. -/
inductive Fault where
  | unknownProperty (name : Lexeme)
  | unknownAxis (name : Lexeme)
  | invalidNumber (number : Lexeme) (fault : NumberFault)
  | invalidRegex (offset : Nat) (pattern : String)
  /-- A second position. It is overlooked if those before it leave nothing out. -/
  | duplicatePosition (predicate : Lexeme) (overlooked : Bool)

namespace Fault

def error : Fault → ParseError
  | unknownProperty name => .unknownProperty name
  | unknownAxis name => .unknownAxis name
  | invalidNumber number fault => .invalidNumber number fault
  | invalidRegex offset pattern => .invalidRegex offset pattern
  | duplicatePosition predicate _ => .duplicatePosition predicate

def overlooked : Fault → Bool
  | duplicatePosition _ overlooked => overlooked
  | _ => false

end Fault

/-- The faults that are not overlooked. -/
def heeded (faults : List Fault) : List Fault :=
  faults.filter fun f => !f.overlooked

/-- The error of the first fault, or the value if there is no fault. -/
def prescribed {α : Type} (faults : List Fault) (a : α) : Except ParseError α :=
  match faults with
  | [] => .ok a
  | fault :: _ => .error fault.error

section Prescribed

variable {α β : Type} {fs gs : List Fault} {a : α} {b : β}

lemma prescribed_bind {f : α → Except ParseError β} (h : fs = [] → f a = prescribed gs b) :
    (prescribed fs a >>= f) = prescribed (fs ++ gs) b := by
  cases fs with
  | nil => exact h rfl
  | cons g fs => rfl

lemma prescribed_map (f : α → β) :
    (prescribed fs a >>= fun a => pure (f a)) = prescribed fs (f a) := by
  cases fs with
  | nil => rfl
  | cons g fs => rfl

lemma heeded_append : heeded (fs ++ gs) = heeded fs ++ heeded gs :=
  List.filter_append fs gs

lemma mem_heeded {f : Fault} : f ∈ heeded fs ↔ f ∈ fs ∧ f.overlooked = false := by
  unfold heeded
  rw [List.mem_filter, Bool.not_eq_true']

end Prescribed

/-! ## Names, numbers and literals -/

/-- The value of digits as a count. -/
def countOf (digits : String) : Count :=
  UInt64.ofNat (Digits.value digits.toList)

def countFaults (place : Lexeme) (digits : String) : List Fault :=
  if Digits.value digits.toList < 2 ^ 64 then [] else [.invalidNumber place .outOfRange]

def Lexeme.countFaults (l : Lexeme) : List Fault :=
  CPath.countFaults l l.text

/-- The value of digits with an optional sign. -/
def integerOf (number : String) : Int :=
  match number.toList with
  | '-' :: digits => -(Digits.value digits : Int)
  | digits => Digits.value digits

def axisNames : List String :=
  ["self", "child", "parent", "descendant", "descendant-or-self", "ancestor", "ancestor-or-self"]

def AxisSyntax.faults (a : AxisSyntax) : List Fault :=
  (if a.name.text ∈ axisNames then [] else [.unknownAxis a.name]) ++
    match a.depth with
    | none => []
    | some depth =>
      depth.countFaults ++ if a.name.text = "self" then [.invalidNumber depth .selfDepth] else []

variable [Regex.Engine]

def AxisSyntax.reading (a : AxisSyntax) : Part :=
  let limit := a.depth.map fun depth => countOf depth.text
  match a.name.text with
  | "child" => .descendants (some (limit.getD 1)) false
  | "parent" => .ancestors (some (limit.getD 1)) false
  | "descendant" => .descendants limit false
  | "descendant-or-self" => .descendants limit true
  | "ancestor" => .ancestors limit false
  | "ancestor-or-self" => .ancestors limit true
  | _ => .identity

def Literal.faults : Literal → List Fault
  | .number digits =>
    if -2 ^ 63 ≤ integerOf digits.text ∧ integerOf digits.text < 2 ^ 63 then []
    else [.invalidNumber digits .outOfRange]
  | _ => []

def Literal.reading : Literal → PropertyValue
  | .string _ body => .str (String.ofList (Quoted.decode body.toList))
  | .boolean _ value => .bool value
  | .number digits => .int (Int64.ofInt (integerOf digits.text))

def comparisonFaults (property : Lexeme) (operator : Operator) (literal : Literal) : List Fault :=
  (if (PropertyId.ofName? property.text).isSome then [] else [.unknownProperty property]) ++
    literal.faults ++
    if operator.relation = .matches ∧ (Regex.ofText? literal.reading.plain).isNone then
      [.invalidRegex literal.offset literal.reading.plain]
    else []

def comparisonReading (property : Lexeme) (operator : Operator) (literal : Literal)
    (ignoreCase : Bool) : Condition :=
  let comparison : Comparison := match operator.relation with
    | .equals => .equals literal.reading
    | .contains => .contains literal.reading.plain
    | .matches => ((Regex.ofText? literal.reading.plain).map .matches).getD (.contains "")
  .property
    { property := (PropertyId.ofName? property.text).getD .name, comparison
      options := { ignoreCase, negated := operator.negated } }

def DistanceSyntax.reading (d : DistanceSyntax) : Distance :=
  match d.direction with
  | .up => .up (countOf d.digits)
  | .down => .down (countOf d.digits)
  | .any => .any (countOf d.digits)

/-! ## Positions -/

/-- The items that a page skips and takes. -/
structure Page where
  skip : Option Count
  take : Option Count

/-- A page from some item on. -/
def Page.from (start : Count) (take : Option Count) : Page :=
  ⟨if start = 0 then none else some start, take⟩

/-- Whether the page leaves anything out. -/
def Page.narrows (p : Page) : Bool :=
  p.skip.isSome || p.take.isSome

def positionFaults (number : Lexeme) : List Fault :=
  number.countFaults ++
    if countOf number.text = 0 then [.invalidNumber number .positionZero] else []

def positionReading (number : Lexeme) : Page :=
  .from (countOf number.text - 1) (some 1)

/-- Where a slice starts. -/
def sliceStart (start : Option Lexeme) : Count :=
  (start.map fun l => countOf l.text).getD 0

def stopFaults (bounds : Lexeme) (start : Count) : Option Lexeme → List Fault
  | none => []
  | some stop =>
    stop.countFaults ++
      if countOf stop.text < start then [.invalidNumber bounds .sliceReversed] else []

def sliceFaults (bounds : Lexeme) (start stop : Option Lexeme) : List Fault :=
  (start.map Lexeme.countFaults).getD [] ++ stopFaults bounds (sliceStart start) stop

def sliceReading (start stop : Option Lexeme) : Page :=
  .from (sliceStart start) (stop.map fun l => countOf l.text - sliceStart start)

/-- The fault of a position that is not the first one of its step. -/
def repeatedFaults (whole : Lexeme) (seen narrowed : Bool) : List Fault :=
  if seen then [.duplicatePosition whole (!narrowed)] else []

/-! ## Conditions and steps -/

mutual

def Expr.faults : Expr → List Fault
  | .either left right => left.faults ++ right.faults
  | .both left right => left.faults ++ right.faults
  | .comparison property operator literal _ => comparisonFaults property operator literal
  | .relative distance target =>
    countFaults distance.whole distance.digits ++ Expr.targetFaults target
  | .subPath steps => Step.allFaults steps

def Expr.targetFaults : Option Expr → List Fault
  | none => []
  | some expr => expr.faults

def Step.allFaults : List Step → List Fault
  | [] => []
  | step :: steps => step.faults ++ Step.allFaults steps

def Step.faults : Step → List Fault
  | .self _ => []
  | .parent _ => []
  | .axis _ axis _ predicates =>
    (axis.map AxisSyntax.faults).getD [] ++ Predicate.allFaults false false predicates

/-- The faults of predicates behind others: whether a position has been seen among those, and
whether it leaves anything out. -/
def Predicate.allFaults (seen narrowed : Bool) : List Predicate → List Fault
  | [] => []
  | .condition expr :: more => expr.faults ++ Predicate.allFaults seen narrowed more
  | .position whole number :: more =>
    positionFaults number ++ repeatedFaults whole seen narrowed ++
      Predicate.allFaults true true more
  | .slice whole bounds start stop :: more =>
    sliceFaults bounds start stop ++ repeatedFaults whole seen narrowed ++
      Predicate.allFaults true (narrowed || (sliceReading start stop).narrows) more

end

/-- The parts that two slashes put in front of a step. -/
def Separator.stages : Separator → List Part
  | child => []
  | descendant => [.descendants none false]

/-- The parts that a step walks. -/
def stepScope (separator : Separator) : Option AxisSyntax → List Part
  | none =>
    match separator with
    | .child => [.descendants (some 1) false]
    | .descendant => [.descendants none false]
  | some axis => separator.stages ++ [axis.reading]

def NodeTest.conditions : NodeTest → List Condition
  | any => []
  | controlType name => [.property { property := .controlType, comparison := .equals (.str name) }]

/-- The page of the last position among predicates. -/
def Predicate.page (page : Page) : List Predicate → Page
  | [] => page
  | .condition _ :: more => Predicate.page page more
  | .position _ number :: more => Predicate.page (positionReading number) more
  | .slice _ _ start stop :: more => Predicate.page (sliceReading start stop) more

mutual

def Expr.reading : Expr → Condition
  | .either left right => .logical .or left.reading right.reading
  | .both left right => .logical .and left.reading right.reading
  | .comparison property operator literal ignoreCase =>
    comparisonReading property operator literal ignoreCase
  | .relative distance target => .relative distance.reading (Expr.targetReading target)
  | .subPath steps => .hasElement (queryOfElements (Step.readings steps))

def Expr.targetReading : Option Expr → Option Condition
  | none => none
  | some expr => some expr.reading

def Step.readings : List Step → List Element
  | [] => []
  | step :: steps => step.reading :: Step.readings steps

def Step.reading : Step → Element
  | .self separator => { scope := separator.stages }
  | .parent separator => { scope := separator.stages ++ [.ancestors (some 1) false] }
  | .axis separator axis test predicates =>
    { condition := Connective.and.fold (test.conditions ++ Predicate.readings predicates)
      scope := stepScope separator axis
      skip := (Predicate.page ⟨none, none⟩ predicates).skip
      take := (Predicate.page ⟨none, none⟩ predicates).take }

/-- The conditions among predicates. -/
def Predicate.readings : List Predicate → List Condition
  | [] => []
  | .condition expr :: more => expr.reading :: Predicate.readings more
  | .position _ _ :: more => Predicate.readings more
  | .slice _ _ _ _ :: more => Predicate.readings more

end

lemma queryOfElements_append_singleton (es : List Element) (e : Element) :
    queryOfElements (es ++ [e]) = { path := es.map .composite, element := e } := by
  simp [queryOfElements]

/-- The query that the steps of a path write. -/
def Step.query (steps : List Step) : Query :=
  queryOfElements (Step.readings steps)

end CPath

end ControlQuery

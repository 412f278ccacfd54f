import ControlQuery.Query.Render
import ControlQuery.Search.Walk

/-!
# Running queries

A query is run as a pipeline. The start feeds the pipeline, each part turns the controls that it is
given into those that they lead to, and an element filters and pages what its scope yields. What two
contexts lead to is yielded once. A sub-query in a condition is run only up to its first match.
-/

namespace ControlQuery

/-- A predicate of a caller: it reads properties, one after the other, and then decides. What it
does depends on nothing but the values that it reads. -/
inductive Predicate where
  | answer (holds : Bool)
  | read (id : PropertyId) (next : Option PropertyValue → Predicate)

/-- What a search needs besides the query. -/
structure Setting where
  /-- The predicates that function conditions name. -/
  predicates : PredicateId → Predicate := fun _ => .answer false
  /-- How many links a walk without a limit follows: no fewer than the longest chain in the tree. -/
  reach : Nat
  /-- How deep queries may nest. -/
  maxNesting : Count := 32

/-- The number of levels that a walk may go. -/
def Setting.levels (s : Setting) (maxDepth : Option Count) : Nat :=
  match maxDepth with
  | some n => n.toNat
  | none => s.reach

variable {ν : Type}

/-- Whether the predicate holds of a control. A property that cannot be read counts as absent; if
that was due to a failure, the first such failure is the result. -/
def Predicate.evaluate (n : ν) (failure : Option String) : Predicate → Inquiry ν Bool
  | answer holds =>
    match failure with
    | none => .done holds
    | some reason => .fail (.providerFailure reason)
  | read id next => .ask (.property n id) fun
    | .ok value => (next value).evaluate n failure
    | .error .stale => (next none).evaluate n failure
    | .error (.failure reason) => (next none).evaluate n (failure.or (some reason))

variable [Regex.Engine]

/-- Whether a property condition holds of a control. -/
def PropertyCondition.evaluate (c : PropertyCondition) (n : ν) : Inquiry ν Bool :=
  .ask (.property n c.property) fun
    | .ok value => .done (c.holds value)
    | .error .stale => .done false
    | .error (.failure reason) => .fail (.providerFailure reason)

/-- The second answer if the first one leaves the connective open. -/
def Connective.evaluate (op : Connective) (first second : Inquiry ν Bool) : Inquiry ν Bool :=
  first.bind fun b =>
    match op, b with
    | and, true => second
    | and, false => .done false
    | or, true => .done true
    | or, false => second

variable [DecidableEq ν]

/-- The controls within a distance. -/
def Distance.walk (n : ν) : Distance → Search ν
  | up steps => .ancestors steps.toNat false n
  | down steps => .descendants steps.toNat false n
  | any steps => .neighbourhood steps.toNat n

mutual

/-- Whether a condition holds of a control. -/
def Condition.evaluate (s : Setting) : Condition → ν → Inquiry ν Bool
  | .property condition, n => condition.evaluate n
  | .function condition, n => (s.predicates condition.predicate).evaluate n none
  | .logical op left right, n => op.evaluate (left.evaluate s n) (right.evaluate s n)
  | .hasElement query, n =>
    .ask .enter fun _ => (query.search s n).nonempty.bind fun b => .ask .leave fun _ => .done b
  | .relative distance condition, n => (distance.walk n).any (Condition.evaluateTarget s condition)

/-- Whether a control at a distance will do. -/
def Condition.evaluateTarget (s : Setting) : Option Condition → ν → Inquiry ν Bool
  | none, _ => .done true
  | some condition, n => condition.evaluate s n

/-- The controls that the contexts lead to. -/
def Part.pursue (s : Setting) : Part → Search ν → Search ν
  | .identity, contexts => contexts
  | .ancestors maxDepth includeSelf, contexts =>
    (contexts.flatMap (.ancestors (s.levels maxDepth) includeSelf)).distinct []
  | .descendants maxDepth includeSelf, contexts =>
    (contexts.flatMap (.descendants (s.levels maxDepth) includeSelf)).distinct []
  | .composite element, contexts => element.pursue s contexts

/-- The controls that the contexts lead to part by part. -/
def Part.pursueAll (s : Setting) : List Part → Search ν → Search ν
  | [], contexts => contexts
  | part :: parts, contexts => Part.pursueAll s parts (part.pursue s contexts)

/-- The controls in the scope of the contexts that fulfil the condition, and of these the page. -/
def Element.pursue (s : Setting) : Element → Search ν → Search ν
  | { condition, scope, skip, take }, contexts =>
    let found := Part.pursueAll s scope contexts
    let matching := Condition.select s condition found
    if skip.isNone && take.isNone then matching
    else matching.page ((skip.map UInt64.toNat).getD 0) (take.map UInt64.toNat)

/-- The controls that fulfil a condition, if there is one. -/
def Condition.select (s : Setting) : Option Condition → Search ν → Search ν
  | none, found => found
  | some condition, found => found.filter (condition.evaluate s)

/-- The search for a query from a control. Nothing is found from a control that is not valid. -/
def Query.search (s : Setting) : Query → ν → Search ν
  | { path, element }, root => .ask (.isValid root) fun valid =>
    if valid then element.pursue s (Part.pursueAll s path (.one root)) else .finish

end

namespace Query

/-- The failure of a query whose sub-queries nest too deep. -/
def nestingError? (s : Setting) (q : Query) : Option SearchError :=
  if q.depth ≤ s.maxNesting.toNat then none else some (.nestedTooDeep q.depth s.maxNesting)

/-- Opens a search: the start is looked at, and all the rest waits until a match is asked for. -/
def findAll (s : Setting) (P : Provider ν) (q : Query) (root : ν) : Search ν :=
  match q.nestingError? s with
  | some e => .fail e
  | none =>
    if P.isValid root then q.element.pursue s (Part.pursueAll s q.path (.one root)) else .finish

/-- The first match, if there is one. -/
def findFirst (s : Setting) (P : Provider ν) (q : Query) (root : ν) :
    Except SearchError (Option ν) :=
  match (q.findAll s P root).next P with
  | .found n _ => .ok (some n)
  | .failed e => .error e
  | .finished => .ok none

/-- The first match; that there is none is a failure. -/
def findRequired (s : Setting) (P : Provider ν) (q : Query) (root : ν) : Except SearchError ν :=
  match q.findFirst s P root with
  | .ok (some n) => .ok n
  | .ok none => .error (.notFound q.render)
  | .error e => .error e

end Query

end ControlQuery

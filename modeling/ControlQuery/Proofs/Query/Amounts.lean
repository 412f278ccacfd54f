import ControlQuery.Proofs.Query.Normal

/-!
# Amounts of queries

Whatever a query goes by that a number in a text can write: how much its pages skip and take, how
far its walks and distances go, and what its comparisons look for. Amounts have no bounds of their
own, so the amounts of a query can be compared with those that a text writes.
-/

namespace ControlQuery

/-- A number that a query goes by, or a text that is looked for. -/
inductive Amount where
  /-- The items that a page skips and takes. -/
  | page (skip take : Option Nat)
  /-- The number of links that a walk goes along, if it is limited. -/
  | limit (depth : Option Nat)
  | distance (direction : CPath.Direction) (steps : Nat)
  | integer (value : Int)
  | text (text : String)
deriving DecidableEq, Repr

def CPath.Page.amount (p : CPath.Page) : Amount :=
  .page (p.skip.map UInt64.toNat) (p.take.map UInt64.toNat)

def Distance.amount : Distance → Amount
  | up steps => .distance .up steps.toNat
  | down steps => .distance .down steps.toNat
  | any steps => .distance .any steps.toNat

variable [Regex.Engine]

def Comparison.amounts : Comparison → List Amount
  | equals (.int n) => [.integer n.toInt]
  | equals _ => []
  | contains text => [.text text]
  | «matches» regex => [.text regex.source]

mutual

/-- The amounts of a condition in the order of its text. -/
def Condition.amounts : Condition → List Amount
  | .property condition => condition.comparison.amounts
  | .function _ => []
  | .logical _ left right => left.amounts ++ right.amounts
  | .hasElement query => query.amounts
  | .relative distance condition => distance.amount :: Condition.amountsOfOption condition

def Condition.amountsOfOption : Option Condition → List Amount
  | none => []
  | some condition => condition.amounts

def Part.amounts : Part → List Amount
  | .identity => []
  | .ancestors maxDepth _ => [.limit (maxDepth.map UInt64.toNat)]
  | .descendants maxDepth _ => [.limit (maxDepth.map UInt64.toNat)]
  | .composite element => element.amounts

def Part.amountsOfList : List Part → List Amount
  | [] => []
  | part :: parts => part.amounts ++ Part.amountsOfList parts

/-- The amounts of an element. The last one is its page, even if it has none. -/
def Element.amounts : Element → List Amount
  | { condition, scope, skip, take } =>
    Part.amountsOfList scope ++
      (Condition.amountsOfOption condition ++ [CPath.Page.amount ⟨skip, take⟩])

def Query.amounts : Query → List Amount
  | { path, element } => Part.amountsOfList path ++ element.amounts

end

lemma Part.amountsOfList_eq (ps : List Part) : Part.amountsOfList ps = ps.flatMap Part.amounts := by
  induction ps with
  | nil => rw [Part.amountsOfList, List.flatMap_nil]
  | cons p ps ih => rw [Part.amountsOfList, ih, List.flatMap_cons]

lemma Condition.amounts_foldl (op : Connective) (c : Condition) (cs : List Condition) :
    (cs.foldl (.logical op) c).amounts = c.amounts ++ cs.flatMap Condition.amounts := by
  induction cs generalizing c with
  | nil => rw [List.foldl_nil, List.flatMap_nil, List.append_nil]
  | cons d cs ih =>
    rw [List.foldl_cons, ih, Condition.amounts, List.flatMap_cons, List.append_assoc]

lemma Condition.amountsOfOption_fold (op : Connective) (cs : List Condition) :
    Condition.amountsOfOption (op.fold cs) = cs.flatMap Condition.amounts := by
  cases cs with
  | nil => rw [Connective.fold, Condition.amountsOfOption, List.flatMap_nil]
  | cons c cs =>
    rw [Connective.fold, Condition.amountsOfOption, Condition.amounts_foldl, List.flatMap_cons]

end ControlQuery

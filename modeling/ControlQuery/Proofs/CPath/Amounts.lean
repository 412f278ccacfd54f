import ControlQuery.Proofs.CPath.Leaves
import ControlQuery.Proofs.CPath.Meaning
import ControlQuery.Proofs.Query.Amounts

/-!
# The amounts that a text writes

The amounts of a syntax tree are computed from the values of its digits without any bounds. Counts
end before `2 ^ 64` and literals are integers of 64 bits, so a leaf fits only if all its numbers do.
That is so just if none of its faults is that of a number.
-/

namespace ControlQuery

namespace CPath

/-! ## Rows of digits -/

/-- The digits of a number that may have a sign. -/
def unsigned (number : String) : List Char :=
  match number.toList with
  | '-' :: digits => digits
  | digits => digits

/-- The digits of the numbers in a leaf. -/
def Leaf.digits : Leaf → List (List Char)
  | axis a => a.depth.toList.map fun l => l.text.toList
  | comparison _ _ (.number number) => [unsigned number.text]
  | comparison _ _ _ => []
  | distance d => [d.digits.toList]
  | position _ number _ _ => [number.text.toList]
  | slice _ _ start stop _ _ => (start.toList ++ stop.toList).map fun l => l.text.toList

section Digits

variable {i j : Input} {cs : List Char}

lemma LiteralText.digits_run {property : Lexeme} {operator : Operator} {v : Literal}
    (h : LiteralText i v j) (hcs : cs ∈ (Leaf.comparison property operator v).digits) :
    IsRun Char.isDigit Char.isDigit cs := by
  cases h with
  | string quote opening spans body closing => cases hcs
  | true word => cases hcs
  | false word => cases hcs
  | positive digits =>
    rw [List.mem_singleton.mp hcs]
    unfold unsigned
    split
    · next heq =>
      have hrun := digits.run
      rw [heq] at hrun
      cases hrun with
      | intro head tail => cases head
    · exact digits.run
  | negative sign digits whole =>
    have htext := List.append_cancel_right
      (whole.piece.rest.symm.trans (sign.append digits.spans.piece).rest)
    rw [List.mem_singleton.mp hcs]
    unfold unsigned
    rw [htext]
    exact digits.run

lemma StartText.digits_run {start : Option Lexeme} {l : Lexeme} (h : StartText i start j)
    (hl : l ∈ start) : IsRun Char.isDigit Char.isDigit l.text.toList := by
  cases h with
  | absent => cases hl
  | present digits gap =>
    cases hl
    exact digits.run

/-- Numbers are rows of at least one digit. -/
lemma LeafText.digits_run {l : Leaf} (h : LeafText i l j) (hcs : cs ∈ l.digits) :
    IsRun Char.isDigit Char.isDigit cs := by
  cases h with
  | axis axis =>
    cases axis with
    | plain name => cases hcs
    | limited name opening depth closing =>
      rw [List.mem_singleton.mp hcs]
      exact depth.run
  | comparison comparison =>
    cases comparison with
    | intro sign property gap operator gap' literal gap'' flag => exact literal.digits_run hcs
  | distance distance =>
    cases distance with
    | intro sign digits whole =>
      rw [List.mem_singleton.mp hcs]
      exact digits.run
  | position predicate =>
    cases predicate with
    | position opening gap number gap' closing whole =>
      rw [List.mem_singleton.mp hcs]
      exact number.run
  | slice predicate =>
    obtain ⟨l, hl, rfl⟩ := List.mem_map.mp hcs
    rw [List.mem_append, Option.mem_toList, Option.mem_toList] at hl
    cases predicate with
    | slice opening gap start colon gap' stop bounds gap'' closing whole =>
      rcases hl with hl | hl
      · exact start.digits_run hl
      · cases hl
        exact stop.run
    | openSlice opening gap start colon gap' bounds closing whole =>
      exact start.digits_run (hl.resolve_right nofun)

lemma LeavesText.digits_run {l : Leaf} {ls : List Leaf} (h : LeavesText i ls j) (hl : l ∈ ls)
    (hcs : cs ∈ l.digits) : IsRun Char.isDigit Char.isDigit cs := by
  induction h with
  | nil reaches => cases hl
  | cons reaches leaf _ ih =>
    rcases List.mem_cons.mp hl with rfl | hl
    · exact leaf.digits_run hcs
    · exact ih hl

end Digits

/-! ## Amounts of a tree -/

/-- The value of digits, however many there are. -/
def Lexeme.value (l : Lexeme) : Nat :=
  Digits.value l.text.toList

/-- What a page from an item on skips. -/
def skipped (start : Nat) : Option Nat :=
  if start = 0 then none else some start

/-- The depth of an axis. The axes to the children and to the parent go one link by default. -/
def AxisSyntax.amounts (a : AxisSyntax) : List Amount :=
  let depth := a.depth.map Lexeme.value
  if a.name.text = "self" then []
  else if a.name.text = "child" ∨ a.name.text = "parent" then [.limit (some (depth.getD 1))]
  else [.limit depth]

/-- The plain form of a literal. -/
def Literal.plainText : Literal → String
  | number digits => toString (integerOf digits.text)
  | literal => literal.reading.plain

def comparisonAmounts (operator : Operator) (literal : Literal) : List Amount :=
  match operator.relation with
  | .equals =>
    match literal with
    | .number number => [.integer (integerOf number.text)]
    | _ => []
  | _ => [.text literal.plainText]

def DistanceSyntax.amount (d : DistanceSyntax) : Amount :=
  .distance d.direction (Digits.value d.digits.toList)

/-- A position, counted from one. -/
def positionAmount (number : Lexeme) : Amount :=
  .page (skipped (number.value - 1)) (some 1)

/-- Where a slice starts, which is the first item by default. -/
def startValue (start : Option Lexeme) : Nat :=
  (start.map Lexeme.value).getD 0

def sliceAmount (start stop : Option Lexeme) : Amount :=
  .page (skipped (startValue start)) (stop.map fun l => l.value - startValue start)

/-- The walks that a separator and an axis stand for. -/
def scopeAmounts : Separator → Option AxisSyntax → List Amount
  | .child, none => [.limit (some 1)]
  | .descendant, none => [.limit none]
  | .child, some axis => axis.amounts
  | .descendant, some axis => .limit none :: axis.amounts

/-- The page of the last position among predicates. -/
def Predicate.pageAmount (page : Amount) : List Predicate → Amount
  | [] => page
  | .condition _ :: more => Predicate.pageAmount page more
  | .position _ number :: more => Predicate.pageAmount (positionAmount number) more
  | .slice _ _ start stop :: more => Predicate.pageAmount (sliceAmount start stop) more

mutual

/-- The amounts of an expression in the order of reading. A path without steps is an element with no
page all the same. -/
def Expr.amounts : Expr → List Amount
  | .either left right => left.amounts ++ right.amounts
  | .both left right => left.amounts ++ right.amounts
  | .comparison _ operator literal _ => comparisonAmounts operator literal
  | .relative distance target => distance.amount :: Expr.targetAmounts target
  | .subPath steps =>
    (if steps.isEmpty then [.page none none] else []) ++ Step.allAmounts steps

def Expr.targetAmounts : Option Expr → List Amount
  | none => []
  | some expr => expr.amounts

def Step.allAmounts : List Step → List Amount
  | [] => []
  | step :: steps => step.amounts ++ Step.allAmounts steps

/-- The amounts of a step: its walks, its conditions and its page. -/
def Step.amounts : Step → List Amount
  | .self .child => [.page none none]
  | .self .descendant => [.limit none, .page none none]
  | .parent .child => [.limit (some 1), .page none none]
  | .parent .descendant => [.limit none, .limit (some 1), .page none none]
  | .axis separator axis _ predicates =>
    scopeAmounts separator axis ++
      (Predicate.allAmounts predicates ++ [Predicate.pageAmount (.page none none) predicates])

def Predicate.allAmounts : List Predicate → List Amount
  | [] => []
  | .condition expr :: more => expr.amounts ++ Predicate.allAmounts more
  | .position _ _ :: more => Predicate.allAmounts more
  | .slice _ _ _ _ :: more => Predicate.allAmounts more

end

/-! ## Numbers that fit -/

/-- All numbers of the leaf are in range, and there is a place for them. -/
def Leaf.Fits : Leaf → Prop
  | axis a => ∀ depth ∈ a.depth, depth.value ≤ 2 ^ 64 - 1 ∧ a.name.text ≠ "self"
  | comparison _ _ (.number number) =>
    -2 ^ 63 ≤ integerOf number.text ∧ integerOf number.text ≤ 2 ^ 63 - 1
  | comparison _ _ _ => True
  | distance d => Digits.value d.digits.toList ≤ 2 ^ 64 - 1
  | position _ number _ _ => 1 ≤ number.value ∧ number.value ≤ 2 ^ 64 - 1
  | slice _ _ start stop _ _ =>
    (∀ l ∈ start, l.value ≤ 2 ^ 64 - 1) ∧
      ∀ l ∈ stop, l.value ≤ 2 ^ 64 - 1 ∧ startValue start ≤ l.value

/-- The fault is that of a number. -/
def Fault.numeric : Fault → Bool
  | invalidNumber _ _ => true
  | _ => false

/-- No number is at fault. -/
def NumbersFit (faults : List Fault) : Prop :=
  ∀ f ∈ faults, f.numeric = false

section NumbersFit

variable {fs gs : List Fault} {f : Fault} {p : Prop} [Decidable p]

lemma numbersFit_append : NumbersFit (fs ++ gs) ↔ NumbersFit fs ∧ NumbersFit gs :=
  List.forall_mem_append

lemma numbersFit_nil : NumbersFit [] :=
  List.forall_mem_nil _

lemma numbersFit_singleton : NumbersFit [f] ↔ f.numeric = false :=
  List.forall_mem_singleton

/-- A fault of another kind does not matter. -/
lemma numbersFit_ite_other (h : f.numeric = false) : NumbersFit (if p then [] else [f]) := by
  split_ifs
  · exact numbersFit_nil
  · exact numbersFit_singleton.mpr h

lemma numbersFit_ite_iff (h : f.numeric = true) : NumbersFit (if p then [] else [f]) ↔ p := by
  by_cases hp : p
  · rw [if_pos hp]
    exact iff_of_true numbersFit_nil hp
  · rw [if_neg hp, numbersFit_singleton, h]
    exact iff_of_false Bool.true_eq_false.mp hp

lemma numbersFit_of_heeded_eq_nil (h : heeded fs = []) : NumbersFit fs := by
  intro f hf
  cases f with
  | invalidNumber number fault =>
    have hmem : Fault.invalidNumber number fault ∈ heeded fs := mem_heeded.mpr ⟨hf, rfl⟩
    rw [h] at hmem
    exact absurd hmem List.not_mem_nil
  | unknownProperty name => rfl
  | unknownAxis name => rfl
  | invalidRegex offset pattern => rfl
  | duplicatePosition predicate overlooked => rfl

end NumbersFit

lemma toNat_countOf {digits : String} (h : Digits.value digits.toList ≤ 2 ^ 64 - 1) :
    (countOf digits).toNat = Digits.value digits.toList :=
  UInt64.toNat_ofNat_of_lt' (Nat.lt_of_le_pred (by decide) h)

lemma Lexeme.toNat_countOf {l : Lexeme} (h : l.value ≤ 2 ^ 64 - 1) :
    (countOf l.text).toNat = l.value :=
  CPath.toNat_countOf h

lemma toNat_sliceStart {start : Option Lexeme} (h : ∀ l ∈ start, l.value ≤ 2 ^ 64 - 1) :
    (sliceStart start).toNat = startValue start := by
  cases start with
  | none => rfl
  | some l => exact Lexeme.toNat_countOf (h l rfl)

lemma numbersFit_countFaults {place : Lexeme} {digits : String} :
    NumbersFit (countFaults place digits) ↔ Digits.value digits.toList ≤ 2 ^ 64 - 1 := by
  rw [countFaults, numbersFit_ite_iff rfl]
  exact Nat.lt_iff_le_pred (by decide)

lemma Lexeme.numbersFit_countFaults {l : Lexeme} :
    NumbersFit l.countFaults ↔ l.value ≤ 2 ^ 64 - 1 :=
  CPath.numbersFit_countFaults

/-! ### Leaf by leaf -/

lemma numbersFit_axisFaults (a : AxisSyntax) : NumbersFit a.faults ↔ (Leaf.axis a).Fits := by
  obtain ⟨name, depth⟩ := a
  rw [AxisSyntax.faults, numbersFit_append, and_iff_right (numbersFit_ite_other rfl)]
  cases depth with
  | none => exact iff_of_true numbersFit_nil nofun
  | some depth =>
    dsimp only
    rw [numbersFit_append, Lexeme.numbersFit_countFaults, ← ite_not, numbersFit_ite_iff rfl]
    simp only [Leaf.Fits, Option.mem_some_iff, forall_eq', ne_eq]

lemma numbersFit_comparisonFaults [Regex.Engine] (property : Lexeme) (operator : Operator)
    (literal : Literal) :
    NumbersFit (comparisonFaults property operator literal) ↔
      (Leaf.comparison property operator literal).Fits := by
  rw [comparisonFaults, numbersFit_append, numbersFit_append,
    and_iff_right (numbersFit_ite_other rfl), ← ite_not, and_iff_left (numbersFit_ite_other rfl)]
  cases literal with
  | string offset body => exact iff_of_true numbersFit_nil trivial
  | boolean offset value => exact iff_of_true numbersFit_nil trivial
  | number digits =>
    rw [Literal.faults, numbersFit_ite_iff rfl]
    exact and_congr_right' Int.le_sub_one_iff.symm

lemma numbersFit_positionFaults (number : Lexeme) :
    NumbersFit (positionFaults number) ↔ 1 ≤ number.value ∧ number.value ≤ 2 ^ 64 - 1 := by
  rw [positionFaults, numbersFit_append, Lexeme.numbersFit_countFaults, ← ite_not,
    numbersFit_ite_iff rfl, and_comm]
  refine and_congr_left fun h => ?_
  rw [← UInt64.toNat_inj, Lexeme.toNat_countOf h]
  exact Nat.one_le_iff_ne_zero.symm

lemma numbersFit_sliceFaults (bounds : Lexeme) (start stop : Option Lexeme) :
    NumbersFit (sliceFaults bounds start stop) ↔
      (∀ l ∈ start, l.value ≤ 2 ^ 64 - 1) ∧
        ∀ l ∈ stop, l.value ≤ 2 ^ 64 - 1 ∧ startValue start ≤ l.value := by
  have hstart : NumbersFit ((start.map Lexeme.countFaults).getD []) ↔
      ∀ l ∈ start, l.value ≤ 2 ^ 64 - 1 := by
    cases start with
    | none => exact iff_of_true numbersFit_nil nofun
    | some l =>
      rw [Option.map_some, Option.getD_some, Lexeme.numbersFit_countFaults]
      simp only [Option.mem_some_iff, forall_eq']
  rw [sliceFaults, numbersFit_append, hstart]
  refine and_congr_right fun hfits => ?_
  cases stop with
  | none => exact iff_of_true numbersFit_nil nofun
  | some l =>
    rw [stopFaults, numbersFit_append, Lexeme.numbersFit_countFaults, ← ite_not,
      numbersFit_ite_iff rfl, UInt64.not_lt, UInt64.le_iff_toNat_le, toNat_sliceStart hfits]
    have hordered : l.value ≤ 2 ^ 64 - 1 ∧ startValue start ≤ (countOf l.text).toNat ↔
        l.value ≤ 2 ^ 64 - 1 ∧ startValue start ≤ l.value :=
      and_congr_right fun hl => by rw [Lexeme.toNat_countOf hl]
    rw [hordered]
    simp only [Option.mem_some_iff, forall_eq']

lemma numbersFit_repeatedFaults (whole : Lexeme) (seen narrowed : Bool) :
    NumbersFit (repeatedFaults whole seen narrowed) := by
  rw [repeatedFaults, ← ite_not]
  exact numbersFit_ite_other rfl

variable [Regex.Engine]

/-- A leaf fits just if none of its numbers is at fault. -/
lemma Leaf.fits_iff (l : Leaf) : l.Fits ↔ NumbersFit l.faults := by
  cases l with
  | axis a => exact (numbersFit_axisFaults a).symm
  | comparison property operator literal =>
    exact (numbersFit_comparisonFaults property operator literal).symm
  | distance d => exact numbersFit_countFaults.symm
  | position whole number seen narrowed =>
    rw [faults, numbersFit_append, and_iff_left (numbersFit_repeatedFaults whole seen narrowed)]
    exact (numbersFit_positionFaults number).symm
  | slice whole bounds start stop seen narrowed =>
    rw [faults, numbersFit_append, and_iff_left (numbersFit_repeatedFaults whole seen narrowed)]
    exact (numbersFit_sliceFaults bounds start stop).symm

end CPath

end ControlQuery

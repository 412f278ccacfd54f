import ControlQuery.Proofs.CPath.Prescription

/-!
# Trees mean what they prescribe

Looking at a tree from the left to the right, the first fault that is not overlooked is the error,
and a tree without such faults means its reading.
-/

namespace ControlQuery.CPath

/-! ## Numbers and literals -/

lemma count?_eq (digits : String) :
    count? digits =
      if Digits.value digits.toList < 2 ^ 64 then some (countOf digits) else none :=
  rfl

lemma Lexeme.count_eq (l : Lexeme) : l.count = prescribed l.countFaults (countOf l.text) := by
  unfold Lexeme.count Lexeme.countFaults CPath.countFaults
  rw [count?_eq]
  by_cases h : Digits.value l.text.toList < 2 ^ 64
  · rw [if_pos h, if_pos h]
    rfl
  · rw [if_neg h, if_neg h]
    rfl

lemma DistanceSyntax.distance_eq (d : DistanceSyntax) :
    d.distance = prescribed (countFaults d.whole d.digits) d.reading := by
  unfold DistanceSyntax.distance countFaults DistanceSyntax.reading
  rw [count?_eq]
  by_cases h : Digits.value d.digits.toList < 2 ^ 64
  · rw [if_pos h, if_pos h]
    rfl
  · rw [if_neg h, if_neg h]
    rfl

lemma integer?_eq (number : String) :
    integer? number = PropertyValue.ofInt? (integerOf number) := by
  unfold integer? integerOf
  split <;> simp_all

lemma Literal.value_eq (v : Literal) : v.value = prescribed v.faults v.reading := by
  cases v with
  | string offset body => rfl
  | boolean offset value => rfl
  | number digits =>
    dsimp only [Literal.value, Literal.faults, Literal.reading]
    rw [integer?_eq]
    unfold PropertyValue.ofInt? leastInteger greatestInteger
    by_cases h : -2 ^ 63 ≤ integerOf digits.text ∧ integerOf digits.text < 2 ^ 63
    · rw [if_pos h, if_pos (by omega)]
      rfl
    · rw [if_neg h, if_neg (by omega)]
      rfl

/-! ## Positions -/

lemma positionPage_eq (number : Lexeme) :
    positionPage number = prescribed (positionFaults number) (countOf number.text - 1, some 1) := by
  unfold positionPage positionFaults
  rw [Lexeme.count_eq]
  refine prescribed_bind fun _ => ?_
  by_cases h : countOf number.text = 0
  · rw [if_pos h, if_pos h]
    rfl
  · rw [if_neg h, if_neg h]
    rfl

lemma sliceStop_eq (bounds : Lexeme) (skip : Count) (stop : Option Lexeme) :
    (do
      let some stop := stop | return (skip, none)
      let stop ← stop.count
      if stop < skip then throw (.invalidNumber bounds .sliceReversed)
      return (skip, some (stop - skip)) : Except ParseError (Count × Option Count)) =
    prescribed (stopFaults bounds skip stop) (skip, stop.map fun l => countOf l.text - skip) := by
  unfold stopFaults
  cases stop with
  | none => rfl
  | some stop =>
    change (stop.count >>= _) = _
    rw [Lexeme.count_eq]
    refine prescribed_bind fun _ => ?_
    by_cases h : countOf stop.text < skip
    · rw [if_pos h, if_pos h]
      rfl
    · rw [if_neg h, if_neg h]
      rfl

lemma slicePage_eq (bounds : Lexeme) (start stop : Option Lexeme) :
    slicePage bounds start stop = prescribed (sliceFaults bounds start stop)
      (sliceStart start, stop.map fun l => countOf l.text - sliceStart start) := by
  unfold slicePage sliceFaults
  cases start with
  | none => exact sliceStop_eq bounds 0 stop
  | some start =>
    change (start.count >>= _) = _
    rw [Lexeme.count_eq]
    exact prescribed_bind fun _ => sliceStop_eq bounds (countOf start.text) stop

lemma narrows_positionReading (number : Lexeme) : (positionReading number).narrows = true :=
  Bool.or_true _

/-- A position that is no error is the first one that leaves anything out. -/
lemma eq_false_of_heeded_eq_nil {whole : Lexeme} {seen narrowed : Bool}
    (hseen : narrowed = true → seen = true)
    (h : heeded (repeatedFaults whole seen narrowed) = []) : narrowed = false := by
  cases narrowed with
  | false => rfl
  | true =>
    rw [hseen rfl] at h
    cases h

/-! ## Faults that are not overlooked -/

/-- No fault of a name or a number is overlooked. -/
lemma heeded_countFaults (place : Lexeme) (digits : String) :
    heeded (countFaults place digits) = countFaults place digits := by
  unfold countFaults
  split <;> rfl

lemma heeded_axisFaults (a : AxisSyntax) : heeded a.faults = a.faults := by
  obtain ⟨name, depth⟩ := a
  unfold AxisSyntax.faults
  rw [heeded_append]
  congr 1
  · split <;> rfl
  · cases depth with
    | none => rfl
    | some depth =>
      dsimp only
      rw [heeded_append, Lexeme.countFaults, heeded_countFaults]
      split <;> rfl

lemma heeded_positionFaults (number : Lexeme) :
    heeded (positionFaults number) = positionFaults number := by
  unfold positionFaults
  rw [heeded_append, Lexeme.countFaults, heeded_countFaults]
  split <;> rfl

lemma heeded_sliceFaults (bounds : Lexeme) (start stop : Option Lexeme) :
    heeded (sliceFaults bounds start stop) = sliceFaults bounds start stop := by
  unfold sliceFaults
  rw [heeded_append]
  congr 1
  · cases start with
    | none => rfl
    | some start => exact heeded_countFaults start start.text
  · unfold stopFaults
    cases stop with
    | none => rfl
    | some stop =>
      dsimp only
      rw [heeded_append, Lexeme.countFaults, heeded_countFaults]
      split <;> rfl

variable [Regex.Engine]

lemma heeded_comparisonFaults (property : Lexeme) (operator : Operator) (literal : Literal) :
    heeded (comparisonFaults property operator literal) =
      comparisonFaults property operator literal := by
  have hv : heeded literal.faults = literal.faults := by
    cases literal with
    | string offset body => rfl
    | boolean offset value => rfl
    | number digits =>
      dsimp only [Literal.faults]
      split <;> rfl
  unfold comparisonFaults
  rw [heeded_append, heeded_append, hv]
  congr 1
  · congr 1
    split <;> rfl
  · split <;> rfl

/-! ## Axes and comparisons -/

lemma axisPart?_eq_none {name : String} (h : name ∉ axisNames) : axisPart? name = none := by
  unfold axisPart?
  simp only [axisNames, List.mem_cons, List.not_mem_nil, or_false, not_or] at h
  split <;> simp_all

lemma AxisSyntax.part_eq (a : AxisSyntax) : a.part = prescribed a.faults a.reading := by
  obtain ⟨name, depth⟩ := a
  by_cases h : name.text ∈ axisNames
  · unfold AxisSyntax.part AxisSyntax.faults AxisSyntax.reading
    dsimp only
    rw [if_pos h]
    simp only [axisNames, List.mem_cons, List.not_mem_nil, or_false] at h
    cases depth with
    | none => rcases h with h | h | h | h | h | h | h <;> rw [h] <;> rfl
    | some depth =>
      rcases h with h | h | h | h | h | h | h <;>
      · rw [h]
        change (depth.count >>= _) = _
        rw [Lexeme.count_eq]
        exact prescribed_bind fun _ => rfl
  · unfold AxisSyntax.part AxisSyntax.faults
    rw [axisPart?_eq_none h, if_neg h]
    rfl

lemma comparisonCondition_eq (property : Lexeme) (operator : Operator) (literal : Literal)
    (ignoreCase : Bool) :
    comparisonCondition property operator literal ignoreCase =
      prescribed (comparisonFaults property operator literal)
        (comparisonReading property operator literal ignoreCase) := by
  unfold comparisonCondition comparisonFaults comparisonReading
  cases hp : PropertyId.ofName? property.text with
  | none => rfl
  | some id =>
    rw [Literal.value_eq]
    refine prescribed_bind fun _ => ?_
    obtain ⟨negated, relation⟩ := operator
    cases relation with
    | equals => rfl
    | contains => rfl
    | «matches» =>
      unfold PropertyCondition.matches?
      cases hr : Regex.ofText? literal.reading.plain with
      | none => rfl
      | some r => rfl

/-! ## Pages of elements -/

/-- The page of an element. -/
def elementPage (e : Element) : Page :=
  ⟨e.skip, e.take⟩

/-- The element with another page. -/
def withElementPage (e : Element) (p : Page) : Element :=
  { e with skip := p.skip, take := p.take }

lemma withPage_eq (e : Element) (whole : Lexeme) (seen : Bool)
    (hseen : (elementPage e).narrows = true → seen = true) (skip : Count) (take : Option Count) :
    withPage e whole skip take =
      prescribed (heeded (repeatedFaults whole seen (elementPage e).narrows))
        (withElementPage e (.from skip take)) := by
  unfold withPage
  cases hn : (elementPage e).narrows with
  | true =>
    rw [hseen hn]
    have hn : (e.skip.isSome || e.take.isSome) = true := hn
    rw [if_pos hn]
    rfl
  | false =>
    have hn : ¬ (e.skip.isSome || e.take.isSome) = true := by
      rw [Bool.not_eq_true]
      exact hn
    rw [if_neg hn]
    cases seen <;> rfl

lemma narrows_withElementPage (e : Element) (p : Page) :
    (elementPage (withElementPage e p)).narrows = p.narrows :=
  rfl

/-! ## Conditions -/

lemma foldl_append_some (c : Condition) (cs : List Condition) :
    cs.foldl (fun o c => some (Condition.append o c)) (some c) = some (cs.foldl .and c) := by
  induction cs generalizing c with
  | nil => rfl
  | cons d cs ih => exact ih (c.and d)

lemma fold_and_eq (cs : List Condition) :
    Connective.and.fold cs = cs.foldl (fun o c => some (Condition.append o c)) none := by
  cases cs with
  | nil => rfl
  | cons c cs => exact (foldl_append_some c cs).symm

/-- The element that predicates make of an element. -/
def Predicate.extend (ps : List Predicate) (e : Element) : Element :=
  withElementPage
    { e with condition :=
        (Predicate.readings ps).foldl (fun o c => some (Condition.append o c)) e.condition }
    (Predicate.page (elementPage e) ps)

lemma Step.element_axis (separator : Separator) (axis : Option AxisSyntax) (test : NodeTest)
    (ps : List Predicate) :
    (Step.axis separator axis test ps).element =
      match axis with
      | some axis => do
        let part ← axis.part
        Predicate.apply ps
          { condition := Connective.and.fold test.conditions
            scope := separator.leadingParts ++ [part] }
      | none =>
        Predicate.apply ps
          { condition := Connective.and.fold test.conditions
            scope := [separator.part] } := by
  unfold Step.element
  cases axis <;> cases test <;> rfl

mutual

theorem Expr.condition_eq : (e : Expr) → e.condition = prescribed (heeded e.faults) e.reading
  | .either left right => by
    rw [Expr.condition, Expr.faults, Expr.reading, heeded_append, left.condition_eq]
    refine prescribed_bind fun _ => ?_
    rw [right.condition_eq]
    exact prescribed_map _
  | .both left right => by
    rw [Expr.condition, Expr.faults, Expr.reading, heeded_append, left.condition_eq]
    refine prescribed_bind fun _ => ?_
    rw [right.condition_eq]
    exact prescribed_map _
  | .comparison property operator literal ignoreCase => by
    rw [Expr.condition, Expr.faults, Expr.reading, heeded_comparisonFaults]
    exact comparisonCondition_eq property operator literal ignoreCase
  | .relative distance target => by
    rw [Expr.condition, Expr.faults, Expr.reading, heeded_append, heeded_countFaults,
      DistanceSyntax.distance_eq]
    refine prescribed_bind fun _ => ?_
    rw [Expr.target_eq]
    exact prescribed_map _
  | .subPath steps => by
    rw [Expr.condition, Expr.faults, Expr.reading, Step.elements_eq]
    exact prescribed_map _

theorem Expr.target_eq : (t : Option Expr) →
    Expr.target t = prescribed (heeded (Expr.targetFaults t)) (Expr.targetReading t)
  | none => rfl
  | some expr => by
    rw [Expr.target, Expr.targetFaults, Expr.targetReading, expr.condition_eq]
    exact prescribed_map _

theorem Step.elements_eq : (ss : List Step) →
    Step.elements ss = prescribed (heeded (Step.allFaults ss)) (Step.readings ss)
  | [] => rfl
  | step :: steps => by
    rw [Step.elements, Step.allFaults, Step.readings, heeded_append, step.element_eq]
    refine prescribed_bind fun _ => ?_
    rw [Step.elements_eq]
    exact prescribed_map _

theorem Step.element_eq : (s : Step) → s.element = prescribed (heeded s.faults) s.reading
  | .self separator => by
    rw [Step.element, Step.faults, Step.reading]
    cases separator <;> rfl
  | .parent separator => by
    rw [Step.element, Step.faults, Step.reading]
    cases separator <;> rfl
  | .axis separator axis test predicates => by
    have happly := fun parts => Predicate.apply_eq predicates
      { condition := Connective.and.fold test.conditions, scope := parts } false fun h => by cases h
    have hreading : Predicate.extend predicates
        { condition := Connective.and.fold test.conditions, scope := stepScope separator axis } =
        (Step.axis separator axis test predicates).reading := by
      rw [Step.reading, Predicate.extend, fold_and_eq, fold_and_eq, List.foldl_append]
      rfl
    rw [← hreading, Step.faults, heeded_append, Step.element_axis]
    cases axis with
    | none =>
      have hscope : stepScope separator none = [separator.part] := by cases separator <;> rfl
      rw [hscope]
      exact happly [separator.part]
    | some axis =>
      have hscope : stepScope separator (some axis) = separator.leadingParts ++ [axis.reading] := by
        cases separator <;> rfl
      rw [hscope, Option.map_some, Option.getD_some, heeded_axisFaults]
      change (axis.part >>= _) = _
      rw [AxisSyntax.part_eq]
      exact prescribed_bind fun _ => happly (separator.leadingParts ++ [axis.reading])

theorem Predicate.apply_eq : (ps : List Predicate) → (e : Element) → (seen : Bool) →
    ((elementPage e).narrows = true → seen = true) →
    Predicate.apply ps e =
      prescribed (heeded (Predicate.allFaults seen (elementPage e).narrows ps))
        (Predicate.extend ps e)
  | [], e, seen, hseen => by
    rw [Predicate.apply, Predicate.allFaults]
    cases e
    rfl
  | .condition expr :: more, e, seen, hseen => by
    rw [Predicate.apply, Predicate.allFaults, heeded_append, expr.condition_eq]
    exact prescribed_bind fun _ =>
      Predicate.apply_eq more (e.appendCondition expr.reading) seen hseen
  | .position whole number :: more, e, seen, hseen => by
    rw [Predicate.apply, Predicate.allFaults, heeded_append, heeded_append, heeded_positionFaults,
      positionPage_eq, List.append_assoc]
    refine prescribed_bind fun _ => ?_
    dsimp only
    rw [withPage_eq e whole seen hseen]
    refine prescribed_bind fun _ => ?_
    have hmore := Predicate.apply_eq more (withElementPage e (positionReading number)) true
      fun _ => rfl
    rw [narrows_withElementPage, narrows_positionReading] at hmore
    exact hmore
  | .slice whole bounds start stop :: more, e, seen, hseen => by
    rw [Predicate.apply, Predicate.allFaults, heeded_append, heeded_append, heeded_sliceFaults,
      slicePage_eq, List.append_assoc]
    refine prescribed_bind fun _ => ?_
    dsimp only
    rw [withPage_eq e whole seen hseen]
    refine prescribed_bind fun hn => ?_
    rw [eq_false_of_heeded_eq_nil hseen hn, Bool.false_or]
    exact Predicate.apply_eq more (withElementPage e (sliceReading start stop)) true fun _ => rfl

end

end ControlQuery.CPath

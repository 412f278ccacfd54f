import ControlQuery.Proofs.CPath.Prescription

/-!
# Layout makes no difference

The bare form of a tree no longer tells where its pieces stood, how they were laid out, or in which
quotes a text stood. It prescribes the same as the tree, apart from the places of faults.
-/

namespace ControlQuery.CPath

/-- The piece without its place. -/
def Lexeme.bare (l : Lexeme) : Lexeme :=
  ⟨0, l.text⟩

/-- No piece in particular. -/
def Lexeme.none : Lexeme :=
  ⟨0, ""⟩

def AxisSyntax.bare (a : AxisSyntax) : AxisSyntax :=
  ⟨a.name.bare, a.depth.map Lexeme.bare⟩

def Literal.bare : Literal → Literal
  | string _ body => string 0 (String.ofList (Quoted.encode '\'' (Quoted.decode body.toList)))
  | boolean _ value => boolean 0 value
  | number digits => number digits.bare

mutual

def Expr.bare : Expr → Expr
  | .either left right => .either left.bare right.bare
  | .both left right => .both left.bare right.bare
  | .comparison property operator literal ignoreCase =>
    .comparison property.bare operator literal.bare ignoreCase
  | .relative distance target =>
    .relative { distance with whole := .none } (Expr.bareTarget target)
  | .subPath steps => .subPath (Step.bareAll steps)

def Expr.bareTarget : Option Expr → Option Expr
  | none => none
  | some expr => some expr.bare

def Step.bareAll : List Step → List Step
  | [] => []
  | step :: steps => step.bare :: Step.bareAll steps

def Step.bare : Step → Step
  | .self separator => .self separator
  | .parent separator => .parent separator
  | .axis separator axis test predicates =>
    .axis separator (axis.map AxisSyntax.bare) test (Predicate.bareAll predicates)

def Predicate.bareAll : List Predicate → List Predicate
  | [] => []
  | .condition expr :: more => .condition expr.bare :: Predicate.bareAll more
  | .position _ number :: more => .position .none number.bare :: Predicate.bareAll more
  | .slice _ _ start stop :: more =>
    .slice .none .none (start.map Lexeme.bare) (stop.map Lexeme.bare) :: Predicate.bareAll more

end

/-! ## The reading of a bare tree -/

lemma Literal.reading_bare (v : Literal) : v.bare.reading = v.reading := by
  cases v with
  | string offset body =>
    dsimp only [Literal.bare, Literal.reading]
    rw [String.toList_ofList, Quoted.decode_encode]
  | boolean offset value => rfl
  | number digits => rfl

lemma sliceReading_bare (start stop : Option Lexeme) :
    sliceReading (start.map Lexeme.bare) (stop.map Lexeme.bare) = sliceReading start stop := by
  cases start <;> cases stop <;> rfl

lemma Predicate.page_bareAll (page : Page) (ps : List Predicate) :
    Predicate.page page (Predicate.bareAll ps) = Predicate.page page ps := by
  induction ps generalizing page with
  | nil => rfl
  | cons p ps ih =>
    cases p with
    | position whole number => exact ih (positionReading number)
    | slice whole bounds start stop =>
      rw [Predicate.bareAll, Predicate.page, Predicate.page, sliceReading_bare]
      exact ih (sliceReading start stop)
    | condition expr => exact ih page

section Engine

variable [Regex.Engine]

lemma AxisSyntax.reading_bare (a : AxisSyntax) : a.bare.reading = a.reading := by
  obtain ⟨name, depth⟩ := a
  cases depth <;> rfl

lemma stepScope_bare (separator : Separator) (axis : Option AxisSyntax) :
    stepScope separator (axis.map AxisSyntax.bare) = stepScope separator axis := by
  cases axis with
  | none => rfl
  | some axis =>
    dsimp only [Option.map_some, stepScope]
    rw [AxisSyntax.reading_bare]

mutual

theorem Expr.reading_bare : (e : Expr) → e.bare.reading = e.reading
  | .either left right => by
    rw [Expr.bare, Expr.reading, Expr.reading, left.reading_bare, right.reading_bare]
  | .both left right => by
    rw [Expr.bare, Expr.reading, Expr.reading, left.reading_bare, right.reading_bare]
  | .comparison property operator literal ignoreCase => by
    rw [Expr.bare, Expr.reading, Expr.reading]
    unfold comparisonReading
    rw [literal.reading_bare]
    rfl
  | .relative distance target => by
    rw [Expr.bare, Expr.reading, Expr.reading, Expr.targetReading_bare]
    rfl
  | .subPath steps => by
    rw [Expr.bare, Expr.reading, Expr.reading, Step.readings_bare]

theorem Expr.targetReading_bare : (t : Option Expr) →
    Expr.targetReading (Expr.bareTarget t) = Expr.targetReading t
  | none => rfl
  | some expr => by
    rw [Expr.bareTarget, Expr.targetReading, Expr.targetReading, expr.reading_bare]

theorem Step.readings_bare : (ss : List Step) → Step.readings (Step.bareAll ss) = Step.readings ss
  | [] => rfl
  | step :: steps => by
    rw [Step.bareAll, Step.readings, Step.readings, step.reading_bare, Step.readings_bare]

theorem Step.reading_bare : (s : Step) → s.bare.reading = s.reading
  | .self separator => rfl
  | .parent separator => rfl
  | .axis separator axis test predicates => by
    rw [Step.bare, Step.reading, Step.reading, Predicate.readings_bare, stepScope_bare,
      Predicate.page_bareAll]

theorem Predicate.readings_bare : (ps : List Predicate) →
    Predicate.readings (Predicate.bareAll ps) = Predicate.readings ps
  | [] => rfl
  | .condition expr :: more => by
    rw [Predicate.bareAll, Predicate.readings, Predicate.readings, expr.reading_bare,
      Predicate.readings_bare]
  | .position whole number :: more => by
    rw [Predicate.bareAll, Predicate.readings, Predicate.readings, Predicate.readings_bare]
  | .slice whole bounds start stop :: more => by
    rw [Predicate.bareAll, Predicate.readings, Predicate.readings, Predicate.readings_bare]

end

end Engine

/-! ## The faults of a bare tree -/

/-- The error without its place. -/
def ParseError.bare : ParseError → ParseError
  | unexpected _ _ => unexpected .none []
  | unknownProperty name => unknownProperty name.bare
  | unknownAxis name => unknownAxis name.bare
  | invalidNumber _ fault => invalidNumber .none fault
  | invalidRegex _ pattern => invalidRegex 0 pattern
  | duplicatePosition _ => duplicatePosition .none

/-- What does not depend on the place of a fault. -/
def Fault.mark (f : Fault) : ParseError × Bool :=
  (f.error.bare, f.overlooked)

/-- The marks of faults. -/
def marks (fs : List Fault) : List (ParseError × Bool) :=
  fs.map Fault.mark

section Marks

variable {fs gs fs' gs' : List Fault}

lemma marks_append : marks (fs ++ gs) = marks fs ++ marks gs :=
  List.map_append

lemma marks_append_congr (h : marks fs = marks fs') (h' : marks gs = marks gs') :
    marks (fs ++ gs) = marks (fs' ++ gs') := by
  rw [marks_append, marks_append, h, h']

lemma marks_ite {p : Prop} [Decidable p] (h : marks fs = marks fs') (h' : marks gs = marks gs') :
    marks (if p then fs else gs) = marks (if p then fs' else gs') := by
  split
  · exact h
  · exact h'

lemma marks_countFaults (place place' : Lexeme) (digits : String) :
    marks (countFaults place digits) = marks (countFaults place' digits) :=
  marks_ite rfl rfl

lemma AxisSyntax.marks_bare (a : AxisSyntax) : marks a.bare.faults = marks a.faults := by
  obtain ⟨name, depth⟩ := a
  cases depth with
  | none => exact marks_append_congr (marks_ite rfl rfl) rfl
  | some depth =>
    exact marks_append_congr (marks_ite rfl rfl)
      (marks_append_congr (marks_countFaults _ _ _) (marks_ite rfl rfl))

lemma marks_comparisonFaults_bare [Regex.Engine] (property : Lexeme) (operator : Operator)
    (literal : Literal) :
    marks (comparisonFaults property.bare operator literal.bare) =
      marks (comparisonFaults property operator literal) := by
  have hliteral : marks literal.bare.faults = marks literal.faults := by
    cases literal with
    | string offset body => rfl
    | boolean offset value => rfl
    | number digits => exact marks_ite rfl rfl
  unfold comparisonFaults
  rw [literal.reading_bare]
  exact marks_append_congr (marks_append_congr (marks_ite rfl rfl) hliteral) (marks_ite rfl rfl)

lemma marks_sliceFaults_bare (bounds : Lexeme) (start stop : Option Lexeme) :
    marks (sliceFaults .none (start.map Lexeme.bare) (stop.map Lexeme.bare)) =
      marks (sliceFaults bounds start stop) := by
  have hstart : sliceStart (start.map Lexeme.bare) = sliceStart start := by
    cases start <;> rfl
  unfold sliceFaults
  rw [hstart]
  refine marks_append_congr ?_ ?_
  · cases start with
    | none => rfl
    | some start => exact marks_countFaults _ _ _
  · cases stop with
    | none => rfl
    | some stop => exact marks_append_congr (marks_countFaults _ _ _) (marks_ite rfl rfl)

lemma marks_repeatedFaults (whole whole' : Lexeme) (seen narrowed : Bool) :
    marks (repeatedFaults whole seen narrowed) = marks (repeatedFaults whole' seen narrowed) :=
  marks_ite rfl rfl

end Marks

section Engine

variable [Regex.Engine]

mutual

theorem Expr.marks_bare : (e : Expr) → marks e.bare.faults = marks e.faults
  | .either left right => by
    rw [Expr.bare, Expr.faults, Expr.faults]
    exact marks_append_congr left.marks_bare right.marks_bare
  | .both left right => by
    rw [Expr.bare, Expr.faults, Expr.faults]
    exact marks_append_congr left.marks_bare right.marks_bare
  | .comparison property operator literal ignoreCase => by
    rw [Expr.bare, Expr.faults, Expr.faults]
    exact marks_comparisonFaults_bare property operator literal
  | .relative distance target => by
    rw [Expr.bare, Expr.faults, Expr.faults]
    exact marks_append_congr (marks_countFaults _ _ _) (Expr.marks_bareTarget target)
  | .subPath steps => by
    rw [Expr.bare, Expr.faults, Expr.faults]
    exact Step.marks_bareAll steps

theorem Expr.marks_bareTarget : (t : Option Expr) →
    marks (Expr.targetFaults (Expr.bareTarget t)) = marks (Expr.targetFaults t)
  | none => rfl
  | some expr => by
    rw [Expr.bareTarget, Expr.targetFaults, Expr.targetFaults]
    exact expr.marks_bare

theorem Step.marks_bareAll : (ss : List Step) →
    marks (Step.allFaults (Step.bareAll ss)) = marks (Step.allFaults ss)
  | [] => rfl
  | step :: steps => by
    rw [Step.bareAll, Step.allFaults, Step.allFaults]
    exact marks_append_congr step.marks_bare (Step.marks_bareAll steps)

theorem Step.marks_bare : (s : Step) → marks s.bare.faults = marks s.faults
  | .self separator => rfl
  | .parent separator => rfl
  | .axis separator axis test predicates => by
    rw [Step.bare, Step.faults, Step.faults]
    refine marks_append_congr ?_ (Predicate.marks_bareAll predicates false false)
    cases axis with
    | none => rfl
    | some axis => exact axis.marks_bare

theorem Predicate.marks_bareAll : (ps : List Predicate) → (seen narrowed : Bool) →
    marks (Predicate.allFaults seen narrowed (Predicate.bareAll ps)) =
      marks (Predicate.allFaults seen narrowed ps)
  | [], _, _ => rfl
  | .condition expr :: more, seen, narrowed => by
    rw [Predicate.bareAll, Predicate.allFaults, Predicate.allFaults]
    exact marks_append_congr expr.marks_bare (Predicate.marks_bareAll more seen narrowed)
  | .position whole number :: more, seen, narrowed => by
    rw [Predicate.bareAll, Predicate.allFaults, Predicate.allFaults]
    exact marks_append_congr (marks_append_congr
      (marks_append_congr (marks_countFaults _ _ _) (marks_ite rfl rfl))
      (marks_repeatedFaults _ _ _ _)) (Predicate.marks_bareAll more true true)
  | .slice whole bounds start stop :: more, seen, narrowed => by
    rw [Predicate.bareAll, Predicate.allFaults, Predicate.allFaults, sliceReading_bare]
    exact marks_append_congr (marks_append_congr (marks_sliceFaults_bare bounds start stop)
      (marks_repeatedFaults _ _ _ _)) (Predicate.marks_bareAll more true _)

end

end Engine

/-- The result only depends on the marks, apart from places. -/
lemma mapError_prescribed_heeded {α : Type} {fs gs : List Fault} (a : α)
    (h : marks fs = marks gs) :
    (prescribed (heeded fs) a).mapError ParseError.bare =
      (prescribed (heeded gs) a).mapError ParseError.bare := by
  induction fs generalizing gs with
  | nil =>
    cases gs with
    | nil => rfl
    | cons g gs => cases h
  | cons f fs ih =>
    cases gs with
    | nil => cases h
    | cons g gs =>
      obtain ⟨hfg, h⟩ := List.cons.inj h
      obtain ⟨herror, hover⟩ := Prod.mk.inj hfg
      unfold heeded at ih ⊢
      cases ho : f.overlooked with
      | true =>
        rw [List.filter_cons_of_neg (by simp [ho]), List.filter_cons_of_neg (by simp [← hover, ho])]
        exact ih h
      | false =>
        rw [List.filter_cons_of_pos (by simp [ho]), List.filter_cons_of_pos (by simp [← hover, ho])]
        exact congrArg Except.error herror

end ControlQuery.CPath

import ControlQuery.Proofs.CPath.Derivation
import ControlQuery.Proofs.CPath.Prescription

/-!
# The leaves of a syntax tree

Names and numbers with a meaning, and so faults, are found in axes, comparisons, distances,
positions and slices only. These leaves of a tree stand one behind the other in the text.
-/

namespace ControlQuery.CPath

/-- A part of a tree in which no other part nests. A position and a slice come with whether there is
one in front of them on their step, and whether any of those leaves something out. -/
inductive Leaf where
  | axis (a : AxisSyntax)
  | comparison (property : Lexeme) (operator : Operator) (literal : Literal)
  | distance (d : DistanceSyntax)
  | position (whole number : Lexeme) (seen narrowed : Bool)
  | slice (whole bounds : Lexeme) (start stop : Option Lexeme) (seen narrowed : Bool)
deriving DecidableEq, Repr

section Engine

variable [Regex.Engine]

/-- What is wrong with a leaf. -/
def Leaf.faults : Leaf → List Fault
  | axis a => a.faults
  | comparison property operator literal => comparisonFaults property operator literal
  | distance d => countFaults d.whole d.digits
  | position whole number seen narrowed =>
    positionFaults number ++ repeatedFaults whole seen narrowed
  | slice whole bounds start stop seen narrowed =>
    sliceFaults bounds start stop ++ repeatedFaults whole seen narrowed

mutual

/-- The leaves of an expression in the order of reading. -/
def Expr.leaves : Expr → List Leaf
  | .either left right => left.leaves ++ right.leaves
  | .both left right => left.leaves ++ right.leaves
  | .comparison property operator literal _ => [.comparison property operator literal]
  | .relative distance target => .distance distance :: Expr.targetLeaves target
  | .subPath steps => Step.allLeaves steps

def Expr.targetLeaves : Option Expr → List Leaf
  | none => []
  | some expr => expr.leaves

def Step.allLeaves : List Step → List Leaf
  | [] => []
  | step :: steps => step.leaves ++ Step.allLeaves steps

def Step.leaves : Step → List Leaf
  | .self _ => []
  | .parent _ => []
  | .axis _ axis _ predicates =>
    (axis.map Leaf.axis).toList ++ Predicate.allLeaves false false predicates

/-- The leaves of predicates behind others. -/
def Predicate.allLeaves (seen narrowed : Bool) : List Predicate → List Leaf
  | [] => []
  | .condition expr :: more => expr.leaves ++ Predicate.allLeaves seen narrowed more
  | .position whole number :: more =>
    .position whole number seen narrowed :: Predicate.allLeaves true true more
  | .slice whole bounds start stop :: more =>
    .slice whole bounds start stop seen narrowed ::
      Predicate.allLeaves true (narrowed || (sliceReading start stop).narrows) more

end

/-! ## The faults of a tree are those of its leaves -/

mutual

theorem Expr.faults_eq : (e : Expr) → e.faults = e.leaves.flatMap Leaf.faults
  | .either left right => by
    rw [Expr.faults, Expr.leaves, List.flatMap_append, left.faults_eq, right.faults_eq]
  | .both left right => by
    rw [Expr.faults, Expr.leaves, List.flatMap_append, left.faults_eq, right.faults_eq]
  | .comparison _ _ _ _ => by
    rw [Expr.faults, Expr.leaves, List.flatMap_singleton, Leaf.faults]
  | .relative _ target => by
    rw [Expr.faults, Expr.leaves, List.flatMap_cons, Leaf.faults, Expr.targetFaults_eq target]
  | .subPath steps => by
    rw [Expr.faults, Expr.leaves, Step.allFaults_eq steps]

theorem Expr.targetFaults_eq : (t : Option Expr) →
    Expr.targetFaults t = (Expr.targetLeaves t).flatMap Leaf.faults
  | none => rfl
  | some expr => expr.faults_eq

theorem Step.allFaults_eq : (ss : List Step) →
    Step.allFaults ss = (Step.allLeaves ss).flatMap Leaf.faults
  | [] => rfl
  | step :: steps => by
    rw [Step.allFaults, Step.allLeaves, List.flatMap_append, step.faults_eq,
      Step.allFaults_eq steps]

theorem Step.faults_eq : (s : Step) → s.faults = s.leaves.flatMap Leaf.faults
  | .self _ => rfl
  | .parent _ => rfl
  | .axis _ axis _ predicates => by
    rw [Step.faults, Step.leaves, List.flatMap_append,
      Predicate.allFaults_eq false false predicates]
    cases axis with
    | none => rfl
    | some a => rw [Option.map_some, Option.map_some, Option.toList_some, List.flatMap_singleton,
        Option.getD_some, Leaf.faults]

theorem Predicate.allFaults_eq (seen narrowed : Bool) : (ps : List Predicate) →
    Predicate.allFaults seen narrowed ps =
      (Predicate.allLeaves seen narrowed ps).flatMap Leaf.faults
  | [] => rfl
  | .condition expr :: more => by
    rw [Predicate.allFaults, Predicate.allLeaves, List.flatMap_append, expr.faults_eq,
      Predicate.allFaults_eq seen narrowed more]
  | .position _ _ :: more => by
    rw [Predicate.allFaults, Predicate.allLeaves, List.flatMap_cons, Leaf.faults,
      Predicate.allFaults_eq true true more]
  | .slice _ _ _ _ :: more => by
    rw [Predicate.allFaults, Predicate.allLeaves, List.flatMap_cons, Leaf.faults,
      Predicate.allFaults_eq _ _ more]

end

end Engine

/-! ## Where leaves stand -/

/-- A leaf stands between two places. -/
inductive LeafText : Input → Leaf → Input → Prop where
  | axis {i j : Input} {a : AxisSyntax} (axis : AxisText i a j) : LeafText i (.axis a) j
  | comparison {i j : Input} {p : Lexeme} {o : Operator} {v : Literal} {b : Bool}
      (comparison : ComparisonText i (.comparison p o v b) j) : LeafText i (.comparison p o v) j
  | distance {i j : Input} {d : DistanceSyntax} (distance : DistanceText i d j) :
      LeafText i (.distance d) j
  | position {i j : Input} {w n : Lexeme} {seen narrowed : Bool}
      (predicate : PredicateText i (.position w n) j) :
      LeafText i (.position w n seen narrowed) j
  | slice {i j : Input} {w b : Lexeme} {s t : Option Lexeme} {seen narrowed : Bool}
      (predicate : PredicateText i (.slice w b s t) j) :
      LeafText i (.slice w b s t seen narrowed) j

lemma LeafText.reaches {i j : Input} {l : Leaf} (h : LeafText i l j) : Reaches i j := by
  cases h with
  | axis axis => exact axis.reaches
  | comparison comparison => exact comparison.reaches
  | distance distance => exact distance.reaches
  | position predicate => exact predicate.reaches
  | slice predicate => exact predicate.reaches

/-- Leaves stand between two places, one behind the other. -/
inductive LeavesText : Input → List Leaf → Input → Prop where
  | nil {i j : Input} (reaches : Reaches i j) : LeavesText i [] j
  | cons {i j k m : Input} {l : Leaf} {ls : List Leaf} (reaches : Reaches i j)
      (leaf : LeafText j l k) (more : LeavesText k ls m) : LeavesText i (l :: ls) m

namespace LeavesText

variable {i j k : Input} {l : Leaf} {ls ls' : List Leaf}

lemma behind (h : Reaches i j) (h' : LeavesText j ls k) : LeavesText i ls k := by
  cases h' with
  | nil reaches => exact .nil (h.trans reaches)
  | cons reaches leaf more => exact .cons (h.trans reaches) leaf more

lemma append (h : LeavesText i ls j) (h' : LeavesText j ls' k) : LeavesText i (ls ++ ls') k := by
  induction h with
  | nil reaches => exact h'.behind reaches
  | cons reaches leaf _ ih => exact .cons reaches leaf (ih h')

lemma before (h : LeavesText i ls j) (h' : Reaches j k) : LeavesText i ls k := by
  have := h.append (.nil h')
  rwa [List.append_nil] at this

lemma single (h : LeafText i l j) : LeavesText i [l] j :=
  .cons .refl h (.nil .refl)

end LeavesText

lemma leaves_foldl_either (e : Expr) (es : List Expr) :
    (es.foldl .either e).leaves = e.leaves ++ es.flatMap Expr.leaves := by
  induction es generalizing e with
  | nil => simp
  | cons e' es ih =>
    rw [List.foldl_cons, ih, Expr.leaves, List.flatMap_cons, List.append_assoc]

lemma leaves_foldl_both (e : Expr) (es : List Expr) :
    (es.foldl .both e).leaves = e.leaves ++ es.flatMap Expr.leaves := by
  induction es generalizing e with
  | nil => simp
  | cons e' es ih =>
    rw [List.foldl_cons, ih, Expr.leaves, List.flatMap_cons, List.append_assoc]

mutual

theorem OrText.leaves {i j : Input} {e : Expr} : OrText i e j → LeavesText i e.leaves j
  | .intro first more => by
    rw [leaves_foldl_either]
    exact first.leaves.append more.leaves

theorem OrMoreText.leaves {i j : Input} {es : List Expr} :
    OrMoreText i es j → LeavesText i (es.flatMap Expr.leaves) j
  | .nil => .nil .refl
  | .cons gap word gap' operand more => by
    rw [List.flatMap_cons]
    exact (operand.leaves.behind ((gap.reaches.trans word.1.reaches).trans gap'.reaches)).append
      more.leaves

theorem AndText.leaves {i j : Input} {e : Expr} : AndText i e j → LeavesText i e.leaves j
  | .intro first more => by
    rw [leaves_foldl_both]
    exact first.leaves.append more.leaves

theorem AndMoreText.leaves {i j : Input} {es : List Expr} :
    AndMoreText i es j → LeavesText i (es.flatMap Expr.leaves) j
  | .nil => .nil .refl
  | .cons gap word gap' operand more => by
    rw [List.flatMap_cons]
    exact (operand.leaves.behind ((gap.reaches.trans word.1.reaches).trans gap'.reaches)).append
      more.leaves

theorem UnaryText.leaves {i j : Input} {e : Expr} : UnaryText i e j → LeavesText i e.leaves j
  | .group opening gap expr gap' closing =>
    (expr.leaves.behind (opening.reaches.trans gap.reaches)).before
      (gap'.reaches.trans closing.reaches)
  | .comparison (.intro sign name gap operator gap' literal gap'' flag) => by
    rw [Expr.leaves]
    exact .single (.comparison (.intro sign name gap operator gap' literal gap'' flag))
  | .relative word gap opening gap' distance gap'' comma gap₃ target gap₄ closing => by
    rw [Expr.leaves]
    have hfront := (word.reaches.trans gap.reaches).trans (opening.reaches.trans gap'.reaches)
    have hmiddle := (gap''.reaches.trans comma.reaches).trans gap₃.reaches
    exact .cons hfront (.distance distance) ((target.leaves.behind hmiddle).before
      (gap₄.reaches.trans closing.reaches))
  | .fromSelf dot steps => by
    rw [Expr.leaves]
    exact steps.leaves.behind dot.reaches
  | .fromParent dots steps => by
    rw [Expr.leaves, Step.allLeaves, Step.leaves, List.nil_append]
    exact steps.leaves.behind dots.reaches

theorem TargetText.leaves {i j : Input} {e : Option Expr} :
    TargetText i e j → LeavesText i (Expr.targetLeaves e) j
  | .any star => .nil star.reaches
  | .expr expr => expr.leaves

theorem StepsText.leaves {i j : Input} {ss : List Step} :
    StepsText i ss j → LeavesText i (Step.allLeaves ss) j
  | .nil => .nil .refl
  | .cons gap separator gap' step more => by
    rw [Step.allLeaves]
    exact (step.leaves.behind ((gap.reaches.trans separator.reaches).trans gap'.reaches)).append
      more.leaves

theorem StepText.leaves {i j : Input} {sep : Separator} {s : Step} :
    StepText sep i s j → LeavesText i s.leaves j
  | .parent dots => .nil dots.reaches
  | .self dot => .nil dot.reaches
  | .plain test predicates => by
    rw [Step.leaves]
    exact (predicates.leaves false false).behind test.reaches
  | .axis axis gap colons gap' test predicates => by
    rw [Step.leaves]
    have hmiddle := (gap.reaches.trans colons.reaches).trans (gap'.reaches.trans test.reaches)
    exact .cons .refl (.axis axis) ((predicates.leaves false false).behind hmiddle)

theorem PredicatesText.leaves {i j : Input} {ps : List Predicate} (seen narrowed : Bool) :
    PredicatesText i ps j → LeavesText i (Predicate.allLeaves seen narrowed ps) j
  | .nil => .nil .refl
  | .cons gap (.position opening gap' number gap'' closing whole) more => by
    rw [Predicate.allLeaves]
    exact .cons gap.reaches (.position (.position opening gap' number gap'' closing whole))
      (more.leaves true true)
  | .cons gap (.slice opening gap' start colon gap'' stop bounds gap₃ closing whole) more => by
    rw [Predicate.allLeaves]
    exact .cons gap.reaches
      (.slice (.slice opening gap' start colon gap'' stop bounds gap₃ closing whole))
      (more.leaves true _)
  | .cons gap (.openSlice opening gap' start colon gap'' bounds closing whole) more => by
    rw [Predicate.allLeaves]
    exact .cons gap.reaches
      (.slice (.openSlice opening gap' start colon gap'' bounds closing whole))
      (more.leaves true _)
  | .cons gap (.condition opening gap' expr gap'' closing) more => by
    rw [Predicate.allLeaves]
    have hexpr := (expr.leaves.behind (opening.reaches.trans gap'.reaches)).before
      (gap''.reaches.trans closing.reaches)
    exact (hexpr.behind gap.reaches).append (more.leaves seen narrowed)

end

/-- The leaves of a whole text. -/
lemma Derives.leaves {text : String} {ss : List Step} (h : Derives text ss) :
    ∃ j, LeavesText (.start text) (Step.allLeaves ss) j := by
  obtain ⟨gap, path, gap', atEnd⟩ := h
  cases path with
  | plain first more =>
    exact ⟨_, (first.leaves.behind gap.reaches).append more.leaves⟩
  | leading separator gap'' first more =>
    exact ⟨_, (first.leaves.behind ((gap.reaches.trans separator.reaches).trans
      gap''.reaches)).append more.leaves⟩

end ControlQuery.CPath

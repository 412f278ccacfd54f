import ControlQuery.Proofs.CPath.Copies
import ControlQuery.Proofs.CPath.Published

/-!
# Rows of predicates

The predicates of each step stand in a row, and the conditions among them may hold paths with rows
of their own. Every row of a tree has its place in the text. Another row may be written there, and
the text then derives a tree of the same meaning if the other row has the same meaning.
-/

namespace ControlQuery

open Relation (Comp)

namespace CPath

/-! ## The rows of a tree -/

mutual

/-- The rows of the steps in an expression, from the left to the right. -/
def Expr.rows : Expr → List (List Predicate)
  | .either left right => left.rows ++ right.rows
  | .both left right => left.rows ++ right.rows
  | .comparison _ _ _ _ => []
  | .relative _ target => Expr.targetRows target
  | .subPath steps => Step.allRows steps

def Expr.targetRows : Option Expr → List (List Predicate)
  | none => []
  | some expr => expr.rows

def Step.allRows : List Step → List (List Predicate)
  | [] => []
  | step :: steps => step.rows ++ Step.allRows steps

/-- The row of a step, and those inside of it. -/
def Step.rows : Step → List (List Predicate)
  | .self _ => []
  | .parent _ => []
  | .axis _ _ _ predicates => predicates :: Predicate.innerRows predicates

/-- The rows of the steps in the conditions of a row. -/
def Predicate.innerRows : List Predicate → List (List Predicate)
  | [] => []
  | .condition expr :: more => expr.rows ++ Predicate.innerRows more
  | .position _ _ :: more => Predicate.innerRows more
  | .slice _ _ _ _ :: more => Predicate.innerRows more

end

lemma rows_foldl_either (e : Expr) (es : List Expr) :
    (es.foldl .either e).rows = e.rows ++ es.flatMap Expr.rows := by
  induction es generalizing e with
  | nil => simp
  | cons e' es ih =>
    rw [List.foldl_cons, ih, Expr.rows, List.flatMap_cons, List.append_assoc]

lemma rows_foldl_both (e : Expr) (es : List Expr) :
    (es.foldl .both e).rows = e.rows ++ es.flatMap Expr.rows := by
  induction es generalizing e with
  | nil => simp
  | cons e' es ih =>
    rw [List.foldl_cons, ih, Expr.rows, List.flatMap_cons, List.append_assoc]

/-! ## The place of a row -/

section Engine

variable [Regex.Engine]

/-- The row stands somewhere between the two places, and the relation is fulfilled by every copy
but for the row, in whose place stands a row of the same meaning. -/
def Slot (ps : List Predicate) (i j : Input) (R : Input → Input → Prop) : Prop :=
  ∃ k l, Reaches i k ∧ PredicatesText k ps l ∧ Reaches l j ∧
    ∀ {i' k' l' j' : Input}, Copied i k i' k' →
      Rephrased PredicatesText Predicate.SameAll ps k' l' → Copied l j l' j' → R i' j'

namespace Slot

variable {i j k : Input} {ps : List Predicate} {R S : Input → Input → Prop}

lemma self (h : PredicatesText i ps j) :
    Slot ps i j (Rephrased PredicatesText Predicate.SameAll ps) :=
  ⟨i, j, .refl, h, .refl, fun hc hrow hc' => by
    rw [hc.eq_of_self] at hrow
    rw [hc'.eq_of_self]
    exact hrow⟩

lemma mono (h : Slot ps i j R) (hRS : ∀ {i j : Input}, R i j → S i j) : Slot ps i j S := by
  obtain ⟨k, l, hk, hrow, hl, hcopy⟩ := h
  exact ⟨k, l, hk, hrow, hl, fun hc hrow hc' => hRS (hcopy hc hrow hc')⟩

lemma comp (h : Slot ps i j R) (h' : Portable j k S) : Slot ps i k (Comp R S) := by
  obtain ⟨m, l, hm, hrow, hl, hcopy⟩ := h
  refine ⟨m, l, hm, hrow, hl.trans h'.reaches, fun hc hrow hc' => ?_⟩
  obtain ⟨_, hc', hc''⟩ := hc'.split hl h'.reaches
  exact ⟨_, hcopy hc hrow hc', h'.copy hc''⟩

end Slot

lemma Portable.slot {i j k : Input} {ps : List Predicate} {R S : Input → Input → Prop}
    (h : Portable i j R) (h' : Slot ps j k S) : Slot ps i k (Comp R S) := by
  obtain ⟨m, l, hm, hrow, hl, hcopy⟩ := h'
  refine ⟨m, l, h.reaches.trans hm, hrow, hl, fun hc hrow hc' => ?_⟩
  obtain ⟨_, hc, hc''⟩ := hc.split h.reaches hm
  exact ⟨_, h.copy hc, hcopy hc'' hrow hc'⟩

section Slots

variable {row : List Predicate}

mutual

theorem OrText.slot {i j : Input} {e : Expr} :
    OrText i e j → row ∈ e.rows → Slot row i j (Rephrased OrText Expr.Same e)
  | .intro first more, hrow => by
    rw [rows_foldl_either, List.mem_append] at hrow
    rcases hrow with hrow | hrow
    · exact ((first.slot hrow).comp more.portable).mono rephrased_or
    · exact (first.portable.slot (more.slot hrow)).mono rephrased_or

theorem OrMoreText.slot {i j : Input} {es : List Expr} :
    OrMoreText i es j → row ∈ es.flatMap Expr.rows →
      Slot row i j (Rephrased OrMoreText (List.Forall₂ Expr.Same) es)
  | .cons gap word gap' operand more, hrow => by
    refine .mono (gap.portable.slot ((word.portable rfl rfl).slot (gap'.portable.slot ?_)))
      rephrased_orMore
    rw [List.flatMap_cons, List.mem_append] at hrow
    rcases hrow with hrow | hrow
    · exact (operand.slot hrow).comp more.portable
    · exact operand.portable.slot (more.slot hrow)

theorem AndText.slot {i j : Input} {e : Expr} :
    AndText i e j → row ∈ e.rows → Slot row i j (Rephrased AndText Expr.Same e)
  | .intro first more, hrow => by
    rw [rows_foldl_both, List.mem_append] at hrow
    rcases hrow with hrow | hrow
    · exact ((first.slot hrow).comp more.portable).mono rephrased_and
    · exact (first.portable.slot (more.slot hrow)).mono rephrased_and

theorem AndMoreText.slot {i j : Input} {es : List Expr} :
    AndMoreText i es j → row ∈ es.flatMap Expr.rows →
      Slot row i j (Rephrased AndMoreText (List.Forall₂ Expr.Same) es)
  | .cons gap word gap' operand more, hrow => by
    refine .mono (gap.portable.slot ((word.portable rfl rfl).slot (gap'.portable.slot ?_)))
      rephrased_andMore
    rw [List.flatMap_cons, List.mem_append] at hrow
    rcases hrow with hrow | hrow
    · exact (operand.slot hrow).comp more.portable
    · exact operand.portable.slot (more.slot hrow)

theorem UnaryText.slot {i j : Input} {e : Expr} :
    UnaryText i e j → row ∈ e.rows → Slot row i j (Rephrased UnaryText Expr.Same e)
  | .group opening gap expr gap' closing, hrow =>
    (opening.portable.slot (gap.portable.slot ((expr.slot hrow).comp
      (gap'.portable.comp closing.portable)))).mono rephrased_group
  | .comparison (.intro _ _ _ _ _ _ _ _), hrow => by cases hrow
  | .relative word gap opening gap' distance gap'' comma gap₃ target gap₄ closing, hrow =>
    (word.portable.slot (gap.portable.slot (opening.portable.slot (gap'.portable.slot
      (distance.portable.slot (gap''.portable.slot (comma.portable.slot (gap₃.portable.slot
        ((target.slot hrow).comp (gap₄.portable.comp closing.portable)))))))))).mono
      rephrased_relative
  | .fromSelf dot steps, hrow => (dot.portable.slot (steps.slot hrow)).mono rephrased_fromSelf
  | .fromParent dots steps, hrow =>
    (dots.portable.slot (steps.slot hrow)).mono rephrased_fromParent

theorem TargetText.slot {i j : Input} {t : Option Expr} :
    TargetText i t j → row ∈ Expr.targetRows t →
      Slot row i j (Rephrased TargetText Expr.SameTarget t)
  | .any _, hrow => by cases hrow
  | .expr expr, hrow => (expr.slot hrow).mono rephrased_target

theorem StepsText.slot {i j : Input} {ss : List Step} :
    StepsText i ss j → row ∈ Step.allRows ss →
      Slot row i j (Rephrased StepsText (List.Forall₂ Step.Same) ss)
  | .cons gap separator gap' step more, hrow => by
    refine .mono (gap.portable.slot (separator.portable.slot (gap'.portable.slot ?_)))
      rephrased_steps
    rw [Step.allRows, List.mem_append] at hrow
    rcases hrow with hrow | hrow
    · exact (step.slot hrow).comp more.portable
    · exact step.portable.slot (more.slot hrow)

theorem StepText.slot {i j : Input} {sep : Separator} {s : Step} :
    StepText sep i s j → row ∈ s.rows → Slot row i j (Rephrased (StepText sep) Step.Same s)
  | .parent _, hrow => by cases hrow
  | .self _, hrow => by cases hrow
  | .plain test predicates, hrow => by
    refine .mono (test.portable.slot ?_) rephrased_plain
    rcases List.mem_cons.mp hrow with rfl | hrow
    · exact .self predicates
    · exact predicates.slot hrow
  | .axis axis gap colons gap' test predicates, hrow => by
    refine .mono (axis.portable.slot (gap.portable.slot (colons.portable.slot (gap'.portable.slot
      (test.portable.slot ?_))))) rephrased_axis
    rcases List.mem_cons.mp hrow with rfl | hrow
    · exact .self predicates
    · exact predicates.slot hrow

theorem PredicatesText.slot {i j : Input} {ps : List Predicate} :
    PredicatesText i ps j → row ∈ Predicate.innerRows ps →
      Slot row i j (Rephrased PredicatesText Predicate.SameAll ps)
  | .cons gap (.position opening gap' number gap'' closing whole) more, hrow =>
    have predicate := PredicateText.position opening gap' number gap'' closing whole
    (gap.portable.slot (predicate.portable.slot (more.slot hrow))).mono rephrased_predicates
  | .cons gap (.slice opening gap' start colon gap'' stop bounds gap₃ closing whole) more, hrow =>
    have predicate :=
      PredicateText.slice opening gap' start colon gap'' stop bounds gap₃ closing whole
    (gap.portable.slot (predicate.portable.slot (more.slot hrow))).mono rephrased_predicates
  | .cons gap (.openSlice opening gap' start colon gap'' bounds closing whole) more, hrow =>
    have predicate := PredicateText.openSlice opening gap' start colon gap'' bounds closing whole
    (gap.portable.slot (predicate.portable.slot (more.slot hrow))).mono rephrased_predicates
  | .cons gap (.condition opening gap' expr gap'' closing) more, hrow => by
    refine .mono (gap.portable.slot ?_) rephrased_predicates
    rw [Predicate.innerRows, List.mem_append] at hrow
    rcases hrow with hrow | hrow
    · refine .comp (.mono ?_ rephrased_condition) more.portable
      exact opening.portable.slot (gap'.portable.slot ((expr.slot hrow).comp
        (gap''.portable.comp closing.portable)))
    · have predicate := PredicateText.condition opening gap' expr gap'' closing
      exact predicate.portable.slot (more.slot hrow)

end

theorem PathText.slot {i j : Input} {ss : List Step} (h : PathText i ss j)
    (hrow : row ∈ Step.allRows ss) :
    Slot row i j (Rephrased PathText (List.Forall₂ Step.Same) ss) := by
  cases h with
  | plain first more =>
    rw [Step.allRows, List.mem_append] at hrow
    rcases hrow with hrow | hrow
    · exact ((first.slot hrow).comp more.portable).mono rephrased_path
    · exact (first.portable.slot (more.slot hrow)).mono rephrased_path
  | leading separator gap first more =>
    refine .mono (separator.portable.slot (gap.portable.slot ?_)) rephrased_leadingPath
    rw [Step.allRows, List.mem_append] at hrow
    rcases hrow with hrow | hrow
    · exact (first.slot hrow).comp more.portable
    · exact first.portable.slot (more.slot hrow)

end Slots

end Engine

/-- The place of a text behind some characters and in front of others. -/
def Input.behind (front back : List Char) : Input :=
  ⟨back, bytes front⟩

section Behind

variable {u v cs : List Char} {j : Input}

lemma Input.start_ofList (v : List Char) : .start (String.ofList v) = Input.behind [] v := by
  unfold Input.start Input.behind
  rw [String.toList_ofList]
  rfl

lemma Piece.behind (u cs v : List Char) :
    Piece (.behind u (cs ++ v)) cs (.behind (u ++ cs) v) :=
  ⟨rfl, by simp [Input.behind, bytes]⟩

lemma Piece.eq_behind (h : Piece (.behind u v) cs j) :
    j = .behind (u ++ cs) j.rest ∧ v = cs ++ j.rest := by
  have hrest : v = cs ++ j.rest := h.rest
  refine ⟨?_, hrest⟩
  rw [hrest] at h
  exact h.unique (.behind u cs j.rest)

end Behind

variable [Regex.Engine]

/-- Every row of a text can be written anew with the same meaning. -/
lemma Derives.exists_row {text : String} {ss : List Step} {ps : List Predicate}
    (h : Derives text ss) (hps : ps ∈ Step.allRows ss) :
    ∃ u row v, text = String.ofList (u ++ (row ++ v)) ∧
      PredicatesText (.behind u (row ++ v)) ps (.behind (u ++ row) v) ∧
      ∀ row' ps', PredicatesText (.behind u (row' ++ v)) ps' (.behind (u ++ row') v) →
        Predicate.SameAll ps ps' →
        ((Input.behind u (row ++ v)).Stops isIdentChar →
          (Input.behind u (row' ++ v)).Stops isIdentChar) →
        ∃ ss', Derives (String.ofList (u ++ (row' ++ v))) ss' ∧ List.Forall₂ Step.Same ss ss' := by
  obtain ⟨gap, path, gap', atEnd⟩ := h
  obtain ⟨m, l, ⟨u, hu⟩, hrow, ⟨v, hv⟩, hcopy⟩ :=
    gap.portable.slot ((path.slot hps).comp gap'.portable)
  obtain ⟨row, hpiece⟩ := hrow.reaches
  -- The places of the row in the text are known from what stands around it.
  rw [← String.ofList_toList (s := text), Input.start_ofList] at hu hcopy
  obtain ⟨hm, htext⟩ := hu.eq_behind
  rw [hm] at hu hrow hpiece hcopy
  obtain ⟨hl, hmrest⟩ := hpiece.eq_behind
  rw [hl] at hv hrow hcopy
  have hlrest : l.rest = v := by
    rw [hv.eq_behind.2, atEnd, List.append_nil]
  rw [hlrest] at hv hrow hcopy hmrest
  rw [hmrest] at hrow hcopy htext hu
  refine ⟨u, row, v, by rw [← htext, String.ofList_toList], hrow, ?_⟩
  intro row' ps' hrow' hsame hstops
  have hfront : Copied (.behind [] text.toList) (.behind u (row ++ v))
      (.behind [] (u ++ (row' ++ v))) (.behind u (row' ++ v)) :=
    ⟨u, hu, .behind [] u (row' ++ v), fun _ _ _ => hstops⟩
  have hback := Piece.behind (u ++ row') v []
  rw [List.append_nil] at hback
  obtain ⟨_, gap, _, ⟨ss', path, hss⟩, gap'⟩ := hcopy hfront ⟨ps', hrow', hsame⟩
    ⟨v, hv, hback, fun _ _ _ _ => by simp [Input.Stops, Input.behind]⟩
  rw [← Input.start_ofList] at gap
  exact ⟨ss', .intro gap path gap' rfl, hss⟩

lemma Derives.agree_parse {text text' : String} {ss ss' : List Step} (h : Derives text ss)
    (h' : Derives text' ss') (hs : List.Forall₂ Step.Same ss ss') :
    Agree (parse text) (parse text') := by
  unfold parse
  rw [steps_of_derives h, steps_of_derives h']
  exact (Step.agree_elements hs).bind fun _ => .refl _

end CPath

end ControlQuery

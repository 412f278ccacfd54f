import ControlQuery.Proofs.CPath.Layout
import ControlQuery.Proofs.CPath.Meaning

/-!
# Trees of the same meaning

Two trees have the same meaning if they write the same, or if something is wrong with both of them,
whatever it is. A tree keeps its meaning when a part of it is exchanged for one of the same meaning.
-/

namespace ControlQuery.CPath

/-- Two results agree if they are the same, or if something went wrong in both. -/
def Agree {α : Type} (x y : Except ParseError α) : Prop :=
  x.toOption = y.toOption

namespace Agree

variable {α β : Type} {x y z : Except ParseError α} {f g : α → Except ParseError β}

lemma refl (x : Except ParseError α) : Agree x x :=
  rfl

lemma symm (h : Agree x y) : Agree y x :=
  Eq.symm h

lemma trans (h : Agree x y) (h' : Agree y z) : Agree x z :=
  Eq.trans h h'

lemma bind (h : Agree x y) (hf : ∀ a, Agree (f a) (g a)) : Agree (x >>= f) (y >>= g) := by
  cases x with
  | error e =>
    cases y with
    | error e' => rfl
    | ok b => cases h
  | ok a =>
    cases y with
    | error e' => cases h
    | ok b =>
      cases h
      exact hf a

lemma eq_ok {a : α} (h : Agree x y) (hx : x = .ok a) : y = .ok a := by
  rw [hx] at h
  cases y with
  | error e => cases h
  | ok b => exact congrArg Except.ok (Option.some.inj h).symm

lemma of_mapError (h : x.mapError ParseError.bare = y.mapError ParseError.bare) : Agree x y := by
  cases x with
  | error e =>
    cases y with
    | error e' => rfl
    | ok b => cases h
  | ok a =>
    cases y with
    | error e' => cases h
    | ok b => exact congrArg some (Except.ok.inj h)

lemma of_marks {fs gs : List Fault} {a : α} (h : marks fs = marks gs) :
    Agree (prescribed (heeded fs) a) (prescribed (heeded gs) a) :=
  of_mapError (mapError_prescribed_heeded a h)

end Agree

/-! ## Expressions, steps and predicates -/

variable [Regex.Engine]

/-- Expressions that write the same condition, if any. -/
def Expr.Same (e f : Expr) : Prop :=
  Agree e.condition f.condition

/-- Targets that write the same condition, if any. -/
def Expr.SameTarget (s t : Option Expr) : Prop :=
  Agree (Expr.target s) (Expr.target t)

/-- Steps that write the same element, if any. -/
def Step.Same (s t : Step) : Prop :=
  Agree s.element t.element

/-- Rows of predicates that make the same of every element. -/
def Predicate.SameAll (ps qs : List Predicate) : Prop :=
  ∀ e, Agree (Predicate.apply ps e) (Predicate.apply qs e)

/-- Predicates that make the same of every element. -/
def Predicate.Same (p q : Predicate) : Prop :=
  Predicate.SameAll [p] [q]

lemma Expr.Same.of_bare {e f : Expr} (h : e.bare = f.bare) : e.Same f := by
  have hreading : e.reading = f.reading := by rw [← e.reading_bare, h, f.reading_bare]
  have hmarks : marks e.faults = marks f.faults := by rw [← e.marks_bare, h, f.marks_bare]
  unfold Expr.Same
  rw [e.condition_eq, f.condition_eq, hreading]
  exact .of_marks hmarks

lemma Expr.Same.either {e e' f f' : Expr} (h : e.Same e') (h' : f.Same f') :
    (e.either f).Same (e'.either f') := by
  unfold Expr.Same
  rw [Expr.condition, Expr.condition]
  exact h.bind fun _ => h'.bind fun _ => .refl _

lemma Expr.Same.both {e e' f f' : Expr} (h : e.Same e') (h' : f.Same f') :
    (e.both f).Same (e'.both f') := by
  unfold Expr.Same
  rw [Expr.condition, Expr.condition]
  exact h.bind fun _ => h'.bind fun _ => .refl _

/-- A chain of operands keeps its meaning with each of them. -/
lemma Expr.Same.foldl {op : Expr → Expr → Expr}
    (hop : ∀ {e e' f f' : Expr}, e.Same e' → f.Same f' → (op e f).Same (op e' f'))
    {e e' : Expr} {es es' : List Expr} (h : e.Same e') (hs : List.Forall₂ Expr.Same es es') :
    (es.foldl op e).Same (es'.foldl op e') := by
  induction hs generalizing e e' with
  | nil => exact h
  | cons hf _ ih => exact ih (hop h hf)

lemma Expr.Same.relative {d d' : DistanceSyntax} {t t' : Option Expr}
    (hd : d.direction = d'.direction) (hdigits : d.digits = d'.digits)
    (h : Expr.SameTarget t t') : (Expr.relative d t).Same (.relative d' t') := by
  have hdistance : Agree d.distance d'.distance := by
    unfold DistanceSyntax.distance
    rw [hd, hdigits]
    cases count? d'.digits <;> rfl
  unfold Expr.Same
  rw [Expr.condition, Expr.condition]
  exact hdistance.bind fun _ => h.bind fun _ => .refl _

lemma Expr.SameTarget.some {e f : Expr} (h : e.Same f) : Expr.SameTarget (some e) (some f) := by
  unfold Expr.SameTarget
  rw [Expr.target, Expr.target]
  exact h.bind fun _ => .refl _

lemma Step.agree_elements {ss ts : List Step} (h : List.Forall₂ Step.Same ss ts) :
    Agree (Step.elements ss) (Step.elements ts) := by
  induction h with
  | nil => exact .refl _
  | cons hs _ ih =>
    rw [Step.elements, Step.elements]
    exact Agree.bind hs fun _ => ih.bind fun _ => .refl _

lemma Expr.Same.subPath {ss ts : List Step} (h : List.Forall₂ Step.Same ss ts) :
    (Expr.subPath ss).Same (.subPath ts) := by
  unfold Expr.Same
  rw [Expr.condition, Expr.condition]
  exact (Step.agree_elements h).bind fun _ => .refl _

lemma Step.Same.plain {sep : Separator} {t : NodeTest} {ps qs : List Predicate}
    (h : Predicate.SameAll ps qs) : (Step.axis sep none t ps).Same (.axis sep none t qs) := by
  unfold Step.Same
  rw [Step.element_axis, Step.element_axis]
  exact h _

lemma Step.Same.axis {sep : Separator} {a b : AxisSyntax} {t : NodeTest} {ps qs : List Predicate}
    (hab : a.bare = b.bare) (h : Predicate.SameAll ps qs) :
    (Step.axis sep (some a) t ps).Same (.axis sep (some b) t qs) := by
  have hreading : a.reading = b.reading := by rw [← a.reading_bare, hab, b.reading_bare]
  have hmarks : marks a.faults = marks b.faults := by rw [← a.marks_bare, hab, b.marks_bare]
  have hpart : Agree a.part b.part := by
    rw [a.part_eq, b.part_eq, hreading, ← heeded_axisFaults a, ← heeded_axisFaults b]
    exact .of_marks hmarks
  unfold Step.Same
  rw [Step.element_axis, Step.element_axis]
  exact hpart.bind fun _ => h _

namespace Predicate

lemma apply_cons (p : Predicate) (ps : List Predicate) (e : Element) :
    Predicate.apply (p :: ps) e = Predicate.apply [p] e >>= Predicate.apply ps := by
  cases p with
  | condition expr =>
    rw [Predicate.apply, Predicate.apply, bind_assoc]
    rfl
  | position whole number =>
    rw [Predicate.apply, Predicate.apply, bind_assoc]
    refine bind_congr fun page => ?_
    dsimp only
    rw [bind_assoc]
    rfl
  | slice whole bounds start stop =>
    rw [Predicate.apply, Predicate.apply, bind_assoc]
    refine bind_congr fun page => ?_
    dsimp only
    rw [bind_assoc]
    rfl

lemma SameAll.refl (ps : List Predicate) : SameAll ps ps :=
  fun _ => .refl _

lemma SameAll.symm {ps qs : List Predicate} (h : SameAll ps qs) : SameAll qs ps :=
  fun e => (h e).symm

lemma SameAll.trans {ps qs rs : List Predicate} (h : SameAll ps qs) (h' : SameAll qs rs) :
    SameAll ps rs :=
  fun e => (h e).trans (h' e)

lemma SameAll.cons {p q : Predicate} {ps qs : List Predicate} (h : Predicate.Same p q)
    (hs : SameAll ps qs) : SameAll (p :: ps) (q :: qs) := by
  intro e
  rw [apply_cons p, apply_cons q]
  exact (h e).bind hs

lemma SameAll.of_forall₂ {ps qs : List Predicate} (h : List.Forall₂ Predicate.Same ps qs) :
    SameAll ps qs := by
  induction h with
  | nil => exact .refl []
  | cons hp _ ih => exact ih.cons hp

lemma agree_withPage (e : Element) (w w' : Lexeme) (skip : Count) (take : Option Count) :
    Agree (withPage e w skip take) (withPage e w' skip take) := by
  unfold withPage
  split <;> rfl

lemma Same.position {w w' n n' : Lexeme} (h : n.bare = n'.bare) :
    Predicate.Same (.position w n) (.position w' n') := by
  have hbare : ∀ l : Lexeme, Agree (positionPage l) (positionPage l.bare) := by
    intro l
    rw [positionPage_eq, positionPage_eq, ← heeded_positionFaults, ← heeded_positionFaults l.bare]
    exact .of_marks (marks_append_congr (marks_countFaults _ _ _) (marks_ite rfl rfl))
  have hpage : Agree (positionPage n) (positionPage n') := by
    refine (hbare n).trans ?_
    rw [h]
    exact (hbare n').symm
  intro e
  rw [Predicate.apply, Predicate.apply]
  exact hpage.bind fun page => (agree_withPage e w w' page.1 page.2).bind fun _ => .refl _

lemma Same.slice {w w' b b' : Lexeme} {s s' t t' : Option Lexeme}
    (hs : s.map Lexeme.bare = s'.map Lexeme.bare) (ht : t.map Lexeme.bare = t'.map Lexeme.bare) :
    Predicate.Same (.slice w b s t) (.slice w' b' s' t') := by
  have hbare : ∀ (b : Lexeme) (s t : Option Lexeme),
      Agree (slicePage b s t) (slicePage .none (s.map Lexeme.bare) (t.map Lexeme.bare)) := by
    intro b s t
    have hvalue : (sliceStart (s.map Lexeme.bare), (t.map Lexeme.bare).map fun l =>
        countOf l.text - sliceStart (s.map Lexeme.bare)) =
        (sliceStart s, t.map fun l => countOf l.text - sliceStart s) := by
      cases s <;> cases t <;> rfl
    rw [slicePage_eq, slicePage_eq, hvalue, ← heeded_sliceFaults b, ← heeded_sliceFaults .none]
    exact .of_marks (marks_sliceFaults_bare b s t).symm
  have hpage : Agree (slicePage b s t) (slicePage b' s' t') := by
    refine (hbare b s t).trans ?_
    rw [hs, ht]
    exact (hbare b' s' t').symm
  intro e
  rw [Predicate.apply, Predicate.apply]
  exact hpage.bind fun page => (agree_withPage e w w' page.1 page.2).bind fun _ => .refl _

lemma Same.condition {e f : Expr} (h : e.Same f) :
    Predicate.Same (.condition e) (.condition f) := by
  intro x
  rw [Predicate.apply, Predicate.apply]
  exact Agree.bind h fun _ => .refl _

end Predicate

end ControlQuery.CPath

import ControlQuery.Proofs.CPath.Published
import ControlQuery.Proofs.Query.Pages

/-!
# Pages that are read

A query that is read has only stable pages: a start at the first item is not kept, and an end is not
before the start. It has no function conditions either, because nothing in a text stands for one.
-/

namespace ControlQuery

open CPath (Page)

/-- There is no function condition, and all pages are stable. -/
structure Readable (function : Bool) (pages : List Page) : Prop where
  function : function = false
  stable : Stable pages

namespace Readable

lemma nil : Readable false [] where
  function := rfl
  stable := stable_nil

lemma append {b b' : Bool} {pages pages' : List Page} (h : Readable b pages)
    (h' : Readable b' pages') : Readable (b || b') (pages ++ pages') where
  function := by rw [h.function, h'.function]; rfl
  stable := stable_append.mpr ⟨h.stable, h'.stable⟩

variable [Regex.Engine]

lemma no_condition :
    Readable (Condition.hasFunctionOption none) (Condition.pagesOfOption none) := by
  rw [Condition.hasFunctionOption, Condition.pagesOfOption]
  exact nil

lemma foldl {op : Connective} {c : Condition} {cs : List Condition}
    (h : Readable c.hasFunction c.pages) (hcs : ∀ d ∈ cs, Readable d.hasFunction d.pages) :
    Readable (cs.foldl (.logical op) c).hasFunction (cs.foldl (.logical op) c).pages := by
  induction cs generalizing c with
  | nil => exact h
  | cons d cs ih =>
    rw [List.forall_mem_cons] at hcs
    apply ih _ hcs.2
    rw [Condition.hasFunction, Condition.pages]
    exact h.append hcs.1

lemma fold {op : Connective} {cs : List Condition}
    (h : ∀ c ∈ cs, Readable c.hasFunction c.pages) :
    Readable (Condition.hasFunctionOption (op.fold cs)) (Condition.pagesOfOption (op.fold cs)) := by
  cases cs with
  | nil => exact no_condition
  | cons c cs =>
    rw [List.forall_mem_cons] at h
    rw [Connective.fold, Condition.hasFunctionOption, Condition.pagesOfOption]
    exact h.1.foldl h.2

lemma parts {ps : List Part} (h : ∀ p ∈ ps, Readable p.hasFunction p.pages) :
    Readable (Part.hasFunctionList ps) (Part.pagesOfList ps) := by
  induction ps with
  | nil =>
    rw [Part.hasFunctionList, Part.pagesOfList]
    exact nil
  | cons p ps ih =>
    rw [List.forall_mem_cons] at h
    rw [Part.hasFunctionList, Part.pagesOfList]
    exact h.1.append (ih h.2)

lemma element {condition : Option Condition} {scope : List Part} {skip take : Option Count}
    (hcondition : Readable (Condition.hasFunctionOption condition)
      (Condition.pagesOfOption condition))
    (hscope : Readable (Part.hasFunctionList scope) (Part.pagesOfList scope))
    (hpage : Page.IsStable ⟨skip, take⟩) :
    Readable (Element.hasFunction ⟨condition, scope, skip, take⟩)
      (Element.pages ⟨condition, scope, skip, take⟩) := by
  rw [Element.hasFunction, Element.pages]
  refine ⟨?_, ?_⟩
  · rw [hcondition.function, hscope.function]
    rfl
  · rw [stable_append, stable_append, stable_singleton]
    exact ⟨hscope.stable, hcondition.stable, hpage⟩

end Readable

namespace CPath

/-! ## Pages -/

lemma Page.isStable_whole : Page.IsStable ⟨none, none⟩ where
  opened := nofun
  capped := nofun

lemma Page.isStable_from {start : Count} {take : Option Count}
    (h : start = 18446744073709551614 → ∀ count, take = some count → ¬2 ≤ count) :
    (Page.from start take).IsStable := by
  have hskip := getD_skip_from start take
  refine ⟨?_, ?_⟩
  · rintro ⟨hzero, -⟩
    have hstart : start = 0 := by rw [← hskip, hzero]; rfl
    rw [Page.from, if_pos hstart] at hzero
    cases hzero
  · rintro ⟨hlast, count, htake, hcount⟩
    have hstart : start = 18446744073709551614 := by rw [← hskip, hlast]; rfl
    exact h hstart count htake hcount

lemma isStable_positionReading (number : Lexeme) : (positionReading number).IsStable := by
  apply Page.isStable_from
  rintro - count hcount htwo
  rw [← Option.some.inj hcount] at htwo
  exact absurd htwo (by decide)

/-- Where an end is not before the start, at most one item is left behind the last but one. -/
lemma isStable_sliceReading {bounds : Lexeme} {start stop : Option Lexeme}
    (h : sliceFaults bounds start stop = []) : (sliceReading start stop).IsStable := by
  have hstop := (List.append_eq_nil_iff.mp h).2
  apply Page.isStable_from
  intro hstart count hcount htwo
  rw [hstart] at hcount hstop
  obtain ⟨l, rfl, rfl⟩ := Option.map_eq_some_iff.mp hcount
  have hordered : ¬countOf l.text < 18446744073709551614 := by
    intro hlt
    rw [stopFaults, if_pos hlt] at hstop
    exact absurd (List.append_eq_nil_iff.mp hstop).2 (List.cons_ne_nil _ _)
  rw [UInt64.not_lt] at hordered
  rw [UInt64.le_iff_toNat_le, UInt64.toNat_sub_of_le _ _ hordered] at htwo
  have hgreatest := (countOf l.text).toNat_le
  change 2 ≤ (countOf l.text).toNat - 18446744073709551614 at htwo
  unfold greatestCount at hgreatest
  omega

variable [Regex.Engine]

lemma Predicate.isStable_page {ps : List Predicate} {seen narrowed : Bool} {page : Page}
    (h : heeded (Predicate.allFaults seen narrowed ps) = []) (hpage : page.IsStable) :
    (Predicate.page page ps).IsStable := by
  induction ps generalizing seen narrowed page with
  | nil => exact hpage
  | cons p ps ih =>
    cases p with
    | position whole number =>
      rw [Predicate.allFaults, heeded_append, List.append_eq_nil_iff] at h
      exact ih h.2 (isStable_positionReading number)
    | slice whole bounds start stop =>
      rw [Predicate.allFaults, heeded_append, heeded_append, heeded_sliceFaults,
        List.append_eq_nil_iff, List.append_eq_nil_iff] at h
      exact ih h.2 (isStable_sliceReading h.1.1)
    | condition e =>
      rw [Predicate.allFaults, heeded_append, List.append_eq_nil_iff] at h
      exact ih h.2 hpage

/-! ## Queries -/

lemma readable_axis (a : AxisSyntax) : Readable a.reading.hasFunction a.reading.pages := by
  unfold AxisSyntax.reading
  dsimp only
  split <;>
    · rw [Part.hasFunction, Part.pages]
      exact .nil

lemma Separator.readable_stages (separator : Separator) :
    ∀ p ∈ separator.stages, Readable p.hasFunction p.pages := by
  cases separator with
  | child => exact List.forall_mem_nil _
  | descendant =>
    rw [Separator.stages, List.forall_mem_singleton, Part.hasFunction, Part.pages]
    exact .nil

lemma readable_stepScope (separator : Separator) (axis : Option AxisSyntax) :
    ∀ p ∈ stepScope separator axis, Readable p.hasFunction p.pages := by
  cases axis with
  | none =>
    cases separator with
    | child =>
      rw [stepScope, List.forall_mem_singleton, Part.hasFunction, Part.pages]
      exact .nil
    | descendant =>
      rw [stepScope, List.forall_mem_singleton, Part.hasFunction, Part.pages]
      exact .nil
  | some axis =>
    rw [stepScope, List.forall_mem_append, List.forall_mem_singleton]
    exact ⟨separator.readable_stages, readable_axis axis⟩

lemma NodeTest.readable_conditions (t : NodeTest) :
    ∀ c ∈ t.conditions, Readable c.hasFunction c.pages := by
  cases t with
  | any => exact List.forall_mem_nil _
  | controlType name =>
    rw [NodeTest.conditions, List.forall_mem_singleton, Condition.hasFunction, Condition.pages]
    exact .nil

lemma readable_queryOfElements {es : List Element}
    (h : ∀ e ∈ es, Readable e.hasFunction e.pages) :
    Readable (queryOfElements es).hasFunction (queryOfElements es).pages := by
  have hpath : ∀ p ∈ es.dropLast.map Part.composite, Readable p.hasFunction p.pages := by
    intro p hp
    obtain ⟨e, he, rfl⟩ := List.mem_map.mp hp
    rw [Part.hasFunction, Part.pages]
    exact h e ((List.dropLast_subset es he))
  have hlast : Readable (es.getLast?.getD {}).hasFunction (es.getLast?.getD {}).pages := by
    cases hes : es.getLast? with
    | none => exact .element .no_condition (.parts (List.forall_mem_nil _)) Page.isStable_whole
    | some e => exact h e (List.mem_of_getLast? hes)
  rw [queryOfElements, Query.hasFunction, Query.pages]
  exact (Readable.parts hpath).append hlast

mutual

theorem Expr.readable : ∀ e : Expr, heeded e.faults = [] →
    Readable e.reading.hasFunction e.reading.pages
  | .either left right, h => by
    rw [Expr.faults, heeded_append, List.append_eq_nil_iff] at h
    rw [Expr.reading, Condition.hasFunction, Condition.pages]
    exact (Expr.readable left h.1).append (Expr.readable right h.2)
  | .both left right, h => by
    rw [Expr.faults, heeded_append, List.append_eq_nil_iff] at h
    rw [Expr.reading, Condition.hasFunction, Condition.pages]
    exact (Expr.readable left h.1).append (Expr.readable right h.2)
  | .comparison property operator literal ignoreCase, _ => by
    rw [Expr.reading, comparisonReading, Condition.hasFunction, Condition.pages]
    exact .nil
  | .relative distance target, h => by
    rw [Expr.faults, heeded_append, List.append_eq_nil_iff] at h
    rw [Expr.reading, Condition.hasFunction, Condition.pages]
    exact Expr.readable_target target h.2
  | .subPath steps, h => by
    rw [Expr.faults] at h
    rw [Expr.reading, Condition.hasFunction, Condition.pages]
    exact readable_queryOfElements (Step.readable_all steps h)

theorem Expr.readable_target : ∀ target : Option Expr,
    heeded (Expr.targetFaults target) = [] →
      Readable (Condition.hasFunctionOption (Expr.targetReading target))
        (Condition.pagesOfOption (Expr.targetReading target))
  | none, _ => by
    rw [Expr.targetReading]
    exact .no_condition
  | some e, h => by
    rw [Expr.targetFaults] at h
    rw [Expr.targetReading, Condition.hasFunctionOption, Condition.pagesOfOption]
    exact Expr.readable e h

theorem Step.readable_all : ∀ ss : List Step, heeded (Step.allFaults ss) = [] →
    ∀ e ∈ Step.readings ss, Readable e.hasFunction e.pages
  | [], _ => by
    rw [Step.readings]
    exact List.forall_mem_nil _
  | s :: ss, h => by
    rw [Step.allFaults, heeded_append, List.append_eq_nil_iff] at h
    rw [Step.readings, List.forall_mem_cons]
    exact ⟨Step.readable s h.1, Step.readable_all ss h.2⟩

theorem Step.readable : ∀ s : Step, heeded s.faults = [] →
    Readable s.reading.hasFunction s.reading.pages
  | .self separator, _ => by
    rw [Step.reading]
    exact .element .no_condition (.parts separator.readable_stages) Page.isStable_whole
  | .parent separator, _ => by
    have hparent : Readable (Part.ancestors (some 1) false).hasFunction
        (Part.ancestors (some 1) false).pages := by
      rw [Part.hasFunction, Part.pages]
      exact .nil
    rw [Step.reading]
    apply Readable.element .no_condition (.parts _) Page.isStable_whole
    rw [List.forall_mem_append, List.forall_mem_singleton]
    exact ⟨separator.readable_stages, hparent⟩
  | .axis separator axis test predicates, h => by
    rw [Step.faults, heeded_append, List.append_eq_nil_iff] at h
    rw [Step.reading]
    apply Readable.element (.fold _) (.parts (readable_stepScope separator axis))
      (Predicate.isStable_page h.2 Page.isStable_whole)
    rw [List.forall_mem_append]
    exact ⟨test.readable_conditions, Predicate.readable_all predicates h.2⟩

theorem Predicate.readable_all {seen narrowed : Bool} : ∀ ps : List Predicate,
    heeded (Predicate.allFaults seen narrowed ps) = [] →
      ∀ c ∈ Predicate.readings ps, Readable c.hasFunction c.pages
  | [], _ => by
    rw [Predicate.readings]
    exact List.forall_mem_nil _
  | .condition e :: ps, h => by
    rw [Predicate.allFaults, heeded_append, List.append_eq_nil_iff] at h
    rw [Predicate.readings, List.forall_mem_cons]
    exact ⟨Expr.readable e h.1, Predicate.readable_all ps h.2⟩
  | .position whole number :: ps, h => by
    rw [Predicate.allFaults, heeded_append, List.append_eq_nil_iff] at h
    rw [Predicate.readings]
    exact Predicate.readable_all ps h.2
  | .slice whole bounds start stop :: ps, h => by
    rw [Predicate.allFaults, heeded_append, List.append_eq_nil_iff] at h
    rw [Predicate.readings]
    exact Predicate.readable_all ps h.2

end

/-- A query that is read has no function conditions, and its pages are stable. -/
theorem readable_of_parse {text : String} {q : Query} (h : parse text = .ok q) :
    Readable q.hasFunction q.pages := by
  obtain ⟨ss, hss⟩ := exists_derives_of_parse h
  rw [parse_of_derives hss] at h
  cases hfaults : heeded (Step.allFaults ss) with
  | nil =>
    rw [hfaults] at h
    rw [← Except.ok.inj h]
    exact readable_queryOfElements (Step.readable_all ss hfaults)
  | cons fault faults =>
    rw [hfaults] at h
    cases h

end CPath

end ControlQuery

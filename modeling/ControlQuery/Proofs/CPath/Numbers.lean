import ControlQuery.Proofs.CPath.Amounts
import ControlQuery.Proofs.CPath.Published
import ControlQuery.Proofs.Query.NormalResults
import ControlQuery.Proofs.Rendering.RoundTrip
import ControlQuery.Proofs.Search.Paging

/-!
# Numbers are exact or refused

A text with a number that is out of range is refused, and a query that is read has the very amounts
that its text writes. Numbers of canonical texts are always in range.
-/

namespace ControlQuery

namespace CPath

/-! ## Readings of leaves -/

lemma Literal.plain_reading {v : Literal} (h : NumbersFit v.faults) :
    v.reading.plain = v.plainText := by
  cases v with
  | string offset body => rfl
  | boolean offset value => rfl
  | number digits =>
    obtain ⟨hleast, hgreatest⟩ := (numbersFit_ite_iff rfl).mp h
    rw [Literal.reading, PropertyValue.plain, Int64.toInt_ofInt_of_le hleast hgreatest,
      Literal.plainText]

section Engine

variable [Regex.Engine]

lemma AxisSyntax.amounts_reading {a : AxisSyntax} (h : a.faults = []) :
    a.reading.amounts = a.amounts := by
  obtain ⟨name, depth⟩ := a
  have hdepth : (depth.map fun l => countOf l.text).map UInt64.toNat = depth.map Lexeme.value := by
    have hfits := (numbersFit_axisFaults ⟨name, depth⟩).mp (h ▸ numbersFit_nil)
    cases depth with
    | none => rfl
    | some l => exact congrArg some (Lexeme.toNat_countOf (hfits l rfl).1)
  have hdefault : ((depth.map fun l => countOf l.text).getD 1).toNat =
      (depth.map Lexeme.value).getD 1 := by
    rw [← hdepth]
    cases depth <;> rfl
  have hname : name.text ∈ axisNames := by
    by_contra hname
    rw [AxisSyntax.faults, if_neg hname] at h
    cases h
  simp only [axisNames, List.mem_cons, List.not_mem_nil, or_false] at hname
  unfold AxisSyntax.reading AxisSyntax.amounts
  dsimp only
  rcases hname with hname | hname | hname | hname | hname | hname | hname <;> rw [hname]
  all_goals simp [Part.amounts, hdepth, hdefault]

lemma amounts_comparisonReading {property : Lexeme} {operator : Operator} {literal : Literal}
    {ignoreCase : Bool} (h : comparisonFaults property operator literal = []) :
    (comparisonReading property operator literal ignoreCase).amounts =
      comparisonAmounts operator literal := by
  obtain ⟨hfront, hpattern⟩ := List.append_eq_nil_iff.mp h
  have hliteral : NumbersFit literal.faults :=
    (List.append_eq_nil_iff.mp hfront).2 ▸ numbersFit_nil
  have hplain := literal.plain_reading hliteral
  obtain ⟨negated, relation⟩ := operator
  rw [comparisonReading, Condition.amounts]
  unfold comparisonAmounts
  cases relation with
  | equals =>
    cases literal with
    | string offset body => rfl
    | boolean offset value => rfl
    | number digits =>
      obtain ⟨hleast, hgreatest⟩ := (numbersFit_ite_iff rfl).mp hliteral
      exact congrArg (fun n => [Amount.integer n]) (Int64.toInt_ofInt_of_le hleast hgreatest)
  | contains => exact congrArg (fun s => [Amount.text s]) hplain
  | «matches» =>
    cases hr : Regex.ofText? literal.reading.plain with
    | none =>
      rw [hr] at hpattern
      cases hpattern
    | some r =>
      exact congrArg (fun s => [Amount.text s]) ((Regex.source_of_ofText?_eq_some hr).trans hplain)

end Engine

lemma DistanceSyntax.amount_reading {d : DistanceSyntax} (h : countFaults d.whole d.digits = []) :
    d.reading.amount = d.amount := by
  have hsteps := toNat_countOf (numbersFit_countFaults.mp (h ▸ numbersFit_nil))
  obtain ⟨whole, direction, digits⟩ := d
  cases direction <;> exact congrArg (Amount.distance _) hsteps

lemma Page.amount_from (start : Count) (take : Option Count) :
    (Page.from start take).amount = .page (skipped start.toNat) (take.map UInt64.toNat) := by
  unfold Page.from Page.amount skipped
  by_cases h : start = 0
  · rw [if_pos h, h]
    rfl
  · have hzero : start.toNat ≠ 0 := fun hzero => h (UInt64.toNat_inj.mp hzero)
    rw [if_neg h, if_neg hzero]
    rfl

lemma amount_positionReading {number : Lexeme} (h : NumbersFit (positionFaults number)) :
    (positionReading number).amount = positionAmount number := by
  obtain ⟨hpos, hvalue⟩ := (numbersFit_positionFaults number).mp h
  have hcount := Lexeme.toNat_countOf hvalue
  have hle : 1 ≤ countOf number.text := by
    rw [UInt64.le_iff_toNat_le, hcount]
    exact hpos
  rw [positionReading, Page.amount_from, UInt64.toNat_sub_of_le _ _ hle, hcount]
  rfl

lemma amount_sliceReading {bounds : Lexeme} {start stop : Option Lexeme}
    (h : NumbersFit (sliceFaults bounds start stop)) :
    (sliceReading start stop).amount = sliceAmount start stop := by
  obtain ⟨hstart, hstop⟩ := (numbersFit_sliceFaults bounds start stop).mp h
  have hskip := toNat_sliceStart hstart
  rw [sliceReading, Page.amount_from, hskip, sliceAmount, Option.map_map]
  congr 1
  refine Option.map_congr fun l hl => ?_
  obtain ⟨hvalue, hordered⟩ := hstop l hl
  have hcount := Lexeme.toNat_countOf hvalue
  have hle : sliceStart start ≤ countOf l.text := by
    rw [UInt64.le_iff_toNat_le, hskip, hcount]
    exact hordered
  rw [Function.comp_apply, UInt64.toNat_sub_of_le _ _ hle, hcount, hskip]

/-! ## Readings of trees -/

lemma prescribed_heeded_append_cons {α : Type} {fs gs : List Fault} {f : Fault} {a : α}
    (h : f.overlooked = false) :
    prescribed (heeded (fs ++ f :: gs)) a = .error ((heeded fs).head?.getD f).error := by
  have hf : heeded (f :: gs) = f :: heeded gs := List.filter_cons_of_pos (by simp [h])
  rw [heeded_append, hf]
  cases heeded fs <;> rfl

section Engine

variable [Regex.Engine]

lemma Predicate.amount_page {ps : List Predicate} {seen narrowed : Bool} {page : Page}
    (h : NumbersFit (Predicate.allFaults seen narrowed ps)) :
    (Predicate.page page ps).amount = Predicate.pageAmount page.amount ps := by
  induction ps generalizing seen narrowed page with
  | nil => rfl
  | cons p ps ih =>
    cases p with
    | position whole number =>
      rw [Predicate.allFaults, numbersFit_append, numbersFit_append] at h
      rw [Predicate.page, Predicate.pageAmount, ← amount_positionReading h.1.1]
      exact ih h.2
    | slice whole bounds start stop =>
      rw [Predicate.allFaults, numbersFit_append, numbersFit_append] at h
      rw [Predicate.page, Predicate.pageAmount, ← amount_sliceReading h.1.1]
      exact ih h.2
    | condition e =>
      rw [Predicate.allFaults, numbersFit_append] at h
      exact ih h.2

lemma amounts_queryOfElements (es : List Element) :
    (queryOfElements es).amounts =
      (if es.isEmpty then [.page none none] else []) ++ es.flatMap Element.amounts := by
  rcases es.eq_nil_or_concat with rfl | ⟨es, e, rfl⟩
  · rfl
  · have hpath : (es.map Part.composite).flatMap Part.amounts = es.flatMap Element.amounts := by
      rw [List.flatMap_map]
      congr 1
    rw [List.concat_eq_append, queryOfElements_append_singleton, Query.amounts,
      Part.amountsOfList_eq, hpath]
    simp

lemma amounts_stepScope {separator : Separator} {axis : Option AxisSyntax}
    (h : (axis.map AxisSyntax.faults).getD [] = []) :
    Part.amountsOfList (stepScope separator axis) = scopeAmounts separator axis := by
  cases axis with
  | none => cases separator <;> rfl
  | some axis =>
    have haxis : axis.reading.amounts = axis.amounts := AxisSyntax.amounts_reading h
    cases separator with
    | child =>
      rw [stepScope, Part.amountsOfList_eq, scopeAmounts, ← haxis]
      exact List.append_nil _
    | descendant =>
      rw [stepScope, Part.amountsOfList_eq, scopeAmounts, ← haxis]
      exact congrArg (Amount.limit none :: ·) (List.append_nil _)

lemma NodeTest.amounts_conditions (t : NodeTest) :
    t.conditions.flatMap Condition.amounts = [] := by
  cases t <;> rfl

lemma Step.isEmpty_readings (ss : List Step) : (Step.readings ss).isEmpty = ss.isEmpty := by
  cases ss <;> rfl

mutual

/-- An expression without faults is read with its amounts. -/
theorem Expr.amounts_reading : ∀ e : Expr, heeded e.faults = [] → e.reading.amounts = e.amounts
  | .either left right, h => by
    rw [Expr.faults, heeded_append, List.append_eq_nil_iff] at h
    rw [Expr.reading, Condition.amounts, Expr.amounts, Expr.amounts_reading left h.1,
      Expr.amounts_reading right h.2]
  | .both left right, h => by
    rw [Expr.faults, heeded_append, List.append_eq_nil_iff] at h
    rw [Expr.reading, Condition.amounts, Expr.amounts, Expr.amounts_reading left h.1,
      Expr.amounts_reading right h.2]
  | .comparison property operator literal ignoreCase, h => by
    rw [Expr.faults, heeded_comparisonFaults] at h
    rw [Expr.reading, Expr.amounts]
    exact amounts_comparisonReading h
  | .relative distance target, h => by
    rw [Expr.faults, heeded_append, heeded_countFaults, List.append_eq_nil_iff] at h
    rw [Expr.reading, Condition.amounts, Expr.amounts, DistanceSyntax.amount_reading h.1,
      Expr.amounts_targetReading target h.2]
  | .subPath steps, h => by
    rw [Expr.faults] at h
    rw [Expr.reading, Condition.amounts, amounts_queryOfElements, Expr.amounts,
      Step.isEmpty_readings, Step.amounts_readings steps h]

theorem Expr.amounts_targetReading : ∀ target : Option Expr,
    heeded (Expr.targetFaults target) = [] →
      Condition.amountsOfOption (Expr.targetReading target) = Expr.targetAmounts target
  | none, _ => by rw [Expr.targetReading, Condition.amountsOfOption, Expr.targetAmounts]
  | some e, h => by
    rw [Expr.targetFaults] at h
    rw [Expr.targetReading, Condition.amountsOfOption, Expr.targetAmounts, Expr.amounts_reading e h]

theorem Step.amounts_readings : ∀ ss : List Step, heeded (Step.allFaults ss) = [] →
    (Step.readings ss).flatMap Element.amounts = Step.allAmounts ss
  | [], _ => by rw [Step.readings, List.flatMap_nil, Step.allAmounts]
  | s :: ss, h => by
    rw [Step.allFaults, heeded_append, List.append_eq_nil_iff] at h
    rw [Step.readings, List.flatMap_cons, Step.allAmounts, Step.amounts_reading s h.1,
      Step.amounts_readings ss h.2]

theorem Step.amounts_reading : ∀ s : Step, heeded s.faults = [] → s.reading.amounts = s.amounts
  | .self separator, _ => by cases separator <;> rfl
  | .parent separator, _ => by cases separator <;> rfl
  | .axis separator axis test predicates, h => by
    rw [Step.faults, heeded_append, List.append_eq_nil_iff] at h
    have haxis : (axis.map AxisSyntax.faults).getD [] = [] := by
      cases axis with
      | none => rfl
      | some a => exact (heeded_axisFaults a).symm.trans h.1
    have hpage : (Predicate.page ⟨none, none⟩ predicates).amount =
        Predicate.pageAmount (.page none none) predicates :=
      Predicate.amount_page (numbersFit_of_heeded_eq_nil h.2)
    rw [Step.reading, Element.amounts, amounts_stepScope haxis, Condition.amountsOfOption_fold,
      List.flatMap_append, test.amounts_conditions, List.nil_append,
      Predicate.amounts_readings predicates h.2, Step.amounts, hpage]

theorem Predicate.amounts_readings {seen narrowed : Bool} : ∀ ps : List Predicate,
    heeded (Predicate.allFaults seen narrowed ps) = [] →
      (Predicate.readings ps).flatMap Condition.amounts = Predicate.allAmounts ps
  | [], _ => by rw [Predicate.readings, List.flatMap_nil, Predicate.allAmounts]
  | .condition e :: ps, h => by
    rw [Predicate.allFaults, heeded_append, List.append_eq_nil_iff] at h
    rw [Predicate.readings, List.flatMap_cons, Predicate.allAmounts, Expr.amounts_reading e h.1,
      Predicate.amounts_readings ps h.2]
  | .position _ _ :: ps, h => by
    rw [Predicate.allFaults, heeded_append, List.append_eq_nil_iff] at h
    rw [Predicate.readings, Predicate.allAmounts]
    exact Predicate.amounts_readings ps h.2
  | .slice _ _ _ _ :: ps, h => by
    rw [Predicate.allFaults, heeded_append, List.append_eq_nil_iff] at h
    rw [Predicate.readings, Predicate.allAmounts]
    exact Predicate.amounts_readings ps h.2

end

/-! ## Faults of numbers -/

lemma exists_of_not_fits {l : Leaf} (h : ¬l.Fits) : ∃ front number fault back,
    l.faults = front ++ .invalidNumber number fault :: back ∧ NumbersFit front := by
  rw [Leaf.fits_iff] at h
  cases hfind : l.faults.find? Fault.numeric with
  | none => exact absurd (fun f hf => by simpa using List.find?_eq_none.mp hfind f hf) h
  | some f =>
    obtain ⟨hf, front, back, hfaults, hfront⟩ := List.find?_eq_some_iff_append.mp hfind
    cases f with
    | invalidNumber number fault =>
      exact ⟨front, number, fault, back, hfaults, fun g hg => by simpa using hfront g hg⟩
    | unknownProperty name => cases hf
    | unknownAxis name => cases hf
    | invalidRegex offset pattern => cases hf
    | duplicatePosition predicate overlooked => cases hf

lemma numbersFit_allFaults_iff {ss : List Step} :
    NumbersFit (Step.allFaults ss) ↔ ∀ l ∈ Step.allLeaves ss, l.Fits := by
  simp only [NumbersFit, Step.allFaults_eq, List.mem_flatMap, Leaf.fits_iff, forall_exists_index,
    and_imp]
  exact ⟨fun h l hl f hf => h f l hl hf, fun h f l hl hf => h l hl f hf⟩

/-! ## Pages -/

/-- A page gives the items at the indices that it is between. -/
lemma drain_pursue_eq_between {e : Element} {start : Nat} {stop : Option Nat}
    (h : (elementPage e).amount = .page (skipped start) (stop.map (· - start))) {ν : Type}
    [DecidableEq ν] (P : Provider ν) (s : Setting) (contexts : Search ν) :
    ((e.pursue s contexts).drain P).1 = Search.between start stop
      (((withElementPage e ⟨none, none⟩).pursue s contexts).drain P).1 := by
  obtain ⟨hskip, htake⟩ := Amount.page.inj h
  have hstart : (e.skip.map UInt64.toNat).getD 0 = start := by
    rw [show e.skip.map UInt64.toNat = skipped start from hskip, skipped]
    split_ifs with hzero
    · exact hzero.symm
    · rfl
  rw [Element.drain_pursue, hstart, show e.take.map UInt64.toNat = _ from htake,
    Search.pageOf_eq_between]
  rfl

lemma fits_pageText (skip take : Option Count) :
    Writes PredicatesText (fun ps => (∀ l ∈ Predicate.allLeaves false false ps, l.Fits) ∧
      Predicate.page ⟨none, none⟩ ps = normalPage skip take) (pageText skip take) := by
  intro i j h hj
  obtain ⟨ps, hps, hmean⟩ := writes_pageText skip take h hj
  refine ⟨ps, hps, fun l hl => l.fits_iff.mpr fun f hf => ?_, hmean.page⟩
  have hmem : f ∈ (Predicate.allLeaves false false ps).flatMap Leaf.faults :=
    List.mem_flatMap.mpr ⟨l, hl, hf⟩
  rw [← Predicate.allFaults_eq, hmean.faults] at hmem
  exact absurd hmem List.not_mem_nil

/-! ## Texts -/

/-- The numbers of a text that has this tree are exact or refused. -/
structure ExactOrRefused (text : String) (ss : List Step) : Prop where
  /-- Numbers are rows of at least one digit, of any length. -/
  written : ∀ l ∈ Step.allLeaves ss, ∀ cs ∈ l.digits, IsRun Char.isDigit Char.isDigit cs
  /-- Only faults of other kinds speak against a text whose numbers all fit. -/
  accepted : (∃ q, parse text = .ok q) ↔
    (∀ l ∈ Step.allLeaves ss, l.Fits) ∧ ∀ f ∈ heeded (Step.allFaults ss), f.numeric = true
  exact : ∀ q, parse text = .ok q → q.amounts = Step.allAmounts ss
  /-- The first number of a leaf that does not fit is the error, or else a fault in front of it. -/
  refused : ∀ front l back, Step.allLeaves ss = front ++ l :: back → ¬l.Fits →
    ∃ earlier number fault later, l.faults = earlier ++ .invalidNumber number fault :: later ∧
      NumbersFit earlier ∧
      parse text = .error ((heeded (front.flatMap Leaf.faults ++ earlier)).head?.getD
        (.invalidNumber number fault)).error
  /-- No number that fits is refused. -/
  caused : ∀ number fault, parse text = .error (.invalidNumber number fault) →
    ∃ l ∈ Step.allLeaves ss, ¬l.Fits ∧ .invalidNumber number fault ∈ l.faults

end Engine

section Parse

lemma exists_prescribed_eq_ok_iff {α : Type} {fs : List Fault} {a : α} :
    (∃ b, prescribed fs a = .ok b) ↔ fs = [] := by
  cases fs with
  | nil => exact iff_of_true ⟨a, rfl⟩ rfl
  | cons f fs => exact iff_of_false (fun ⟨b, hb⟩ => nomatch hb) (List.cons_ne_nil _ _)

variable [Regex.Engine] {text : String} {ss : List Step}

lemma amounts_query (hne : ss ≠ []) (h : heeded (Step.allFaults ss) = []) :
    (Step.query ss).amounts = Step.allAmounts ss := by
  rw [Step.query, amounts_queryOfElements, Step.isEmpty_readings, List.isEmpty_eq_false_iff.mpr hne,
    Step.amounts_readings ss h]
  rfl

theorem Derives.exactOrRefused (h : Derives text ss) : ExactOrRefused text ss where
  written := by
    intro l hl cs hcs
    obtain ⟨j, hleaves⟩ := h.leaves
    exact hleaves.digits_run hl hcs
  accepted := by
    rw [parse_of_derives h, exists_prescribed_eq_ok_iff, ← numbersFit_allFaults_iff]
    constructor
    · intro hnil
      rw [hnil]
      exact ⟨numbersFit_of_heeded_eq_nil hnil, List.forall_mem_nil _⟩
    · rintro ⟨hfit, hother⟩
      rw [List.eq_nil_iff_forall_not_mem]
      intro f hf
      have hnumeric := hfit f (mem_heeded.mp hf).1
      exact Bool.false_ne_true (hnumeric.symm.trans (hother f hf))
  exact := by
    intro q hq
    rw [parse_of_derives h] at hq
    have hnil := exists_prescribed_eq_ok_iff.mp ⟨q, hq⟩
    rw [hnil] at hq
    rw [← Except.ok.inj hq]
    exact amounts_query h.ne_nil hnil
  refused := by
    intro front l back hleaves hl
    obtain ⟨earlier, number, fault, later, hfaults, hearlier⟩ := exists_of_not_fits hl
    refine ⟨earlier, number, fault, later, hfaults, hearlier, ?_⟩
    have hall : Step.allFaults ss = (front.flatMap Leaf.faults ++ earlier) ++
        .invalidNumber number fault :: (later ++ back.flatMap Leaf.faults) := by
      rw [Step.allFaults_eq, hleaves, List.flatMap_append, List.flatMap_cons, hfaults]
      simp
    rw [parse_of_derives h, hall, prescribed_heeded_append_cons rfl]
  caused := by
    intro number fault herror
    obtain ⟨l, hl, f, hf, hfe⟩ := exists_mem_faults_of_parse_error h herror
    obtain rfl : f = .invalidNumber number fault := by
      cases f <;> cases hfe
      rfl
    refine ⟨l, hl, fun hfits => ?_, hf⟩
    exact Bool.true_eq_false.mp (l.fits_iff.mp hfits _ hf)

/-- Numbers in texts are exact or refused, however long they are and wherever they stand. A page
gives the items at its indices. The text of a page has no number that is out of range: it stops at
the greatest count, which leaves the items of no list out. -/
theorem exact_or_refused (h : Derives text ss) :
    ExactOrRefused text ss ∧
    (∀ (e : Element) (start : Nat) (stop : Option Nat),
      (elementPage e).amount = .page (skipped start) (stop.map (· - start)) →
        ∀ {ν : Type} [DecidableEq ν] (P : Provider ν) (s : Setting) (contexts : Search ν),
          ((e.pursue s contexts).drain P).1 = Search.between start stop
            (((withElementPage e ⟨none, none⟩).pursue s contexts).drain P).1) ∧
    ∀ skip take : Option Count,
      Writes PredicatesText (fun ps => (∀ l ∈ Predicate.allLeaves false false ps, l.Fits) ∧
        Predicate.page ⟨none, none⟩ ps = normalPage skip take) (pageText skip take) ∧
      ∀ {α : Type} (xs : List α), xs.length < 2 ^ 64 - 1 →
        Search.pageOf (((normalPage skip take).skip.map UInt64.toNat).getD 0)
            ((normalPage skip take).take.map UInt64.toNat) xs =
          Search.pageOf ((skip.map UInt64.toNat).getD 0) (take.map UInt64.toNat) xs :=
  ⟨h.exactOrRefused, fun _ _ _ hpage _ _ => drain_pursue_eq_between hpage, fun skip take =>
    ⟨fits_pageText skip take, fun _ hlength => Search.pageOf_normalPage skip take hlength⟩⟩

end Parse

/-- The ends of some ranges, with zeros in front of them, and the position behind the last one. -/
theorem exact_or_refused_greatest :
    (∃ ss q, Derives "/ancestor{07}::*[@Name=-9223372036854775808][018446744073709551615]" ss ∧
      parse "/ancestor{07}::*[@Name=-9223372036854775808][018446744073709551615]" = .ok q ∧
      q.amounts = [.limit (some 7), .integer (-9223372036854775808),
        .page (some 18446744073709551614) (some 1)]) ∧
    parse "//*[18446744073709551616]" =
      .error (.invalidNumber ⟨4, "18446744073709551616"⟩ .outOfRange) := by
  constructor
  · have hcheck : (match steps
          "/ancestor{07}::*[@Name=-9223372036854775808][018446744073709551615]" with
        | .ok ss => (heeded (Step.allFaults ss)).isEmpty &&
          Step.allAmounts ss = [.limit (some 7), .integer (-9223372036854775808),
            .page (some 18446744073709551614) (some 1)]
        | .error _ => false) = true := by
      decide +kernel
    cases hs : steps "/ancestor{07}::*[@Name=-9223372036854775808][018446744073709551615]" with
    | error e =>
      rw [hs] at hcheck
      cases hcheck
    | ok ss =>
      rw [hs] at hcheck
      simp only [Bool.and_eq_true, List.isEmpty_iff, decide_eq_true_eq] at hcheck
      have h := derives_of_steps hs
      have hparse := parse_of_derives h
      rw [hcheck.1] at hparse
      exact ⟨ss, _, h, hparse, ((exact_or_refused h).1.exact _ hparse).trans hcheck.2⟩
  · have hcheck : (match steps "//*[18446744073709551616]" with
        | .ok ss => Step.allLeaves ss
        | .error _ => []) =
        [.position ⟨3, "[18446744073709551616]"⟩ ⟨4, "18446744073709551616"⟩ false false] := by
      decide +kernel
    cases hs : steps "//*[18446744073709551616]" with
    | error e =>
      rw [hs] at hcheck
      cases hcheck
    | ok ss =>
      rw [hs] at hcheck
      have hfits : ¬(Leaf.position ⟨3, "[18446744073709551616]"⟩
          ⟨4, "18446744073709551616"⟩ false false).Fits := fun hfits =>
        absurd hfits.2 (by decide +kernel)
      obtain ⟨earlier, number, fault, later, hfaults, hearlier, hparse⟩ :=
        (exact_or_refused (derives_of_steps hs)).1.refused [] _ [] hcheck hfits
      cases earlier with
      | nil =>
        obtain ⟨rfl, rfl⟩ := Fault.invalidNumber.inj (List.cons.inj hfaults).1
        exact hparse
      | cons f earlier =>
        have hnumeric := hearlier f List.mem_cons_self
        rw [← (List.cons.inj hfaults).1] at hnumeric
        cases hnumeric

end CPath

end ControlQuery

import ControlQuery.Proofs.CPath.Lookahead
import ControlQuery.Proofs.CPath.Rows

/-!
# Positions that clash

A step has room for one position. Of several positions in its row those are refused that stand
behind one that leaves anything out, and no others: a slice like `[:]` or `[0:]` leaves nothing out,
and what stands behind it is taken for the first position. Of all the positions of a text that are
refused, the leftmost one is reported.
-/

namespace ControlQuery.CPath

/-! ## The positions of a row -/

/-- The positions of a row: the piece of the text that each of them is, and its page. -/
def Predicate.positions : List Predicate → List (Lexeme × Page)
  | [] => []
  | .condition _ :: more => Predicate.positions more
  | .position whole number :: more => (whole, positionReading number) :: Predicate.positions more
  | .slice whole _ start stop :: more =>
    (whole, sliceReading start stop) :: Predicate.positions more

/-- The positions of a row behind the first one that leaves anything out. -/
def Predicate.clashes (ps : List Predicate) : List Lexeme :=
  ((Predicate.positions ps).dropWhile fun p => !p.2.narrows).tail.map Prod.fst

/-- The only pages that leave nothing out are those of slices from the first item on without an
end. -/
lemma narrows_sliceReading_eq_false_iff (start stop : Option Lexeme) :
    (sliceReading start stop).narrows = false ↔ stop = none ∧ sliceStart start = 0 := by
  unfold sliceReading Page.from Page.narrows
  cases stop <;> by_cases h : sliceStart start = 0 <;> simp [h]

namespace Predicate

variable {ps more : List Predicate} {w whole : Lexeme} {page : Page} {p : Lexeme × Page}
  {rest : List (Lexeme × Page)} {narrowed seen : Bool}

lemma positions_cons (p : Predicate) (ps : List Predicate) :
    positions (p :: ps) = positions [p] ++ positions ps := by
  cases p <;> rfl

/-- Behind a first position that leaves anything out, all others are refused. -/
lemma clashes_of_narrows (h : positions ps = p :: rest) (hp : p.2.narrows = true) :
    clashes ps = rest.map Prod.fst := by
  unfold clashes
  rw [h, List.dropWhile_cons_of_neg (by simp [hp])]
  rfl

/-- No position is refused if no position but the last one leaves anything out. -/
lemma clashes_eq_nil_iff :
    clashes ps = [] ↔ ∀ p ∈ (positions ps).dropLast, p.2.narrows = false := by
  unfold clashes
  rw [List.map_eq_nil_iff]
  induction positions ps with
  | nil => simp
  | cons p rest ih =>
    cases hp : p.2.narrows with
    | true =>
      rw [List.dropWhile_cons_of_neg (by simp [hp]), List.tail_cons]
      cases rest with
      | nil => simp
      | cons q rest => simp [hp]
    | false =>
      rw [List.dropWhile_cons_of_pos (by simp [hp]), ih]
      cases rest with
      | nil => simp
      | cons q rest => simp [hp]

lemma exists_slice (hp : p ∈ positions ps) (h : p.2.narrows = false) :
    ∃ bounds start, .slice p.1 bounds start none ∈ ps ∧ sliceStart start = 0 := by
  induction ps with
  | nil => cases hp
  | cons q more ih =>
    have hmore : p ∈ positions more → ∃ bounds start, .slice p.1 bounds start none ∈ q :: more ∧
        sliceStart start = 0 := by
      intro hp
      obtain ⟨bounds, start, hmem, hstart⟩ := ih hp
      exact ⟨bounds, start, List.mem_cons_of_mem q hmem, hstart⟩
    cases q with
    | condition expr => exact hmore hp
    | position whole number =>
      rcases List.mem_cons.mp hp with rfl | hp
      · rw [narrows_positionReading] at h
        cases h
      · exact hmore hp
    | slice whole bounds start stop =>
      rcases List.mem_cons.mp hp with rfl | hp
      · obtain ⟨rfl, hstart⟩ := (narrows_sliceReading_eq_false_iff start stop).mp h
        exact ⟨bounds, start, List.mem_cons_self, hstart⟩
      · exact hmore hp

/-! ## Refused positions as faults -/

/-- The positions that are refused behind other predicates: all of them if there is a position among
those that leaves anything out. -/
def clashesBehind (narrowed : Bool) (ps : List Predicate) : List Lexeme :=
  if narrowed then (positions ps).map Prod.fst else clashes ps

lemma mem_clashesBehind (h : positions ps = (whole, page) :: positions more) :
    w ∈ clashesBehind narrowed ps ↔
      (narrowed = true ∧ w = whole) ∨ w ∈ clashesBehind (narrowed || page.narrows) more := by
  unfold clashesBehind
  cases narrowed with
  | true => simp [h]
  | false =>
    cases hp : page.narrows with
    | true => simp [clashes_of_narrows h hp]
    | false => simp [clashes, h, List.dropWhile_cons_of_pos, hp]

lemma mem_repeatedFaults_iff (hseen : narrowed = true → seen = true) :
    .duplicatePosition w false ∈ repeatedFaults whole seen narrowed ↔
      narrowed = true ∧ w = whole := by
  unfold repeatedFaults
  cases narrowed with
  | true => simp [hseen rfl]
  | false => cases seen <;> simp

end Predicate

section Leaves

variable {w : Lexeme}

lemma not_mem_countFaults (place : Lexeme) (digits : String) :
    .duplicatePosition w false ∉ countFaults place digits :=
  fun h => Bool.noConfusion (repeats_countFaults _ h)

lemma not_mem_axisFaults (axis : Option AxisSyntax) :
    .duplicatePosition w false ∉ (axis.map AxisSyntax.faults).getD [] := by
  intro h
  cases axis with
  | none => cases h
  | some axis =>
    obtain ⟨name, depth⟩ := axis
    rcases List.mem_append.mp h with h | h
    · split at h <;> simp at h
    · cases depth with
      | none => cases h
      | some depth =>
        rcases List.mem_append.mp h with h | h
        · exact not_mem_countFaults _ _ h
        · split at h <;> simp at h

lemma not_mem_comparisonFaults [Regex.Engine] (property : Lexeme) (operator : Operator)
    (literal : Literal) :
    .duplicatePosition w false ∉ comparisonFaults property operator literal := by
  intro h
  unfold comparisonFaults at h
  simp only [List.mem_append] at h
  rcases h with (h | h) | h
  · split at h <;> simp at h
  · cases literal with
    | string offset body => cases h
    | boolean offset value => cases h
    | number digits =>
      unfold Literal.faults at h
      split at h <;> simp at h
  · split at h <;> simp at h

lemma not_mem_positionFaults (number : Lexeme) :
    .duplicatePosition w false ∉ positionFaults number := by
  intro h
  rcases List.mem_append.mp h with h | h
  · exact not_mem_countFaults _ _ h
  · split at h <;> simp at h

lemma not_mem_sliceFaults (bounds : Lexeme) (start stop : Option Lexeme) :
    .duplicatePosition w false ∉ sliceFaults bounds start stop := by
  intro h
  rcases List.mem_append.mp h with h | h
  · cases start with
    | none => cases h
    | some start => exact not_mem_countFaults _ _ h
  · cases stop with
    | none => cases h
    | some stop =>
      rcases List.mem_append.mp h with h | h
      · exact not_mem_countFaults _ _ h
      · split at h <;> simp at h

end Leaves

section Trees

variable {w : Lexeme}

/-- Somewhere in the first rows or in the others. -/
lemma exists_mem_append {α : Type} {P : α → Prop} {as bs : List α} :
    (∃ a ∈ as ++ bs, P a) ↔ (∃ a ∈ as, P a) ∨ ∃ b ∈ bs, P b := by
  simp only [List.mem_append, or_and_right, exists_or]

variable [Regex.Engine]

mutual

theorem Expr.mem_faults_iff : (e : Expr) →
    (.duplicatePosition w false ∈ e.faults ↔ ∃ row ∈ e.rows, w ∈ Predicate.clashes row)
  | .either left right => by
    rw [Expr.faults, Expr.rows, List.mem_append, exists_mem_append, left.mem_faults_iff,
      right.mem_faults_iff]
  | .both left right => by
    rw [Expr.faults, Expr.rows, List.mem_append, exists_mem_append, left.mem_faults_iff,
      right.mem_faults_iff]
  | .comparison property operator literal ignoreCase =>
    iff_of_false (not_mem_comparisonFaults property operator literal) (by simp [Expr.rows])
  | .relative distance target => by
    rw [Expr.faults, Expr.rows, List.mem_append, or_iff_right (not_mem_countFaults _ _),
      Expr.mem_targetFaults_iff]
  | .subPath steps => by
    rw [Expr.faults, Expr.rows, Step.mem_allFaults_iff]

theorem Expr.mem_targetFaults_iff : (t : Option Expr) →
    (.duplicatePosition w false ∈ Expr.targetFaults t ↔
      ∃ row ∈ Expr.targetRows t, w ∈ Predicate.clashes row)
  | none => by simp [Expr.targetFaults, Expr.targetRows]
  | some expr => by rw [Expr.targetFaults, Expr.targetRows, expr.mem_faults_iff]

theorem Step.mem_allFaults_iff : (ss : List Step) →
    (.duplicatePosition w false ∈ Step.allFaults ss ↔
      ∃ row ∈ Step.allRows ss, w ∈ Predicate.clashes row)
  | [] => by simp [Step.allFaults, Step.allRows]
  | step :: steps => by
    rw [Step.allFaults, Step.allRows, List.mem_append, exists_mem_append, step.mem_faults_iff,
      Step.mem_allFaults_iff]

theorem Step.mem_faults_iff : (s : Step) →
    (.duplicatePosition w false ∈ s.faults ↔ ∃ row ∈ s.rows, w ∈ Predicate.clashes row)
  | .self _ => by simp [Step.faults, Step.rows]
  | .parent _ => by simp [Step.faults, Step.rows]
  | .axis _ axis _ predicates => by
    rw [Step.faults, Step.rows, List.mem_append, or_iff_right (not_mem_axisFaults axis),
      Predicate.mem_allFaults_iff predicates id]
    simp [Predicate.clashesBehind]

theorem Predicate.mem_allFaults_iff {seen narrowed : Bool} : (ps : List Predicate) →
    (narrowed = true → seen = true) →
    (.duplicatePosition w false ∈ Predicate.allFaults seen narrowed ps ↔
      w ∈ Predicate.clashesBehind narrowed ps ∨
        ∃ row ∈ Predicate.innerRows ps, w ∈ Predicate.clashes row)
  | [], _ => by
    cases narrowed <;> simp [Predicate.allFaults, Predicate.clashesBehind, Predicate.clashes,
      Predicate.positions, Predicate.innerRows]
  | .condition expr :: more, hseen => by
    rw [Predicate.allFaults, Predicate.innerRows, List.mem_append, exists_mem_append,
      expr.mem_faults_iff, Predicate.mem_allFaults_iff more hseen]
    exact or_left_comm
  | .position whole number :: more, hseen => by
    have hpositions : Predicate.positions (.position whole number :: more) =
      (whole, positionReading number) :: Predicate.positions more := rfl
    rw [Predicate.allFaults, Predicate.innerRows, List.mem_append, List.mem_append,
      or_iff_right (not_mem_positionFaults number), Predicate.mem_repeatedFaults_iff hseen,
      Predicate.mem_allFaults_iff more id, Predicate.mem_clashesBehind hpositions,
      narrows_positionReading, Bool.or_true, or_assoc]
  | .slice whole bounds start stop :: more, hseen => by
    have hpositions : Predicate.positions (.slice whole bounds start stop :: more) =
      (whole, sliceReading start stop) :: Predicate.positions more := rfl
    rw [Predicate.allFaults, Predicate.innerRows, List.mem_append, List.mem_append,
      or_iff_right (not_mem_sliceFaults bounds start stop), Predicate.mem_repeatedFaults_iff hseen,
      Predicate.mem_allFaults_iff more fun _ => rfl, Predicate.mem_clashesBehind hpositions,
      or_assoc]

end

end Trees

/-! ## Where positions stand -/

lemma PredicateText.spans_position {i j : Input} {p : Predicate} (h : PredicateText i p j) :
    ∀ q ∈ Predicate.positions [p], Spans i q.1 j := by
  intro q hq
  cases h with
  | position opening gap number gap' closing whole =>
    rw [List.mem_singleton.mp hq]
    exact whole
  | slice opening gap start colon gap' stop bounds gap'' closing whole =>
    rw [List.mem_singleton.mp hq]
    exact whole
  | openSlice opening gap start colon gap' bounds closing whole =>
    rw [List.mem_singleton.mp hq]
    exact whole
  | condition opening gap expr gap' closing => cases hq

lemma PredicateText.head?_of_spans {i j : Input} {p : Predicate} {w : Lexeme}
    (h : PredicateText i p j) (hw : Spans i w j) : w.text.toList.head? = some '[' := by
  obtain ⟨k, opening, cs, inside⟩ := h.reaches_inside
  rw [← hw.piece.take_eq, (Piece.append opening inside).take_eq]
  rfl

/-- Each position of a row stands somewhere in the text of the row, the first one first. -/
theorem PredicatesText.positions_in_place {i j : Input} {ps : List Predicate}
    (h : PredicatesText i ps j) :
    (∀ p ∈ Predicate.positions ps, ∃ k l, Reaches i k ∧ Spans k p.1 l ∧
      p.1.text.toList.head? = some '[') ∧
      (Predicate.positions ps).Pairwise fun p q => p.1.offset < q.1.offset := by
  induction ps generalizing i with
  | nil => exact ⟨fun p hp => absurd hp List.not_mem_nil, .nil⟩
  | cons p ps ih =>
    obtain - | ⟨gap, predicate, more⟩ := h
    obtain ⟨hmore, horder⟩ := ih more
    have hspans := predicate.spans_position
    rw [Predicate.positions_cons]
    refine ⟨fun q hq => ?_, List.pairwise_append.mpr ⟨?_, horder, fun q hq r hr => ?_⟩⟩
    · rcases List.mem_append.mp hq with hq | hq
      · exact ⟨_, _, gap.reaches, hspans q hq, predicate.head?_of_spans (hspans q hq)⟩
      · obtain ⟨k, l, hk, hrest⟩ := hmore q hq
        exact ⟨k, l, (gap.reaches.trans predicate.reaches).trans hk, hrest⟩
    · cases p with
      | condition expr => exact .nil
      | position whole number => exact List.pairwise_singleton _ _
      | slice whole bounds start stop => exact List.pairwise_singleton _ _
    · obtain ⟨k, l, hk, hr, -⟩ := hmore r hr
      obtain ⟨_, opening, inside⟩ := predicate.reaches_inside
      have hlt := Piece.offset_lt opening (by decide)
      have hle := (inside.trans hk).offset_le
      rw [(hspans q hq).offset, hr.offset]
      omega

section Texts

variable {text : String} {ss : List Step} {ps : List Predicate}

lemma Fault.eq_duplicatePosition {f : Fault} (hr : f.repeats = true) (ho : f.overlooked = false) :
    ∃ w, f = .duplicatePosition w false := by
  cases f with
  | duplicatePosition predicate overlooked => exact ⟨predicate, congrArg _ ho⟩
  | unknownProperty name => cases hr
  | unknownAxis name => cases hr
  | invalidNumber number fault => cases hr
  | invalidRegex offset pattern => cases hr

variable [Regex.Engine]

lemma Derives.position_in_place (h : Derives text ss) (hps : ps ∈ Step.allRows ss)
    {p : Lexeme × Page} (hp : p ∈ Predicate.positions ps) :
    ∃ u v, text = String.ofList (u ++ (p.1.text.toList ++ v)) ∧ p.1.offset = bytes u ∧
      p.1.text.toList.head? = some '[' := by
  obtain ⟨u, row, v, htext, hrow, -⟩ := h.exists_row hps
  obtain ⟨k, l, ⟨cs, hcs⟩, hspans, hhead⟩ := hrow.positions_in_place.1 p hp
  obtain ⟨hk, hrest⟩ := hcs.eq_behind
  refine ⟨u ++ cs, l.rest, ?_, ?_, hhead⟩
  · rw [htext, hrest, hspans.piece.rest, List.append_assoc]
  · rw [hspans.offset, hk]
    rfl

/-- The first position of a row that is refused stands in front of the others. -/
lemma Derives.head_le_of_mem_clashes (h : Derives text ss) (hps : ps ∈ Step.allRows ss)
    {w v : Lexeme} (hw : (Predicate.clashes ps).head? = some w) (hv : v ∈ Predicate.clashes ps) :
    w = v ∨ w.offset < v.offset := by
  obtain ⟨u, row, r, -, hrow, -⟩ := h.exists_row hps
  have horder : (Predicate.clashes ps).Pairwise fun w v => w.offset < v.offset := by
    refine List.pairwise_map.mpr (hrow.positions_in_place.2.sublist ?_)
    exact (List.tail_sublist _).trans (List.dropWhile_sublist _)
  cases hclashes : Predicate.clashes ps with
  | nil =>
    rw [hclashes] at hv
    cases hv
  | cons c cs =>
    rw [hclashes] at hw hv horder
    obtain rfl : c = w := Option.some.inj hw
    rcases List.mem_cons.mp hv with rfl | hv
    · exact .inl rfl
    · exact .inr (List.rel_of_pairwise_cons horder hv)

lemma Step.mem_heeded_iff {w : Lexeme} :
    .duplicatePosition w false ∈ heeded (Step.allFaults ss) ↔
      ∃ row ∈ Step.allRows ss, w ∈ Predicate.clashes row := by
  rw [mem_heeded, ← Step.mem_allFaults_iff]
  exact and_iff_left rfl

/-- What is wrong with a text besides positions that leave nothing out. -/
lemma Step.heeded_eq_nil_iff (ss : List Step) :
    heeded (Step.allFaults ss) = [] ↔ (∀ f ∈ Step.allFaults ss, f.repeats = true) ∧
      ∀ row ∈ Step.allRows ss, Predicate.clashes row = [] := by
  constructor
  · intro hnil
    refine ⟨fun f hf => ?_, fun row hrow => List.eq_nil_iff_forall_not_mem.mpr fun w hw => ?_⟩
    · cases ho : f.overlooked with
      | true => exact Fault.repeats_of_overlooked ho
      | false =>
        have hmem := mem_heeded.mpr ⟨hf, ho⟩
        rw [hnil] at hmem
        cases hmem
    · have hmem := Step.mem_heeded_iff.mpr ⟨row, hrow, hw⟩
      rw [hnil] at hmem
      cases hmem
  · rintro ⟨hrepeats, hclashes⟩
    refine List.eq_nil_iff_forall_not_mem.mpr fun f hf => ?_
    obtain ⟨w, rfl⟩ := Fault.eq_duplicatePosition (hrepeats f (mem_heeded.mp hf).1)
      (mem_heeded.mp hf).2
    obtain ⟨row, hrow, hw⟩ := Step.mem_heeded_iff.mp hf
    rw [hclashes row hrow] at hw
    cases hw

/-- The leftmost of all positions that are refused is reported, if nothing else is wrong. -/
lemma Derives.parse_eq_leftmost (h : Derives text ss)
    (hrepeats : ∀ f ∈ Step.allFaults ss, f.repeats = true)
    (hclash : ∃ row ∈ Step.allRows ss, Predicate.clashes row ≠ []) :
    ∃ row ∈ Step.allRows ss, ∃ w, (Predicate.clashes row).head? = some w ∧
      parse text = .error (.duplicatePosition w) ∧
      ∀ row' ∈ Step.allRows ss, ∀ v ∈ Predicate.clashes row', w = v ∨ w.offset < v.offset := by
  obtain ⟨i, j, hplaced⟩ := h.placed
  have horder := hplaced.order.sublist (List.filter_sublist (p := fun f => !f.overlooked))
  change (heeded (Step.allFaults ss)).Pairwise _ at horder
  cases hfaults : heeded (Step.allFaults ss) with
  | nil =>
    obtain ⟨row, hrow, hne⟩ := hclash
    exact absurd (((Step.heeded_eq_nil_iff ss).mp hfaults).2 row hrow) hne
  | cons f fs =>
    have hf : f ∈ heeded (Step.allFaults ss) := by rw [hfaults]; exact List.mem_cons_self
    obtain ⟨hmem, hover⟩ := mem_heeded.mp hf
    obtain ⟨w, rfl⟩ := Fault.eq_duplicatePosition (hrepeats f hmem) hover
    have hleast : ∀ row' ∈ Step.allRows ss, ∀ v ∈ Predicate.clashes row',
        w = v ∨ w.offset < v.offset := by
      intro row' hrow' v hv
      have hv := Step.mem_heeded_iff.mpr ⟨row', hrow', hv⟩
      rw [hfaults] at hv horder
      rcases List.mem_cons.mp hv with heq | hv
      · exact .inl (Fault.duplicatePosition.inj heq).1.symm
      · exact .inr (List.rel_of_pairwise_cons horder hv rfl)
    obtain ⟨row, hrow, hw⟩ := Step.mem_heeded_iff.mp hf
    refine ⟨row, hrow, w, ?_, ?_, hleast⟩
    · cases hhead : (Predicate.clashes row).head? with
      | none =>
        rw [List.head?_eq_none_iff.mp hhead] at hw
        cases hw
      | some v =>
        have hfront := h.head_le_of_mem_clashes hrow hhead hw
        have hback := hleast row hrow v (List.mem_of_mem_head? hhead)
        have heq : v = w := by
          rcases hfront with heq | hlt
          · exact heq
          · rcases hback with heq | hlt'
            · exact heq.symm
            · omega
        rw [heq]
    · rw [parse_of_derives h, hfaults]
      rfl

/-- Positions of a text that follows the grammar, each of which is found at its place. The text is
read if nothing is wrong with it but for repeated positions, and no position of a step but the last
one leaves anything out. If some other one does and nothing else is wrong, then the leftmost of the
positions behind such ones is reported, which is the first of its step. -/
theorem parse_of_positions (h : Derives text ss) :
    (∀ row ∈ Step.allRows ss, ∀ p ∈ Predicate.positions row,
      (∃ u v, text = String.ofList (u ++ (p.1.text.toList ++ v)) ∧ p.1.offset = bytes u ∧
        p.1.text.toList.head? = some '[') ∧
      (p.2.narrows = false →
        ∃ bounds start, .slice p.1 bounds start none ∈ row ∧ sliceStart start = 0)) ∧
    ((∃ q, parse text = .ok q) ↔ (∀ f ∈ Step.allFaults ss, f.repeats = true) ∧
      ∀ row ∈ Step.allRows ss, ∀ p ∈ (Predicate.positions row).dropLast, p.2.narrows = false) ∧
    ((∀ f ∈ Step.allFaults ss, f.repeats = true) →
      (∃ row ∈ Step.allRows ss, ∃ p ∈ (Predicate.positions row).dropLast, p.2.narrows = true) →
      ∃ row ∈ Step.allRows ss, ∃ w, (Predicate.clashes row).head? = some w ∧
        parse text = .error (.duplicatePosition w) ∧
        ∀ row' ∈ Step.allRows ss, ∀ v ∈ Predicate.clashes row', w = v ∨ w.offset < v.offset) := by
  refine ⟨fun row hrow p hp => ⟨h.position_in_place hrow hp, Predicate.exists_slice hp⟩, ?_, ?_⟩
  · simp only [← Predicate.clashes_eq_nil_iff]
    rw [← Step.heeded_eq_nil_iff, parse_of_derives h]
    cases heeded (Step.allFaults ss) with
    | nil => simp [prescribed]
    | cons f fs => simp [prescribed]
  · rintro hrepeats ⟨row, hrow, p, hp, hnarrows⟩
    refine h.parse_eq_leftmost hrepeats ⟨row, hrow, fun hnil => ?_⟩
    rw [Predicate.clashes_eq_nil_iff.mp hnil p hp] at hnarrows
    cases hnarrows

end Texts

/-- Of a step with a clash and another one inside of it, the latter is reported, for it comes first.
The slice `[:]` is no part of the clash. -/
theorem parse_of_positions_nested :
    ∃ ss, Derives "//A[:][./*[1][2]][3][4:5]" ss ∧ (∀ f ∈ Step.allFaults ss, f.repeats = true) ∧
      (∃ row ∈ Step.allRows ss, ∃ p ∈ (Predicate.positions row).dropLast,
        p.1 = ⟨17, "[3]"⟩ ∧ p.2.narrows = true) ∧
      (¬∃ q, parse "//A[:][./*[1][2]][3][4:5]" = .ok q) ∧
      ∃ row ∈ Step.allRows ss, (Predicate.clashes row).head? = some ⟨13, "[2]"⟩ ∧
        parse "//A[:][./*[1][2]][3][4:5]" = .error (.duplicatePosition ⟨13, "[2]"⟩) := by
  have hcheck : (match steps "//A[:][./*[1][2]][3][4:5]" with
      | .ok ss => (Step.allFaults ss).all Fault.repeats &&
          (Step.allRows ss).any fun row => (Predicate.positions row).dropLast.any fun p =>
            p.1 = ⟨17, "[3]"⟩ ∧ p.2.narrows
      | .error _ => false) = true := by
    decide +kernel
  have herror : (match parse "//A[:][./*[1][2]][3][4:5]" with
      | .ok _ => none
      | .error e => some e) = some (.duplicatePosition ⟨13, "[2]"⟩) := by
    decide +kernel
  cases hs : steps "//A[:][./*[1][2]][3][4:5]" with
  | error e =>
    rw [hs] at hcheck
    cases hcheck
  | ok ss =>
    rw [hs] at hcheck
    simp only [Bool.and_eq_true, List.all_eq_true, List.any_eq_true, decide_eq_true_eq] at hcheck
    obtain ⟨hrepeats, outer, houter, p, hp, hplace, hnarrows⟩ := hcheck
    have h := derives_of_steps hs
    obtain ⟨-, hok, hleftmost⟩ := parse_of_positions h
    obtain ⟨row, hrow, w, hhead, hparse, -⟩ := hleftmost hrepeats ⟨outer, houter, p, hp, hnarrows⟩
    rw [hparse] at herror
    obtain rfl := ParseError.duplicatePosition.inj (Option.some.inj herror)
    refine ⟨ss, h, hrepeats, ⟨outer, houter, p, hp, hplace, hnarrows⟩, fun hq => ?_, row, hrow,
      hhead, hparse⟩
    rw [(hok.mp hq).2 outer houter p hp] at hnarrows
    cases hnarrows

/-- A slice that leaves nothing out and a position behind it, both accepted in the same step. -/
theorem parse_two_positions :
    ∃ ss, Derives "//*[0:][2]" ss ∧
      (∃ row ∈ Step.allRows ss, (Predicate.positions row).map Prod.fst =
        [⟨3, "[0:]"⟩, ⟨7, "[2]"⟩]) ∧
      parse "//*[0:][2]" = .ok (Step.query ss) := by
  have hcheck : (match steps "//*[0:][2]" with
      | .ok ss => (heeded (Step.allFaults ss)).isEmpty && (Step.allRows ss).any fun row =>
          (Predicate.positions row).map Prod.fst = [⟨3, "[0:]"⟩, ⟨7, "[2]"⟩]
      | .error _ => false) = true := by
    decide +kernel
  cases hs : steps "//*[0:][2]" with
  | error e =>
    rw [hs] at hcheck
    cases hcheck
  | ok ss =>
    rw [hs] at hcheck
    simp only [Bool.and_eq_true, List.isEmpty_iff, List.any_eq_true, decide_eq_true_eq] at hcheck
    obtain ⟨hheeded, hrow⟩ := hcheck
    have h := derives_of_steps hs
    refine ⟨ss, h, hrow, ?_⟩
    rw [parse_of_derives h, hheeded]
    rfl

end ControlQuery.CPath

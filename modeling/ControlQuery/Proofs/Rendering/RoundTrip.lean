import ControlQuery.Proofs.CPath.Published
import ControlQuery.Proofs.Query.NormalResults
import ControlQuery.Proofs.Rendering.Steps

/-!
# Canonical texts are read as normal forms

The canonical text of a query without function conditions is read as the normal form of the query,
which nests as deep and has the same results. The induction goes over conditions, parts, elements
and queries at once. For a scope it says what stands in front of the last node test, because the
condition of the element puts a node test there.
-/

namespace ControlQuery

open CPath

/-! ## Operands -/

lemma exists_distanceText {i j : Input} (d : Distance) (h : Word d.render i j) :
    ∃ l, DistanceText i l j ∧ countFaults l.whole l.digits = [] ∧ l.reading = d := by
  have hwhole := Spans.of_word h
  cases d with
  | up n =>
    obtain ⟨k, hsign, hdigits⟩ := Word.split "-" _ h
    exact ⟨_, .intro (.up hsign) (DigitsText.of_word hdigits) hwhole,
      countFaults_toString n.toNat_lt _, congrArg Distance.up (countOf_toString_toNat n)⟩
  | down n =>
    exact ⟨_, .intro .absent (DigitsText.of_word h) hwhole, countFaults_toString n.toNat_lt _,
      congrArg Distance.down (countOf_toString_toNat n)⟩
  | any n =>
    obtain ⟨k, hsign, hdigits⟩ := Word.split "~" _ h
    exact ⟨_, .intro (.any hsign) (DigitsText.of_word hdigits) hwhole,
      countFaults_toString n.toNat_lt _, congrArg Distance.any (countOf_toString_toNat n)⟩

section Engine

variable [Regex.Engine]

/-- The target has no faults and is read as the condition, if there is one. -/
structure TargetMeans (target : Option Expr) (condition : Option Condition) : Prop where
  faults : Expr.targetFaults target = []
  reading : Expr.targetReading target = condition

lemma writes_relative {s : String} {condition : Option Condition} (d : Distance)
    (hs : Writes TargetText (TargetMeans · condition) s) :
    Writes UnaryText (·.Means (.relative d condition))
      ("relative(" ++ d.render ++ ", " ++ s ++ ")") := by
  intro i n h hn
  obtain ⟨m, h, hclose⟩ := h.split_append
  obtain ⟨l, h, htarget⟩ := h.split_append
  obtain ⟨k, h, hcomma⟩ := h.split_append
  obtain ⟨j, hopen, hdistance⟩ := h.split_append
  obtain ⟨o, hword, hopen⟩ := Word.split "relative" "(" hopen
  obtain ⟨p, hcomma, hgap⟩ := Word.split "," " " hcomma
  obtain ⟨ds, hds, hdfaults, hdreading⟩ := exists_distanceText d hdistance
  obtain ⟨t, ht, hmean⟩ := hs htarget (Word.stops_name hclose rfl rfl)
  refine ⟨_, .relative hword .refl hopen .refl hds .refl hcomma (.of_space hgap) ht .refl hclose,
    ?_, ?_⟩
  · rw [Expr.faults, hdfaults, hmean.faults, List.append_nil]
  · rw [Expr.reading, hdreading, hmean.reading]

lemma writes_hasElement {s : String} {es : List Element} {e : Element}
    (hs : WritesSteps s (es ++ [e])) :
    Writes UnaryText (·.Means (.hasElement { path := es.map .composite, element := e }))
      ("." ++ s) := by
  intro i j h hj
  obtain ⟨k, hdot, hsteps⟩ := h.split_append
  obtain ⟨ss, hss, hmean⟩ := hs.writes hsteps hj
  refine ⟨_, .fromSelf hdot hss, ?_, ?_⟩
  · rw [Expr.faults, hmean.faults]
  · rw [Expr.reading, hmean.readings, queryOfElements_append_singleton]

/-- A chain of the other connective is one operand. -/
lemma Operand.means_chain {op : Connective} {xs : List Operand} {cs : List Condition}
    (h : List.Forall₂ Operand.Means xs cs) (hne : cs ≠ []) :
    List.Forall₂ Operand.Means [.grouped (op.chain xs)] (op.fold cs).toList := by
  obtain ⟨c, hc⟩ := op.exists_fold hne
  rw [hc]
  exact .cons (means_grouped (writes_chain h hc)) .nil

lemma writes_target {xs : List Operand} {cs : List Condition}
    (h : List.Forall₂ Operand.Means xs cs) (hne : cs ≠ []) :
    Writes TargetText (TargetMeans · (Connective.and.fold cs)) (Connective.and.chain xs) := by
  intro i j ht hj
  obtain ⟨c, hc⟩ := Connective.and.exists_fold hne
  obtain ⟨e, he, hmean⟩ := writes_chain h hc ht hj
  rw [hc]
  refine ⟨some e, .expr he, ?_, ?_⟩
  · rw [Expr.targetFaults, hmean.faults]
  · rw [Expr.targetReading, hmean.reading]

lemma Element.render_eq (condition : Option Condition) (scope : List Part)
    (skip take : Option Count) :
    Element.render ⟨condition, scope, skip, take⟩ =
      Part.renderScope ((condition.bind Condition.nodeTest?).getD "*") scope ++
        (restText ((Condition.conjuncts condition).drop (Condition.testCount condition)) ++
          pageText skip take) := by
  have hrest : (if (condition.bind Condition.nodeTest?).isSome = true
      then (Condition.conjuncts condition).tail else Condition.conjuncts condition) =
        (Condition.conjuncts condition).drop (Condition.testCount condition) := by
    unfold Condition.testCount
    split_ifs
    · exact List.drop_one.symm
    · rfl
  rw [Element.render, ← hrest, ← String.append_assoc]
  rfl

/-! ## Queries -/

mutual

theorem Condition.means_operands (op : Connective) : ∀ c : Condition, c.hasFunction = false →
    List.Forall₂ Operand.Means (c.operands op) (c.spine op)
  | .property condition, _ => by
    rw [Condition.operands, Condition.spine]
    exact .cons (Operand.means_plain (writes_comparison condition)) .nil
  | .function condition, h => by cases h
  | .logical op' left right, h => by
    rw [Condition.hasFunction, Bool.or_eq_false_iff] at h
    have hsides := List.rel_append (Condition.means_operands op' left h.1)
      (Condition.means_operands op' right h.2)
    rw [Condition.operands, Condition.spine]
    by_cases heq : op' = op
    · rw [if_pos heq, if_pos heq, ← heq]
      exact hsides
    · rw [if_neg heq, if_neg heq]
      apply Operand.means_chain hsides
      exact List.append_ne_nil_of_left_ne_nil (left.spine_ne_nil op') _
  | .hasElement query, h => by
    rw [Condition.hasFunction] at h
    obtain ⟨path, element⟩ := query
    have hquery := Query.writes_render ⟨path, element⟩ h
    rw [Condition.operands, Condition.spine, Query.normal]
    exact .cons (Operand.means_plain (writes_hasElement hquery)) .nil
  | .relative distance condition, h => by
    rw [Condition.hasFunction] at h
    rw [Condition.operands, Condition.spine]
    exact .cons (Operand.means_plain
      (writes_relative distance (Condition.writes_renderTarget condition h))) .nil

theorem Condition.writes_renderTarget : ∀ c : Option Condition,
    Condition.hasFunctionOption c = false →
      Writes TargetText (TargetMeans · (Condition.normalTarget c)) (Condition.renderTarget c)
  | none, _ => by
    intro i j h _
    exact ⟨none, .any h, rfl, rfl⟩
  | some c, h => by
    rw [Condition.hasFunctionOption] at h
    rw [Condition.renderTarget, Condition.normalTarget]
    exact writes_target (Condition.means_operands .and c h) (c.spine_ne_nil .and)

theorem Condition.means_conjuncts : ∀ c : Option Condition,
    Condition.hasFunctionOption c = false →
      List.Forall₂ Operand.Means (Condition.conjuncts c) (Condition.spineOption c)
  | none, _ => by
    rw [Condition.conjuncts, Condition.spineOption]
    exact .nil
  | some c, h => by
    rw [Condition.hasFunctionOption] at h
    rw [Condition.conjuncts, Condition.spineOption]
    exact Condition.means_operands .and c h

theorem Part.writes_render : ∀ p : Part, p.hasFunction = false →
    WritesSteps (p.render none) p.steps
  | .identity, _ => by
    rw [Part.render, Part.steps]
    exact WritesSteps.of_leads_any leads_self
  | .ancestors maxDepth includeSelf, _ => by
    obtain ⟨s, hs, hstep⟩ := exists_leads_ancestors maxDepth includeSelf
    rw [Part.render, Part.steps, hstep]
    exact WritesSteps.of_leads_any hs
  | .descendants maxDepth includeSelf, _ => by
    obtain ⟨s, hs, hstep⟩ := exists_leads_descendants maxDepth includeSelf
    rw [Part.render, Part.steps, hstep]
    exact WritesSteps.of_leads_any hs
  | .composite e, h => by
    rw [Part.hasFunction] at h
    rw [Part.render, Part.steps]
    exact Element.writes_render e h

theorem Part.exists_leads : ∀ p : Part, p.hasFunction = false →
    ∃ front s, WritesSteps front p.front ∧ Leads s (Part.lastWalk [p]) ∧
      ∀ test, p.render (some test) = front ++ (s ++ test)
  | .identity, _ => ⟨"", "/self::", .nil, leads_self, fun test => by
      simp [Part.render]⟩
  | .ancestors maxDepth includeSelf, _ => by
    obtain ⟨s, hs, hstep⟩ := exists_leads_ancestors maxDepth includeSelf
    exact ⟨"", s, .nil, hs, fun test => by simp [Part.render, hstep]⟩
  | .descendants maxDepth includeSelf, _ => by
    obtain ⟨s, hs, hstep⟩ := exists_leads_descendants maxDepth includeSelf
    exact ⟨"", s, .nil, hs, fun test => by simp [Part.render, hstep]⟩
  | .composite e, h => by
    rw [Part.hasFunction] at h
    exact ⟨e.render, "/self::", Element.writes_render e h, leads_self, fun test => by
      simp [Part.render, String.append_assoc]⟩

theorem Part.writes_renderPath : ∀ ps : List Part, Part.hasFunctionList ps = false →
    WritesSteps (Part.renderPath ps) (Part.stepsList ps)
  | [], _ => by
    rw [Part.renderPath, Part.stepsList]
    exact .nil
  | p :: ps, h => by
    rw [Part.hasFunctionList, Bool.or_eq_false_iff] at h
    rw [Part.renderPath, Part.stepsList]
    exact (Part.writes_render p h.1).append (Part.writes_renderPath ps h.2)

theorem Part.exists_leads_scope : ∀ ps : List Part, Part.hasFunctionList ps = false →
    ∃ front s, WritesSteps front (Part.frontList ps) ∧ Leads s (Part.lastWalk ps) ∧
      ∀ test, Part.renderScope test ps = front ++ (s ++ test)
  | [], _ => ⟨"", "/self::", .nil, leads_self, fun test => by
      simp [Part.renderScope]⟩
  | [p], h => by
    rw [Part.hasFunctionList, Bool.or_eq_false_iff] at h
    obtain ⟨front, s, hfront, hs, htext⟩ := Part.exists_leads p h.1
    exact ⟨front, s, hfront, hs, fun test => by rw [Part.renderScope, htext]⟩
  | p :: p' :: ps, h => by
    rw [Part.hasFunctionList, Bool.or_eq_false_iff] at h
    obtain ⟨front, s, hfront, hs, htext⟩ := Part.exists_leads_scope (p' :: ps) h.2
    refine ⟨p.render none ++ front, s, ?_, ?_, fun test => ?_⟩
    · rw [Part.frontList_cons_cons]
      exact (Part.writes_render p h.1).append hfront
    · rw [Part.lastWalk_cons_cons]
      exact hs
    · rw [Part.renderScope, htext, String.append_assoc]
      simp

theorem Element.writes_render : ∀ e : Element, e.hasFunction = false →
    WritesSteps e.render (e.front ++ [e.last])
  | ⟨condition, scope, skip, take⟩, h => by
    rw [Element.hasFunction, Bool.or_eq_false_iff] at h
    obtain ⟨front, s, hfront, hs, htext⟩ := Part.exists_leads_scope scope h.2
    have hconjuncts := List.forall₂_drop (Condition.testCount condition)
      (Condition.means_conjuncts condition h.1)
    have hlast := WritesSteps.of_leads condition hs (endsName_predicates _ skip take)
      (writes_predicates skip take hconjuncts)
    rw [Element.render_eq, htext, Element.front, Element.last, String.append_assoc,
      String.append_assoc]
    exact hfront.append hlast

theorem Query.writes_render : ∀ q : Query, q.hasFunction = false →
    WritesSteps q.render (Part.stepsList q.path ++ q.element.front ++ [q.element.last])
  | ⟨path, element⟩, h => by
    rw [Query.hasFunction, Bool.or_eq_false_iff] at h
    rw [Query.render, List.append_assoc]
    exact (Part.writes_renderPath path h.1).append (Element.writes_render element h.2)

end

/-! ## Reading canonical texts -/

namespace Query

/-- Blanks behind a canonical text are passed over. -/
lemma derives_render {q : Query} (h : q.hasFunction = false) {blanks : String}
    (hblanks : ∀ c ∈ blanks.toList, isBlank c = true) :
    ∃ ss, Derives (q.render ++ blanks) ss ∧ Step.allFaults ss = [] ∧ Step.query ss = q.normal := by
  have hwhole : Word q.render (.start (q.render ++ blanks))
      ⟨blanks.toList, bytes q.render.toList⟩ := by
    constructor
    · exact String.toList_append
    · exact (Nat.zero_add _).symm
  have hgap : Gap ⟨blanks.toList, bytes q.render.toList⟩
      ⟨[], bytes q.render.toList + bytes blanks.toList⟩ :=
    ⟨blanks.toList, ⟨(List.append_nil _).symm, rfl⟩, hblanks⟩
  have hend : Input.Stops isIdentChar ⟨blanks.toList, bytes q.render.toList⟩ := by
    intro c hc
    have hblank := hblanks c (List.mem_of_head? hc)
    rw [isBlank, List.contains_iff_mem] at hblank
    have hall : ∀ c ∈ blankChars, (!isIdentChar c) = true := List.all_eq_true.mp rfl
    simpa using hall c hblank
  obtain ⟨ss, hss, hmean⟩ := (Query.writes_render q h).writes hwhole hend
  refine ⟨ss, ?_, hmean.faults, ?_⟩
  · cases ss with
    | nil =>
      have hreadings := hmean.readings
      rw [Step.readings] at hreadings
      exact absurd hreadings.symm (List.append_ne_nil_of_right_ne_nil _ (List.cons_ne_nil _ _))
    | cons step steps =>
      cases hss with
      | cons gap separator gap' step more =>
        exact .intro gap (.leading separator gap' step more) hgap rfl
  · obtain ⟨path, element⟩ := q
    rw [Step.query, hmean.readings, queryOfElements_append_singleton, Query.normal]

lemma parse_render_append {q : Query} (h : q.hasFunction = false) {blanks : String}
    (hblanks : ∀ c ∈ blanks.toList, isBlank c = true) :
    parse (q.render ++ blanks) = .ok q.normal := by
  obtain ⟨ss, hss, hfaults, hquery⟩ := derives_render h hblanks
  rw [parse_of_derives hss, hfaults, hquery]
  rfl

/-- The canonical text of a query is read as the normal form of the query. -/
theorem parse_render {q : Query} (h : q.hasFunction = false) : parse q.render = .ok q.normal := by
  have hblanks : ∀ c ∈ "".toList, isBlank c = true := List.forall_mem_nil _
  have hparse := parse_render_append h hblanks
  rwa [String.append_empty] at hparse

/-- What is read from the canonical text of a query nests as deep as the query, and a search for it
answers every request in the same way, be it with a control, with an error or with none at all. -/
theorem answers_findAll_of_parse_render (q : Query) (h : q.hasFunction = false) :
    ∃ q', parse q.render = .ok q' ∧ q'.depth = q.depth ∧
      ∀ (root : SnapshotNode) (removed : List NodeId) (s : Setting) (n : NodeId),
        root.size < 2 ^ 64 - 1 →
          let t := (SnapshotTree.ofNode root).removeAll removed
          ∀ k, (q'.findAll s t.provider n).answers t.provider k =
            (q.findAll s t.provider n).answers t.provider k := by
  refine ⟨q.normal, parse_render h, q.depth_normal, ?_⟩
  intro root removed s n hsize t k
  have ht : t.size < greatestCount := by
    rw [SnapshotTree.size_removeAll, SnapshotTree.size_ofNode]
    exact hsize
  exact Query.answers_findAll_normal ht q n k

end Query

end Engine

/-- The second control that has a child or a parent, for a page that ends at the greatest count and
a scope that is an element. -/
theorem Query.answers_findAll_of_parse_render_nested :
    let root : SnapshotNode := .node ∅ [.node ∅ [], .node ∅ [.node ∅ []]]
    let t := (SnapshotTree.ofNode root).removeAll [1]
    let child : Condition := .hasElement { path := [], element := .ofScope [.children] }
    let q : Query :=
      { path := [.composite
          { scope := [.descendants none true], skip := some 0, take := some 18446744073709551615 }]
        element :=
          { condition := some (.or child (.relative (.up 1) none))
            scope := [.composite (.ofScope [.children])], skip := some 1, take := some 1 } }
    (q.hasFunction = false ∧ root.size < 2 ^ 64 - 1) ∧
      ∃ q', parse q.render = .ok q' ∧ q'.depth = 2 ∧
        (q'.findAll { reach := 4 } t.provider 0).answers t.provider 0 = some (.ok 3) ∧
        (q'.findAll { reach := 4 } t.provider 0).answers t.provider 1 = none := by
  intro root t child q
  have hfunction : q.hasFunction = false := by decide
  have hsize : root.size < 2 ^ 64 - 1 := by decide
  have hdepth : q.depth ≤ ({ reach := 4 } : Setting).maxNesting.toNat := by decide
  have hresults : q.results t { reach := 4 } 0 = [3] := by decide +kernel
  have hanswers := (q.yields_findAll (.refl t { reach := 4 }) 0 hdepth).answers
  obtain ⟨q', hparse, hdepth', hsame⟩ := answers_findAll_of_parse_render q hfunction
  refine ⟨⟨hfunction, hsize⟩, q', hparse, hdepth', ?_, ?_⟩
  · rw [hsame root [1] { reach := 4 } 0 hsize 0, hanswers 0, hresults]
    rfl
  · rw [hsame root [1] { reach := 4 } 0 hsize 1, hanswers 1, hresults]
    rfl

end ControlQuery

import ControlQuery.Proofs.Query.Pages
import ControlQuery.Proofs.Rendering.RoundTrip

/-!
# Canonical texts are read as queries with the same canonical text

A query and its normal form are written in the same way, except for the pages that are not stable:
each of them makes the text of the normal form shorter. So the texts are the same just if there is
no such page. The induction relates the operands of a condition to those of its normal form one by
one, and keeps for each the condition under which they are the same.
-/

namespace ControlQuery

open CPath (Page)

/-! ## Texts -/

namespace Shrinks

variable {p p' : Prop} {s s' t t' : String}

lemma length_le (h : Shrinks p s t) : t.length ≤ s.length := by
  by_cases hp : p
  · rw [h.kept hp]
  · exact Nat.le_of_lt (h.shorter hp)

lemma append (h : Shrinks p s t) (h' : Shrinks p' s' t') :
    Shrinks (p ∧ p') (s ++ s') (t ++ t') where
  kept hp := by rw [h.kept hp.1, h'.kept hp.2]
  shorter hp := by
    have hle := h.length_le
    have hle' := h'.length_le
    rw [String.length_append, String.length_append]
    rcases not_and_or.mp hp with hp | hp
    · have hlt := h.shorter hp
      omega
    · have hlt := h'.shorter hp
      omega

lemma append_left (s : String) (h : Shrinks p t t') : Shrinks p (s ++ t) (s ++ t') := by
  have happend := (of_holds trivial s).append h
  rwa [true_and] at happend

lemma append_right (h : Shrinks p t t') (s : String) : Shrinks p (t ++ s) (t' ++ s) := by
  have happend := h.append (of_holds trivial s)
  rwa [and_true] at happend

/-- A text that stays the same does so for a reason. -/
lemma holds (h : Shrinks p s s) : p := by
  by_contra hp
  exact Nat.lt_irrefl _ (h.shorter hp)

end Shrinks

/-! ## Operands -/

/-- Both texts of an operand become those of the other one. -/
structure Operand.Shrinks (p : Prop) (x y : Operand) : Prop where
  alone : ControlQuery.Shrinks p x.alone y.alone
  inside : ControlQuery.Shrinks p x.inside y.inside

/-- The operands become those of the other row one by one, which are all the same under the
condition. -/
inductive ShrinkAll : Prop → List Operand → List Operand → Prop
  | nil : ShrinkAll True [] []
  | cons {p p' : Prop} {x y : Operand} {xs ys : List Operand} (hx : x.Shrinks p y)
      (hxs : ShrinkAll p' xs ys) : ShrinkAll (p ∧ p') (x :: xs) (y :: ys)

lemma Operand.shrinks_plain {p : Prop} {s t : String} (h : ControlQuery.Shrinks p s t) :
    (Operand.plain s).Shrinks p (.plain t) where
  alone := h
  inside := h

lemma Operand.shrinks_grouped {p : Prop} {s t : String} (h : ControlQuery.Shrinks p s t) :
    (Operand.grouped s).Shrinks p (.grouped t) where
  alone := h
  inside := (h.append_left "(").append_right ")"

namespace ShrinkAll

variable {p p' : Prop} {x y : Operand} {xs ys xs' ys' : List Operand}

lemma single (h : x.Shrinks p y) : ShrinkAll p [x] [y] := by
  have hcons := ShrinkAll.cons h .nil
  rwa [and_true] at hcons

lemma append (h : ShrinkAll p xs ys) (h' : ShrinkAll p' xs' ys') :
    ShrinkAll (p ∧ p') (xs ++ xs') (ys ++ ys') := by
  induction h with
  | nil => rwa [true_and]
  | cons hx _ ih =>
    rw [and_assoc]
    exact .cons hx ih

lemma more (op : Connective) (h : ShrinkAll p xs ys) :
    Shrinks p (op.more (xs.map Operand.inside)) (op.more (ys.map Operand.inside)) := by
  induction h with
  | nil => exact .of_holds trivial ""
  | cons hx _ ih =>
    rw [List.map_cons, List.map_cons, Connective.more, Connective.more]
    exact (((hx.inside.append ih).append_left " ").append_left op.keyword).append_left " "

lemma chain (op : Connective) (h : ShrinkAll p xs ys) : Shrinks p (op.chain xs) (op.chain ys) := by
  cases h with
  | nil => exact .of_holds trivial ""
  | cons hx hxs =>
    cases hxs with
    | nil =>
      rw [and_true]
      exact hx.alone
    | cons hx' hxs =>
      have hmore := (ShrinkAll.cons hx' hxs).more op
      have hall := hx.inside.append hmore
      rw [← Connective.join_cons, ← Connective.join_cons, ← List.map_cons, ← List.map_cons] at hall
      exact hall

lemma restText (h : ShrinkAll p xs ys) : Shrinks p (restText xs) (restText ys) := by
  have hchain := h.chain .and
  cases h with
  | nil => exact .of_holds trivial ""
  | cons hx hxs => exact (hchain.append_left "[").append_right "]"

/-- An operand that stays the same can be left out. -/
lemma of_cons_same (h : ShrinkAll p (x :: xs) (x :: ys)) : ShrinkAll p xs ys := by
  cases h with
  | cons hx hxs =>
    have hholds := hx.alone.holds
    rwa [and_iff_right hholds]

end ShrinkAll

/-! ## Joined conditions -/

variable [Regex.Engine]

namespace Condition

variable {op op' : Connective} {c : Condition} {cs : List Condition}

lemma operands_foldl (op : Connective) (c : Condition) (cs : List Condition) :
    (cs.foldl (.logical op) c).operands op = c.operands op ++ cs.flatMap (operands op) := by
  induction cs generalizing c with
  | nil => exact (List.append_nil _).symm
  | cons d cs ih =>
    rw [List.foldl_cons, ih, operands, if_pos rfl, List.flatMap_cons, List.append_assoc]

/-- A chain of the other connective is one operand. -/
lemma operands_foldl_of_ne (h : op' ≠ op) (c : Condition) (hne : cs ≠ []) :
    (cs.foldl (.logical op') c).operands op =
      [.grouped (op'.chain (c.operands op' ++ cs.flatMap (operands op')))] := by
  obtain ⟨ds, d, rfl⟩ := (List.eq_nil_or_concat' cs).resolve_left hne
  rw [List.foldl_append, List.foldl_cons, List.foldl_nil, operands, if_neg h, operands_foldl,
    List.flatMap_append, List.flatMap_singleton, List.append_assoc]

lemma flatMap_operands_fold (op : Connective) (cs : List Condition) :
    (op.fold cs).toList.flatMap (operands op) = cs.flatMap (operands op) := by
  cases cs with
  | nil => rfl
  | cons c cs => exact (List.flatMap_singleton _ _).trans (operands_foldl op c cs)

lemma conjuncts_fold (cs : List Condition) :
    conjuncts (Connective.and.fold cs) = cs.flatMap (operands .and) := by
  cases cs with
  | nil => rw [Connective.fold, conjuncts, List.flatMap_nil]
  | cons c cs =>
    rw [Connective.fold, conjuncts, operands_foldl, List.flatMap_cons]

lemma renderTarget_fold (hne : cs ≠ []) :
    renderTarget (Connective.and.fold cs) = Connective.and.chain (cs.flatMap (operands .and)) := by
  cases cs with
  | nil => exact absurd rfl hne
  | cons c cs => rw [Connective.fold, renderTarget, operands_foldl, List.flatMap_cons]

/-! ## Node tests -/

lemma nodeTest?_foldl_and (c : Condition) (cs : List Condition) :
    (cs.foldl (.logical .and) c).nodeTest? = c.nodeTest? := by
  induction cs generalizing c with
  | nil => rfl
  | cons d cs ih => rw [List.foldl_cons, ih, nodeTest?]

lemma nodeTest?_foldl_or (c : Condition) (hne : cs ≠ []) :
    (cs.foldl (.logical .or) c).nodeTest? = none := by
  obtain ⟨ds, d, rfl⟩ := (List.eq_nil_or_concat' cs).resolve_left hne
  rw [List.foldl_append, List.foldl_cons, List.foldl_nil]
  rfl

/-- The node test of a condition is that of its first conjunct. -/
lemma nodeTest?_spine : ∀ c : Condition, c.nodeTest? = (c.spine .and).head?.bind nodeTest?
  | .property condition => by
    rw [spine]
    rfl
  | .function condition => by
    rw [spine]
    rfl
  | .logical .and left right => by
    obtain ⟨d, ds, hleft⟩ := List.exists_cons_of_ne_nil (left.spine_ne_nil .and)
    have hfirst := nodeTest?_spine left
    rw [hleft] at hfirst
    rw [spine, if_pos rfl, nodeTest?, hleft, List.cons_append]
    exact hfirst
  | .logical .or left right => by
    obtain ⟨d, ds, hleft⟩ := List.exists_cons_of_ne_nil (left.spine_ne_nil .or)
    have hmore : ds ++ right.spine .or ≠ [] :=
      List.append_ne_nil_of_right_ne_nil ds (right.spine_ne_nil .or)
    rw [spine, if_neg (by decide), hleft, List.cons_append]
    exact (nodeTest?_foldl_or d hmore).symm
  | .hasElement query => by
    rw [spine]
    rfl
  | .relative distance condition => by
    rw [spine]
    rfl

lemma nodeTest?_spineOption (condition : Option Condition) :
    condition.bind nodeTest? = (spineOption condition).head?.bind nodeTest? := by
  cases condition with
  | none => rw [spineOption]; rfl
  | some c =>
    rw [spineOption]
    exact c.nodeTest?_spine

lemma nodeTest?_fold_and (cs : List Condition) :
    (Connective.and.fold cs).bind nodeTest? = cs.head?.bind nodeTest? := by
  cases cs with
  | nil => rfl
  | cons c cs => exact nodeTest?_foldl_and c cs

/-- A condition that has a node test writes it first. -/
lemma exists_operands_of_nodeTest? {name : String} : ∀ {c : Condition}, c.nodeTest? = some name →
    ∃ d xs cs, c.operands .and = .plain (PropertyCondition.render d) :: xs ∧
      c.spine .and = .property d :: cs
  | .property condition, _ => by
    rw [operands, spine]
    exact ⟨condition, [], [], rfl, rfl⟩
  | .logical .and left right, h => by
    rw [nodeTest?] at h
    obtain ⟨d, xs, cs, hoperands, hspine⟩ := exists_operands_of_nodeTest? h
    rw [operands, spine, if_pos rfl, if_pos rfl, hoperands, hspine]
    exact ⟨d, _, _, rfl, rfl⟩
  | .logical .or left right, h => by cases h
  | .function condition, h => by cases h
  | .hasElement query, h => by cases h
  | .relative distance condition, h => by cases h

lemma nodeTest?_take_append_fold_drop (cs : List Condition) (count : Nat) :
    (cs.take count ++ (Connective.and.fold (cs.drop count)).toList).head?.bind nodeTest? =
      cs.head?.bind nodeTest? := by
  cases cs with
  | nil => rw [List.take_nil, List.drop_nil]; rfl
  | cons c cs =>
    cases count with
    | zero => exact nodeTest?_foldl_and c cs
    | succ count => rfl

/-- The condition of the last element that an element with the condition writes. -/
def normalOption (condition : Option Condition) : Option Condition :=
  Connective.and.fold ((spineOption condition).take (testCount condition) ++
    (Connective.and.fold ((spineOption condition).drop (testCount condition))).toList)

variable (condition : Option Condition)

lemma nodeTest?_normalOption :
    (normalOption condition).bind nodeTest? = condition.bind nodeTest? := by
  rw [nodeTest?_spineOption condition, normalOption, nodeTest?_fold_and,
    nodeTest?_take_append_fold_drop]

lemma testCount_normalOption : testCount (normalOption condition) = testCount condition := by
  unfold testCount
  rw [nodeTest?_normalOption]

lemma conjuncts_normalOption :
    conjuncts (normalOption condition) = (spineOption condition).flatMap (operands .and) := by
  rw [normalOption, conjuncts_fold, List.flatMap_append, flatMap_operands_fold,
    ← List.flatMap_append, List.take_append_drop]

/-- The conjunct that the node test takes over is written in the same way. -/
lemma shrinkAll_drop_testCount {p : Prop}
    (h : ShrinkAll p (conjuncts condition) ((spineOption condition).flatMap (operands .and))) :
    ShrinkAll p ((conjuncts condition).drop (testCount condition))
      (((spineOption condition).flatMap (operands .and)).drop (testCount condition)) := by
  unfold testCount
  cases hname : condition.bind nodeTest? with
  | none => exact h
  | some name =>
    obtain ⟨c, rfl, hc⟩ := Option.bind_eq_some_iff.mp hname
    obtain ⟨d, xs, cs, hoperands, hspine⟩ := exists_operands_of_nodeTest? hc
    have hproperty : operands .and (.property d) = [.plain d.render] := by rw [operands]
    rw [conjuncts, spineOption, hoperands, hspine, List.flatMap_cons, hproperty,
      List.singleton_append] at h ⊢
    exact h.of_cons_same

end Condition

/-! ## Paths -/

lemma Part.renderPath_append (ps qs : List Part) :
    Part.renderPath (ps ++ qs) = Part.renderPath ps ++ Part.renderPath qs := by
  induction ps with
  | nil => rw [List.nil_append, Part.renderPath, String.empty_append]
  | cons p ps ih => rw [List.cons_append, Part.renderPath, Part.renderPath, ih, String.append_assoc]

/-- The text of elements in a row. -/
def Element.renderAll (es : List Element) : String :=
  Part.renderPath (es.map .composite)

lemma Element.renderAll_nil : Element.renderAll [] = "" := by
  rw [Element.renderAll, List.map_nil, Part.renderPath]

lemma Element.renderAll_append (es es' : List Element) :
    Element.renderAll (es ++ es') = Element.renderAll es ++ Element.renderAll es' := by
  rw [Element.renderAll, List.map_append, Part.renderPath_append]
  rfl

lemma Element.renderAll_singleton (e : Element) : Element.renderAll [e] = e.render := by
  rw [Element.renderAll, List.map_singleton, Part.renderPath, Part.render, Part.renderPath,
    String.append_empty]

lemma Element.renderAll_ofScope (p : Part) :
    Element.renderAll [.ofScope [p]] = p.render (some "*") := by
  rw [Element.renderAll_singleton, Element.render_eq, Condition.conjuncts, List.drop_nil,
    Part.renderScope]
  exact String.append_empty

lemma Element.last_eq (condition : Option Condition) (scope : List Part)
    (skip take : Option Count) :
    Element.last ⟨condition, scope, skip, take⟩ =
      ⟨Condition.normalOption condition, [Part.lastWalk scope], (normalPage skip take).skip,
        (normalPage skip take).take⟩ := by
  rw [Element.last]
  rfl

/-! ## Queries -/

mutual

theorem Condition.shrinkAll_operands (op : Connective) : ∀ c : Condition,
    ShrinkAll (Stable c.pages) (c.operands op) ((c.spine op).flatMap (Condition.operands op))
  | .property condition => by
    rw [Condition.spine, List.flatMap_singleton, Condition.operands]
    exact .single (Operand.shrinks_plain (.of_holds (by rw [Condition.pages]; exact stable_nil) _))
  | .function condition => by
    rw [Condition.spine, List.flatMap_singleton, Condition.operands]
    exact .single (Operand.shrinks_plain (.of_holds (by rw [Condition.pages]; exact stable_nil) _))
  | .logical op' left right => by
    have hsides := (Condition.shrinkAll_operands op' left).append
      (Condition.shrinkAll_operands op' right)
    rw [← stable_append, ← List.flatMap_append] at hsides
    rw [Condition.operands, Condition.spine, Condition.pages]
    by_cases h : op' = op
    · rw [if_pos h, if_pos h, ← h]
      exact hsides
    · -- either side gives an operand at least, so the join of all is a chain in parentheses again
      obtain ⟨d, ds, hleft⟩ := List.exists_cons_of_ne_nil (left.spine_ne_nil op')
      have hmore : ds ++ right.spine op' ≠ [] :=
        List.append_ne_nil_of_right_ne_nil ds (right.spine_ne_nil op')
      have hchain := hsides.chain op'
      rw [hleft, List.cons_append, List.flatMap_cons] at hchain
      rw [if_neg h, if_neg h, hleft, List.cons_append, Connective.fold, Option.toList_some,
        List.flatMap_singleton, Condition.operands_foldl_of_ne h d hmore]
      exact .single (Operand.shrinks_grouped hchain)
  | .hasElement query => by
    rw [Condition.spine, List.flatMap_singleton, Condition.operands, Condition.operands,
      Condition.pages]
    exact .single (Operand.shrinks_plain ((Query.shrinks_render query).append_left "."))
  | .relative distance condition => by
    have htarget := Condition.shrinks_renderTarget condition
    rw [Condition.spine, List.flatMap_singleton, Condition.operands, Condition.operands,
      Condition.pages]
    exact .single (Operand.shrinks_plain ((htarget.append_left _).append_right ")"))

theorem Condition.shrinks_renderTarget : ∀ condition : Option Condition,
    Shrinks (Stable (Condition.pagesOfOption condition)) (Condition.renderTarget condition)
      (Condition.renderTarget (Condition.normalTarget condition))
  | none => by
    rw [Condition.normalTarget, Condition.pagesOfOption]
    exact .of_holds stable_nil _
  | some c => by
    rw [Condition.normalTarget, Condition.renderTarget_fold (c.spine_ne_nil .and),
      Condition.renderTarget, Condition.pagesOfOption]
    exact (Condition.shrinkAll_operands .and c).chain .and

theorem Condition.shrinkAll_conjuncts : ∀ condition : Option Condition,
    ShrinkAll (Stable (Condition.pagesOfOption condition)) (Condition.conjuncts condition)
      ((Condition.spineOption condition).flatMap (Condition.operands .and))
  | none => by
    rw [Condition.conjuncts, Condition.spineOption, Condition.pagesOfOption, eq_true stable_nil]
    exact .nil
  | some c => by
    rw [Condition.conjuncts, Condition.spineOption, Condition.pagesOfOption]
    exact Condition.shrinkAll_operands .and c

theorem Part.shrinks_render : ∀ p : Part,
    Shrinks (Stable p.pages) (p.render none) (Element.renderAll p.steps)
  | .identity => by
    rw [Part.steps, Element.renderAll_ofScope, Part.pages]
    exact .of_holds stable_nil _
  | .ancestors maxDepth includeSelf => by
    rw [Part.steps, Element.renderAll_ofScope, Part.pages]
    exact .of_holds stable_nil _
  | .descendants maxDepth includeSelf => by
    rw [Part.steps, Element.renderAll_ofScope, Part.pages]
    exact .of_holds stable_nil _
  | .composite e => by
    rw [Part.steps, Part.render, Part.pages]
    exact Element.shrinks_render e

theorem Part.shrinks_renderTest (test : String) : ∀ p : Part,
    Shrinks (Stable p.pages) (p.render (some test))
      (Element.renderAll p.front ++ Part.renderScope test [Part.lastWalk [p]])
  | .identity => by
    rw [Part.front, Element.renderAll_nil, String.empty_append, Part.pages]
    exact .of_holds stable_nil _
  | .ancestors maxDepth includeSelf => by
    rw [Part.front, Element.renderAll_nil, String.empty_append, Part.pages]
    exact .of_holds stable_nil _
  | .descendants maxDepth includeSelf => by
    rw [Part.front, Element.renderAll_nil, String.empty_append, Part.pages]
    exact .of_holds stable_nil _
  | .composite e => by
    have he := (Element.shrinks_render e).append_right ("/self::" ++ test)
    rw [Part.front, Part.render, Part.pages, String.append_assoc]
    exact he

theorem Part.shrinks_renderPath : ∀ ps : List Part,
    Shrinks (Stable (Part.pagesOfList ps)) (Part.renderPath ps)
      (Element.renderAll (Part.stepsList ps))
  | [] => by
    rw [Part.stepsList, Element.renderAll_nil, Part.renderPath, Part.pagesOfList]
    exact .of_holds stable_nil _
  | p :: ps => by
    rw [Part.stepsList, Element.renderAll_append, Part.renderPath, Part.pagesOfList, stable_append]
    exact (Part.shrinks_render p).append (Part.shrinks_renderPath ps)

theorem Part.shrinks_renderScope (test : String) : ∀ ps : List Part,
    Shrinks (Stable (Part.pagesOfList ps)) (Part.renderScope test ps)
      (Element.renderAll (Part.frontList ps) ++ Part.renderScope test [Part.lastWalk ps])
  | [] => by
    rw [Part.frontList, Element.renderAll_nil, String.empty_append, Part.pagesOfList]
    exact .of_holds stable_nil _
  | [p] => by
    rw [Part.frontList, Part.renderScope, Part.pagesOfList, Part.pagesOfList, List.append_nil]
    exact Part.shrinks_renderTest test p
  | p :: p' :: ps => by
    have hmore := Part.shrinks_renderScope test (p' :: ps)
    rw [Part.frontList_cons_cons, Part.lastWalk_cons_cons, Element.renderAll_append,
      String.append_assoc, Part.renderScope, Part.pagesOfList, stable_append]
    exact (Part.shrinks_render p).append hmore

theorem Element.shrinks_render : ∀ e : Element,
    Shrinks (Stable e.pages) e.render (Element.renderAll (e.front ++ [e.last]))
  | ⟨condition, scope, skip, take⟩ => by
    have hscope := Part.shrinks_renderScope ((condition.bind Condition.nodeTest?).getD "*") scope
    have hrest := (Condition.shrinkAll_drop_testCount condition
      (Condition.shrinkAll_conjuncts condition)).restText
    have hall := hscope.append (hrest.append (shrinks_pageText skip take))
    rw [← stable_singleton, ← stable_append, ← stable_append, String.append_assoc] at hall
    rw [Element.renderAll_append, Element.renderAll_singleton, Element.last_eq, Element.render_eq,
      Element.render_eq, Condition.nodeTest?_normalOption, Condition.testCount_normalOption,
      Condition.conjuncts_normalOption, Element.front, Element.pages]
    exact hall

theorem Query.shrinks_render : ∀ q : Query, Shrinks (Stable q.pages) q.render q.normal.render
  | ⟨path, element⟩ => by
    rw [Query.normal, Query.render, Query.render, Query.pages, stable_append]
    have helement := Element.shrinks_render element
    rw [Element.renderAll_append, Element.renderAll_singleton] at helement
    have hpath := (Part.shrinks_renderPath path).append helement
    rw [← String.append_assoc, ← Element.renderAll_append] at hpath
    exact hpath

end

/-- A query and its normal form are written in the same way just if all pages are stable. -/
theorem Query.render_normal_eq_iff (q : Query) : q.normal.render = q.render ↔ Stable q.pages := by
  have hshrinks := Query.shrinks_render q
  constructor
  · intro hsame
    rw [hsame] at hshrinks
    exact hshrinks.holds
  · exact hshrinks.kept

end ControlQuery

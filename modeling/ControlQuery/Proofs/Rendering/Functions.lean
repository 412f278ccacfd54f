import ControlQuery.Proofs.CPath.Published
import ControlQuery.Proofs.CPath.Quotes
import ControlQuery.Proofs.Rendering.RoundTrip

/-!
# Queries with functions are not read back

A function condition has no form in the grammar, and its name is written as it is, whatever it
contains. But the text in front of the name is that of a call, which stands outside quotes, and no
text that can be derived has one there. So the text of a query with a function is refused, however
the name goes on.
-/

namespace ControlQuery

open CPath

/-! ## Texts that hold a call -/

/-- Reading the text from outside quotes does not end between quotes, and it meets a call on the way
if the flag is set. -/
def Calls (b : Bool) (s : String) : Prop :=
  ∀ a, (Scan.outside a).run s.toList = .called ∨
    b = false ∧ ∃ a', (Scan.outside a).run s.toList = .outside a'

section Calls

variable {b b' : Bool} {s s' : String}

lemma Calls.append (h : Calls b s) (h' : Calls b' s') : Calls (b || b') (s ++ s') := by
  intro a
  rw [String.toList_append, Scan.run_append]
  rcases h a with hrun | ⟨rfl, a', hrun⟩
  · rw [hrun]
    exact .inl Scan.run_called
  · rw [hrun]
    exact h' a'

lemma Calls.append_plain (h : Calls b s) (h' : Calls false s') : Calls b (s ++ s') := by
  have := h.append h'
  rwa [Bool.or_false] at this

lemma Calls.plain_append (h : Calls false s) (h' : Calls b s') : Calls b (s ++ s') :=
  h.append h'

/-- Whether a character is a quote. -/
def isQuote (c : Char) : Bool :=
  c == '\'' || c == '"'

/-- Whether the text holds no quotes. -/
def quoteless (s : String) : Bool :=
  s.toList.all fun c => !isQuote c

lemma quoteless_append : quoteless (s ++ s') = (quoteless s && quoteless s') := by
  unfold quoteless
  rw [String.toList_append, List.all_append]

lemma calls_of_quoteless (h : quoteless s = true) : Calls false s := by
  have hrun : ∀ (cs : List Char) (a : Bool), cs.all (fun c => !isQuote c) = true →
      (Scan.outside a).run cs = .called ∨ ∃ a', (Scan.outside a).run cs = .outside a' := by
    intro cs
    induction cs with
    | nil => exact fun a _ => .inr ⟨a, rfl⟩
    | cons c cs ih =>
      intro a hcs
      rw [List.all_cons, Bool.and_eq_true] at hcs
      have hc : ¬(c = '\'' ∨ c = '"') := by simpa [isQuote] using hcs.1
      rw [Scan.run, List.foldl_cons, Scan.step, if_neg hc]
      split
      · exact .inl Scan.run_called
      · exact ih _ hcs.2
  exact fun a => (hrun _ a h).imp id fun h => ⟨rfl, h⟩

lemma calls_quote (s : String) : Calls false (Quoted.quote '\'' s) := by
  refine fun a => .inr ⟨rfl, false, ?_⟩
  have hrun : (Scan.outside a).run (['\''] ++ Quoted.encode '\'' s.toList ++ ['\'']) =
      .outside false :=
    Scan.run_quoted (by simp) (Quoted.isBody_encode '\'' s.toList)
  rw [Quoted.quote, String.toList_append, String.toList_append, String.toList_singleton,
    String.toList_ofList]
  exact hrun

/-- The text of a function begins with a call, and what the name makes of it is of no account. -/
lemma calls_function (name : String) : Calls true ("fn('" ++ name ++ "')") := by
  intro a
  have hcall : (Scan.outside a).run "fn(".toList = .called := by
    cases a <;> decide
  have htext : ("fn('" ++ name ++ "')").toList = "fn(".toList ++ ("'" ++ name ++ "')").toList := by
    simp
  rw [htext, Scan.run_append, hcall]
  exact .inl Scan.run_called

/-! ## Tokens -/

lemma quoteless_of_isRun {p q : Char → Bool} (h : IsRun p q s.toList)
    (hp : ∀ c, p c = true → Scan.isPlain c = true) (hq : ∀ c, q c = true → Scan.isPlain c = true) :
    quoteless s = true := by
  refine List.all_eq_true.mpr fun c hc => ?_
  have hplain := h.isPlain hp hq c hc
  simp only [Scan.isPlain, Bool.and_eq_true, bne_iff_ne, ne_eq] at hplain
  simp [isQuote, hplain.1]

lemma quoteless_toString (n : Nat) : quoteless (toString n) = true :=
  quoteless_of_isRun (Digits.isRun_toString n) (fun _ => Scan.isPlain_of rfl rfl rfl) fun _ =>
    Scan.isPlain_of rfl rfl rfl

lemma quoteless_toString_int (n : Int) : quoteless (toString n) = true := by
  rw [Int.toString_eq_repr, Int.repr_eq_if]
  split
  · exact quoteless_toString _
  · rw [quoteless_append]
    exact quoteless_toString _

lemma quoteless_of_isIdentifier (h : isIdentifier s = true) : quoteless s = true :=
  quoteless_of_isRun (isRun_of_isIdentifier h) (fun _ => Scan.isPlain_of rfl rfl rfl) fun _ =>
    Scan.isPlain_of rfl rfl rfl

lemma calls_literal (v : PropertyValue) : Calls false v.literal := by
  cases v with
  | bool b => exact calls_of_quoteless (by cases b <;> decide)
  | int n => exact calls_of_quoteless (quoteless_toString_int _)
  | str s => exact calls_quote s

lemma calls_comparison [Regex.Engine] (c : PropertyCondition) : Calls false c.render := by
  unfold PropertyCondition.render
  have hname := quoteless_of_isIdentifier c.property.isIdentifier_text
  have hfront : quoteless ("@" ++ c.property.text ++ (if c.options.negated then "!" else "") ++
      c.comparison.sign) = true := by
    simp only [quoteless_append, hname, Bool.and_true, Bool.and_eq_true]
    refine ⟨⟨rfl, ?_⟩, ?_⟩
    · split <;> rfl
    · unfold Comparison.sign
      split <;> rfl
  have hflag : quoteless (if c.options.ignoreCase then " i" else "") = true := by
    split <;> rfl
  exact ((calls_of_quoteless hfront).append_plain (calls_literal _)).append_plain
    (calls_of_quoteless hflag)

lemma quoteless_axisText (name : String) (depth : Option Count) :
    quoteless (axisText name depth) = quoteless name := by
  cases depth with
  | none => rfl
  | some n =>
    have hopen : quoteless "\x7b" = true := rfl
    have hclose : quoteless "\x7d" = true := rfl
    simp only [axisText, quoteless_append, quoteless_toString, hopen, hclose, Bool.and_true]

lemma quoteless_ancestorsStep (maxDepth : Option Count) (includeSelf : Bool) {test : String}
    (h : quoteless test = true) : quoteless (ancestorsStep maxDepth includeSelf test) = true := by
  unfold ancestorsStep
  split_ifs <;>
  · simp only [quoteless_append, quoteless_axisText, h]
    rfl

lemma quoteless_descendantsStep (maxDepth : Option Count) (includeSelf : Bool) {test : String}
    (h : quoteless test = true) : quoteless (descendantsStep maxDepth includeSelf test) = true := by
  unfold descendantsStep
  split_ifs <;>
  · simp only [quoteless_append, quoteless_axisText, h]
    rfl

lemma quoteless_pageText (skip take : Option Count) : quoteless (pageText skip take) = true := by
  unfold pageText
  split
  · rfl
  · dsimp only
    split
    · split_ifs <;>
      · simp only [quoteless_append, quoteless_toString]
        rfl
    · simp only [quoteless_append, quoteless_toString]
      rfl

lemma quoteless_distance (d : Distance) : quoteless d.render = true := by
  cases d with
  | up n =>
    rw [Distance.render, quoteless_append, quoteless_toString]
    rfl
  | down n => exact quoteless_toString _
  | any n =>
    rw [Distance.render, quoteless_append, quoteless_toString]
    rfl

variable [Regex.Engine]

/-- The node test of a condition is an identifier. -/
lemma quoteless_nodeTest (condition : Option Condition) :
    quoteless ((condition.bind Condition.nodeTest?).getD "*") = true := by
  cases h : condition.bind Condition.nodeTest? with
  | none => rfl
  | some name =>
    obtain ⟨c, rfl, hc⟩ := Option.bind_eq_some_iff.mp h
    exact quoteless_of_isIdentifier (Condition.exists_spine_of_nodeTest? hc).1

end Calls

/-! ## Chains -/

/-- Both forms of the operand hold a call if the flag is set. -/
structure Operand.Calls (b : Bool) (x : Operand) : Prop where
  alone : ControlQuery.Calls b x.alone
  inside : ControlQuery.Calls b x.inside

lemma Operand.calls_plain {b : Bool} {s : String} (h : ControlQuery.Calls b s) :
    (Operand.plain s).Calls b :=
  ⟨h, h⟩

lemma Operand.calls_grouped {b : Bool} {s : String} (h : ControlQuery.Calls b s) :
    (Operand.grouped s).Calls b :=
  ⟨h, (ControlQuery.Calls.plain_append (calls_of_quoteless rfl) h).append_plain
    (calls_of_quoteless rfl)⟩

section Engine

variable [Regex.Engine]

/-- For each operand that the condition writes in a chain of the connective, whether it holds a
function. -/
def Condition.flags (op : Connective) : Condition → List Bool
  | .property _ => [false]
  | .function _ => [true]
  | .logical op' left right =>
    if op' = op then left.flags op ++ right.flags op else [left.hasFunction || right.hasFunction]
  | .hasElement query => [query.hasFunction]
  | .relative _ condition => [Condition.hasFunctionOption condition]

lemma Condition.any_flags (op : Connective) : ∀ c : Condition,
    (c.flags op).any id = c.hasFunction
  | .logical op' left right => by
    rw [Condition.flags, Condition.hasFunction]
    split_ifs
    · rw [List.any_append, left.any_flags op, right.any_flags op]
    · rw [List.any_cons, List.any_nil, Bool.or_false, id]
  | .property condition => by simp [Condition.flags, Condition.hasFunction]
  | .function condition => by simp [Condition.flags, Condition.hasFunction]
  | .hasElement query => by simp [Condition.flags, Condition.hasFunction]
  | .relative distance condition => by simp [Condition.flags, Condition.hasFunction]

/-- The operand that becomes the node test is no function. -/
lemma Condition.exists_flags_of_nodeTest? {name : String} : ∀ {c : Condition},
    c.nodeTest? = some name → ∃ bs, c.flags .and = false :: bs
  | .property condition, _ => ⟨[], by rw [Condition.flags]⟩
  | .logical .and left right, h => by
    rw [Condition.nodeTest?] at h
    obtain ⟨bs, hbs⟩ := Condition.exists_flags_of_nodeTest? h
    refine ⟨bs ++ right.flags .and, ?_⟩
    rw [Condition.flags, if_pos rfl, hbs, List.cons_append]
  | .logical .or left right, h => by cases h
  | .function condition, h => by cases h
  | .hasElement query, h => by cases h
  | .relative distance condition, h => by cases h

end Engine

section Chains

variable {op : Connective} {bs : List Bool} {xs : List Operand}

lemma calls_more (h : List.Forall₂ Operand.Calls bs xs) :
    Calls (bs.any id) (op.more (xs.map Operand.inside)) := by
  induction h with
  | nil => exact calls_of_quoteless rfl
  | cons hx _ ih =>
    have hkeyword : quoteless op.keyword = true := by
      cases op <;> rfl
    rw [List.any_cons, List.map_cons, Connective.more]
    exact (calls_of_quoteless rfl).plain_append ((calls_of_quoteless hkeyword).plain_append
      ((calls_of_quoteless rfl).plain_append (hx.inside.append ih)))

/-- A chain holds the calls of its operands. -/
lemma calls_chain (h : List.Forall₂ Operand.Calls bs xs) : Calls (bs.any id) (op.chain xs) := by
  cases h with
  | nil => exact calls_of_quoteless rfl
  | cons hx hxs =>
    cases hxs with
    | nil =>
      rw [List.any_cons, List.any_nil, Bool.or_false]
      exact hx.alone
    | cons hy hys =>
      rw [List.any_cons, Connective.chain, List.map_cons, Connective.join_cons]
      · exact hx.inside.append (calls_more (.cons hy hys))
      · simp

end Chains

lemma calls_restText {bs : List Bool} {xs : List Operand} (h : List.Forall₂ Operand.Calls bs xs) :
    Calls (bs.any id) (restText xs) := by
  unfold restText
  cases h with
  | nil => exact calls_of_quoteless rfl
  | cons hx hxs =>
    exact ((calls_of_quoteless rfl).plain_append (calls_chain (.cons hx hxs))).append_plain
      (calls_of_quoteless rfl)

/-! ## Queries -/

section Engine

variable [Regex.Engine]

mutual

theorem Condition.calls_operands (op : Connective) : ∀ c : Condition,
    List.Forall₂ Operand.Calls (c.flags op) (c.operands op)
  | .property condition => by
    rw [Condition.operands, Condition.flags]
    exact .cons (Operand.calls_plain (calls_comparison condition)) .nil
  | .function condition => by
    rw [Condition.operands, Condition.flags]
    exact .cons (Operand.calls_plain (calls_function condition.name)) .nil
  | .logical op' left right => by
    have hsides := List.rel_append (Condition.calls_operands op' left)
      (Condition.calls_operands op' right)
    rw [Condition.operands, Condition.flags]
    by_cases heq : op' = op
    · rw [if_pos heq, if_pos heq, ← heq]
      exact hsides
    · have hchain : Calls ((left.flags op' ++ right.flags op').any id)
          (op'.chain (left.operands op' ++ right.operands op')) := calls_chain hsides
      rw [List.any_append, left.any_flags, right.any_flags] at hchain
      rw [if_neg heq, if_neg heq]
      exact .cons (Operand.calls_grouped hchain) .nil
  | .hasElement query => by
    rw [Condition.operands, Condition.flags]
    exact .cons (Operand.calls_plain ((calls_of_quoteless rfl).plain_append
      (Query.calls_render query))) .nil
  | .relative distance condition => by
    rw [Condition.operands, Condition.flags]
    have hfront : quoteless ("relative(" ++ distance.render ++ ", ") = true := by
      rw [quoteless_append, quoteless_append, quoteless_distance]
      rfl
    exact .cons (Operand.calls_plain (((calls_of_quoteless hfront).plain_append
      (Condition.calls_renderTarget condition)).append_plain (calls_of_quoteless rfl))) .nil

theorem Condition.calls_renderTarget : ∀ c : Option Condition,
    Calls (Condition.hasFunctionOption c) (Condition.renderTarget c)
  | none => by
    rw [Condition.hasFunctionOption, Condition.renderTarget]
    exact calls_of_quoteless rfl
  | some c => by
    rw [Condition.hasFunctionOption, Condition.renderTarget, ← c.any_flags .and]
    exact calls_chain (Condition.calls_operands .and c)

theorem Part.calls_render : ∀ (p : Part) {test : Option String},
    quoteless (test.getD "*") = true → Calls p.hasFunction (p.render test)
  | .identity, test, h => by
    rw [Part.hasFunction, Part.render]
    exact (calls_of_quoteless rfl).plain_append (calls_of_quoteless h)
  | .ancestors maxDepth includeSelf, test, h => by
    rw [Part.hasFunction, Part.render]
    exact calls_of_quoteless (quoteless_ancestorsStep maxDepth includeSelf h)
  | .descendants maxDepth includeSelf, test, h => by
    rw [Part.hasFunction, Part.render]
    exact calls_of_quoteless (quoteless_descendantsStep maxDepth includeSelf h)
  | .composite element, none, _ => by
    rw [Part.hasFunction, Part.render]
    exact Element.calls_render element
  | .composite element, some test, h => by
    rw [Part.hasFunction, Part.render]
    exact ((Element.calls_render element).append_plain (calls_of_quoteless rfl)).append_plain
      (calls_of_quoteless h)

theorem Part.calls_renderPath : ∀ ps : List Part,
    Calls (Part.hasFunctionList ps) (Part.renderPath ps)
  | [] => calls_of_quoteless rfl
  | p :: ps => by
    rw [Part.hasFunctionList, Part.renderPath]
    exact (Part.calls_render p rfl).append (Part.calls_renderPath ps)

theorem Part.calls_renderScope {test : String} (h : quoteless test = true) : ∀ ps : List Part,
    Calls (Part.hasFunctionList ps) (Part.renderScope test ps)
  | [] => (calls_of_quoteless rfl).plain_append (calls_of_quoteless h)
  | [p] => by
    rw [Part.hasFunctionList, Part.hasFunctionList, Bool.or_false, Part.renderScope]
    exact Part.calls_render p h
  | p :: p' :: ps => by
    rw [Part.hasFunctionList, Part.renderScope]
    · exact (Part.calls_render p rfl).append (Part.calls_renderScope h (p' :: ps))
    · simp

theorem Condition.calls_conjuncts : ∀ c : Option Condition,
    ∃ bs, bs.any id = Condition.hasFunctionOption c ∧ List.Forall₂ Operand.Calls bs
      ((Condition.conjuncts c).drop (Condition.testCount c))
  | none => ⟨[], rfl, by rw [Condition.conjuncts, List.drop_nil]; exact .nil⟩
  | some c => by
    have hoperands := Condition.calls_operands .and c
    rw [Condition.hasFunctionOption, Condition.conjuncts, Condition.testCount, Option.bind_some,
      ← c.any_flags .and]
    cases h : c.nodeTest? with
    | none => exact ⟨_, rfl, hoperands⟩
    | some name =>
      obtain ⟨bs, hbs⟩ := Condition.exists_flags_of_nodeTest? h
      rw [hbs] at hoperands ⊢
      exact ⟨bs, by rw [List.any_cons, id, Bool.false_or], List.forall₂_drop 1 hoperands⟩

theorem Element.calls_render : ∀ e : Element, Calls e.hasFunction e.render
  | ⟨condition, scope, skip, take⟩ => by
    obtain ⟨bs, hbs, hconjuncts⟩ := Condition.calls_conjuncts condition
    have hrest : Calls (Condition.hasFunctionOption condition)
        (restText ((Condition.conjuncts condition).drop (Condition.testCount condition))) := by
      rw [← hbs]
      exact calls_restText hconjuncts
    rw [Element.render_eq, Element.hasFunction, Bool.or_comm]
    exact (Part.calls_renderScope (quoteless_nodeTest condition) scope).append
      (hrest.append_plain (calls_of_quoteless (quoteless_pageText skip take)))

theorem Query.calls_render : ∀ q : Query, Calls q.hasFunction q.render
  | ⟨path, element⟩ => by
    rw [Query.hasFunction, Query.render]
    exact (Part.calls_renderPath path).append (Element.calls_render element)

end

namespace Query

lemma not_derives_render {q : Query} (h : q.hasFunction = true) : ¬ ∃ ss, Derives q.render ss := by
  rintro ⟨ss, hss⟩
  obtain ⟨b, hb⟩ := hss.run_eq_outside
  rcases q.calls_render false with hrun | ⟨hfunction, -⟩
  · rw [hb] at hrun
    cases hrun
  · rw [h] at hfunction
    cases hfunction

/-- The canonical text of a query that holds a function anywhere is refused as no path. -/
theorem parse_render_of_hasFunction {q : Query} (h : q.hasFunction = true) :
    ∃ place expected, parse q.render = .error (.unexpected place expected) :=
  parse_of_not_derives (not_derives_render h)

end Query

end Engine

/-- A function whose name goes on as a condition would. -/
theorem Query.parse_render_of_hasFunction_nested :
    let f : Condition := .function { name := "') or .//*[@Name='", predicate := 0 }
    let name : Condition := .property (.equals .name (.str "it's"))
    let q : Query :=
      { path := [.composite
          { condition := some (.or name (.relative (.up 2) (some f)))
            scope := [.descendants none false] }]
        element := {} }
    q.hasFunction = true ∧
      q.render = "//*[@Name='it\\'s' or relative(-2, fn('') or .//*[@Name=''))]/self::*" ∧
      ∃ place expected, parse q.render = .error (.unexpected place expected) := by
  intro f name q
  have hfunction : q.hasFunction = true := by decide
  exact ⟨hfunction, by decide +kernel, parse_render_of_hasFunction hfunction⟩

end ControlQuery

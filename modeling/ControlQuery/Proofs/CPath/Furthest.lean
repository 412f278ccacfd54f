import ControlQuery.Proofs.CPath.Continuation
import ControlQuery.Proofs.CPath.Published

/-!
# A syntax error is not reported too late

Rules are also tried on branches that are given up later: an axis name that turns out to be the name
of a control type, a slice that turns out to be a position. Still, each rule is tried at a place
where something that the grammar allows can be written, so the text up to the furthest failure is
the beginning of a text that can be derived.
-/

namespace ControlQuery.CPath

open Reader

/-! ## Rules without nested conditions -/

section Tokens

variable {text : String} {i j : Input} {K : Input → Prop}

lemma Awaits.token {s : String} {u : Unit} (h : Awaits text i (Before (Word s) K))
    (hs : MayRead (token s) i u j) : Awaits text j K :=
  h.read (Word.portable hs.token)

lemma Awaits.blanks {u : Unit} (h : Awaits text i (Before Gap K)) (hgap : MayRead blanks i u j) :
    Awaits text j K :=
  h.read (gap_of_mayRead_blanks hgap).1.portable

lemma Awaits.separator {sep : Separator} (h : Awaits text i (Before (Word sep.text) K))
    (hsep : MayRead separator i sep j) : Awaits text j K :=
  h.read (Word.portable (word_of_mayRead_separator hsep))

lemma careful_identifier (hi : Viable text i) : Careful text identifier i :=
  .rule hi careful_run.lexeme

lemma careful_separator (hi : Viable text i) : Careful text separator i := by
  refine .rule hi (.firstOf ?_)
  simp only [List.mem_cons, List.not_mem_nil, or_false]
  rintro p (rfl | rfl) <;> exact careful_token.bind fun _ _ _ => careful_pure

lemma careful_parentStep (hi : Viable text i) : Careful text parentStep i :=
  .rule hi careful_token

lemma careful_selfStep (hi : Viable text i) : Careful text selfStep i :=
  .rule hi careful_token

lemma careful_axis (hK : Closable K) (hi : Viable text i)
    (h : Awaits text i (Before (Derived AxisText) K)) : Careful text axis i := by
  refine Careful.rule hi ((Careful.rule hi careful_run.lexeme).bind fun name j hname =>
    Careful.bind (.optional ?_) fun _ _ _ => careful_pure)
  obtain ⟨hs, hr, -⟩ := spans_isRun_of_mayRead hname.rule
  have hname : AxisNameText i name j := ⟨hs, hr⟩
  have hplain : Awaits text i (Before (Derived AxisNameText) K) :=
    h.mono fun ⟨_, ⟨_, name⟩, hk⟩ => ⟨_, ⟨_, .plain name⟩, hk⟩
  have hlimited : Awaits text i (Before (Derived AxisNameText)
      (Before (Word "\x7b") (Before (Derived DigitsText) (Before (Word "\x7d") K)))) :=
    h.mono fun ⟨_, ⟨_, name⟩, _, opening, _, ⟨_, depth⟩, _, closing, hk⟩ =>
      ⟨_, ⟨_, .limited name opening depth closing⟩, hk⟩
  refine Careful.rule ((hplain.read hname.portable.derived).viable hK)
    (careful_token.bind fun _ k hopen => ?_)
  have hdepth : Viable text k := (hlimited.read hname.portable.derived).viable_word hopen.token rfl
    rfl hK.possible.word.digits
  exact (Careful.rule hdepth careful_run.lexeme).bind fun _ _ _ =>
    careful_token.bind fun _ _ _ => careful_pure

lemma closable_nodeTest (hK : Closable K) : Closable (Before (Derived NodeTestText) K) :=
  (Closable.of_word (s := "*") hK.possible rfl rfl).mono fun ⟨_, star, hk⟩ =>
    ⟨_, ⟨_, .any star⟩, hk⟩

lemma careful_nodeTest (hi : Viable text i) : Careful text nodeTest i := by
  refine .firstOf ?_
  simp only [List.mem_cons, List.not_mem_nil, or_false]
  rintro p (rfl | rfl)
  · exact (Careful.rule hi careful_token).bind fun _ _ _ => careful_pure
  · exact (careful_identifier hi).bind fun _ _ _ => careful_pure

lemma careful_operator (hi : Viable text i) : Careful text operator i := by
  refine .rule hi (.firstOf ?_)
  simp only [List.mem_cons, List.not_mem_nil, or_false]
  rintro p (rfl | rfl | rfl | rfl | rfl | rfl) <;>
    exact careful_token.bind fun _ _ _ => careful_pure

lemma closable_literal (hK : Possible K) : Closable (Before (Derived LiteralText) K) := by
  refine (Closable.of_word (s := "''") (c := '\'') hK rfl rfl).mono fun ⟨_, quotes, hk⟩ => ?_
  have quotes : Piece _ (['\''] ++ ['\'']) _ := quotes
  obtain ⟨j, opening, closing⟩ := quotes.split
  exact ⟨_, ⟨_, .string (by simp) opening (.of_piece .nil) .nil closing⟩, hk⟩

/-- The closing quote may stand right behind the opening one. -/
lemma careful_quoted {r : Rule} {q : Char} {s : String} (hs : s.toList = [q])
    (hq : q ∈ ['\'', '"']) (hident : isIdentChar q = false) (hK : Possible K)
    (h : Awaits text i (Before (Derived LiteralText) K)) : Careful text (quoted r q) i := by
  refine careful_satisfy.bind fun c j hc => ?_
  obtain ⟨hc, he⟩ := hc.satisfy
  rw [beq_iff_eq] at he
  rw [he, ← hs] at hc
  have hquotes : Awaits text i (Before (Word s) (Before (Word s) K)) := by
    refine h.mono fun ⟨_, opening, _, closing, hk⟩ => ?_
    unfold Word at opening closing
    rw [hs] at opening closing
    exact ⟨_, ⟨_, .string hq opening (.of_piece .nil) .nil closing⟩, hk⟩
  have hclosing : Closable (Before (Word s) K) :=
    .of_word hK (by rw [hs]; rfl) hident
  refine (Careful.rule ((hquotes.read (Word.portable hc)).viable hclosing) ?_).bind fun _ _ _ =>
    careful_satisfy.bind fun _ _ _ => careful_pure
  refine .lexeme (.many fun _ => .firstOf ?_)
  simp only [List.mem_cons, List.not_mem_nil, or_false]
  rintro p (rfl | rfl)
  · exact careful_satisfy.bind fun _ _ _ => careful_satisfy.bind fun _ _ _ => careful_pure
  · exact careful_satisfy.bind fun _ _ _ => careful_pure

lemma careful_literal (hK : Possible K) (h : Awaits text i (Before (Derived LiteralText) K)) :
    Careful text literal i := by
  have hi : Viable text i := h.viable (closable_literal hK)
  refine .firstOf ?_
  simp only [List.mem_cons, List.not_mem_nil, or_false]
  rintro p (rfl | rfl | rfl)
  · refine (Careful.rule hi (.withLexeme (.firstOf ?_))).bind fun _ _ _ => careful_pure
    simp only [List.mem_cons, List.not_mem_nil, or_false]
    rintro p (rfl | rfl)
    · exact careful_quoted (s := "'") rfl (by simp) rfl hK h
    · exact careful_quoted (s := "\"") rfl (by simp) rfl hK h
  · refine (Careful.rule hi (.withLexeme (.bind (.firstOf ?_) fun _ _ _ =>
      careful_notBefore.bind fun _ _ _ => careful_pure))).bind fun _ _ _ => careful_pure
    simp only [List.mem_cons, List.not_mem_nil, or_false]
    rintro p (rfl | rfl) <;> exact careful_token.bind fun _ _ _ => careful_pure
  · exact (Careful.rule hi (.lexeme (.bind (.optional careful_token) fun _ _ _ =>
      careful_run))).bind fun _ _ _ => careful_pure

lemma careful_comparison (hK : Goal K) (hi : Viable text i)
    (h : Awaits text i (Before (Derived ComparisonText) K)) : Careful text comparison i := by
  have hflag : Closable (Before (Derived CaseFlagText) K) :=
    hK.closable.mono fun hk => ⟨_, ⟨_, .absent⟩, hk⟩
  have hvalue := closable_literal hflag.gap.possible
  have hoperator : Closable (Before (Derived fun i (o : Operator) j => Word o.text i j) (Before Gap
      (Before (Derived LiteralText) (Before Gap (Before (Derived CaseFlagText) K))))) :=
    (Closable.of_word (s := "=") hvalue.gap.possible rfl rfl).mono fun ⟨_, sign, hk⟩ =>
      ⟨_, ⟨⟨false, .equals⟩, sign⟩, hk⟩
  have h : Awaits text i (Before (Word "@") (Before (Derived IdentifierText) (Before Gap
      (Before (Derived fun i (o : Operator) j => Word o.text i j) (Before Gap
        (Before (Derived LiteralText) (Before Gap (Before (Derived CaseFlagText) K)))))))) :=
    h.mono fun ⟨_, sign, _, ⟨_, property⟩, _, gap, _, ⟨_, operator⟩, _, gap', _, ⟨_, literal⟩, _,
      gap'', _, ⟨_, flag⟩, hk⟩ =>
      ⟨_, ⟨_, .intro sign property gap operator gap' literal gap'' flag⟩, hk⟩
  refine .rule hi ((Careful.rule hi (careful_token.bind fun _ j hsign => careful_identifier
    (h.viable_word hsign.token rfl rfl hoperator.gap.identifier))).bind fun _ k hproperty => ?_)
  obtain ⟨_, _, hsign, hname⟩ := hproperty.rule.bind
  have h := (h.token hsign).read
    (identifierText_of_mayRead hname).portable.derived
  refine careful_blanks.bind fun _ l hgap => ?_
  have h := h.blanks hgap
  refine (careful_operator (h.viable hoperator)).bind fun o m ho => ?_
  have h := h.read ((Word.portable (word_of_mayRead_operator ho)).mono fun word => ⟨o, word⟩)
  refine careful_blanks.bind fun _ n hgap' => ?_
  have h := h.blanks hgap'
  refine (careful_literal hflag.gap.possible h).bind fun v o hv => ?_
  have h := h.read (literalText_of_mayRead hv).portable.derived
  refine careful_blanks.bind fun _ p hgap'' => ?_
  have h := h.blanks hgap''
  exact (Careful.optional (.rule (h.viable hflag) (careful_token.bind fun _ _ _ =>
    careful_notBefore))).bind fun _ _ _ => careful_pure

lemma closable_distance (hK : Possible K) : Closable (Before (Derived DistanceText) K) := by
  refine (Closable.of_word (s := "~") hK.digits rfl rfl).mono ?_
  rintro i ⟨_, sign, _, ⟨_, digits⟩, hk⟩
  obtain ⟨cs, whole⟩ := sign.reaches.trans digits.spans.reaches
  exact ⟨_, ⟨_, .intro (.any sign) digits (.of_piece whole)⟩, hk⟩

lemma careful_distance (hi : Viable text i) : Careful text distance i := by
  refine .rule hi (.bind (.withLexeme (.bind (.optional (.firstOf ?_)) fun _ _ _ =>
    (Careful.lexeme careful_run).bind fun _ _ _ => careful_pure)) fun _ _ _ => careful_pure)
  simp only [List.mem_cons, List.not_mem_nil, or_false]
  rintro p (rfl | rfl | rfl) <;> exact careful_token.bind fun _ _ _ => careful_pure

/-- The colon of a slice may be the last of it. -/
lemma careful_slice (hstops : i.Stops isBlank) (hi : Viable text i) (hK : Closable K)
    (h : Awaits text i (Before (Derived StartText) (Before (Word ":") (Before Gap K)))) :
    Careful text slice i := by
  refine .rule hi ((Careful.optional (.rule hi (.lexeme careful_run))).bind fun start j hstart =>
    careful_blanks.bind fun _ k hgap => careful_token.bind fun _ l hcolon =>
      careful_blanks.bind fun _ m hgap' => ?_)
  have hstart : StartText i start k := startText_of_mayRead hstart hgap hstops
  have h := ((h.read hstart.portable.derived).token hcolon).blanks hgap'
  exact (Careful.optional (.rule (h.viable hK) (.lexeme careful_run))).bind fun _ _ _ =>
    careful_pure

end Tokens

/-! ## Rules of conditions and steps -/

section Closable

variable {K : Input → Prop}

lemma closable_unary (hK : Closable K) : Closable (Before (Derived UnaryText) K) :=
  (Closable.of_word (s := ".") hK.possible rfl rfl).mono fun ⟨_, dot, hk⟩ =>
    ⟨_, ⟨_, .fromSelf dot .nil⟩, hk⟩

lemma closable_and (hK : Closable K) : Closable (Before (Derived AndText) K) :=
  (closable_unary hK).mono fun ⟨_, ⟨_, unary⟩, hk⟩ => ⟨_, ⟨_, .intro unary .nil⟩, hk⟩

lemma closable_or (hK : Closable K) : Closable (Before (Derived OrText) K) :=
  (closable_and hK).mono fun ⟨_, ⟨_, expr⟩, hk⟩ => ⟨_, ⟨_, .intro expr .nil⟩, hk⟩

lemma closable_target (hK : Closable K) : Closable (Before (Derived TargetText) K) :=
  (closable_or hK).mono fun ⟨_, ⟨_, expr⟩, hk⟩ => ⟨_, ⟨_, .expr expr⟩, hk⟩

lemma closable_step {sep : Separator} (hK : Closable K) :
    Closable (Before (Derived (StepText sep)) K) :=
  (closable_nodeTest hK).mono fun ⟨_, ⟨_, test⟩, hk⟩ => ⟨_, ⟨_, .plain test .nil⟩, hk⟩

lemma Goal.predicates (hK : Goal K) : Goal (Before (Derived PredicatesText) K) := by
  refine hK.row (fun _ => .nil) fun gap predicates => ?_
  cases predicates with
  | nil => exact .inr rfl
  | cons gap' predicate more => exact .inl (.cons (gap.trans gap') predicate more)

lemma Goal.steps (hK : Goal K) : Goal (Before (Derived StepsText) K) := by
  refine hK.row (fun _ => .nil) fun gap steps => ?_
  cases steps with
  | nil => exact .inr rfl
  | cons gap' separator gap'' step more =>
    exact .inl (.cons (gap.trans gap') separator gap'' step more)

lemma Goal.more {word : String} {rule : Input → Expr → Input → Prop} (hK : Goal K) :
    Goal (Before (Derived (MoreText word rule)) K) := by
  refine hK.row (fun _ => .nil) fun gap operands => ?_
  cases operands with
  | nil => exact .inr rfl
  | cons gap' keyword gap'' operand more =>
    exact .inl (.cons (gap.trans gap') keyword gap'' operand more)

end Closable

section Rules

variable {text : String} {expr : Reader Expr} (hread : ∀ i e j, MayRead expr i e j → OrText i e j)
  (hexpr : ∀ {i K}, Goal K → Awaits text i (Before (Derived OrText) K) → Careful text expr i)
  {i : Input} {K : Input → Prop}

include hexpr

/-- A predicate is a slice, or it may be any condition. A position is never tried further on. -/
lemma careful_predicate (hK : Goal K) (hi : Viable text i)
    (h : Awaits text i (Before (Derived PredicateText) K)) :
    Careful text (predicate expr) i := by
  have hclose : Goal (Before Gap (Before (Word "]") K)) := .of_word hK.closable.possible rfl rfl
  have hslice : Awaits text i (Before (Word "[") (Before Gap (Before (Derived StartText)
      (Before (Word ":") (Before Gap (Before (Word "]") K)))))) := by
    refine h.mono fun ⟨_, opening, _, gap, _, ⟨_, start⟩, _, colon, _, gap', _, closing, hk⟩ => ?_
    have hbounds := start.reaches.trans (colon.reaches.trans gap'.reaches)
    obtain ⟨cs, whole⟩ := opening.reaches.trans
      (gap.reaches.trans (hbounds.trans closing.reaches))
    obtain ⟨ds, bounds⟩ := hbounds
    exact ⟨_, ⟨_, .openSlice opening gap start colon gap' (.of_piece bounds) closing
      (.of_piece whole)⟩, hk⟩
  have hcondition : Awaits text i (Before (Word "[") (Before Gap (Before (Derived OrText)
      (Before Gap (Before (Word "]") K))))) :=
    h.mono fun ⟨_, opening, _, gap, _, ⟨_, expr⟩, _, gap', _, closing, hk⟩ =>
      ⟨_, ⟨_, .condition opening gap expr gap' closing⟩, hk⟩
  refine .rule hi (.bind (.withLexeme (careful_token.bind fun _ j hopen =>
    careful_blanks.bind fun _ k hgap => .bind (.firstOf ?_) fun _ _ _ =>
      careful_blanks.bind fun _ _ _ => careful_token.bind fun _ _ _ => careful_pure))
    fun _ _ _ => careful_pure)
  have hstops := (gap_of_mayRead_blanks hgap).2
  have hslice := (hslice.token hopen).blanks hgap
  have hcondition := (hcondition.token hopen).blanks hgap
  have hk : Viable text k := hcondition.viable (closable_or hclose.closable)
  simp only [List.mem_cons, List.not_mem_nil, or_false]
  rintro p (rfl | rfl | rfl)
  · have hbracket : Closable (Before (Word "]") K) := .of_word hK.closable.possible rfl rfl
    exact (Careful.withLexeme (careful_slice hstops hk hbracket hslice)).bind fun _ _ _ =>
      careful_pure
  · exact (Careful.rule hk (.lexeme careful_run)).bind fun _ _ _ => careful_pure
  · exact (hexpr hclose hcondition).bind fun _ _ _ => careful_pure

lemma careful_group (hK : Goal K) (hi : Viable text i)
    (h : Awaits text i (Before (Derived UnaryText) K)) :
    Careful text (rule .group do
      token "("
      blanks
      let e ← expr
      blanks
      token ")"
      return e) i := by
  have h : Awaits text i (Before (Word "(") (Before Gap (Before (Derived OrText)
      (Before Gap (Before (Word ")") K))))) :=
    h.mono fun ⟨_, opening, _, gap, _, ⟨_, expr⟩, _, gap', _, closing, hk⟩ =>
      ⟨_, ⟨_, .group opening gap expr gap' closing⟩, hk⟩
  refine .rule hi (careful_token.bind fun _ j hopen => careful_blanks.bind fun _ k hgap => ?_)
  have h := (h.token hopen).blanks hgap
  exact (hexpr (.of_word hK.closable.possible rfl rfl) h).bind fun _ _ _ =>
    careful_blanks.bind fun _ _ _ => careful_token.bind fun _ _ _ => careful_pure

lemma careful_relative (hK : Goal K) (hi : Viable text i)
    (h : Awaits text i (Before (Derived UnaryText) K)) : Careful text (relative expr) i := by
  have hclose : Goal (Before Gap (Before (Word ")") K)) := .of_word hK.closable.possible rfl rfl
  have htarget := closable_target hclose.closable
  have hcomma := Goal.of_word (s := ",") htarget.gap.possible rfl rfl
  have h : Awaits text i (Before (Word "relative") (Before Gap (Before (Word "(") (Before Gap
      (Before (Derived DistanceText) (Before Gap (Before (Word ",") (Before Gap
        (Before (Derived TargetText) (Before Gap (Before (Word ")") K))))))))))) :=
    h.mono fun ⟨_, word, _, gap, _, opening, _, gap', _, ⟨_, distance⟩, _, gap'', _, comma, _, gap₃,
      _, ⟨_, target⟩, _, gap₄, _, closing, hk⟩ =>
      ⟨_, ⟨_, .relative word gap opening gap' distance gap'' comma gap₃ target gap₄ closing⟩, hk⟩
  refine .rule hi (careful_token.bind fun _ j hword => careful_blanks.bind fun _ k hgap =>
    careful_token.bind fun _ l hopen => careful_blanks.bind fun _ m hgap' => ?_)
  have h := (h.token hword).blanks hgap
  have h := (h.token hopen).blanks hgap'
  refine (careful_distance (h.viable (closable_distance hcomma.closable.possible))).bind
    fun d n hd => careful_blanks.bind fun _ o hgap'' => careful_token.bind fun _ p hcomma =>
      careful_blanks.bind fun _ q hgap₃ => ?_
  have h := (h.read (distanceText_of_mayRead hd).portable.derived).blanks hgap''
  have h := (h.token hcomma).blanks hgap₃
  refine Careful.bind (.firstOf ?_) fun _ _ _ => careful_blanks.bind fun _ _ _ =>
    careful_token.bind fun _ _ _ => careful_pure
  simp only [List.mem_cons, List.not_mem_nil, or_false]
  rintro p (rfl | rfl)
  · exact (Careful.rule (h.viable htarget) careful_token).bind fun _ _ _ => careful_pure
  · have hor : Awaits text q (Before (Derived OrText) (Before Gap (Before (Word ")") K))) :=
      h.mono fun ⟨_, ⟨_, expr⟩, hk⟩ => ⟨_, ⟨_, .expr expr⟩, hk⟩
    exact (hexpr hclose hor).bind fun _ _ _ => careful_pure

include hread

variable [Regex.Engine]

lemma careful_predicates (hK : Goal K) (h : Awaits text i (Before (Derived PredicatesText) K)) :
    Careful text (manySpaced (predicate expr)) i := by
  have hmore : ∀ {i}, Awaits text i (Before (Derived PredicatesText) K) →
      Awaits text i (Before Gap (Before (Derived PredicateText)
        (Before (Derived PredicatesText) K))) := fun h =>
    h.mono fun ⟨_, gap, _, ⟨_, predicate⟩, _, ⟨_, more⟩, hk⟩ =>
      ⟨_, ⟨_, .cons gap predicate more⟩, hk⟩
  refine careful_many (I := fun i => Awaits text i (Before (Derived PredicatesText) K)) ?_ ?_ h
  · intro i k p h hp
    obtain ⟨_, j, hgap, hp⟩ := hp.bind
    exact ((hmore h).blanks hgap).read
      (predicateText_of_mayRead hread hp).portable.derived
  · intro i h
    refine careful_blanks.bind fun _ j hgap => ?_
    have hnil : Awaits text i (Before Gap (Before (Derived PredicatesText) K)) :=
      h.mono fun ⟨_, gap, hk⟩ => hK.predicates.gap gap hk
    exact careful_predicate hexpr hK.predicates ((hnil.blanks hgap).viable hK.predicates.closable)
      ((hmore h).blanks hgap)

lemma careful_step {sep : Separator} (hK : Goal K) (hi : i.Stops isBlank)
    (h : Awaits text i (Before (Derived (StepText sep)) K)) : Careful text (step expr sep) i := by
  have hv : Viable text i := h.viable (closable_step hK.closable)
  have hplain : Awaits text i (Before (Derived NodeTestText) (Before (Derived PredicatesText) K)) :=
    h.mono fun ⟨_, ⟨_, test⟩, _, ⟨_, predicates⟩, hk⟩ => ⟨_, ⟨_, .plain test predicates⟩, hk⟩
  have haxis : Awaits text i (Before (Derived AxisText) (Before Gap (Before (Word "::") (Before Gap
      (Before (Derived NodeTestText) (Before (Derived PredicatesText) K)))))) :=
    h.mono fun ⟨_, ⟨_, axis⟩, _, gap, _, colons, _, gap', _, ⟨_, test⟩, _, ⟨_, predicates⟩, hk⟩ =>
      ⟨_, ⟨_, .axis axis gap colons gap' test predicates⟩, hk⟩
  have htest := closable_nodeTest hK.predicates.closable
  have hcolons := Goal.of_word (s := "::") htest.gap.possible rfl rfl
  refine .rule hv (.firstOf ?_)
  simp only [List.mem_cons, List.not_mem_nil, or_false]
  rintro p (rfl | rfl | rfl)
  · exact (careful_parentStep hv).bind fun _ _ _ => careful_pure
  · exact (careful_selfStep hv).bind fun _ _ _ => careful_pure
  refine .rule hv (.bind (.optional ((careful_axis hcolons.closable hv haxis).bind fun _ _ _ =>
    careful_blanks.bind fun _ _ _ => careful_token.bind fun _ _ _ => careful_pure))
    fun a j ha => careful_blanks.bind fun _ k hgap => ?_)
  -- Either way the node test is what comes next.
  have hnext : Awaits text k
      (Before (Derived NodeTestText) (Before (Derived PredicatesText) K)) := by
    obtain ⟨a, rfl, hax⟩ | ⟨rfl, rfl⟩ := ha.optional
    · obtain ⟨a', l, ha', hrest⟩ := hax.bind
      obtain ⟨_, m, hgap', hrest⟩ := hrest.bind
      obtain ⟨_, n, hcolons, hrest⟩ := hrest.bind
      obtain ⟨-, rfl⟩ := hrest.pure
      have h := (haxis.read (axisText_of_mayRead ha').portable.derived).blanks hgap'
      exact (h.token hcolons).blanks hgap
    · obtain rfl := (gap_of_mayRead_blanks hgap).1.eq_of_stops hi
      exact hplain
  refine (careful_nodeTest (hnext.viable htest)).bind fun t l ht => ?_
  have hrow := hnext.read ((nodeTestText_of_mayRead ht).portable.mono fun test => ⟨t, test⟩)
  exact (careful_predicates hread hexpr hK hrow).bind fun _ _ _ => careful_pure

lemma careful_moreSteps (hK : Goal K) (h : Awaits text i (Before (Derived StepsText) K)) :
    Careful text (moreSteps expr) i := by
  have hmore : ∀ {i}, Awaits text i (Before (Derived StepsText) K) → ∀ sep : Separator,
      Awaits text i (Before Gap (Before (Word sep.text) (Before Gap
        (Before (Derived (StepText sep)) (Before (Derived StepsText) K))))) := fun h sep =>
    h.mono fun ⟨_, gap, _, separator, _, gap', _, ⟨_, step⟩, _, ⟨_, more⟩, hk⟩ =>
      ⟨_, ⟨_, .cons gap separator gap' step more⟩, hk⟩
  refine careful_many (I := fun i => Awaits text i (Before (Derived StepsText) K)) ?_ ?_ h
  · intro i m s h hs
    obtain ⟨_, j, hgap, hs⟩ := hs.bind
    obtain ⟨sep, k, hsep, hs⟩ := hs.bind
    obtain ⟨_, l, hgap', hs⟩ := hs.bind
    have h := (((hmore h sep).blanks hgap).separator hsep).blanks hgap'
    exact h.read (stepText_of_mayRead hread hs (gap_of_mayRead_blanks hgap').2).portable.derived
  · intro i h
    refine careful_blanks.bind fun _ j hgap => ?_
    have hnil : Awaits text i (Before Gap (Before (Derived StepsText) K)) :=
      h.mono fun ⟨_, gap, hk⟩ => hK.steps.gap gap hk
    refine (careful_separator ((hnil.blanks hgap).viable hK.steps.closable)).bind fun sep k hsep =>
      careful_blanks.bind fun _ l hgap' => ?_
    have h := (((hmore h sep).blanks hgap).separator hsep).blanks hgap'
    exact careful_step hread hexpr hK.steps (gap_of_mayRead_blanks hgap').2 h

lemma careful_subPath (hK : Goal K) (hi : Viable text i)
    (h : Awaits text i (Before (Derived UnaryText) K)) : Careful text (subPath expr) i := by
  have hself : Awaits text i (Before (Word ".") (Before (Derived StepsText) K)) :=
    h.mono fun ⟨_, dot, _, ⟨_, steps⟩, hk⟩ => ⟨_, ⟨_, .fromSelf dot steps⟩, hk⟩
  have hparent : Awaits text i (Before (Word "..") (Before (Derived StepsText) K)) :=
    h.mono fun ⟨_, dots, _, ⟨_, steps⟩, hk⟩ => ⟨_, ⟨_, .fromParent dots steps⟩, hk⟩
  refine .rule hi (.bind (.firstOf ?_) fun start j hs => ?_)
  · simp only [List.mem_cons, List.not_mem_nil, or_false]
    rintro p (rfl | rfl)
    · exact (careful_parentStep hi).bind fun _ _ _ => careful_pure
    · exact (careful_selfStep hi).bind fun _ _ _ => careful_pure
  have hsteps : Awaits text j (Before (Derived StepsText) K) := by
    rcases hs.orElse with hs | hs
    · obtain ⟨_, k, hdots, hs⟩ := hs.bind
      obtain ⟨-, rfl⟩ := hs.pure
      exact hparent.token hdots.rule
    · obtain ⟨_, k, hdot, hs⟩ := hs.bind
      obtain ⟨-, rfl⟩ := hs.pure
      exact hself.token hdot.rule
  exact (careful_moreSteps hread hexpr hK hsteps).bind fun _ _ _ => careful_pure

lemma careful_unary (hK : Goal K) (h : Awaits text i (Before (Derived UnaryText) K)) :
    Careful text (unary expr) i := by
  have hi : Viable text i := h.viable (closable_unary hK.closable)
  refine .firstOf ?_
  simp only [List.mem_cons, List.not_mem_nil, or_false]
  rintro p (rfl | rfl | rfl | rfl)
  · exact careful_group hexpr hK hi h
  · exact careful_comparison hK hi (h.mono fun ⟨_, ⟨_, comparison⟩, hk⟩ =>
      ⟨_, ⟨_, .comparison comparison⟩, hk⟩)
  · exact careful_relative hexpr hK hi h
  · exact careful_subPath hread hexpr hK hi h

omit hread hexpr in
omit [Regex.Engine] in
/-- The operands of a chain behind the first one. -/
lemma careful_more {p : Reader Expr} {r : Rule} {word : String}
    {rule : Input → Expr → Input → Prop} {c : Char} (hlast : word.toList.getLast? = some c)
    (hident : isIdentChar c = true) (hrule : ∀ {i e j}, MayRead p i e j → rule i e j)
    (hportable : ∀ {i e j}, rule i e j → Portable i j (Derived rule))
    (hp : ∀ {i K}, Goal K → Awaits text i (Before (Derived rule) K) → Careful text p i)
    (hK : Goal K) (h : Awaits text i (Before (Derived (MoreText word rule)) K)) :
    Careful text (manySpaced do
      keyword r word
      blanks
      p) i := by
  have hmore : ∀ {i}, Awaits text i (Before (Derived (MoreText word rule)) K) →
      Awaits text i (Before Gap (Before (Keyword word) (Before Gap (Before (Derived rule)
        (Before (Derived (MoreText word rule)) K))))) := fun h =>
    h.mono fun ⟨_, gap, _, keyword, _, gap', _, ⟨_, operand⟩, _, ⟨_, more⟩, hk⟩ =>
      ⟨_, ⟨_, .cons gap keyword gap' operand more⟩, hk⟩
  refine careful_many (I := fun i => Awaits text i (Before (Derived (MoreText word rule)) K))
    ?_ ?_ h
  · intro i m e h he
    obtain ⟨_, j, hgap, he⟩ := he.bind
    obtain ⟨_, k, hword, he⟩ := he.bind
    obtain ⟨_, l, hgap', he⟩ := he.bind
    have hword := (keyword_of_mayRead hword).portable hlast hident
    exact ((((hmore h).blanks hgap).read hword).blanks hgap').read (hportable (hrule he))
  · intro i h
    refine careful_blanks.bind fun _ j hgap => ?_
    have hnil : Awaits text i (Before Gap (Before (Derived (MoreText word rule)) K)) :=
      h.mono fun ⟨_, gap, hk⟩ => hK.more.gap gap hk
    refine (Careful.rule ((hnil.blanks hgap).viable hK.more.closable) (careful_token.bind
      fun _ _ _ => careful_notBefore)).bind fun _ k hword => careful_blanks.bind fun _ l hgap' => ?_
    have hword := (keyword_of_mayRead hword).portable hlast hident
    exact hp hK.more ((((hmore h).blanks hgap).read hword).blanks hgap')

lemma careful_and (hK : Goal K) (h : Awaits text i (Before (Derived AndText) K)) :
    Careful text (andExpr expr) i := by
  have hchain : Awaits text i (Before (Derived UnaryText)
      (Before (Derived (MoreText "and" UnaryText)) K)) :=
    h.mono fun ⟨_, ⟨_, first⟩, _, ⟨_, more⟩, hk⟩ => ⟨_, ⟨_, .of_more first more⟩, hk⟩
  refine .rule (h.viable (closable_and hK.closable))
    ((careful_unary hread hexpr hK.more hchain).bind fun first j hfirst => ?_)
  have hfirst := (unaryText_of_mayRead hread hfirst).portable.derived
  exact (careful_more rfl rfl (unaryText_of_mayRead hread) (fun h => h.portable.derived)
    (careful_unary hread hexpr) hK (hchain.read hfirst)).bind fun _ _ _ => careful_pure

lemma careful_or (hK : Goal K) (h : Awaits text i (Before (Derived OrText) K)) :
    Careful text (orExpr expr) i := by
  have hchain : Awaits text i (Before (Derived AndText)
      (Before (Derived (MoreText "or" AndText)) K)) :=
    h.mono fun ⟨_, ⟨_, first⟩, _, ⟨_, more⟩, hk⟩ => ⟨_, ⟨_, .of_more first more⟩, hk⟩
  refine .rule (h.viable (closable_or hK.closable))
    ((careful_and hread hexpr hK.more hchain).bind fun first j hfirst => ?_)
  have hfirst := (andText_of_mayRead hread hfirst).portable.derived
  exact (careful_more rfl rfl (andText_of_mayRead hread) (fun h => h.portable.derived)
    (careful_and hread hexpr) hK (hchain.read hfirst)).bind fun _ _ _ => careful_pure

/-- A path may begin with its first step, or with a separator in front of it. -/
lemma careful_path (hK : Goal K) (hstops : i.Stops isBlank)
    (h : Awaits text i (Before (Derived PathText) K)) : Careful text (path expr) i := by
  have hplain : Awaits text i (Before (Derived (StepText .child)) (Before (Derived StepsText) K)) :=
    h.mono fun ⟨_, ⟨_, first⟩, _, ⟨_, more⟩, hk⟩ => ⟨_, ⟨_, .plain first more⟩, hk⟩
  have hleading : ∀ sep : Separator, Awaits text i (Before (Word sep.text) (Before Gap
      (Before (Derived (StepText sep)) (Before (Derived StepsText) K)))) := fun sep =>
    h.mono fun ⟨_, separator, _, gap, _, ⟨_, first⟩, _, ⟨_, more⟩, hk⟩ =>
      ⟨_, ⟨_, .leading separator gap first more⟩, hk⟩
  have hi : Viable text i := hplain.viable (closable_step hK.steps.closable)
  -- Behind the separator, if there is one, the first step is what comes next.
  have hfirst : ∀ {sep j k u}, MayRead (optional separator) i sep j → MayRead blanks j u k →
      k.Stops isBlank ∧ Awaits text k (Before (Derived (StepText (sep.getD .child)))
        (Before (Derived StepsText) K)) := by
    intro sep j k u hs hgap
    refine ⟨(gap_of_mayRead_blanks hgap).2, ?_⟩
    obtain ⟨s, rfl, hsep⟩ | ⟨rfl, rfl⟩ := hs.optional
    · exact ((hleading s).separator hsep).blanks hgap
    · obtain rfl := (gap_of_mayRead_blanks hgap).1.eq_of_stops hstops
      exact hplain
  refine .rule hi (.bind (.rule hi (.bind (.optional (careful_separator hi)) fun sep j hs =>
    careful_blanks.bind fun _ k hgap => ?_)) fun first m hm => ?_)
  · obtain ⟨hk, hstep⟩ := hfirst hs hgap
    exact careful_step hread hexpr hK.steps hk hstep
  · obtain ⟨sep, j, hs, hm⟩ := hm.rule.bind
    obtain ⟨_, k, hgap, hm⟩ := hm.bind
    obtain ⟨hk, hstep⟩ := hfirst hs hgap
    exact (careful_moreSteps hread hexpr hK
      (hstep.read (stepText_of_mayRead hread hm hk).portable.derived)).bind
      fun _ _ _ => careful_pure

end Rules

lemma careful_exprWithin [Regex.Engine] {text : String} {n : Nat} {i : Input} {K : Input → Prop}
    (hK : Goal K) (h : Awaits text i (Before (Derived OrText) K)) :
    Careful text (exprWithin n) i := by
  induction n generalizing i K with
  | zero => exact careful_fail
  | succ n ih => exact careful_or (fun _ _ _ => orText_of_mayRead_exprWithin) ih hK h

/-! ## The whole text -/

section Whole

variable {text : String} {e : ParseError}

lemma goal_atEnd : Goal (Before Gap (·.rest = [])) where
  gap := fun gap ⟨k, gap', h⟩ => ⟨k, gap.trans gap', h⟩
  closable := ⟨[], by simp, fun _ => ⟨_, .refl, rfl⟩⟩

lemma awaits_path (text : String) : Awaits text (.start text)
    (Before Gap (Before (Derived PathText) (Before Gap (·.rest = [])))) where
  reaches := .refl
  derives := fun hc ⟨_, gap, _, ⟨_, path⟩, _, gap', hk⟩ => by
    rw [hc.eq_of_self] at gap
    exact ⟨_, .intro gap path gap' hk⟩

lemma viable_start (text : String) : Viable text (.start text) := by
  refine (awaits_path text).viable (Closable.gap ?_)
  exact (closable_step goal_atEnd.steps.closable).mono fun ⟨_, ⟨_, first⟩, _, ⟨_, more⟩, hk⟩ =>
    ⟨_, ⟨_, .plain first more⟩, hk⟩

lemma utf8ByteSize_ofList (cs : List Char) : (String.ofList cs).utf8ByteSize = bytes cs := by
  induction cs with
  | nil => rfl
  | cons c cs ih =>
    have hc : String.ofList [c] = String.singleton c := rfl
    rw [← List.singleton_append, String.ofList_append, String.utf8ByteSize_append, ih, hc,
      String.utf8ByteSize_singleton]
    rfl

/-- The texts in front of a place and behind it. -/
lemma Piece.start {cs : List Char} {i : Input} (h : Piece (.start text) cs i) :
    text = String.ofList cs ++ String.ofList i.rest ∧
      (String.ofList cs).utf8ByteSize = i.offset := by
  refine ⟨?_, ?_⟩
  · rw [← String.ofList_append, ← h.rest]
    exact String.ofList_toList.symm
  · rw [utf8ByteSize_ofList, h.offset]
    exact (Nat.zero_add _).symm

variable [Regex.Engine]

lemma careful_wholePath (text : String) : Careful text (wholePath text) (.start text) := by
  refine .rule (viable_start text) (careful_blanks.bind fun _ j hgap => ?_)
  have hj := (gap_of_mayRead_blanks hgap).2
  have h := (awaits_path text).blanks hgap
  refine (careful_path (fun _ _ _ => orText_of_mayRead_exprWithin) careful_exprWithin goal_atEnd hj
    h).bind fun ss k hss => careful_blanks.bind fun _ l hgap' => ?_
  have hss := pathText_of_mayRead (fun _ _ _ => orText_of_mayRead_exprWithin) hss hj
  have h := (h.read hss.portable.derived).blanks hgap'
  exact (Careful.rule (h.viable ⟨[], by simp, fun _ => rfl⟩) careful_atEnd).bind fun _ _ _ =>
    careful_pure

lemma viable_of_steps_error (h : steps text = .error e) :
    ∃ σ : Attempts, e = σ.error text ∧ σ.Viable text := by
  unfold steps at h
  split at h
  · cases h
  · next σ he =>
    cases h
    exact ⟨σ, rfl, (careful_wholePath text).of_eq he ⟨_, viable_start text, rfl⟩⟩

/-- A text that does not follow the grammar is refused at a place up to which it can be continued to
one that does. -/
theorem exists_steps_of_steps_error (h : steps text = .error e) :
    parse text = .error e ∧ ∃ front rest suffix ss, text = front ++ rest ∧
      front.utf8ByteSize = e.offset ∧ steps (front ++ suffix) = .ok ss := by
  refine ⟨parse_of_steps_error h, ?_⟩
  obtain ⟨σ, rfl, i, ⟨front, suffix, ss, hfront, hss⟩, hoffset⟩ := viable_of_steps_error h
  obtain ⟨htext, hsize⟩ := hfront.start
  refine ⟨String.ofList front, String.ofList i.rest, String.ofList suffix, ss, htext, ?_, ?_⟩
  · rw [hsize, ← hoffset]
    rfl
  · rw [← String.ofList_append]
    exact steps_of_derives hss

end Whole

/-- The bracket is not closed, and that is said at the end of the text. -/
theorem exists_steps_of_open_bracket :
    ∃ e, steps "//Button[@Name='OK'" = .error e ∧ e.offset = 19 ∧
      ∃ front rest suffix ss, "//Button[@Name='OK'" = front ++ rest ∧
        front.utf8ByteSize = e.offset ∧ steps (front ++ suffix) = .ok ss := by
  have hcheck : (match steps "//Button[@Name='OK'" with
      | .ok _ => none
      | .error e => some e) =
      some (.unexpected ⟨19, ""⟩ [.orKeyword, .andKeyword, .caseFlag]) := by
    decide +kernel
  cases h : steps "//Button[@Name='OK'" with
  | ok ss =>
    rw [h] at hcheck
    cases hcheck
  | error e =>
    rw [h] at hcheck
    obtain rfl := Option.some.inj hcheck
    exact ⟨_, rfl, rfl, (exists_steps_of_steps_error h).2⟩

end ControlQuery.CPath

import ControlQuery.Proofs.CPath.Reads

/-!
# The grammar as a context-free grammar

The published grammar, with one rule for each alternative and no order between them, and repetitions
of any length. A derivation relates a syntax tree to the two places of the text that it stands
between. Blanks may stand between tokens; only identifiers and keywords look at what follows them.
-/

namespace ControlQuery.CPath

/-! ## Tokens -/

/-- The characters that may stand between tokens. -/
def blankChars : List Char :=
  [' ', '\t', '\r', '\n']

/-- Whether a character may stand between tokens. -/
def isBlank (c : Char) : Bool :=
  blankChars.contains c

/-- Blanks, or nothing at all. -/
def Gap (i j : Input) : Prop :=
  ∃ cs, Piece i cs j ∧ ∀ c ∈ cs, isBlank c = true

/-- Exactly this text. -/
def Word (s : String) (i j : Input) : Prop :=
  Piece i s.toList j

/-- A text that no character of an identifier follows. -/
def Keyword (s : String) (i j : Input) : Prop :=
  Word s i j ∧ j.Stops isIdentChar

/-- The piece of the text between two places. -/
structure Spans (i : Input) (l : Lexeme) (j : Input) : Prop where
  offset : l.offset = i.offset
  piece : Piece i l.text.toList j

/-- A character of one class, then any number of characters of another. -/
inductive IsRun (first next : Char → Bool) : List Char → Prop where
  | intro {c : Char} {cs : List Char} (head : first c = true) (tail : ∀ d ∈ cs, next d = true) :
      IsRun first next (c :: cs)

/-- Whether a character may begin an identifier. -/
def isIdentStart (c : Char) : Bool :=
  c.isAlpha || c == '_'

/-- Whether a character may go on the name of an axis. -/
def isAxisChar (c : Char) : Bool :=
  c.isAlphanum || c == '-'

/-- A number without a sign. -/
structure DigitsText (i : Input) (l : Lexeme) (j : Input) : Prop where
  spans : Spans i l j
  run : IsRun Char.isDigit Char.isDigit l.text.toList

/-- A name of a control type or a property. -/
structure IdentifierText (i : Input) (l : Lexeme) (j : Input) : Prop where
  spans : Spans i l j
  run : IsRun isIdentStart isIdentChar l.text.toList
  stops : j.Stops isIdentChar

/-- The name of an axis. -/
structure AxisNameText (i : Input) (l : Lexeme) (j : Input) : Prop where
  spans : Spans i l j
  run : IsRun Char.isAlpha isAxisChar l.text.toList

/-- What may stand between two quotes: a backslash goes with the character after it. -/
inductive IsBody (quote : Char) : List Char → Prop where
  | nil : IsBody quote []
  | escaped {c : Char} {cs : List Char} (tail : IsBody quote cs) : IsBody quote ('\\' :: c :: cs)
  | char {c : Char} {cs : List Char} (notQuote : c ≠ quote) (notBackslash : c ≠ '\\')
      (tail : IsBody quote cs) : IsBody quote (c :: cs)

/-- The text of an operator. -/
def Operator.text : Operator → String
  | ⟨false, .equals⟩ => "="
  | ⟨true, .equals⟩ => "!="
  | ⟨false, .contains⟩ => "*="
  | ⟨true, .contains⟩ => "!*="
  | ⟨false, .matches⟩ => "~="
  | ⟨true, .matches⟩ => "!~="

/-- The text of a separator. -/
def Separator.text : Separator → String
  | child => "/"
  | descendant => "//"

/-! ## Places of tokens -/

lemma Spans.of_piece {i j : Input} {cs : List Char} (h : Piece i cs j) :
    Spans i ⟨i.offset, String.ofList cs⟩ j := by
  refine ⟨rfl, ?_⟩
  rw [String.toList_ofList]
  exact h

lemma Spans.eq {i j : Input} {l : Lexeme} (h : Spans i l j) :
    l = ⟨i.offset, String.ofList l.text.toList⟩ := by
  rw [String.ofList_toList, ← h.offset]

lemma Gap.refl {i : Input} : Gap i i :=
  ⟨[], .nil, by simp⟩

lemma Gap.trans {i j k : Input} (h : Gap i j) (h' : Gap j k) : Gap i k := by
  obtain ⟨cs, hp, hcs⟩ := h
  obtain ⟨ds, hp', hds⟩ := h'
  refine ⟨cs ++ ds, hp.append hp', fun c hc => ?_⟩
  rw [List.mem_append] at hc
  exact hc.elim (hcs c) (hds c)

lemma Gap.eq_of_stops {i j : Input} (h : Gap i j) (hi : i.Stops isBlank) : j = i := by
  obtain ⟨cs, hp, hcs⟩ := h
  cases cs with
  | nil => exact hp.eq_of_nil
  | cons c cs =>
    have hc := hi c hp.head
    rw [hcs c (by simp)] at hc
    cases hc

/-- Of two gaps from the same place, the one up to a token goes on behind the other. -/
lemma Gap.of_stops {i j k : Input} (h : Gap i j) (h' : Gap i k) (hk : k.Stops isBlank) :
    Gap j k := by
  obtain ⟨cs, hp, hcs⟩ := h
  induction cs generalizing i with
  | nil =>
    rw [hp.eq_of_nil]
    exact h'
  | cons c cs ih =>
    obtain ⟨ds, hp', hds⟩ := h'
    cases ds with
    | nil =>
      rw [hp'.eq_of_nil] at hk
      have hc := hk c hp.head
      rw [hcs c (by simp)] at hc
      cases hc
    | cons d ds =>
      obtain rfl : c = d := Option.some_inj.mp (hp.head.symm.trans hp'.head)
      obtain ⟨hm, hp⟩ := hp.uncons
      obtain ⟨hm', hp'⟩ := hp'.uncons
      rw [← hm.unique hm'] at hp'
      exact ih ⟨ds, hp', fun e he => hds e (List.mem_cons_of_mem c he)⟩ hp
        (fun e he => hcs e (List.mem_cons_of_mem c he))

/-- Behind every place there is one where no more blanks come. -/
lemma exists_gap (i : Input) : ∃ j, Gap i j ∧ j.Stops isBlank :=
  ⟨_, ⟨_, .of_rest (List.takeWhile_append_dropWhile).symm, fun _ hc => List.mem_takeWhile_imp hc⟩,
    Input.stops_dropWhile isBlank i.rest _⟩

/-! ## Rules without nested conditions -/

/-- `axis := axis_name ("{" depth "}")?` -/
inductive AxisText : Input → AxisSyntax → Input → Prop where
  | plain {i j : Input} {n : Lexeme} (name : AxisNameText i n j) : AxisText i ⟨n, none⟩ j
  | limited {i j k l m : Input} {n d : Lexeme} (name : AxisNameText i n j)
      (opening : Word "\x7b" j k) (depth : DigitsText k d l) (closing : Word "\x7d" l m) :
      AxisText i ⟨n, some d⟩ m

/-- `node_test := "*" | identifier` -/
inductive NodeTestText : Input → NodeTest → Input → Prop where
  | any {i j : Input} (star : Word "*" i j) : NodeTestText i .any j
  | controlType {i j : Input} {l : Lexeme} (name : IdentifierText i l j) :
      NodeTestText i (.controlType l.text) j

/-- `literal := 'text' | "text" | true | false | "-"? digits` -/
inductive LiteralText : Input → Literal → Input → Prop where
  | string {i j k l : Input} {q : Char} {b : Lexeme} (quote : q ∈ ['\'', '"'])
      (opening : Piece i [q] j) (spans : Spans j b k) (body : IsBody q b.text.toList)
      (closing : Piece k [q] l) : LiteralText i (.string i.offset b.text) l
  | true {i j : Input} (word : Keyword "true" i j) : LiteralText i (.boolean i.offset true) j
  | false {i j : Input} (word : Keyword "false" i j) : LiteralText i (.boolean i.offset false) j
  | positive {i j : Input} {l : Lexeme} (digits : DigitsText i l j) : LiteralText i (.number l) j
  | negative {i j k : Input} {l d : Lexeme} (sign : Word "-" i j) (digits : DigitsText j d k)
      (whole : Spans i l k) : LiteralText i (.number l) k

/-- `"i"?` -/
inductive CaseFlagText : Input → Bool → Input → Prop where
  | absent {i : Input} : CaseFlagText i false i
  | present {i j : Input} (word : Keyword "i" i j) : CaseFlagText i true j

/-- `comparison := "@" identifier operator literal "i"?` -/
inductive ComparisonText : Input → Expr → Input → Prop where
  | intro {i j k l m n o p q : Input} {name : Lexeme} {op : Operator} {v : Literal} {b : Bool}
      (sign : Word "@" i j) (property : IdentifierText j name k) (gap : Gap k l)
      (operator : Word op.text l m) (gap' : Gap m n) (literal : LiteralText n v o) (gap'' : Gap o p)
      (flag : CaseFlagText p b q) : ComparisonText i (.comparison name op v b) q

/-- `("~" | "-" | "+")?` -/
inductive SignText : Input → Direction → Input → Prop where
  | any {i j : Input} (sign : Word "~" i j) : SignText i .any j
  | up {i j : Input} (sign : Word "-" i j) : SignText i .up j
  | down {i j : Input} (sign : Word "+" i j) : SignText i .down j
  | absent {i : Input} : SignText i .down i

/-- The distance of a relative condition. -/
inductive DistanceText : Input → DistanceSyntax → Input → Prop where
  | intro {i j k : Input} {w l : Lexeme} {d : Direction} (sign : SignText i d j)
      (digits : DigitsText j l k) (whole : Spans i w k) : DistanceText i ⟨w, d, l.text⟩ k

/-- `digits?`, in front of a colon. -/
inductive StartText : Input → Option Lexeme → Input → Prop where
  | absent {i : Input} : StartText i none i
  | present {i j k : Input} {l : Lexeme} (digits : DigitsText i l j) (gap : Gap j k) :
      StartText i (some l) k

/-! ## Rules of conditions and steps -/

mutual

/-- `or_expr := and_expr ("or" and_expr)*`, read from the left. -/
inductive OrText : Input → Expr → Input → Prop where
  | intro {i j k : Input} {e : Expr} {es : List Expr} (first : AndText i e j)
      (more : OrMoreText j es k) : OrText i (es.foldl .either e) k

/-- `("or" and_expr)*` -/
inductive OrMoreText : Input → List Expr → Input → Prop where
  | nil {i : Input} : OrMoreText i [] i
  | cons {i j k l m n : Input} {e : Expr} {es : List Expr} (gap : Gap i j)
      (word : Keyword "or" j k) (gap' : Gap k l) (operand : AndText l e m)
      (more : OrMoreText m es n) : OrMoreText i (e :: es) n

/-- `and_expr := unary ("and" unary)*`, read from the left. -/
inductive AndText : Input → Expr → Input → Prop where
  | intro {i j k : Input} {e : Expr} {es : List Expr} (first : UnaryText i e j)
      (more : AndMoreText j es k) : AndText i (es.foldl .both e) k

/-- `("and" unary)*` -/
inductive AndMoreText : Input → List Expr → Input → Prop where
  | nil {i : Input} : AndMoreText i [] i
  | cons {i j k l m n : Input} {e : Expr} {es : List Expr} (gap : Gap i j)
      (word : Keyword "and" j k) (gap' : Gap k l) (operand : UnaryText l e m)
      (more : AndMoreText m es n) : AndMoreText i (e :: es) n

/-- `unary := "(" or_expr ")" | comparison | relative | sub_path` -/
inductive UnaryText : Input → Expr → Input → Prop where
  | group {i j k l m n : Input} {e : Expr} (opening : Word "(" i j) (gap : Gap j k)
      (expr : OrText k e l) (gap' : Gap l m) (closing : Word ")" m n) : UnaryText i e n
  | comparison {i j : Input} {e : Expr} (comparison : ComparisonText i e j) : UnaryText i e j
  | relative {i j k l m n o p q r s t : Input} {d : DistanceSyntax} {e : Option Expr}
      (word : Word "relative" i j) (gap : Gap j k) (opening : Word "(" k l) (gap' : Gap l m)
      (distance : DistanceText m d n) (gap'' : Gap n o) (comma : Word "," o p) (gap₃ : Gap p q)
      (target : TargetText q e r) (gap₄ : Gap r s) (closing : Word ")" s t) :
      UnaryText i (.relative d e) t
  | fromSelf {i j k : Input} {ss : List Step} (dot : Word "." i j) (steps : StepsText j ss k) :
      UnaryText i (.subPath ss) k
  | fromParent {i j k : Input} {ss : List Step} (dots : Word ".." i j) (steps : StepsText j ss k) :
      UnaryText i (.subPath (.parent .child :: ss)) k

/-- `"*" | or_expr` -/
inductive TargetText : Input → Option Expr → Input → Prop where
  | any {i j : Input} (star : Word "*" i j) : TargetText i none j
  | expr {i j : Input} {e : Expr} (expr : OrText i e j) : TargetText i (some e) j

/-- `(separator step)*` -/
inductive StepsText : Input → List Step → Input → Prop where
  | nil {i : Input} : StepsText i [] i
  | cons {i j k l m n : Input} {sep : Separator} {s : Step} {ss : List Step} (gap : Gap i j)
      (separator : Word sep.text j k) (gap' : Gap k l) (step : StepText sep l s m)
      (more : StepsText m ss n) : StepsText i (s :: ss) n

/-- `step := ".." | "." | (axis "::")? node_test predicate*`, behind its separator. -/
inductive StepText : Separator → Input → Step → Input → Prop where
  | parent {sep : Separator} {i j : Input} (dots : Word ".." i j) : StepText sep i (.parent sep) j
  | self {sep : Separator} {i j : Input} (dot : Word "." i j) : StepText sep i (.self sep) j
  | plain {sep : Separator} {i j k : Input} {t : NodeTest} {ps : List Predicate}
      (test : NodeTestText i t j) (predicates : PredicatesText j ps k) :
      StepText sep i (.axis sep none t ps) k
  | axis {sep : Separator} {i j k l m n o : Input} {a : AxisSyntax} {t : NodeTest}
      {ps : List Predicate} (axis : AxisText i a j) (gap : Gap j k) (colons : Word "::" k l)
      (gap' : Gap l m) (test : NodeTestText m t n) (predicates : PredicatesText n ps o) :
      StepText sep i (.axis sep (some a) t ps) o

/-- `predicate*` -/
inductive PredicatesText : Input → List Predicate → Input → Prop where
  | nil {i : Input} : PredicatesText i [] i
  | cons {i j k l : Input} {p : Predicate} {ps : List Predicate} (gap : Gap i j)
      (predicate : PredicateText j p k) (more : PredicatesText k ps l) :
      PredicatesText i (p :: ps) l

/-- `predicate := "[" (digits | digits? ":" digits? | or_expr) "]"` -/
inductive PredicateText : Input → Predicate → Input → Prop where
  | position {i j k l m n : Input} {w d : Lexeme} (opening : Word "[" i j) (gap : Gap j k)
      (number : DigitsText k d l) (gap' : Gap l m) (closing : Word "]" m n) (whole : Spans i w n) :
      PredicateText i (.position w d) n
  | slice {i j k l m n o p q : Input} {w b e : Lexeme} {s : Option Lexeme}
      (opening : Word "[" i j) (gap : Gap j k) (start : StartText k s l) (colon : Word ":" l m)
      (gap' : Gap m n) (stop : DigitsText n e o) (bounds : Spans k b o) (gap'' : Gap o p)
      (closing : Word "]" p q) (whole : Spans i w q) : PredicateText i (.slice w b s (some e)) q
  | openSlice {i j k l m n o : Input} {w b : Lexeme} {s : Option Lexeme}
      (opening : Word "[" i j) (gap : Gap j k) (start : StartText k s l) (colon : Word ":" l m)
      (gap' : Gap m n) (bounds : Spans k b n) (closing : Word "]" n o) (whole : Spans i w o) :
      PredicateText i (.slice w b s none) o
  | condition {i j k l m n : Input} {e : Expr} (opening : Word "[" i j) (gap : Gap j k)
      (expr : OrText k e l) (gap' : Gap l m) (closing : Word "]" m n) :
      PredicateText i (.condition e) n

end

/-- `path := separator? step (separator step)*` -/
inductive PathText : Input → List Step → Input → Prop where
  | plain {i j k : Input} {s : Step} {ss : List Step} (first : StepText .child i s j)
      (more : StepsText j ss k) : PathText i (s :: ss) k
  | leading {i j k l m : Input} {sep : Separator} {s : Step} {ss : List Step}
      (separator : Word sep.text i j) (gap : Gap j k) (first : StepText sep k s l)
      (more : StepsText l ss m) : PathText i (s :: ss) m

/-- The whole text is a path, with blanks around it. -/
inductive Derives (text : String) (steps : List Step) : Prop where
  | intro {i j k : Input} (gap : Gap (.start text) i) (path : PathText i steps j) (gap' : Gap j k)
      (atEnd : k.rest = [])

/-- Operands of a chain, each behind the keyword. -/
inductive MoreText (word : String) (rule : Input → Expr → Input → Prop) :
    Input → List Expr → Input → Prop where
  | nil {i : Input} : MoreText word rule i [] i
  | cons {i j k l m n : Input} {e : Expr} {es : List Expr} (gap : Gap i j)
      (keyword : Keyword word j k) (gap' : Gap k l) (operand : rule l e m)
      (more : MoreText word rule m es n) : MoreText word rule i (e :: es) n

theorem AndMoreText.more {i j : Input} {es : List Expr} :
    AndMoreText i es j → MoreText "and" UnaryText i es j
  | .nil => .nil
  | .cons gap word gap' operand more => .cons gap word gap' operand more.more

theorem OrMoreText.more {i j : Input} {es : List Expr} :
    OrMoreText i es j → MoreText "or" AndText i es j
  | .nil => .nil
  | .cons gap word gap' operand more => .cons gap word gap' operand more.more

lemma AndText.of_more {i j k : Input} {e : Expr} {es : List Expr} (first : UnaryText i e j)
    (more : MoreText "and" UnaryText j es k) : AndText i (es.foldl .both e) k := by
  refine .intro first ?_
  clear first
  induction more with
  | nil => exact .nil
  | cons gap keyword gap' operand _ ih => exact .cons gap keyword gap' operand ih

lemma OrText.of_more {i j k : Input} {e : Expr} {es : List Expr} (first : AndText i e j)
    (more : MoreText "or" AndText j es k) : OrText i (es.foldl .either e) k := by
  refine .intro first ?_
  clear first
  induction more with
  | nil => exact .nil
  | cons gap keyword gap' operand _ ih => exact .cons gap keyword gap' operand ih

lemma StepsText.append : ∀ {i j k : Input} {ss ss' : List Step}, StepsText i ss j →
    StepsText j ss' k → StepsText i (ss ++ ss') k
  | _, _, _, _, _, .nil, h' => h'
  | _, _, _, _, _, .cons gap separator gap' step more, h' =>
    .cons gap separator gap' step (more.append h')

lemma PathText.append {i j k : Input} {ss ss' : List Step} (h : PathText i ss j)
    (h' : StepsText j ss' k) : PathText i (ss ++ ss') k := by
  cases h with
  | plain first more => exact .plain first (more.append h')
  | leading separator gap first more => exact .leading separator gap first (more.append h')

/-! ## No rule goes back -/

/-- The second place is not in front of the first. -/
def Reaches (i j : Input) : Prop :=
  ∃ cs, Piece i cs j

section Reaches

variable {i j k : Input}

lemma Reaches.refl : Reaches i i :=
  ⟨[], .nil⟩

lemma Reaches.trans (h : Reaches i j) (h' : Reaches j k) : Reaches i k := by
  obtain ⟨cs, h⟩ := h
  obtain ⟨ds, h'⟩ := h'
  exact ⟨cs ++ ds, h.append h'⟩

lemma Reaches.length_le (h : Reaches i j) : j.rest.length ≤ i.rest.length := by
  obtain ⟨cs, h⟩ := h
  rw [h.length]
  omega

lemma Piece.reaches {cs : List Char} (h : Piece i cs j) : Reaches i j :=
  ⟨cs, h⟩

lemma Gap.reaches (h : Gap i j) : Reaches i j := by
  obtain ⟨cs, h, -⟩ := h
  exact h.reaches

lemma Spans.reaches {l : Lexeme} (h : Spans i l j) : Reaches i j :=
  h.piece.reaches

lemma AxisText.reaches {a : AxisSyntax} (h : AxisText i a j) : Reaches i j := by
  cases h with
  | plain name => exact name.spans.reaches
  | limited name opening depth closing =>
    exact ((name.spans.reaches.trans opening.reaches).trans depth.spans.reaches).trans
      closing.reaches

lemma NodeTestText.reaches {t : NodeTest} (h : NodeTestText i t j) : Reaches i j := by
  cases h with
  | any star => exact star.reaches
  | controlType name => exact name.spans.reaches

lemma LiteralText.reaches {v : Literal} (h : LiteralText i v j) : Reaches i j := by
  cases h with
  | string quote opening spans body closing =>
    exact (opening.reaches.trans spans.reaches).trans closing.reaches
  | true word => exact word.1.reaches
  | false word => exact word.1.reaches
  | positive digits => exact digits.spans.reaches
  | negative sign digits whole => exact whole.reaches

lemma CaseFlagText.reaches {b : Bool} (h : CaseFlagText i b j) : Reaches i j := by
  cases h with
  | absent => exact .refl
  | present word => exact word.1.reaches

lemma ComparisonText.reaches {e : Expr} (h : ComparisonText i e j) : Reaches i j := by
  obtain ⟨sign, property, gap, operator, gap', literal, gap'', flag⟩ := h
  have hp := (sign.reaches.trans property.spans.reaches).trans gap.reaches
  have hl := (operator.reaches.trans gap'.reaches).trans literal.reaches
  exact (hp.trans hl).trans (gap''.reaches.trans flag.reaches)

lemma SignText.reaches {d : Direction} (h : SignText i d j) : Reaches i j := by
  cases h with
  | any sign => exact sign.reaches
  | up sign => exact sign.reaches
  | down sign => exact sign.reaches
  | absent => exact .refl

lemma DistanceText.reaches {d : DistanceSyntax} (h : DistanceText i d j) : Reaches i j := by
  obtain ⟨sign, digits, whole⟩ := h
  exact whole.reaches

lemma StartText.reaches {o : Option Lexeme} (h : StartText i o j) : Reaches i j := by
  cases h with
  | absent => exact .refl
  | present digits gap => exact digits.spans.reaches.trans gap.reaches

end Reaches

mutual

theorem OrText.reaches {i j : Input} {e : Expr} : OrText i e j → Reaches i j
  | .intro first more => first.reaches.trans more.reaches

theorem OrMoreText.reaches {i j : Input} {es : List Expr} : OrMoreText i es j → Reaches i j
  | .nil => .refl
  | .cons gap word gap' operand more =>
    ((gap.reaches.trans word.1.reaches).trans (gap'.reaches.trans operand.reaches)).trans
      more.reaches

theorem AndText.reaches {i j : Input} {e : Expr} : AndText i e j → Reaches i j
  | .intro first more => first.reaches.trans more.reaches

theorem AndMoreText.reaches {i j : Input} {es : List Expr} : AndMoreText i es j → Reaches i j
  | .nil => .refl
  | .cons gap word gap' operand more =>
    ((gap.reaches.trans word.1.reaches).trans (gap'.reaches.trans operand.reaches)).trans
      more.reaches

theorem UnaryText.reaches {i j : Input} {e : Expr} : UnaryText i e j → Reaches i j
  | .group opening gap expr gap' closing =>
    ((opening.reaches.trans gap.reaches).trans expr.reaches).trans
      (gap'.reaches.trans closing.reaches)
  | .comparison comparison => comparison.reaches
  | .relative word gap opening gap' distance gap'' comma gap₃ target gap₄ closing =>
    (((word.reaches.trans gap.reaches).trans (opening.reaches.trans gap'.reaches)).trans
      ((distance.reaches.trans gap''.reaches).trans (comma.reaches.trans gap₃.reaches))).trans
      (target.reaches.trans (gap₄.reaches.trans closing.reaches))
  | .fromSelf dot steps => dot.reaches.trans steps.reaches
  | .fromParent dots steps => dots.reaches.trans steps.reaches

theorem TargetText.reaches {i j : Input} {e : Option Expr} : TargetText i e j → Reaches i j
  | .any star => star.reaches
  | .expr expr => expr.reaches

theorem StepsText.reaches {i j : Input} {ss : List Step} : StepsText i ss j → Reaches i j
  | .nil => .refl
  | .cons gap separator gap' step more =>
    ((gap.reaches.trans separator.reaches).trans (gap'.reaches.trans step.reaches)).trans
      more.reaches

theorem StepText.reaches {i j : Input} {sep : Separator} {s : Step} :
    StepText sep i s j → Reaches i j
  | .parent dots => dots.reaches
  | .self dot => dot.reaches
  | .plain test predicates => test.reaches.trans predicates.reaches
  | .axis axis gap colons gap' test predicates =>
    ((axis.reaches.trans gap.reaches).trans (colons.reaches.trans gap'.reaches)).trans
      (test.reaches.trans predicates.reaches)

theorem PredicatesText.reaches {i j : Input} {ps : List Predicate} :
    PredicatesText i ps j → Reaches i j
  | .nil => .refl
  | .cons gap predicate more =>
    have ⟨_, opening, inside⟩ := predicate.reaches_inside
    (gap.reaches.trans (opening.reaches.trans inside)).trans more.reaches

theorem PredicateText.reaches_inside {i j : Input} {p : Predicate} :
    PredicateText i p j → ∃ k, Word "[" i k ∧ Reaches k j
  | .position opening gap number gap' closing _ =>
    ⟨_, opening, (gap.reaches.trans number.spans.reaches).trans
      (gap'.reaches.trans closing.reaches)⟩
  | .slice opening gap start colon gap' stop _ gap'' closing _ =>
    ⟨_, opening, ((gap.reaches.trans start.reaches).trans (colon.reaches.trans gap'.reaches)).trans
      (stop.spans.reaches.trans (gap''.reaches.trans closing.reaches))⟩
  | .openSlice opening gap start colon gap' _ closing _ =>
    ⟨_, opening, ((gap.reaches.trans start.reaches).trans (colon.reaches.trans gap'.reaches)).trans
      closing.reaches⟩
  | .condition opening gap expr gap' closing =>
    ⟨_, opening, (gap.reaches.trans expr.reaches).trans (gap'.reaches.trans closing.reaches)⟩

end

lemma PredicateText.reaches {i j : Input} {p : Predicate} (h : PredicateText i p j) :
    Reaches i j := by
  obtain ⟨k, opening, inside⟩ := h.reaches_inside
  exact opening.reaches.trans inside

end ControlQuery.CPath

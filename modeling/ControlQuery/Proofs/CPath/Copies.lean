import ControlQuery.Proofs.CPath.Agreement
import ControlQuery.Proofs.CPath.Derivation
import Mathlib.Logic.Relation

/-!
# Copies of a piece of text

A piece of a text may be written at another place of another text. What the piece derives here, its
copy derives there, with the same meaning but for the places of faults. Of what comes behind, it
only matters that no identifier is continued.
-/

namespace ControlQuery

open Relation (Comp)

namespace CPath

/-- Between the last two places stands what stands between the first two. If that ends with a
character of an identifier, then no such character comes next there unless one does here. -/
def Copied (i j i' j' : Input) : Prop :=
  ∃ cs, Piece i cs j ∧ Piece i' cs j' ∧
    ∀ c ∈ cs.getLast?, isIdentChar c = true → j.Stops isIdentChar → j'.Stops isIdentChar

lemma Copied.eq_of_self {i i' j' : Input} (h : Copied i i i' j') : j' = i' := by
  obtain ⟨cs, hp, hp', -⟩ := h
  have hlength := hp.length
  have hcs : cs = [] := List.eq_nil_of_length_eq_zero (by omega)
  rw [hcs] at hp'
  exact hp'.eq_of_nil

lemma Copied.split {i j k i' k' : Input} (h : Copied i k i' k') (hij : Reaches i j)
    (hjk : Reaches j k) : ∃ j', Copied i j i' j' ∧ Copied j k j' k' := by
  obtain ⟨cs, hp, hp', hstops⟩ := h
  obtain ⟨ds, hd⟩ := hij
  obtain ⟨es, he⟩ := hjk
  obtain rfl : ds ++ es = cs := by
    have hrest := (hd.append he).rest.symm.trans hp.rest
    exact List.append_cancel_right hrest
  obtain ⟨j', hd', he'⟩ := hp'.split
  refine ⟨j', ⟨ds, hd, hd', fun c hc hi hj => ?_⟩, ⟨es, he, he', fun c hc hi => ?_⟩⟩
  · -- What comes next behind the first piece is the second piece, if there is any.
    cases es with
    | nil =>
      rw [he'.eq_of_nil, he.eq_of_nil, List.append_nil] at hstops
      exact hstops c hc hi hj
    | cons e es => exact .of_head he'.head (hj e he.head)
  · exact hstops c (by simp [List.getLast?_append, Option.mem_def.mp hc]) hi

/-- Every copy of what stands between the two places fulfils the relation. -/
structure Portable (i j : Input) (R : Input → Input → Prop) : Prop where
  reaches : Reaches i j
  copy : ∀ {i' j' : Input}, Copied i j i' j' → R i' j'

namespace Portable

variable {i j k : Input} {R S : Input → Input → Prop}

lemma refl (h : ∀ i, R i i) : Portable i i R :=
  ⟨.refl, fun hc => by
    rw [hc.eq_of_self]
    exact h _⟩

lemma mono (h : Portable i j R) (hRS : ∀ {i j : Input}, R i j → S i j) : Portable i j S :=
  ⟨h.reaches, fun hc => hRS (h.copy hc)⟩

lemma comp (h : Portable i j R) (h' : Portable j k S) : Portable i k (Comp R S) :=
  ⟨h.reaches.trans h'.reaches, fun hc =>
    have ⟨_, hc, hc'⟩ := hc.split h.reaches h'.reaches
    ⟨_, h.copy hc, h'.copy hc'⟩⟩

end Portable

/-- A rule derives a value between two places that is the same as the given one. -/
def Rephrased {α : Type} (rule : Input → α → Input → Prop) (same : α → α → Prop) (a : α)
    (i j : Input) : Prop :=
  ∃ b, rule i b j ∧ same a b

/-! ## Tokens -/

section Tokens

variable {i j k : Input}

lemma Copied.piece {i' j' : Input} {cs : List Char} (hc : Copied i j i' j') (h : Piece i cs j) :
    Piece i' cs j' := by
  obtain ⟨ds, hd, hd', -⟩ := hc
  rw [← h.take_eq, hd.take_eq]
  exact hd'

lemma Copied.stops {i' j' : Input} {cs : List Char} {c : Char} (hc : Copied i j i' j')
    (h : Piece i cs j) (hlast : cs.getLast? = some c) (hident : isIdentChar c = true)
    (hj : j.Stops isIdentChar) : j'.Stops isIdentChar := by
  obtain ⟨ds, hd, -, hstops⟩ := hc
  rw [← hd.take_eq, h.take_eq] at hstops
  exact hstops c hlast hident hj

lemma Piece.portable {cs : List Char} (h : Piece i cs j) : Portable i j (Piece · cs ·) :=
  ⟨h.reaches, fun hc => hc.piece h⟩

lemma Gap.portable (h : Gap i j) : Portable i j Gap := by
  obtain ⟨cs, hp, hcs⟩ := h
  exact hp.portable.mono fun hp => ⟨cs, hp, hcs⟩

lemma Word.portable {s : String} (h : Word s i j) : Portable i j (Word s) :=
  Piece.portable h

lemma Keyword.portable {s : String} {c : Char} (h : Keyword s i j)
    (hlast : s.toList.getLast? = some c) (hident : isIdentChar c = true) :
    Portable i j (Keyword s) :=
  ⟨h.1.reaches, fun hc => ⟨hc.piece h.1, hc.stops h.1 hlast hident h.2⟩⟩

lemma Spans.portable {l : Lexeme} (h : Spans i l j) :
    Portable i j (Rephrased Spans (InvImage Eq Lexeme.bare) l) :=
  h.piece.portable.mono fun hp => ⟨⟨_, l.text⟩, ⟨rfl, hp⟩, rfl⟩

lemma DigitsText.portable {l : Lexeme} (h : DigitsText i l j) :
    Portable i j (Rephrased DigitsText (InvImage Eq Lexeme.bare) l) :=
  h.spans.piece.portable.mono fun hp => ⟨⟨_, l.text⟩, ⟨⟨rfl, hp⟩, h.run⟩, rfl⟩

lemma IsRun.getLast?_eq {cs : List Char} (h : IsRun isIdentStart isIdentChar cs) :
    ∃ c, cs.getLast? = some c ∧ isIdentChar c = true := by
  obtain ⟨head, tail⟩ := h
  rename_i c cs
  refine ⟨_, List.getLast?_eq_some_getLast (List.cons_ne_nil c cs), ?_⟩
  rcases List.mem_cons.mp (List.getLast_mem (List.cons_ne_nil c cs)) with hlast | hlast
  · rw [hlast]
    unfold isIdentStart at head
    unfold isIdentChar Char.isAlphanum
    rw [Bool.or_right_comm, head, Bool.true_or]
  · exact tail _ hlast

lemma IdentifierText.portable {l : Lexeme} (h : IdentifierText i l j) :
    Portable i j (Rephrased IdentifierText (InvImage Eq Lexeme.bare) l) :=
  ⟨h.spans.reaches, fun hc =>
    have ⟨_, hlast, hident⟩ := h.run.getLast?_eq
    ⟨⟨_, l.text⟩, ⟨⟨rfl, hc.piece h.spans.piece⟩, h.run,
      hc.stops h.spans.piece hlast hident h.stops⟩, rfl⟩⟩

lemma AxisNameText.portable {l : Lexeme} (h : AxisNameText i l j) :
    Portable i j (Rephrased AxisNameText (InvImage Eq Lexeme.bare) l) :=
  h.spans.piece.portable.mono fun hp => ⟨⟨_, l.text⟩, ⟨⟨rfl, hp⟩, h.run⟩, rfl⟩

lemma Lexeme.text_eq_of_bare_eq {l m : Lexeme} (h : l.bare = m.bare) : l.text = m.text :=
  (Lexeme.mk.inj h).2

lemma AxisText.portable {a : AxisSyntax} (h : AxisText i a j) :
    Portable i j (Rephrased AxisText (InvImage Eq AxisSyntax.bare) a) := by
  cases h with
  | plain name =>
    refine name.portable.mono ?_
    rintro i j ⟨n, name, hn⟩
    exact ⟨_, .plain name, congrArg (AxisSyntax.mk · none) hn⟩
  | limited name opening depth closing =>
    refine (name.portable.comp (opening.portable.comp (depth.portable.comp
      closing.portable))).mono ?_
    rintro i j ⟨_, ⟨n, name, hn⟩, _, opening, _, ⟨d, depth, hd⟩, closing⟩
    exact ⟨_, .limited name opening depth closing, congrArg₂ (AxisSyntax.mk · <| some ·) hn hd⟩

lemma NodeTestText.portable {t : NodeTest} (h : NodeTestText i t j) :
    Portable i j (NodeTestText · t ·) := by
  cases h with
  | any star => exact star.portable.mono fun star => .any star
  | controlType name =>
    refine name.portable.mono ?_
    rintro i j ⟨n, name, hn⟩
    rw [Lexeme.text_eq_of_bare_eq hn]
    exact .controlType name

lemma LiteralText.portable {v : Literal} (h : LiteralText i v j) :
    Portable i j (Rephrased LiteralText (InvImage Eq Literal.bare) v) := by
  cases h with
  | string quote opening spans body closing =>
    refine (opening.portable.comp (spans.portable.comp closing.portable)).mono ?_
    rintro i j ⟨_, opening, _, ⟨b, spans, hb⟩, closing⟩
    rw [Lexeme.text_eq_of_bare_eq hb] at body ⊢
    exact ⟨_, .string quote opening spans body closing, rfl⟩
  | true word => exact (word.portable rfl rfl).mono fun word => ⟨_, .true word, rfl⟩
  | false word => exact (word.portable rfl rfl).mono fun word => ⟨_, .false word, rfl⟩
  | positive digits =>
    refine digits.portable.mono ?_
    rintro i j ⟨l, digits, hl⟩
    exact ⟨_, .positive digits, congrArg Literal.number hl⟩
  | negative sign digits whole =>
    refine ⟨whole.reaches, fun hc => ?_⟩
    obtain ⟨_, sign, d, digits, -⟩ := (sign.portable.comp digits.portable).copy hc
    obtain ⟨l, whole, hl⟩ := whole.portable.copy hc
    exact ⟨_, .negative sign digits whole, congrArg Literal.number hl⟩

lemma CaseFlagText.portable {b : Bool} (h : CaseFlagText i b j) :
    Portable i j (CaseFlagText · b ·) := by
  cases h with
  | absent => exact .refl fun _ => .absent
  | present word => exact (word.portable rfl rfl).mono fun word => .present word

lemma ComparisonText.portable {e : Expr} (h : ComparisonText i e j) :
    Portable i j (Rephrased ComparisonText (InvImage Eq Expr.bare) e) := by
  obtain ⟨sign, property, gap, operator, gap', literal, gap'', flag⟩ := h
  refine (sign.portable.comp (property.portable.comp (gap.portable.comp (operator.portable.comp
    (gap'.portable.comp (literal.portable.comp (gap''.portable.comp flag.portable))))))).mono ?_
  rintro i j ⟨_, sign, _, ⟨n, property, hn⟩, _, gap, _, operator, _, gap', _, ⟨v, literal, hv⟩, _,
    gap'', flag⟩
  exact ⟨_, .intro sign property gap operator gap' literal gap'' flag,
    congrArg₂ (Expr.comparison · _ · _) hn hv⟩

lemma SignText.portable {d : Direction} (h : SignText i d j) : Portable i j (SignText · d ·) := by
  cases h with
  | any sign => exact sign.portable.mono fun sign => .any sign
  | up sign => exact sign.portable.mono fun sign => .up sign
  | down sign => exact sign.portable.mono fun sign => .down sign
  | absent => exact .refl fun _ => .absent

lemma DistanceText.portable {d : DistanceSyntax} (h : DistanceText i d j) :
    Portable i j (Rephrased DistanceText
      (fun d d' => d.direction = d'.direction ∧ d.digits = d'.digits) d) := by
  obtain ⟨sign, digits, whole⟩ := h
  refine ⟨whole.reaches, fun hc => ?_⟩
  obtain ⟨_, sign, l, digits, hl⟩ := (sign.portable.comp digits.portable).copy hc
  obtain ⟨w, whole, -⟩ := whole.portable.copy hc
  exact ⟨_, .intro sign digits whole, rfl, Lexeme.text_eq_of_bare_eq hl⟩

lemma StartText.portable {o : Option Lexeme} (h : StartText i o j) :
    Portable i j (Rephrased StartText (InvImage Eq (Option.map Lexeme.bare)) o) := by
  cases h with
  | absent => exact .refl fun _ => ⟨_, .absent, rfl⟩
  | present digits gap =>
    refine (digits.portable.comp gap.portable).mono ?_
    rintro i j ⟨_, ⟨l, digits, hl⟩, gap⟩
    exact ⟨_, .present digits gap, congrArg some hl⟩

end Tokens

/-! ## Rules put together from copies of their parts -/

variable [Regex.Engine]

section Rules

variable {i j : Input} {e : Expr} {es : List Expr} {sep : Separator} {s : Step} {ss : List Step}
  {p : Predicate} {ps : List Predicate}

lemma rephrased_or (h : Comp (Rephrased AndText Expr.Same e)
    (Rephrased OrMoreText (List.Forall₂ Expr.Same) es) i j) :
    Rephrased OrText Expr.Same (es.foldl .either e) i j := by
  obtain ⟨_, ⟨e', first, he⟩, es', more, hes⟩ := h
  exact ⟨_, .intro first more, .foldl .either he hes⟩

lemma rephrased_orMore (h : Comp Gap (Comp (Keyword "or") (Comp Gap
    (Comp (Rephrased AndText Expr.Same e)
      (Rephrased OrMoreText (List.Forall₂ Expr.Same) es)))) i j) :
    Rephrased OrMoreText (List.Forall₂ Expr.Same) (e :: es) i j := by
  obtain ⟨_, gap, _, word, _, gap', _, ⟨e', operand, he⟩, es', more, hes⟩ := h
  exact ⟨_, .cons gap word gap' operand more, .cons he hes⟩

lemma rephrased_and (h : Comp (Rephrased UnaryText Expr.Same e)
    (Rephrased AndMoreText (List.Forall₂ Expr.Same) es) i j) :
    Rephrased AndText Expr.Same (es.foldl .both e) i j := by
  obtain ⟨_, ⟨e', first, he⟩, es', more, hes⟩ := h
  exact ⟨_, .intro first more, .foldl .both he hes⟩

lemma rephrased_andMore (h : Comp Gap (Comp (Keyword "and") (Comp Gap
    (Comp (Rephrased UnaryText Expr.Same e)
      (Rephrased AndMoreText (List.Forall₂ Expr.Same) es)))) i j) :
    Rephrased AndMoreText (List.Forall₂ Expr.Same) (e :: es) i j := by
  obtain ⟨_, gap, _, word, _, gap', _, ⟨e', operand, he⟩, es', more, hes⟩ := h
  exact ⟨_, .cons gap word gap' operand more, .cons he hes⟩

lemma rephrased_group (h : Comp (Word "(") (Comp Gap (Comp (Rephrased OrText Expr.Same e)
    (Comp Gap (Word ")")))) i j) : Rephrased UnaryText Expr.Same e i j := by
  obtain ⟨_, opening, _, gap, _, ⟨e', expr, he⟩, _, gap', closing⟩ := h
  exact ⟨_, .group opening gap expr gap' closing, he⟩

lemma rephrased_relative {d : DistanceSyntax} {t : Option Expr}
    (h : Comp (Word "relative") (Comp Gap (Comp (Word "(") (Comp Gap
      (Comp (Rephrased DistanceText
          (fun d d' => d.direction = d'.direction ∧ d.digits = d'.digits) d)
        (Comp Gap (Comp (Word ",") (Comp Gap (Comp (Rephrased TargetText Expr.SameTarget t)
          (Comp Gap (Word ")")))))))))) i j) :
    Rephrased UnaryText Expr.Same (.relative d t) i j := by
  obtain ⟨_, word, _, gap, _, opening, _, gap', _, ⟨d', distance, hd, hdigits⟩, _, gap'', _, comma,
    _, gap₃, _, ⟨t', target, ht⟩, _, gap₄, closing⟩ := h
  exact ⟨_, .relative word gap opening gap' distance gap'' comma gap₃ target gap₄ closing,
    .relative hd hdigits ht⟩

lemma rephrased_fromSelf
    (h : Comp (Word ".") (Rephrased StepsText (List.Forall₂ Step.Same) ss) i j) :
    Rephrased UnaryText Expr.Same (.subPath ss) i j := by
  obtain ⟨_, dot, ss', steps, hss⟩ := h
  exact ⟨_, .fromSelf dot steps, .subPath hss⟩

lemma rephrased_fromParent
    (h : Comp (Word "..") (Rephrased StepsText (List.Forall₂ Step.Same) ss) i j) :
    Rephrased UnaryText Expr.Same (.subPath (.parent .child :: ss)) i j := by
  obtain ⟨_, dots, ss', steps, hss⟩ := h
  exact ⟨_, .fromParent dots steps, .subPath (.cons (.refl _) hss)⟩

lemma rephrased_target (h : Rephrased OrText Expr.Same e i j) :
    Rephrased TargetText Expr.SameTarget (some e) i j := by
  obtain ⟨e', expr, he⟩ := h
  exact ⟨_, .expr expr, .some he⟩

lemma rephrased_steps (h : Comp Gap (Comp (Word sep.text) (Comp Gap
    (Comp (Rephrased (StepText sep) Step.Same s)
      (Rephrased StepsText (List.Forall₂ Step.Same) ss)))) i j) :
    Rephrased StepsText (List.Forall₂ Step.Same) (s :: ss) i j := by
  obtain ⟨_, gap, _, separator, _, gap', _, ⟨s', step, hs⟩, ss', more, hss⟩ := h
  exact ⟨_, .cons gap separator gap' step more, .cons hs hss⟩

lemma rephrased_plain {t : NodeTest}
    (h : Comp (NodeTestText · t ·) (Rephrased PredicatesText Predicate.SameAll ps) i j) :
    Rephrased (StepText sep) Step.Same (.axis sep none t ps) i j := by
  obtain ⟨_, test, ps', predicates, hps⟩ := h
  exact ⟨_, .plain test predicates, .plain hps⟩

lemma rephrased_axis {a : AxisSyntax} {t : NodeTest}
    (h : Comp (Rephrased AxisText (InvImage Eq AxisSyntax.bare) a) (Comp Gap (Comp (Word "::")
      (Comp Gap (Comp (NodeTestText · t ·)
        (Rephrased PredicatesText Predicate.SameAll ps))))) i j) :
    Rephrased (StepText sep) Step.Same (.axis sep (some a) t ps) i j := by
  obtain ⟨_, ⟨a', axis, ha⟩, _, gap, _, colons, _, gap', _, test, ps', predicates, hps⟩ := h
  exact ⟨_, .axis axis gap colons gap' test predicates, .axis ha hps⟩

lemma rephrased_predicates (h : Comp Gap (Comp (Rephrased PredicateText Predicate.Same p)
    (Rephrased PredicatesText Predicate.SameAll ps)) i j) :
    Rephrased PredicatesText Predicate.SameAll (p :: ps) i j := by
  obtain ⟨_, gap, _, ⟨p', predicate, hp⟩, ps', more, hps⟩ := h
  exact ⟨_, .cons gap predicate more, .cons hp hps⟩

lemma rephrased_position {w d : Lexeme}
    (h : Comp (Word "[") (Comp Gap (Comp (Rephrased DigitsText (InvImage Eq Lexeme.bare) d)
      (Comp Gap (Word "]")))) i j) :
    Rephrased PredicateText Predicate.Same (.position w d) i j := by
  obtain ⟨_, opening, _, gap, _, ⟨d', number, hd⟩, _, gap', closing⟩ := h
  obtain ⟨cs, whole⟩ := opening.reaches.trans (gap.reaches.trans (number.spans.reaches.trans
    (gap'.reaches.trans closing.reaches)))
  exact ⟨_, .position opening gap number gap' closing (.of_piece whole), .position hd⟩

lemma rephrased_slice {w b t : Lexeme} {s : Option Lexeme}
    (h : Comp (Word "[") (Comp Gap
      (Comp (Rephrased StartText (InvImage Eq (Option.map Lexeme.bare)) s) (Comp (Word ":")
        (Comp Gap (Comp (Rephrased DigitsText (InvImage Eq Lexeme.bare) t)
          (Comp Gap (Word "]"))))))) i j) :
    Rephrased PredicateText Predicate.Same (.slice w b s (some t)) i j := by
  obtain ⟨_, opening, _, gap, _, ⟨s', start, hs⟩, _, colon, _, gap', _, ⟨t', stop, ht⟩, _, gap'',
    closing⟩ := h
  have hbounds := start.reaches.trans (colon.reaches.trans (gap'.reaches.trans stop.spans.reaches))
  obtain ⟨cs, whole⟩ := opening.reaches.trans (gap.reaches.trans (hbounds.trans
    (gap''.reaches.trans closing.reaches)))
  obtain ⟨ds, bounds⟩ := hbounds
  exact ⟨_, .slice opening gap start colon gap' stop (.of_piece bounds) gap'' closing
    (.of_piece whole), .slice hs (congrArg some ht)⟩

lemma rephrased_openSlice {w b : Lexeme} {s : Option Lexeme}
    (h : Comp (Word "[") (Comp Gap
      (Comp (Rephrased StartText (InvImage Eq (Option.map Lexeme.bare)) s) (Comp (Word ":")
        (Comp Gap (Word "]"))))) i j) :
    Rephrased PredicateText Predicate.Same (.slice w b s none) i j := by
  obtain ⟨_, opening, _, gap, _, ⟨s', start, hs⟩, _, colon, _, gap', closing⟩ := h
  have hbounds := start.reaches.trans (colon.reaches.trans gap'.reaches)
  obtain ⟨cs, whole⟩ := opening.reaches.trans (gap.reaches.trans (hbounds.trans closing.reaches))
  obtain ⟨ds, bounds⟩ := hbounds
  exact ⟨_, .openSlice opening gap start colon gap' (.of_piece bounds) closing (.of_piece whole),
    .slice hs rfl⟩

lemma rephrased_condition (h : Comp (Word "[") (Comp Gap (Comp (Rephrased OrText Expr.Same e)
    (Comp Gap (Word "]")))) i j) :
    Rephrased PredicateText Predicate.Same (.condition e) i j := by
  obtain ⟨_, opening, _, gap, _, ⟨e', expr, he⟩, _, gap', closing⟩ := h
  exact ⟨_, .condition opening gap expr gap' closing, .condition he⟩

lemma rephrased_path (h : Comp (Rephrased (StepText .child) Step.Same s)
    (Rephrased StepsText (List.Forall₂ Step.Same) ss) i j) :
    Rephrased PathText (List.Forall₂ Step.Same) (s :: ss) i j := by
  obtain ⟨_, ⟨s', first, hs⟩, ss', more, hss⟩ := h
  exact ⟨_, .plain first more, .cons hs hss⟩

lemma rephrased_leadingPath (h : Comp (Word sep.text) (Comp Gap
    (Comp (Rephrased (StepText sep) Step.Same s)
      (Rephrased StepsText (List.Forall₂ Step.Same) ss))) i j) :
    Rephrased PathText (List.Forall₂ Step.Same) (s :: ss) i j := by
  obtain ⟨_, separator, _, gap, _, ⟨s', first, hs⟩, ss', more, hss⟩ := h
  exact ⟨_, .leading separator gap first more, .cons hs hss⟩

end Rules

/-! ## Every rule can be copied -/

mutual

theorem OrText.portable {i j : Input} {e : Expr} :
    OrText i e j → Portable i j (Rephrased OrText Expr.Same e)
  | .intro first more => (first.portable.comp more.portable).mono rephrased_or

theorem OrMoreText.portable {i j : Input} {es : List Expr} :
    OrMoreText i es j → Portable i j (Rephrased OrMoreText (List.Forall₂ Expr.Same) es)
  | .nil => .refl fun _ => ⟨_, .nil, .nil⟩
  | .cons gap word gap' operand more =>
    (gap.portable.comp ((word.portable rfl rfl).comp (gap'.portable.comp
      (operand.portable.comp more.portable)))).mono rephrased_orMore

theorem AndText.portable {i j : Input} {e : Expr} :
    AndText i e j → Portable i j (Rephrased AndText Expr.Same e)
  | .intro first more => (first.portable.comp more.portable).mono rephrased_and

theorem AndMoreText.portable {i j : Input} {es : List Expr} :
    AndMoreText i es j → Portable i j (Rephrased AndMoreText (List.Forall₂ Expr.Same) es)
  | .nil => .refl fun _ => ⟨_, .nil, .nil⟩
  | .cons gap word gap' operand more =>
    (gap.portable.comp ((word.portable rfl rfl).comp (gap'.portable.comp
      (operand.portable.comp more.portable)))).mono rephrased_andMore

theorem UnaryText.portable {i j : Input} {e : Expr} :
    UnaryText i e j → Portable i j (Rephrased UnaryText Expr.Same e)
  | .group opening gap expr gap' closing =>
    (opening.portable.comp (gap.portable.comp (expr.portable.comp
      (gap'.portable.comp closing.portable)))).mono rephrased_group
  | .comparison comparison =>
    comparison.portable.mono fun ⟨_, comparison, he⟩ =>
      ⟨_, .comparison comparison, .of_bare he⟩
  | .relative word gap opening gap' distance gap'' comma gap₃ target gap₄ closing =>
    (word.portable.comp (gap.portable.comp (opening.portable.comp (gap'.portable.comp
      (distance.portable.comp (gap''.portable.comp (comma.portable.comp (gap₃.portable.comp
        (target.portable.comp (gap₄.portable.comp closing.portable)))))))))).mono
      rephrased_relative
  | .fromSelf dot steps => (dot.portable.comp steps.portable).mono rephrased_fromSelf
  | .fromParent dots steps => (dots.portable.comp steps.portable).mono rephrased_fromParent

theorem TargetText.portable {i j : Input} {t : Option Expr} :
    TargetText i t j → Portable i j (Rephrased TargetText Expr.SameTarget t)
  | .any star => star.portable.mono fun star => ⟨_, .any star, .refl _⟩
  | .expr expr => expr.portable.mono rephrased_target

theorem StepsText.portable {i j : Input} {ss : List Step} :
    StepsText i ss j → Portable i j (Rephrased StepsText (List.Forall₂ Step.Same) ss)
  | .nil => .refl fun _ => ⟨_, .nil, .nil⟩
  | .cons gap separator gap' step more =>
    (gap.portable.comp (separator.portable.comp (gap'.portable.comp
      (step.portable.comp more.portable)))).mono rephrased_steps

theorem StepText.portable {i j : Input} {sep : Separator} {s : Step} :
    StepText sep i s j → Portable i j (Rephrased (StepText sep) Step.Same s)
  | .parent dots => dots.portable.mono fun dots => ⟨_, .parent dots, .refl _⟩
  | .self dot => dot.portable.mono fun dot => ⟨_, .self dot, .refl _⟩
  | .plain test predicates => (test.portable.comp predicates.portable).mono rephrased_plain
  | .axis axis gap colons gap' test predicates =>
    (axis.portable.comp (gap.portable.comp (colons.portable.comp (gap'.portable.comp
      (test.portable.comp predicates.portable))))).mono rephrased_axis

theorem PredicatesText.portable {i j : Input} {ps : List Predicate} :
    PredicatesText i ps j → Portable i j (Rephrased PredicatesText Predicate.SameAll ps)
  | .nil => .refl fun _ => ⟨_, .nil, .refl _⟩
  | .cons gap predicate more =>
    (gap.portable.comp (predicate.portable.comp more.portable)).mono rephrased_predicates

theorem PredicateText.portable {i j : Input} {p : Predicate} :
    PredicateText i p j → Portable i j (Rephrased PredicateText Predicate.Same p)
  | .position opening gap number gap' closing _ =>
    (opening.portable.comp (gap.portable.comp (number.portable.comp
      (gap'.portable.comp closing.portable)))).mono rephrased_position
  | .slice opening gap start colon gap' stop _ gap'' closing _ =>
    (opening.portable.comp (gap.portable.comp (start.portable.comp (colon.portable.comp
      (gap'.portable.comp (stop.portable.comp (gap''.portable.comp closing.portable))))))).mono
      rephrased_slice
  | .openSlice opening gap start colon gap' _ closing _ =>
    (opening.portable.comp (gap.portable.comp (start.portable.comp (colon.portable.comp
      (gap'.portable.comp closing.portable))))).mono rephrased_openSlice
  | .condition opening gap expr gap' closing =>
    (opening.portable.comp (gap.portable.comp (expr.portable.comp
      (gap'.portable.comp closing.portable)))).mono rephrased_condition

end

lemma PathText.portable {i j : Input} {ss : List Step} (h : PathText i ss j) :
    Portable i j (Rephrased PathText (List.Forall₂ Step.Same) ss) := by
  cases h with
  | plain first more => exact (first.portable.comp more.portable).mono rephrased_path
  | leading separator gap first more =>
    exact (separator.portable.comp (gap.portable.comp
      (first.portable.comp more.portable))).mono rephrased_leadingPath

end CPath

end ControlQuery

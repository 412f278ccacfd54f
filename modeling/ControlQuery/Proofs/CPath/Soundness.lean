import ControlQuery.Proofs.CPath.Derivation

/-!
# What is read has a derivation

Each rule's reader takes a piece of the text that the rule of the same name derives. Nested
conditions are read by a reader that is given, so the rules are shown one after the other, and the
whole by induction on how deep conditions nest.
-/

namespace ControlQuery.CPath

open Reader

section Tokens

variable {i j : Input} {u : Unit} {l : Lexeme} {s : String}

lemma gap_of_mayRead_blanks (h : MayRead blanks i u j) : Gap i j ∧ j.Stops isBlank := by
  obtain ⟨cs, k, hb, h'⟩ := h.bind
  obtain ⟨-, rfl⟩ := h'.pure
  have hs : (fun c : Char => c == ' ' || c == '\t' || c == '\r' || c == '\n') = isBlank := by
    funext c
    simp [isBlank, blankChars, Bool.or_assoc, beq_eq_decide]
  rw [hs] at hb
  obtain ⟨hp, hcs, hk⟩ := hb.many_satisfy
  exact ⟨⟨cs, hp, hcs⟩, hk⟩

lemma spans_isRun_of_mayRead {p q : Char → Bool}
    (h : MayRead (lexeme do let _ ← satisfy p; let _ ← many (satisfy q)) i l j) :
    Spans i l j ∧ IsRun p q l.text.toList ∧ j.Stops q := by
  obtain ⟨_, h₁, hl⟩ := h.lexeme
  obtain ⟨c, k, hc, h₂⟩ := h₁.bind
  obtain ⟨cs, m, hcs, h₃⟩ := h₂.bind
  obtain ⟨-, rfl⟩ := h₃.pure
  obtain ⟨hc, hp⟩ := hc.satisfy
  obtain ⟨hcs, hq, hk⟩ := hcs.many_satisfy
  have hcs := hc.append hcs
  rw [hl _ hcs]
  refine ⟨.of_piece hcs, ?_, hk⟩
  rw [String.toList_ofList]
  exact ⟨hp, hq⟩

lemma digitsText_of_mayRead (h : MayRead (lexeme digits) i l j) : DigitsText i l j := by
  obtain ⟨hs, hr, -⟩ := spans_isRun_of_mayRead h
  exact ⟨hs, hr⟩

lemma identifierText_of_mayRead (h : MayRead identifier i l j) : IdentifierText i l j := by
  obtain ⟨hs, hr, hj⟩ := spans_isRun_of_mayRead h.rule
  exact ⟨hs, hr, hj⟩

lemma keyword_of_mayRead {r : Rule} (h : MayRead (keyword r s) i u j) : Keyword s i j := by
  obtain ⟨_, k, hw, h₁⟩ := h.rule.bind
  obtain ⟨rfl, hk⟩ := h₁.notBefore
  exact ⟨hw.token, hk⟩

/-- An alternative that is a token. -/
lemma word_of_mayRead {α : Type} {a b : α} (h : MayRead (do token s; return a) i b j) :
    Word s i j ∧ a = b := by
  obtain ⟨_, k, hw, h₁⟩ := h.bind
  obtain ⟨rfl, rfl⟩ := h₁.pure
  exact ⟨hw.token, rfl⟩

lemma word_of_mayRead_separator {sep : Separator} (h : MayRead separator i sep j) :
    Word sep.text i j := by
  rcases h.rule.orElse with h₁ | h₁ <;>
  · obtain ⟨hw, rfl⟩ := word_of_mayRead h₁
    exact hw

lemma axisText_of_mayRead {a : AxisSyntax} (h : MayRead axis i a j) : AxisText i a j := by
  obtain ⟨name, k, hn, h₁⟩ := h.rule.bind
  obtain ⟨depth, m, hd, h₂⟩ := h₁.bind
  obtain ⟨rfl, rfl⟩ := h₂.pure
  obtain ⟨hs, hr, -⟩ := spans_isRun_of_mayRead hn.rule
  obtain ⟨d, rfl, ha⟩ | ⟨rfl, rfl⟩ := hd.optional
  · obtain ⟨_, n, ho, h₃⟩ := ha.rule.bind
    obtain ⟨d', o, hd', h₄⟩ := h₃.bind
    obtain ⟨_, p, hc, h₅⟩ := h₄.bind
    obtain ⟨rfl, rfl⟩ := h₅.pure
    exact .limited ⟨hs, hr⟩ ho.token (digitsText_of_mayRead hd'.rule) hc.token
  · exact .plain ⟨hs, hr⟩

lemma nodeTestText_of_mayRead {t : NodeTest} (h : MayRead nodeTest i t j) :
    NodeTestText i t j := by
  rcases h.orElse with h₁ | h₁
  · obtain ⟨_, k, hw, h₂⟩ := h₁.bind
    obtain ⟨rfl, rfl⟩ := h₂.pure
    exact .any hw.rule.token
  · obtain ⟨name, k, hn, h₂⟩ := h₁.bind
    obtain ⟨rfl, rfl⟩ := h₂.pure
    exact .controlType (identifierText_of_mayRead hn)

lemma word_of_mayRead_operator {op : Operator} (h : MayRead operator i op j) :
    Word op.text i j := by
  obtain ⟨p, hp, h₁⟩ := h.rule.firstOf
  simp only [List.mem_cons, List.not_mem_nil, or_false] at hp
  rcases hp with rfl | rfl | rfl | rfl | rfl | rfl <;>
  · obtain ⟨hw, rfl⟩ := word_of_mayRead h₁
    exact hw

/-- A character of a quoted text, or a backslash with the character after it. -/
lemma isBody_of_mayRead {q : Char} {vs : List Unit}
    (h : Each (MayRead (firstOf
      [do let _ ← satisfy (· == '\\')
          let _ ← satisfy fun _ => true,
       do let _ ← satisfy fun c => c != q && c != '\\'])) i vs j) :
    ∃ cs, Piece i cs j ∧ IsBody q cs := by
  induction h with
  | nil => exact ⟨[], .nil, .nil⟩
  | cons h _ ih =>
    obtain ⟨cs, hcs, hb⟩ := ih
    rcases h.orElse with h₁ | h₁
    · obtain ⟨c, k, hc, h₂⟩ := h₁.bind
      obtain ⟨d, m, hd, h₃⟩ := h₂.bind
      obtain ⟨-, rfl⟩ := h₃.pure
      obtain ⟨hc, he⟩ := hc.satisfy
      obtain ⟨hd, -⟩ := hd.satisfy
      rw [beq_iff_eq] at he
      rw [he] at hc
      exact ⟨'\\' :: d :: cs, (hc.append hd).append hcs, .escaped hb⟩
    · obtain ⟨c, k, hc, h₂⟩ := h₁.bind
      obtain ⟨-, rfl⟩ := h₂.pure
      obtain ⟨hc, he⟩ := hc.satisfy
      simp only [Bool.and_eq_true, bne_iff_ne, ne_eq] at he
      exact ⟨c :: cs, hc.append hcs, .char he.1 he.2 hb⟩

lemma quoted_of_mayRead {r : Rule} {q : Char} {t : String} (h : MayRead (quoted r q) i t j) :
    ∃ k m b, Piece i [q] k ∧ Spans k b m ∧ IsBody q b.text.toList ∧ Piece m [q] j ∧ t = b.text := by
  obtain ⟨c, k, hc, h₁⟩ := h.bind
  obtain ⟨b, m, hb, h₂⟩ := h₁.bind
  obtain ⟨d, n, hd, h₃⟩ := h₂.bind
  obtain ⟨rfl, rfl⟩ := h₃.pure
  obtain ⟨hc, hcq⟩ := hc.satisfy
  obtain ⟨hd, hdq⟩ := hd.satisfy
  rw [beq_iff_eq] at hcq hdq
  rw [hcq] at hc
  rw [hdq] at hd
  obtain ⟨vs, hvs, hl⟩ := hb.rule.lexeme
  obtain ⟨cs, hcs, hbody⟩ := isBody_of_mayRead hvs.many
  obtain rfl := hl cs hcs
  refine ⟨k, m, _, hc, .of_piece hcs, ?_, hd, rfl⟩
  rw [String.toList_ofList]
  exact hbody

lemma stringText_of_mayRead {t : String}
    (h : MayRead (withLexeme (firstOf [quoted .singleInner '\'', quoted .doubleInner '"'])) i
      (t, l) j) : LiteralText i (.string l.offset t) j := by
  obtain ⟨hq, hl⟩ := h.withLexeme
  obtain ⟨c, m, n, b, hc, ho, hs, hb, hd, rfl⟩ : ∃ c m n b, c ∈ ['\'', '"'] ∧ Piece i [c] m ∧
      Spans m b n ∧ IsBody c b.text.toList ∧ Piece n [c] j ∧ t = b.text := by
    rcases hq.orElse with hq | hq
    · obtain ⟨m, n, b, hq⟩ := quoted_of_mayRead hq
      exact ⟨'\'', m, n, b, by simp, hq⟩
    · obtain ⟨m, n, b, hq⟩ := quoted_of_mayRead hq
      exact ⟨'"', m, n, b, by simp, hq⟩
  obtain ⟨cs, hcs⟩ := (ho.reaches.trans hs.reaches).trans hd.reaches
  obtain rfl := hl cs hcs
  exact .string hc ho hs hb hd

lemma booleanText_of_mayRead {b : Bool}
    (h : MayRead (withLexeme do
      let value ← firstOf
        [do token "true"; return true,
         do token "false"; return false]
      notBefore isIdentChar
      return value) i (b, l) j) : LiteralText i (.boolean l.offset b) j := by
  obtain ⟨hb, hl⟩ := h.withLexeme
  obtain ⟨b', m, ht, h₁⟩ := hb.bind
  obtain ⟨_, n, hn, h₂⟩ := h₁.bind
  obtain ⟨rfl, rfl⟩ := h₂.pure
  obtain ⟨rfl, hs⟩ := hn.notBefore
  rcases ht.orElse with ha | ha
  · obtain ⟨hword, rfl⟩ := word_of_mayRead ha
    obtain rfl := hl _ hword
    exact .true ⟨hword, hs⟩
  · obtain ⟨hword, rfl⟩ := word_of_mayRead ha
    obtain rfl := hl _ hword
    exact .false ⟨hword, hs⟩

lemma numberText_of_mayRead
    (h : MayRead (lexeme do
      let _ ← optional (token "-")
      digits) i l j) : LiteralText i (.number l) j := by
  obtain ⟨_, hn, hl⟩ := h.lexeme
  obtain ⟨o, m, ho, hd⟩ := hn.bind
  obtain ⟨c, n, hc, h₁⟩ := hd.bind
  obtain ⟨cs, k, hcs, h₂⟩ := h₁.bind
  obtain ⟨-, rfl⟩ := h₂.pure
  obtain ⟨hc, hp⟩ := hc.satisfy
  obtain ⟨hcs, hq, -⟩ := hcs.many_satisfy
  have hds := hc.append hcs
  have hd : DigitsText m ⟨m.offset, String.ofList ([c] ++ cs)⟩ k := by
    refine ⟨.of_piece hds, ?_⟩
    rw [String.toList_ofList]
    exact ⟨hp, hq⟩
  obtain ⟨_, rfl, hs⟩ | ⟨rfl, rfl⟩ := ho.optional
  · obtain rfl := hl _ (hs.token.append hds)
    exact .negative hs.token hd (.of_piece (hs.token.append hds))
  · obtain rfl := hl _ hds
    exact .positive hd

lemma literalText_of_mayRead {v : Literal} (h : MayRead literal i v j) : LiteralText i v j := by
  obtain ⟨p, hp, h₁⟩ := h.firstOf
  simp only [List.mem_cons, List.not_mem_nil, or_false] at hp
  rcases hp with rfl | rfl | rfl
  · obtain ⟨⟨t, whole⟩, k, hw, h₂⟩ := h₁.bind
    obtain ⟨rfl, rfl⟩ := h₂.pure
    exact stringText_of_mayRead hw.rule
  · obtain ⟨⟨b, whole⟩, k, hw, h₂⟩ := h₁.bind
    obtain ⟨rfl, rfl⟩ := h₂.pure
    exact booleanText_of_mayRead hw.rule
  · obtain ⟨l, k, hn, h₂⟩ := h₁.bind
    obtain ⟨rfl, rfl⟩ := h₂.pure
    exact numberText_of_mayRead hn.rule

lemma comparisonText_of_mayRead {e : Expr} (h : MayRead comparison i e j) :
    ComparisonText i e j := by
  obtain ⟨property, k, hp, h₁⟩ := h.rule.bind
  obtain ⟨_, m, hm, h₂⟩ := h₁.bind
  obtain ⟨op, n, hn, h₃⟩ := h₂.bind
  obtain ⟨_, o, ho, h₄⟩ := h₃.bind
  obtain ⟨v, p, hv, h₅⟩ := h₄.bind
  obtain ⟨_, q, hq, h₆⟩ := h₅.bind
  obtain ⟨flag, r, hr, h₇⟩ := h₆.bind
  obtain ⟨rfl, rfl⟩ := h₇.pure
  obtain ⟨_, a, ha, h₈⟩ := hp.rule.bind
  have hf : CaseFlagText q flag.isSome r := by
    obtain ⟨_, rfl, hf⟩ | ⟨rfl, rfl⟩ := hr.optional
    · exact .present (keyword_of_mayRead hf)
    · exact .absent
  exact .intro ha.token (identifierText_of_mayRead h₈) (gap_of_mayRead_blanks hm).1
    (word_of_mayRead_operator hn) (gap_of_mayRead_blanks ho).1 (literalText_of_mayRead hv)
    (gap_of_mayRead_blanks hq).1 hf

lemma distanceText_of_mayRead {d : DistanceSyntax} (h : MayRead distance i d j) :
    DistanceText i d j := by
  obtain ⟨⟨⟨direction, t⟩, whole⟩, k, hd, h₁⟩ := h.rule.bind
  obtain ⟨rfl, rfl⟩ := h₁.pure
  obtain ⟨hd, hl⟩ := hd.withLexeme
  obtain ⟨sign, m, hs, h₂⟩ := hd.bind
  obtain ⟨l, n, hn, h₃⟩ := h₂.bind
  obtain ⟨he, rfl⟩ := h₃.pure
  cases he
  have hn := digitsText_of_mayRead hn
  have hs : SignText i (sign.getD .down) m := by
    obtain ⟨a, rfl, ha⟩ | ⟨rfl, rfl⟩ := hs.optional
    · obtain ⟨p, hp, ha⟩ := ha.firstOf
      simp only [List.mem_cons, List.not_mem_nil, or_false] at hp
      rcases hp with rfl | rfl | rfl
      · obtain ⟨hw, rfl⟩ := word_of_mayRead ha
        exact .any hw
      · obtain ⟨hw, rfl⟩ := word_of_mayRead ha
        exact .up hw
      · obtain ⟨hw, rfl⟩ := word_of_mayRead ha
        exact .down hw
    · exact .absent
  obtain ⟨cs, hcs⟩ := hs.reaches.trans hn.spans.reaches
  obtain rfl := hl cs hcs
  exact .intro hs hn (.of_piece hcs)

lemma digitsText_or_of_mayRead {r : Rule} {o : Option Lexeme}
    (h : MayRead (optional (rule r (lexeme digits))) i o j) :
    (∃ l, o = some l ∧ DigitsText i l j) ∨ (o = none ∧ i = j) := by
  obtain ⟨l, rfl, hl⟩ | ⟨rfl, rfl⟩ := h.optional
  · exact .inl ⟨l, rfl, digitsText_of_mayRead hl.rule⟩
  · exact .inr ⟨rfl, rfl⟩

/-- A slice is only tried where no blanks come next. -/
lemma startText_of_mayRead {k : Input} {r : Rule} {o : Option Lexeme}
    (h : MayRead (optional (rule r (lexeme digits))) i o j) (hg : MayRead blanks j u k)
    (hi : i.Stops isBlank) : StartText i o k := by
  have hg := (gap_of_mayRead_blanks hg).1
  obtain ⟨d, rfl, hd⟩ | ⟨rfl, rfl⟩ := digitsText_or_of_mayRead h
  · exact .present hd hg
  · obtain rfl := hg.eq_of_stops hi
    exact .absent

lemma slice_of_mayRead {o o' : Option Lexeme} (h : MayRead slice i (o, o') j)
    (hi : i.Stops isBlank) :
    ∃ k l m, StartText i o k ∧ Word ":" k l ∧ Gap l m ∧
      ((∃ l, o' = some l ∧ DigitsText m l j) ∨ (o' = none ∧ m = j ∧ m.Stops isBlank)) := by
  obtain ⟨start, k, hs, h₁⟩ := h.rule.bind
  obtain ⟨_, l, hg, h₂⟩ := h₁.bind
  obtain ⟨_, m, hc, h₃⟩ := h₂.bind
  obtain ⟨_, n, hg', h₄⟩ := h₃.bind
  obtain ⟨stop, r, ht, h₅⟩ := h₄.bind
  obtain ⟨he, rfl⟩ := h₅.pure
  cases he
  obtain ⟨hg', hn⟩ := gap_of_mayRead_blanks hg'
  refine ⟨l, m, n, startText_of_mayRead hs hg hi, hc.token, hg', ?_⟩
  obtain ht | ⟨rfl, rfl⟩ := digitsText_or_of_mayRead ht
  · exact .inl ht
  · exact .inr ⟨rfl, rfl, hn⟩

end Tokens

/-! ## Rules of conditions and steps -/

section Rules

variable {expr : Reader Expr} (hexpr : ∀ i e j, MayRead expr i e j → OrText i e j)
include hexpr

omit hexpr in
/-- What stands in brackets, and the brackets with it. -/
lemma bracketed_of_mayRead {q : Reader (Lexeme → Predicate)} {i j : Input} {p : Predicate}
    (h : MayRead (rule .predicate do
      let (make, whole) ← withLexeme do
        token "["
        blanks
        let make ← q
        blanks
        token "]"
        return make
      return make whole) i p j) :
    ∃ k l m n make whole, Word "[" i k ∧ Gap k l ∧ l.Stops isBlank ∧ MayRead q l make m ∧
      Gap m n ∧ Word "]" n j ∧ (Reaches l m → Spans i whole j) ∧ p = make whole := by
  obtain ⟨⟨make, whole⟩, k, hm, h₁⟩ := h.rule.bind
  obtain ⟨rfl, rfl⟩ := h₁.pure
  obtain ⟨hb, hl⟩ := hm.withLexeme
  obtain ⟨_, l, hopen, h₂⟩ := hb.bind
  obtain ⟨_, m, hgap, h₃⟩ := h₂.bind
  obtain ⟨make', n, hmake, h₄⟩ := h₃.bind
  obtain ⟨_, o, hgap', h₅⟩ := h₄.bind
  obtain ⟨_, r, hclose, h₆⟩ := h₅.bind
  obtain ⟨rfl, rfl⟩ := h₆.pure
  have hopen := hopen.token
  obtain ⟨hgap, hstop⟩ := gap_of_mayRead_blanks hgap
  have hgap' := (gap_of_mayRead_blanks hgap').1
  have hclose := hclose.token
  refine ⟨l, m, n, o, _, whole, hopen, hgap, hstop, hmake, hgap', hclose, fun hinside => ?_, rfl⟩
  obtain ⟨cs, hcs⟩ := ((Piece.reaches hopen).trans hgap.reaches).trans
    ((hinside.trans hgap'.reaches).trans (Piece.reaches hclose))
  obtain rfl := hl cs hcs
  exact .of_piece hcs

lemma predicateText_of_mayRead {i j : Input} {p : Predicate}
    (h : MayRead (predicate expr) i p j) : PredicateText i p j := by
  obtain ⟨k, l, m, n, make, whole, hopen, hgap, hl, hmake, hgap', hclose, hwhole, rfl⟩ :=
    bracketed_of_mayRead h
  obtain ⟨q, hq, h₁⟩ := hmake.firstOf
  simp only [List.mem_cons, List.not_mem_nil, or_false] at hq
  rcases hq with rfl | rfl | rfl
  · obtain ⟨⟨⟨start, stop⟩, bounds⟩, r, hs, h₂⟩ := h₁.bind
    obtain ⟨rfl, rfl⟩ := h₂.pure
    obtain ⟨hs, hb⟩ := hs.withLexeme
    obtain ⟨s, t, u, hstart, hcolon, hg, hend⟩ := slice_of_mayRead hs hl
    have hfront := (hstart.reaches.trans hcolon.reaches).trans hg.reaches
    obtain ⟨d, rfl, hd⟩ | ⟨rfl, rfl, hu⟩ := hend
    · obtain ⟨cs, hcs⟩ := hfront.trans hd.spans.reaches
      obtain rfl := hb cs hcs
      exact .slice hopen hgap hstart hcolon hg hd (.of_piece hcs) hgap' hclose (hwhole ⟨cs, hcs⟩)
    · obtain rfl := hgap'.eq_of_stops hu
      obtain ⟨cs, hcs⟩ := hfront
      obtain rfl := hb cs hcs
      exact .openSlice hopen hgap hstart hcolon hg (.of_piece hcs) hclose (hwhole ⟨cs, hcs⟩)
  · obtain ⟨number, r, hn, h₂⟩ := h₁.bind
    obtain ⟨rfl, rfl⟩ := h₂.pure
    have hn := digitsText_of_mayRead hn.rule
    exact .position hopen hgap hn hgap' hclose (hwhole hn.spans.reaches)
  · obtain ⟨e, r, he, h₂⟩ := h₁.bind
    obtain ⟨rfl, rfl⟩ := h₂.pure
    exact .condition hopen hgap (hexpr _ _ _ he) hgap' hclose

lemma predicatesText_of_mayRead {i j : Input} {ps : List Predicate}
    (h : MayRead (manySpaced (predicate expr)) i ps j) : PredicatesText i ps j := by
  have he := h.many
  clear h
  induction he with
  | nil => exact .nil
  | cons h _ ih =>
    obtain ⟨_, k, hg, h₁⟩ := h.bind
    exact .cons (gap_of_mayRead_blanks hg).1 (predicateText_of_mayRead hexpr h₁) ih

/-- Steps are only tried where no blanks come next. -/
lemma stepText_of_mayRead {i j : Input} {sep : Separator} {s : Step}
    (h : MayRead (step expr sep) i s j) (hi : i.Stops isBlank) : StepText sep i s j := by
  obtain ⟨p, hp, h₁⟩ := h.rule.firstOf
  simp only [List.mem_cons, List.not_mem_nil, or_false] at hp
  rcases hp with rfl | rfl | rfl
  · obtain ⟨_, k, hw, h₂⟩ := h₁.bind
    obtain ⟨rfl, rfl⟩ := h₂.pure
    exact .parent hw.rule.token
  · obtain ⟨_, k, hw, h₂⟩ := h₁.bind
    obtain ⟨rfl, rfl⟩ := h₂.pure
    exact .self hw.rule.token
  · obtain ⟨a, k, ha, h₂⟩ := h₁.rule.bind
    obtain ⟨_, l, hg, h₃⟩ := h₂.bind
    obtain ⟨t, m, ht, h₄⟩ := h₃.bind
    obtain ⟨ps, n, hps, h₅⟩ := h₄.bind
    obtain ⟨rfl, rfl⟩ := h₅.pure
    have hg := (gap_of_mayRead_blanks hg).1
    have ht := nodeTestText_of_mayRead ht
    have hps := predicatesText_of_mayRead hexpr hps
    obtain ⟨a, rfl, hax⟩ | ⟨rfl, rfl⟩ := ha.optional
    · obtain ⟨a', o, ha', h₆⟩ := hax.bind
      obtain ⟨_, q, hg', h₇⟩ := h₆.bind
      obtain ⟨_, r, hw, h₈⟩ := h₇.bind
      obtain ⟨rfl, rfl⟩ := h₈.pure
      exact .axis (axisText_of_mayRead ha') (gap_of_mayRead_blanks hg').1 hw.token hg ht hps
    · obtain rfl := hg.eq_of_stops hi
      exact .plain ht hps

lemma stepsText_of_mayRead {i j : Input} {ss : List Step}
    (h : MayRead (moreSteps expr) i ss j) : StepsText i ss j := by
  have he := h.many
  clear h
  induction he with
  | nil => exact .nil
  | cons h _ ih =>
    obtain ⟨_, k, hg, h₁⟩ := h.bind
    obtain ⟨sep, l, hs, h₂⟩ := h₁.bind
    obtain ⟨_, m, hg', h₃⟩ := h₂.bind
    obtain ⟨hg', hm⟩ := gap_of_mayRead_blanks hg'
    exact .cons (gap_of_mayRead_blanks hg).1 (word_of_mayRead_separator hs) hg'
      (stepText_of_mayRead hexpr h₃ hm) ih

lemma groupText_of_mayRead {i j : Input} {e : Expr}
    (h : MayRead (rule .group do
      token "("
      blanks
      let e ← expr
      blanks
      token ")"
      return e) i e j) : UnaryText i e j := by
  obtain ⟨_, k, hopen, h₁⟩ := h.rule.bind
  obtain ⟨_, l, hg, h₂⟩ := h₁.bind
  obtain ⟨e', m, he, h₃⟩ := h₂.bind
  obtain ⟨_, n, hg', h₄⟩ := h₃.bind
  obtain ⟨_, o, hclose, h₅⟩ := h₄.bind
  obtain ⟨rfl, rfl⟩ := h₅.pure
  exact .group hopen.token (gap_of_mayRead_blanks hg).1 (hexpr _ _ _ he)
    (gap_of_mayRead_blanks hg').1 hclose.token

lemma targetText_of_mayRead {i j : Input} {t : Option Expr}
    (h : MayRead (firstOf
      [do rule .anyNode (token "*"); return none,
       do return some (← expr)]) i t j) : TargetText i t j := by
  rcases h.orElse with h₁ | h₁
  · obtain ⟨_, k, hstar, h₂⟩ := h₁.bind
    obtain ⟨rfl, rfl⟩ := h₂.pure
    exact .any hstar.rule.token
  · obtain ⟨e, k, he, h₂⟩ := h₁.bind
    obtain ⟨rfl, rfl⟩ := h₂.pure
    exact .expr (hexpr _ _ _ he)

lemma relativeText_of_mayRead {i j : Input} {e : Expr} (h : MayRead (relative expr) i e j) :
    UnaryText i e j := by
  obtain ⟨_, k, hword, h₁⟩ := h.rule.bind
  obtain ⟨_, l, hg, h₂⟩ := h₁.bind
  obtain ⟨_, m, hopen, h₃⟩ := h₂.bind
  obtain ⟨_, n, hg', h₄⟩ := h₃.bind
  obtain ⟨d, o, hd, h₅⟩ := h₄.bind
  obtain ⟨_, p, hg'', h₆⟩ := h₅.bind
  obtain ⟨_, q, hcomma, h₇⟩ := h₆.bind
  obtain ⟨_, r, hg₃, h₈⟩ := h₇.bind
  obtain ⟨t, s, ht, h₉⟩ := h₈.bind
  obtain ⟨_, u, hg₄, h₁₀⟩ := h₉.bind
  obtain ⟨_, v, hclose, h₁₁⟩ := h₁₀.bind
  obtain ⟨rfl, rfl⟩ := h₁₁.pure
  exact .relative hword.token (gap_of_mayRead_blanks hg).1 hopen.token
    (gap_of_mayRead_blanks hg').1 (distanceText_of_mayRead hd) (gap_of_mayRead_blanks hg'').1
    hcomma.token (gap_of_mayRead_blanks hg₃).1 (targetText_of_mayRead hexpr ht)
    (gap_of_mayRead_blanks hg₄).1 hclose.token

lemma subPathText_of_mayRead {i j : Input} {e : Expr} (h : MayRead (subPath expr) i e j) :
    UnaryText i e j := by
  obtain ⟨start, k, hs, h₁⟩ := h.rule.bind
  obtain ⟨steps, l, hsteps, h₂⟩ := h₁.bind
  obtain ⟨rfl, rfl⟩ := h₂.pure
  have hsteps := stepsText_of_mayRead hexpr hsteps
  rcases hs.orElse with hs' | hs'
  · obtain ⟨_, m, hw, h₃⟩ := hs'.bind
    obtain ⟨rfl, rfl⟩ := h₃.pure
    exact .fromParent hw.rule.token hsteps
  · obtain ⟨_, m, hw, h₃⟩ := hs'.bind
    obtain ⟨rfl, rfl⟩ := h₃.pure
    exact .fromSelf hw.rule.token hsteps

lemma unaryText_of_mayRead {i j : Input} {e : Expr} (h : MayRead (unary expr) i e j) :
    UnaryText i e j := by
  obtain ⟨p, hp, h₁⟩ := h.firstOf
  simp only [List.mem_cons, List.not_mem_nil, or_false] at hp
  rcases hp with rfl | rfl | rfl | rfl
  · exact groupText_of_mayRead hexpr h₁
  · exact .comparison (comparisonText_of_mayRead h₁)
  · exact relativeText_of_mayRead hexpr h₁
  · exact subPathText_of_mayRead hexpr h₁

omit hexpr in
lemma moreText_of_mayRead {p : Reader Expr} {r : Rule} {word : String}
    {rule : Input → Expr → Input → Prop} (hp : ∀ {i e j}, MayRead p i e j → rule i e j)
    {i j : Input} {es : List Expr}
    (h : MayRead (manySpaced do
      keyword r word
      blanks
      p) i es j) : MoreText word rule i es j := by
  have he := h.many
  clear h
  induction he with
  | nil => exact .nil
  | cons h _ ih =>
    obtain ⟨_, m, hg, h₁⟩ := h.bind
    obtain ⟨_, n, hw, h₂⟩ := h₁.bind
    obtain ⟨_, o, hg', h₃⟩ := h₂.bind
    exact .cons (gap_of_mayRead_blanks hg).1 (keyword_of_mayRead hw) (gap_of_mayRead_blanks hg').1
      (hp h₃) ih

lemma andText_of_mayRead {i j : Input} {e : Expr} (h : MayRead (andExpr expr) i e j) :
    AndText i e j := by
  obtain ⟨first, k, hf, h₁⟩ := h.rule.bind
  obtain ⟨more, l, hm, h₂⟩ := h₁.bind
  obtain ⟨rfl, rfl⟩ := h₂.pure
  exact .of_more (unaryText_of_mayRead hexpr hf)
    (moreText_of_mayRead (unaryText_of_mayRead hexpr) hm)

lemma orText_of_mayRead {i j : Input} {e : Expr} (h : MayRead (orExpr expr) i e j) :
    OrText i e j := by
  obtain ⟨first, k, hf, h₁⟩ := h.rule.bind
  obtain ⟨more, l, hm, h₂⟩ := h₁.bind
  obtain ⟨rfl, rfl⟩ := h₂.pure
  exact .of_more (andText_of_mayRead hexpr hf) (moreText_of_mayRead (andText_of_mayRead hexpr) hm)

lemma pathText_of_mayRead {i j : Input} {ss : List Step} (h : MayRead (path expr) i ss j)
    (hi : i.Stops isBlank) : PathText i ss j := by
  obtain ⟨first, k, hf, h₁⟩ := h.rule.bind
  obtain ⟨more, l, hm, h₂⟩ := h₁.bind
  obtain ⟨rfl, rfl⟩ := h₂.pure
  obtain ⟨sep, m, hs, h₃⟩ := hf.rule.bind
  obtain ⟨_, n, hg, h₄⟩ := h₃.bind
  obtain ⟨hg, hn⟩ := gap_of_mayRead_blanks hg
  have hstep := stepText_of_mayRead hexpr h₄ hn
  have hsteps := stepsText_of_mayRead hexpr hm
  obtain ⟨sep, rfl, hsep⟩ | ⟨rfl, rfl⟩ := hs.optional
  · exact .leading (word_of_mayRead_separator hsep) hg hstep hsteps
  · obtain rfl := hg.eq_of_stops hi
    exact .plain hstep hsteps

end Rules

lemma orText_of_mayRead_exprWithin {n : Nat} {i j : Input} {e : Expr}
    (h : MayRead (exprWithin n) i e j) : OrText i e j := by
  induction n generalizing i e j with
  | zero =>
    obtain ⟨σ, h⟩ := h
    cases h
  | succ n ih => exact orText_of_mayRead (fun _ _ _ => ih) h

/-- What the whole grammar reads can be derived. -/
theorem derives_of_mayRead {text : String} {ss : List Step} {j : Input}
    (h : MayRead (wholePath text) (.start text) ss j) : Derives text ss := by
  obtain ⟨_, k, hg, h₁⟩ := h.rule.bind
  obtain ⟨steps, l, hp, h₂⟩ := h₁.bind
  obtain ⟨_, m, hg', h₃⟩ := h₂.bind
  obtain ⟨_, n, he, h₄⟩ := h₃.bind
  obtain ⟨rfl, rfl⟩ := h₄.pure
  obtain ⟨hg, hk⟩ := gap_of_mayRead_blanks hg
  have hp := pathText_of_mayRead (fun _ _ _ => orText_of_mayRead_exprWithin) hp hk
  exact .intro hg hp (gap_of_mayRead_blanks hg').1 he.rule.atEnd.2

end ControlQuery.CPath

import ControlQuery.Proofs.CPath.Lookahead

/-!
# Tokens are read

The readers of tokens, axes, node tests, comparisons and distances take exactly what a derivation
gives them, if what comes next cannot go on it. A comparison without a flag also takes the blanks
behind it.
-/

namespace ControlQuery.CPath

open Reader

section Tokens

variable {i j k l : Input} {a : Lexeme} {p q : Char → Bool} {cs : List Char} {s : String}

lemma reads_blanks (hg : Gap i j) (hj : j.Stops isBlank) : Reads blanks i () j := by
  obtain ⟨cs, hp, hcs⟩ := hg
  have hs : isBlank = fun c : Char => c == ' ' || c == '\t' || c == '\r' || c == '\n' := by
    funext c
    simp [isBlank, blankChars, Bool.or_assoc, beq_eq_decide]
  rw [hs] at hcs hj
  exact (reads_many_satisfy hp hcs hj).bind reads_pure

lemma Reader.Reads.of_spans {α : Type} {p : Reader α} {b : α} (h : Reads p i b j)
    (hs : Spans i a j) : Reads (Reader.lexeme p) i a j := by
  rw [hs.eq]
  exact h.lexeme hs.piece

lemma Reader.Reads.with_spans {α : Type} {p : Reader α} {b : α} (h : Reads p i b j)
    (hs : Spans i a j) : Reads (Reader.withLexeme p) i (b, a) j := by
  rw [hs.eq]
  exact h.withLexeme hs.piece

lemma reads_run (hr : IsRun p q cs) (hp : Piece i cs j) (hj : j.Stops q) :
    Reads (do let _ ← satisfy p; let _ ← many (satisfy q)) i () j := by
  obtain ⟨hc, hcs⟩ := hr
  obtain ⟨h, h'⟩ := hp.uncons
  exact (reads_satisfy h hc).bind ((reads_many_satisfy h' hcs hj).bind reads_pure)

lemma refuses_run (hi : i.Stops p) :
    Refuses (do let _ ← satisfy p; let _ ← many (satisfy q)) i :=
  (refuses_satisfy hi).bind

lemma reads_digits (h : DigitsText i a j) (hj : j.Stops Char.isDigit) :
    Reads (lexeme digits) i a j :=
  (reads_run h.run h.spans.piece hj).of_spans h.spans

lemma reads_identifier (h : IdentifierText i a j) : Reads identifier i a j :=
  ((reads_run h.run h.spans.piece h.stops).of_spans h.spans).rule

lemma reads_keyword {r : Rule} (h : Keyword s i j) : Reads (keyword r s) i () j :=
  ((reads_token h.1).bind (reads_notBefore h.2)).rule

lemma refuses_keyword {r : Rule} {c : Char} (hs : s.toList = c :: cs) (hi : i.Stops (· == c)) :
    Refuses (keyword r s) i :=
  (refuses_token_of_stops hs hi).bind.rule

/-- A token of two characters is refused where only the first one stands. -/
lemma refuses_token_of_next {c d : Char} (hs : s.toList = c :: d :: cs) (h : Piece i [c] j)
    (hj : j.Stops (· == d)) : Refuses (token s) i := by
  refine refuses_token fun hp => ?_
  rw [hs, h.rest, List.singleton_append, List.prefix_cons_inj] at hp
  obtain ⟨r, hr⟩ := hp
  have hd := hj d (by rw [← hr]; rfl)
  simp at hd

lemma reads_separator {sep : Separator} (h : Word sep.text i j) (hj : j.Stops (· == '/')) :
    Reads separator i sep j := by
  cases sep with
  | child =>
    have hr : Refuses (token "//") i := refuses_token_of_next (c := '/') rfl h hj
    exact Reads.rule (Refuses.orElse_reads hr.bind (Reads.bind (reads_token h) reads_pure))
  | descendant => exact Reads.rule (Reads.orElse (Reads.bind (reads_token h) reads_pure))

lemma reads_axis {x : AxisSyntax} (h : AxisText i x j) (hj : Follows [':'] j) :
    Reads axis i x j := by
  cases h with
  | plain name =>
    have hn := (reads_run name.run name.spans.piece (hj.stops rfl)).of_spans name.spans
    have hd : Refuses (token "\x7b") j := refuses_token_of_stops rfl (hj.stops rfl)
    exact Reads.rule (Reads.bind hn.rule (Reads.bind hd.bind.rule.optional reads_pure))
  | limited name opening depth closing =>
    have ho : Follows ['\x7b'] _ := (opening.starts '\x7b' rfl).follows rfl (by simp)
    have hc : Follows ['\x7d'] _ := (closing.starts '\x7d' rfl).follows rfl (by simp)
    have hn := (reads_run name.run name.spans.piece (ho.stops rfl)).of_spans name.spans
    refine Reads.rule (Reads.bind hn.rule (Reads.bind (Reads.optional (Reads.rule ?_)) reads_pure))
    refine Reads.bind (reads_token opening)
      (Reads.bind ?_ (Reads.bind (reads_token closing) reads_pure))
    exact (reads_digits depth (hc.stops rfl)).rule

lemma reads_nodeTest {t : NodeTest} (h : NodeTestText i t j) : Reads nodeTest i t j := by
  cases h with
  | any star => exact Reads.orElse (Reads.bind (reads_token star).rule reads_pure)
  | controlType name =>
    have hstar : Refuses (token "*") i := refuses_token_of_stops rfl (name.starts.stops_char rfl)
    exact Refuses.orElse_reads hstar.rule.bind (Reads.bind (reads_identifier name) reads_pure)

/-- No operator is the beginning of another one. -/
lemma Operator.eq_of_prefix {op op' : Operator}
    (h : op'.text.toList <+: op.text.toList ++ cs) : op' = op := by
  obtain ⟨negated, relation⟩ := op
  obtain ⟨negated', relation'⟩ := op'
  cases negated <;> cases relation <;> cases negated' <;> cases relation' <;>
    simp [Operator.text] at h ⊢

lemma reads_operator {op : Operator} (h : Word op.text i j) : Reads operator i op j := by
  have hread : Reads (do token op.text; return op) i op j := Reads.bind (reads_token h) reads_pure
  refine Reads.rule (Reads.firstOf hread ?_ ?_)
  · obtain ⟨negated, relation⟩ := op
    cases negated <;> cases relation <;> simp [Operator.text]
  · have hrefuse (op' : Operator) :
        (do token op'.text; return op') = (do token op.text; return op : Reader Operator) ∨
          Refuses (do token op'.text; return op') i := by
      by_cases he : op' = op
      · rw [he]
        exact .inl rfl
      · refine .inr (Refuses.bind (refuses_token fun hp => he ?_))
        rw [h.rest] at hp
        exact Operator.eq_of_prefix hp
    intro q hq
    simp only [List.mem_cons, List.not_mem_nil, or_false] at hq
    rcases hq with rfl | rfl | rfl | rfl | rfl | rfl
    · exact hrefuse ⟨true, .contains⟩
    · exact hrefuse ⟨true, .matches⟩
    · exact hrefuse ⟨true, .equals⟩
    · exact hrefuse ⟨false, .contains⟩
    · exact hrefuse ⟨false, .matches⟩
    · exact hrefuse ⟨false, .equals⟩

/-- What stands between two quotes ends at the first quote without a backslash. -/
lemma reads_body {q : Char} (h : IsBody q cs) (hp : Piece i cs j) (hj : j.Starts (· == q))
    (hq : q ≠ '\\') :
    ∃ vs, Reads (many (firstOf
      [do let _ ← satisfy (· == '\\')
          let _ ← satisfy fun _ => true,
       do let _ ← satisfy fun c => c != q && c != '\\'])) i vs j := by
  have hstop : Refuses (firstOf
      [do let _ ← satisfy (· == '\\')
          let _ ← satisfy fun _ => true,
       do let _ ← satisfy fun c => c != q && c != '\\']) j := by
    refine Refuses.orElse (Refuses.bind (refuses_satisfy ?_)) (Refuses.bind (refuses_satisfy ?_))
    · exact hj.stops_char (by simpa using hq.symm)
    · exact hj.stops fun c hc => by simp [beq_iff_eq.mp hc]
  suffices hvs : ∃ vs, Each (Advances _) i vs j by
    obtain ⟨vs, hvs⟩ := hvs
    exact ⟨vs, hvs.many hstop⟩
  induction h generalizing i with
  | nil =>
    rw [hp.eq_of_nil]
    exact ⟨[], .nil⟩
  | @escaped c cs _ ih =>
    obtain ⟨hb, hp⟩ := hp.uncons
    obtain ⟨hc, hp'⟩ := hp.uncons
    obtain ⟨vs, hvs⟩ := ih hp'
    refine ⟨() :: vs, .cons ⟨Reads.orElse (Reads.bind (reads_satisfy hb rfl)
      (Reads.bind (reads_satisfy hc rfl) reads_pure)), ?_⟩ hvs⟩
    rw [hb.length, hc.length]
    simp only [List.length_singleton]
    omega
  | @char c cs hcq hcb _ ih =>
    obtain ⟨hc, hp'⟩ := hp.uncons
    obtain ⟨vs, hvs⟩ := ih hp'
    have hn : i.Stops (· == '\\') := .of_head hc.head (by simpa using hcb)
    refine ⟨() :: vs, .cons ⟨Refuses.orElse_reads (Refuses.bind (refuses_satisfy hn))
      (Reads.bind (reads_satisfy hc (by simp [hcq, hcb])) reads_pure), ?_⟩ hvs⟩
    rw [hc.length]
    simp

lemma reads_quoted {r : Rule} {q : Char} (ho : Piece i [q] j) (hs : Spans j a k)
    (hb : IsBody q a.text.toList) (hc : Piece k [q] l) (hq : q ≠ '\\') :
    Reads (quoted r q) i a.text l := by
  obtain ⟨vs, hvs⟩ := reads_body hb hs.piece ⟨q, hc.head, by simp⟩ hq
  exact Reads.bind (reads_satisfy ho (by simp)) (Reads.bind (hvs.of_spans hs).rule
    (Reads.bind (reads_satisfy hc (by simp)) reads_pure))

lemma refuses_quoted {r : Rule} {q : Char} (hi : i.Stops (· == q)) : Refuses (quoted r q) i :=
  (refuses_satisfy hi).bind

lemma refuses_string (hi : i.Stops (· == '\'')) (hi' : i.Stops (· == '"')) :
    Refuses (do
      let (body, whole) ← rule .string <| withLexeme <|
        firstOf [quoted .singleInner '\'', quoted .doubleInner '"']
      return Literal.string whole.offset body) i :=
  Refuses.bind (Refuses.rule (Refuses.withLexeme
    (Refuses.orElse (refuses_quoted hi) (refuses_quoted hi'))))

/-- A quoted text is read up to its closing quote, whatever comes next. -/
lemma reads_string {q : Char} (hq : q ∈ ['\'', '"']) (ho : Piece i [q] j) (hs : Spans j a k)
    (hb : IsBody q a.text.toList) (hc : Piece k [q] l) :
    Reads literal i (.string i.offset a.text) l := by
  have hread : Reads (firstOf [quoted .singleInner '\'', quoted .doubleInner '"']) i a.text l := by
    simp only [List.mem_cons, List.not_mem_nil, or_false] at hq
    rcases hq with rfl | rfl
    · exact Reads.orElse (reads_quoted ho hs hb hc (by decide))
    · exact Refuses.orElse_reads (refuses_quoted (.of_head ho.head rfl))
        (reads_quoted ho hs hb hc (by decide))
  exact Reads.orElse (Reads.bind (hread.withLexeme ((ho.append hs.piece).append hc)).rule reads_pure)

/-- A number is no other literal. -/
lemma reads_number (hi : i.Starts p) (hs : p '\'' = false) (hd : p '"' = false)
    (ht : p 't' = false) (hf : p 'f' = false)
    (hr : Reads (lexeme do let _ ← optional (token "-"); digits) i a j) :
    Reads literal i (.number a) j := by
  have htrue : Refuses (token "true") i := refuses_token_of_stops rfl (hi.stops_char ht)
  have hfalse : Refuses (token "false") i := refuses_token_of_stops rfl (hi.stops_char hf)
  refine Refuses.orElse_reads (refuses_string (hi.stops_char hs) (hi.stops_char hd)) ?_
  refine Refuses.orElse_reads ?_ (Reads.bind hr.rule reads_pure)
  exact Refuses.bind (Refuses.rule (Refuses.withLexeme (Refuses.bind
    (Refuses.orElse htrue.bind hfalse.bind))))

lemma reads_literal {v : Literal} (h : LiteralText i v j) (hj : j.Stops Char.isDigit) :
    Reads literal i v j := by
  cases h with
  | string quote opening spans body closing => exact reads_string quote opening spans body closing
  | true word =>
    have hw := word.1.starts 't' rfl
    refine Refuses.orElse_reads (refuses_string (hw.stops_char rfl) (hw.stops_char rfl)) ?_
    refine Reads.orElse (Reads.bind (Reads.rule (Reads.withLexeme ?_ word.1)) reads_pure)
    exact Reads.bind (Reads.orElse (Reads.bind (reads_token word.1) reads_pure))
      (Reads.bind (reads_notBefore word.2) reads_pure)
  | false word =>
    have hw := word.1.starts 'f' rfl
    refine Refuses.orElse_reads (refuses_string (hw.stops_char rfl) (hw.stops_char rfl)) ?_
    refine Reads.orElse (Reads.bind (Reads.rule (Reads.withLexeme ?_ word.1)) reads_pure)
    have ht : Refuses (token "true") i := refuses_token_of_stops rfl (hw.stops_char rfl)
    exact Reads.bind (Refuses.orElse_reads ht.bind (Reads.bind (reads_token word.1) reads_pure))
      (Reads.bind (reads_notBefore word.2) reads_pure)
  | positive digits =>
    have hsign : Refuses (token "-") i := refuses_token_of_stops rfl (digits.starts.stops_char rfl)
    refine reads_number digits.starts rfl rfl rfl rfl ?_
    exact Reads.of_spans (Reads.bind hsign.optional (reads_run digits.run digits.spans.piece hj))
      digits.spans
  | negative sign digits whole =>
    refine reads_number (sign.starts '-' rfl) rfl rfl rfl rfl ?_
    exact Reads.of_spans (Reads.bind (reads_token sign).optional
      (reads_run digits.run digits.spans.piece hj)) whole

/-- The blanks behind a comparison without a flag are read with it. -/
lemma reads_comparison {e : Expr} (h : ComparisonText i e j) (hj : Follows ['a', 'o', ')', ']'] j) :
    ∃ k, Gap j k ∧ Reads comparison i e k := by
  cases h with
  | @intro _ k l m n o p _ name op v b sign property gap operator gap' literal gap'' flag =>
    have hl : l.Stops isBlank := (Operator.starts operator).stops_blank rfl
    have hn : n.Stops isBlank := literal.starts.stops_blank rfl
    have hread : ∀ {r s : Input} {f : Option Unit}, o.Stops Char.isDigit → Reads blanks o () r →
        Reads (optional (keyword .caseFlag "i")) r f s →
        Reads comparison i (.comparison name op v f.isSome) s := by
      intro r s f ho hr hs
      refine Reads.rule (Reads.bind (Reads.rule (Reads.bind (reads_token sign)
        (reads_identifier property))) ?_)
      refine Reads.bind (reads_blanks gap hl) (Reads.bind (reads_operator operator) ?_)
      refine Reads.bind (reads_blanks gap' hn) (Reads.bind (reads_literal literal ho) ?_)
      exact Reads.bind hr (Reads.bind hs reads_pure)
    cases flag with
    | absent =>
      obtain ⟨r, hr, hrs⟩ := exists_gap j
      have hi : r.Stops (· == 'i') := (hj.of_gap hr).stops_char hrs (by decide)
      have ho : Follows ['a', 'o', ')', ']'] o := hj.before gap''
      exact ⟨r, hr, hread (f := none) (ho.stops rfl) (reads_blanks (gap''.trans hr) hrs)
        (refuses_keyword rfl hi).optional⟩
    | present word =>
      have hi := word.1.starts 'i' rfl
      have ho : Follows ['i'] o := (hi.follows rfl (by simp)).before gap''
      exact ⟨j, .refl, hread (f := some ()) (ho.stops rfl) (reads_blanks gap'' (hi.stops_blank rfl))
        (reads_keyword word).optional⟩

lemma reads_distance {d : DistanceSyntax} (h : DistanceText i d j) (hj : j.Stops Char.isDigit) :
    Reads distance i d j := by
  cases h with
  | @intro k _ w l dir sign digits whole =>
    have hread : ∀ {o : Option Direction}, o.getD .down = dir →
        Reads (optional (firstOf
          [do token "~"; return Direction.any,
           do token "-"; return Direction.up,
           do token "+"; return Direction.down])) i o k →
        Reads distance i ⟨w, dir, l.text⟩ j := by
      rintro o rfl ho
      exact Reads.rule (Reads.bind (Reads.with_spans (Reads.bind ho
        (Reads.bind (reads_digits digits hj) reads_pure)) whole) reads_pure)
    have hrefuse : ∀ {c : Char} {s : String} {dir : Direction}, s.toList = [c] →
        i.Stops (· == c) → Refuses (do token s; return dir) i :=
      fun hs hi => (refuses_token_of_stops hs hi).bind
    cases sign with
    | any sign =>
      refine hread (o := some .any) rfl (Reads.optional (Reads.orElse ?_))
      exact Reads.bind (reads_token sign) reads_pure
    | up sign =>
      have hs := sign.starts '-' rfl
      refine hread (o := some .up) rfl (Reads.optional ?_)
      exact Refuses.orElse_reads (hrefuse rfl (hs.stops_char rfl))
        (Reads.orElse (Reads.bind (reads_token sign) reads_pure))
    | down sign =>
      have hs := sign.starts '+' rfl
      refine hread (o := some .down) rfl (Reads.optional ?_)
      exact Refuses.orElse_reads (hrefuse rfl (hs.stops_char rfl))
        (Refuses.orElse_reads (hrefuse rfl (hs.stops_char rfl))
          (Reads.bind (reads_token sign) reads_pure))
    | absent =>
      have hs := digits.starts
      refine hread (o := none) rfl (Refuses.optional ?_)
      exact Refuses.orElse (hrefuse rfl (hs.stops_char rfl))
        (Refuses.orElse (hrefuse rfl (hs.stops_char rfl)) (hrefuse rfl (hs.stops_char rfl)))

end Tokens

end ControlQuery.CPath

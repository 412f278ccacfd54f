import ControlQuery.Proofs.CPath.Tokens

/-!
# What has a derivation is read

A rule's reader takes exactly the piece of the text that a derivation gives it, if what comes next
cannot go on the rule. Conditions are read up to a gap, because a comparison may take the blanks
behind it. Conditions in brackets are shorter than what they stand in.
-/

namespace ControlQuery.CPath

open Reader

section Brackets

variable {α : Type} {p : Reader α} {a : α} {s t : String} {i j k l m n : Input}

/-- What stands between two tokens, with blanks around it. -/
lemma reads_enclosed (opening : Word s i j) (gap : Gap j k) (hk : k.Stops isBlank)
    (hp : Reads p k a l) (gap' : Gap l m) (hm : m.Stops isBlank) (closing : Word t m n) :
    Reads (do
      token s
      blanks
      let x ← p
      blanks
      token t
      return x) i a n := by
  refine Reads.bind (reads_token opening) (Reads.bind (reads_blanks gap hk) (Reads.bind hp ?_))
  exact Reads.bind (reads_blanks gap' hm) (Reads.bind (reads_token closing) reads_pure)

lemma reads_bracketed {q : Reader (Lexeme → Predicate)} {f : Lexeme → Predicate} {w : Lexeme}
    (opening : Word "[" i j) (gap : Gap j k) (hk : k.Stops isBlank) (hq : Reads q k f l)
    (gap' : Gap l m) (closing : Word "]" m n) (whole : Spans i w n) :
    Reads (rule .predicate do
      let (make, whole) ← withLexeme do
        token "["
        blanks
        let make ← q
        blanks
        token "]"
        return make
      return make whole) i (f w) n := by
  have hm := (closing.starts ']' rfl).stops_blank rfl
  have hr := reads_enclosed opening gap hk hq gap' hm closing
  exact Reads.rule (Reads.bind (hr.with_spans whole) reads_pure)

variable {x o : Option Lexeme}

/-- The bound in front of a colon, with the blanks between them. -/
lemma reads_start {β : Type} {r : Rule} {f : Option Lexeme → Reader β} {b : β}
    (start : StartText i x j) (hj : j.Starts (· == ':')) (h : Reads (f x) j b k) :
    Reads (do
      let start ← optional (rule r (lexeme digits))
      blanks
      f start) i b k := by
  have hb := hj.stops_blank rfl
  cases start with
  | absent =>
    have hd : i.Stops Char.isDigit := hj.stops fun c hc => by rw [beq_iff_eq.mp hc]; rfl
    exact Reads.bind (refuses_run hd).lexeme.rule.optional (Reads.bind (reads_blanks .refl hb) h)
  | present digits gap =>
    have hd : Follows [':'] _ := (hj.follows rfl (by simp)).before gap
    exact Reads.bind (reads_digits digits (hd.stops rfl)).rule.optional
      (Reads.bind (reads_blanks gap hb) h)

lemma reads_slice (start : StartText i x j) (colon : Word ":" j k) (gap : Gap k l)
    (hl : l.Stops isBlank) (stop : Reads (optional (rule .sliceEnd (lexeme digits))) l o m) :
    Reads slice i (x, o) m := by
  refine Reads.rule (reads_start start (colon.starts ':' rfl) ?_)
  refine Reads.bind (reads_token colon) (Reads.bind (reads_blanks gap hl) ?_)
  exact Reads.bind stop reads_pure

/-- There is no slice without a colon. -/
lemma refuses_slice (start : Reads (optional (rule .sliceStart (lexeme digits))) i x j)
    (gap : Gap j k) (hk : k.Stops isBlank) (hc : k.Stops (· == ':')) : Refuses slice i :=
  Refuses.rule (Reads.bind_refuses start (Reads.bind_refuses (reads_blanks gap hk)
    (Refuses.bind (refuses_token_of_stops rfl hc))))

end Brackets

/-! ## Chains

The operand of a chain may take the blanks behind it, so the next keyword is read from behind any
of the blanks in front of it.
-/

section Chains

variable {p : Reader Expr} {r r' : Rule} {word : String} {rule : Input → Expr → Input → Prop}
  {c : Char} {s : List Char} {n : Nat} (hword : word.toList.head? = some c)
  (hblank : isBlank c = false) (hc : c ∉ s) (hreaches : ∀ {i e j}, rule i e j → Reaches i j)
  (hstarts : ∀ {i j e}, rule i e j → i.Starts isExprStart)
  (hrule : ∀ {i j e}, rule i e j → i.rest.length ≤ n → Follows (c :: s) j →
    ∃ k, Gap j k ∧ Reads p i e k)
include hword hblank hc hreaches hstarts hrule

omit hc in
lemma each_more {i j k : Input} {es : List Expr} (h : MoreText word rule i es j)
    (hi : i.rest.length ≤ n) (hj : Follows s j) (hk : Gap i k) :
    ∃ l, Gap j l ∧ Each (Advances do
      blanks
      keyword r word
      blanks
      p) k es l := by
  induction h generalizing k with
  | nil => exact ⟨k, hk, .nil⟩
  | cons gap keyword gap' operand more ih =>
    have hw := keyword.1.starts c hword
    have hks := hk.of_stops gap (hw.stops_char_blank hblank)
    have hgap := gap.reaches.length_le
    have hlt := keyword.1.length_lt (by intro h; rw [h] at hword; cases hword)
    have hgap' := gap'.reaches.length_le
    have hoperand := (hreaches operand).length_le
    have hlen := hks.reaches.length_le
    obtain ⟨m, hm, hread⟩ := hrule operand (by omega) (more.follows hword hblank hj)
    have hlen' := hm.reaches.length_le
    obtain ⟨l, hl, heach⟩ := ih (by omega) hj hm
    refine ⟨l, hl, .cons ⟨Reads.bind (reads_blanks hks (hw.stops_char_blank hblank)) ?_,
      by omega⟩ heach⟩
    exact Reads.bind (reads_keyword keyword)
      (Reads.bind (reads_blanks gap' ((hstarts operand).stops_blank rfl)) hread)

lemma reads_chain {f : Expr → Expr → Expr} {i j k : Input} {e : Expr} {es : List Expr}
    (first : rule i e j) (more : MoreText word rule j es k) (hi : i.rest.length ≤ n)
    (hk : Follows s k) : ∃ l, Gap k l ∧ Reads (Reader.rule r do
      let first ← p
      let more ← manySpaced do
        keyword r' word
        blanks
        p
      return more.foldl f first) i (es.foldl f e) l := by
  have hlen := (hreaches first).length_le
  obtain ⟨m, hm, hfirst⟩ := hrule first hi (more.follows hword hblank hk)
  obtain ⟨l, hl, heach⟩ := each_more hword hblank hreaches hstarts hrule more (by omega) hk hm
  obtain ⟨o, ho, hos⟩ := exists_gap l
  have hstop := ((hk.of_gap hl).of_gap ho).stops_char hos hc
  obtain ⟨cs, hcs⟩ := List.head?_eq_some_iff.mp hword
  refine ⟨l, hl, Reads.rule (Reads.bind hfirst (Reads.bind (heach.many ?_) reads_pure))⟩
  exact Reads.bind_refuses (reads_blanks ho hos) (refuses_keyword hcs hstop).bind

end Chains

/-! ## Axes and node tests

The name of a control type may begin like an axis. No colons follow it, so it is not read as one.
-/

section Axes

variable {i j : Input}

/-- What is left of an identifier behind the characters that the name of an axis may have. -/
lemma reads_axisName {l : Lexeme} (h : IdentifierText i l j) (hj : j.Stops (· == '-'))
    (hi : i.Starts Char.isAlpha) :
    ∃ a k, Reads (lexeme do
      let _ ← satisfy Char.isAlpha
      let _ ← many (satisfy fun c => c.isAlphanum || c == '-')) i a k ∧
      (k = j ∨ k.Starts (· == '_')) := by
  obtain ⟨hs, hr, hstop⟩ := h
  have hp := hs.piece
  generalize l.text.toList = cs at hr hp
  obtain ⟨-, hcs⟩ := hr
  rename_i c cs
  obtain ⟨d, hd, halpha⟩ := hi
  obtain rfl : c = d := Option.some_inj.mp (hp.head.symm.trans hd)
  have hread : ∀ {ds : List Char} {k : Input}, (∀ d ∈ ds, isAxisChar d = true) →
      Piece i (c :: ds) k → k.Stops isAxisChar → ∃ a, Reads (lexeme do
        let _ ← satisfy Char.isAlpha
        let _ ← many (satisfy fun c => c.isAlphanum || c == '-')) i a k :=
    fun hds hp hk => ⟨_, (reads_run ⟨halpha, hds⟩ hp hk).lexeme hp⟩
  -- Up to the first character that no axis has, which is an underscore, or to the end.
  have hsplit := List.takeWhile_append_dropWhile (p := isAxisChar) (l := cs)
  have htake : ∀ d ∈ cs.takeWhile isAxisChar, isAxisChar d = true :=
    fun d hd => List.mem_takeWhile_imp hd
  cases hdrop : cs.dropWhile isAxisChar with
  | nil =>
    rw [hdrop, List.append_nil] at hsplit
    rw [hsplit] at htake
    have hstop' : j.Stops isAxisChar := by
      intro d hd
      have hident := hstop d hd
      simp only [isIdentChar, Bool.or_eq_false_iff] at hident
      rw [isAxisChar, hident.1, Bool.false_or]
      exact hj d hd
    obtain ⟨a, ha⟩ := hread htake hp hstop'
    exact ⟨a, j, ha, .inl rfl⟩
  | cons e es =>
    have he : isAxisChar e = false := Input.stops_dropWhile isAxisChar cs 0 e (by rw [hdrop]; rfl)
    have hident := hcs e (by rw [← hsplit, hdrop]; simp)
    rw [← hsplit, hdrop, ← List.cons_append] at hp
    obtain ⟨k, hk, hp'⟩ := hp.split
    obtain ⟨a, ha⟩ := hread htake hk (.of_head hp'.head he)
    refine ⟨a, k, ha, .inr ⟨e, hp'.head, ?_⟩⟩
    simp only [isAxisChar, Bool.or_eq_false_iff] at he
    simpa [isIdentChar, he.1] using hident

/-- A node test is not read as an axis. -/
lemma refuses_axis {t : NodeTest} (h : NodeTestText i t j)
    (hj : Follows ['[', '/', 'a', 'o', ')', ']'] j) :
    Refuses (do
      let a ← axis
      blanks
      token "::"
      return a) i := by
  have hrefuse : i.Stops Char.isAlpha → Refuses (do
      let a ← axis
      blanks
      token "::"
      return a) i :=
    fun hi => Refuses.bind (Refuses.rule (Refuses.bind (Refuses.rule (Refuses.lexeme
      (Refuses.bind (refuses_satisfy hi))))))
  cases h with
  | any star => exact hrefuse (.of_head (Piece.head star) rfl)
  | controlType name =>
    by_cases hi : i.Starts Char.isAlpha
    · obtain ⟨a, k, ha, hk⟩ := reads_axisName name (hj.stops rfl) hi
      have hf : Follows ['_', '[', '/', 'a', 'o', ')', ']'] k := by
        rcases hk with rfl | hk
        · exact hj.mono (List.subset_cons_self _ _)
        · exact hk.follows rfl (by simp)
      have hd : Refuses (token "\x7b") k := refuses_token_of_stops rfl (hf.stops rfl)
      have haxis : Reads axis i ⟨a, none⟩ k :=
        Reads.rule (Reads.bind ha.rule (Reads.bind hd.bind.rule.optional reads_pure))
      obtain ⟨m, hm, hms⟩ := exists_gap k
      have hc : Refuses (token "::") m :=
        refuses_token_of_stops rfl ((hf.of_gap hm).stops_char hms (by decide))
      exact Reads.bind_refuses haxis (Reads.bind_refuses (reads_blanks hm hms) hc.bind)
    · refine hrefuse fun c hc => ?_
      by_contra ha
      exact hi ⟨c, hc, by simpa using ha⟩

end Axes

section Rules

variable {expr : Reader Expr} {n : Nat} (hexpr : ∀ i j e, i.rest.length < n → OrText i e j →
  Follows [')', ']'] j → ∃ k, Gap j k ∧ Reads expr i e k)
include hexpr

lemma reads_predicate {i j : Input} {p : Predicate} (h : PredicateText i p j)
    (hi : i.rest.length ≤ n) : Reads (predicate expr) i p j := by
  have hreaches := h.reaches
  cases h with
  | position opening gap number gap' closing whole =>
    have hc := closing.starts ']' rfl
    have hl : Follows [']'] _ := (hc.follows rfl (by simp)).before gap'
    have hd := reads_digits number (hl.stops rfl)
    have hs := refuses_slice hd.rule.optional gap' (hc.stops_blank rfl) (hc.stops_char rfl)
    refine reads_bracketed (f := fun w => .position w _) opening gap
      (number.starts.stops_blank rfl) ?_ gap' closing whole
    exact Refuses.orElse_reads hs.withLexeme.bind (Reads.orElse (Reads.bind hd.rule reads_pure))
  | slice opening gap start colon gap' stop bounds gap'' closing whole =>
    have hc := closing.starts ']' rfl
    have ho : Follows [']'] _ := (hc.follows rfl (by simp)).before gap''
    have hs := reads_slice start colon gap' (stop.starts.stops_blank rfl)
      (reads_digits stop (ho.stops rfl)).rule.optional
    refine reads_bracketed (f := fun w => .slice w _ _ (some _)) opening gap
      (start.stops_blank colon) (Reads.orElse ?_) gap'' closing whole
    exact Reads.bind (hs.with_spans bounds) reads_pure
  | openSlice opening gap start colon gap' bounds closing whole =>
    have hc := closing.starts ']' rfl
    have hd : Input.Stops Char.isDigit _ := hc.stops fun c hc => by rw [beq_iff_eq.mp hc]; rfl
    have hs := reads_slice start colon gap' (hc.stops_blank rfl)
      (refuses_run hd).lexeme.rule.optional
    refine reads_bracketed (f := fun w => .slice w _ _ none) opening gap
      (start.stops_blank colon) (Reads.orElse ?_) .refl closing whole
    exact Reads.bind (hs.with_spans bounds) reads_pure
  | condition opening gap expr gap' closing =>
    have hc := closing.starts ']' rfl
    have hl : Follows [')', ']'] _ := (hc.follows rfl (by simp)).before gap'
    have hopen := opening.length_lt (by decide)
    have hgap := gap.reaches.length_le
    obtain ⟨l, hll, hread⟩ := hexpr _ _ _ (by omega) expr hl
    have hs := expr.starts
    have hd : Input.Stops Char.isDigit _ := hs.stops_of_all rfl
    obtain ⟨cs, hcs⟩ := hreaches
    refine reads_bracketed (f := fun _ => .condition _) opening gap (hs.stops_blank rfl) ?_
      (hll.of_stops gap' (hc.stops_blank rfl)) closing (.of_piece hcs)
    have hslice := refuses_slice (refuses_run hd).lexeme.rule.optional .refl (hs.stops_blank rfl)
      (hs.stops_char rfl)
    exact Refuses.orElse_reads hslice.withLexeme.bind
      (Refuses.orElse_reads (refuses_run hd).lexeme.rule.bind (Reads.bind hread reads_pure))

lemma reads_predicates {i j : Input} {ps : List Predicate} (h : PredicatesText i ps j)
    (hi : i.rest.length ≤ n) (hj : Follows ['/', 'a', 'o', ')', ']'] j) :
    Reads (manySpaced (predicate expr)) i ps j := by
  refine Each.many ?_ ?_
  · induction ps generalizing i with
    | nil =>
      cases h
      exact .nil
    | cons p ps ih =>
      cases h with
      | cons gap predicate more =>
        obtain ⟨k, opening, inside⟩ := predicate.reaches_inside
        have hgap := gap.reaches.length_le
        have hopen := opening.length_lt (by decide)
        have hinside := inside.length_le
        have hb := reads_blanks gap (predicate.starts.stops_blank rfl)
        refine .cons ⟨Reads.bind hb (reads_predicate hexpr predicate (by omega)), by omega⟩ ?_
        exact ih more (by omega)
  · obtain ⟨k, hk, hks⟩ := exists_gap j
    have hc := (hj.of_gap hk).stops_char hks (d := '[') (by decide)
    exact Reads.bind_refuses (reads_blanks hk hks) (Refuses.rule (Refuses.bind
      (Refuses.withLexeme (Refuses.bind (refuses_token_of_stops rfl hc)))))

lemma reads_step {i j : Input} {sep : Separator} {s : Step} (h : StepText sep i s j)
    (hi : i.rest.length ≤ n) (hj : Follows ['/', 'a', 'o', ')', ']'] j) :
    Reads (step expr sep) i s j := by
  cases h with
  | parent dots => exact Reads.rule (Reads.orElse (Reads.bind (reads_token dots).rule reads_pure))
  | self dot =>
    have hp : Refuses parentStep i := (refuses_token_of_next rfl dot (hj.stops rfl)).rule
    exact Reads.rule (Refuses.orElse_reads hp.bind
      (Reads.orElse (Reads.bind (reads_token dot).rule reads_pure)))
  | plain test predicates =>
    have hs := test.starts.stops_char (d := '.') rfl
    have hp : Refuses parentStep i := (refuses_token_of_stops rfl hs).rule
    have hd : Refuses selfStep i := (refuses_token_of_stops rfl hs).rule
    have ha := refuses_axis test (predicates.follows hj)
    have htest := test.reaches.length_le
    refine Reads.rule (Refuses.orElse_reads hp.bind (Refuses.orElse_reads hd.bind (Reads.rule ?_)))
    refine Reads.bind ha.optional (Reads.bind (reads_blanks .refl (test.starts.stops_blank rfl)) ?_)
    exact Reads.bind (reads_nodeTest test)
      (Reads.bind (reads_predicates hexpr predicates (by omega) hj) reads_pure)
  | axis axis gap colons gap' test predicates =>
    have hs := axis.starts.stops_char (d := '.') rfl
    have hp : Refuses parentStep i := (refuses_token_of_stops rfl hs).rule
    have hd : Refuses selfStep i := (refuses_token_of_stops rfl hs).rule
    have hc := colons.starts ':' rfl
    have hg := reads_axis axis ((hc.follows rfl (by simp)).before gap)
    have hlen := (((axis.reaches.trans gap.reaches).trans colons.reaches).trans
      (gap'.reaches.trans test.reaches)).length_le
    refine Reads.rule (Refuses.orElse_reads hp.bind (Refuses.orElse_reads hd.bind (Reads.rule ?_)))
    refine Reads.bind (Reads.optional (Reads.bind hg (Reads.bind
      (reads_blanks gap (hc.stops_blank rfl)) (Reads.bind (reads_token colons) reads_pure)))) ?_
    refine Reads.bind (reads_blanks gap' (test.starts.stops_blank rfl)) ?_
    exact Reads.bind (reads_nodeTest test)
      (Reads.bind (reads_predicates hexpr predicates (by omega) hj) reads_pure)

lemma reads_moreSteps {i j : Input} {ss : List Step} (h : StepsText i ss j)
    (hi : i.rest.length ≤ n) (hj : Follows ['a', 'o', ')', ']'] j) :
    Reads (moreSteps expr) i ss j := by
  refine Each.many ?_ ?_
  · induction ss generalizing i with
    | nil =>
      cases h
      exact .nil
    | cons s ss ih =>
      cases h with
      | cons gap separator gap' step more =>
        have hgap := gap.reaches.length_le
        have hgap' := gap'.reaches.length_le
        have hstep := step.reaches.length_le
        have hsep := Separator.length_lt separator
        have hs := reads_separator separator (gap'.stops_char (step.starts.stops_char rfl) rfl)
        refine .cons ⟨Reads.bind (reads_blanks gap ((Separator.starts separator).stops_blank rfl))
          (Reads.bind hs (Reads.bind (reads_blanks gap' (step.starts.stops_blank rfl)) ?_)),
          by omega⟩ (ih more (by omega))
        exact reads_step hexpr step (by omega) (more.follows hj)
  · obtain ⟨k, hk, hks⟩ := exists_gap j
    have hc := (hj.of_gap hk).stops_char hks (d := '/') (by decide)
    exact Reads.bind_refuses (reads_blanks hk hks) (Refuses.bind (Refuses.rule (Refuses.orElse
      (Refuses.bind (refuses_token_of_stops rfl hc))
      (Refuses.bind (refuses_token_of_stops rfl hc)))))

lemma reads_target {i j k : Input} {e : Option Expr} (h : TargetText i e j)
    (hi : i.rest.length < n) (gap : Gap j k) (closing : k.Starts (· == ')')) :
    ∃ l, Gap l k ∧ Reads (firstOf
      [do rule .anyNode (token "*"); return none,
       do return some (← expr)]) i e l := by
  cases h with
  | any star => exact ⟨j, gap, Reads.orElse (Reads.bind (reads_token star).rule reads_pure)⟩
  | expr expr =>
    have hf : Follows [')', ']'] j := (closing.follows rfl (by simp)).before gap
    obtain ⟨l, hl, hread⟩ := hexpr _ _ _ hi expr hf
    have hs : Refuses (token "*") i := refuses_token_of_stops rfl (expr.starts.stops_char rfl)
    exact ⟨l, hl.of_stops gap (closing.stops_blank rfl),
      Refuses.orElse_reads hs.rule.bind (Reads.bind hread reads_pure)⟩

omit hexpr in
/-- No other condition begins with a dot. -/
lemma reads_unary_of_dot {i j : Input} {e : Expr} (hi : i.Starts (· == '.'))
    (h : Reads (subPath expr) i e j) : Reads (unary expr) i e j := by
  have hgroup : Refuses (token "(") i := refuses_token_of_stops rfl (hi.stops_char rfl)
  have hcomp : Refuses (token "@") i := refuses_token_of_stops rfl (hi.stops_char rfl)
  have hrel : Refuses (token "relative") i := refuses_token_of_stops rfl (hi.stops_char rfl)
  exact Refuses.orElse_reads hgroup.bind.rule (Refuses.orElse_reads hcomp.bind.rule.bind.rule
    (Refuses.orElse_reads hrel.bind.rule h))

omit hexpr in
lemma reads_relative {i j k l m o p q r s t u : Input} {d : DistanceSyntax} {e : Option Expr}
    (word : Word "relative" i j) (gap : Gap j k) (opening : Word "(" k l) (gap' : Gap l m)
    (distance : DistanceText m d o) (gap'' : Gap o p) (comma : Word "," p q) (gap₃ : Gap q r)
    (starts : r.Starts isTargetStart)
    (target : Reads (firstOf
      [do rule .anyNode (token "*"); return none,
       do return some (← expr)]) r e s)
    (gap₄ : Gap s t) (closing : Word ")" t u) : Reads (relative expr) i (.relative d e) u := by
  have ho := opening.starts '(' rfl
  have hc := comma.starts ',' rfl
  have hd : Follows [','] _ := (hc.follows rfl (by simp)).before gap''
  refine Reads.rule (Reads.bind (reads_token word) ?_)
  refine Reads.bind (reads_blanks gap (ho.stops_blank rfl)) (Reads.bind (reads_token opening) ?_)
  refine Reads.bind (reads_blanks gap' (distance.starts.stops_blank rfl)) ?_
  refine Reads.bind (reads_distance distance (hd.stops rfl)) ?_
  refine Reads.bind (reads_blanks gap'' (hc.stops_blank rfl)) (Reads.bind (reads_token comma) ?_)
  refine Reads.bind (reads_blanks gap₃ (starts.stops_blank rfl)) (Reads.bind target ?_)
  refine Reads.bind (reads_blanks gap₄ ((closing.starts ')' rfl).stops_blank rfl)) ?_
  exact Reads.bind (reads_token closing) reads_pure

lemma reads_unary {i j : Input} {e : Expr} (h : UnaryText i e j) (hi : i.rest.length ≤ n)
    (hj : Follows ['a', 'o', ')', ']'] j) : ∃ k, Gap j k ∧ Reads (unary expr) i e k := by
  cases h with
  | group opening gap expr gap' closing =>
    have hc := closing.starts ')' rfl
    have hopen := opening.length_lt (by decide)
    have hgap := gap.reaches.length_le
    have hl : Follows [')', ']'] _ := (hc.follows rfl (by simp)).before gap'
    obtain ⟨l, hll, hread⟩ := hexpr _ _ _ (by omega) expr hl
    refine ⟨j, .refl, Reads.orElse (Reads.rule ?_)⟩
    exact reads_enclosed opening gap (expr.starts.stops_blank rfl) hread
      (hll.of_stops gap' (hc.stops_blank rfl)) (hc.stops_blank rfl) closing
  | comparison comparison =>
    obtain ⟨k, hk, hread⟩ := reads_comparison comparison hj
    have ho : Refuses (token "(") i := refuses_token_of_stops rfl (comparison.starts.stops_char rfl)
    exact ⟨k, hk, Refuses.orElse_reads ho.bind.rule (Reads.orElse hread)⟩
  | relative word gap opening gap' distance gap'' comma gap₃ target gap₄ closing =>
    have hw := word.starts 'r' rfl
    have hword := word.length_lt (by decide)
    have hlen := ((((gap.reaches.trans opening.reaches).trans gap'.reaches).trans
      distance.reaches).trans (gap''.reaches.trans (comma.reaches.trans gap₃.reaches))).length_le
    obtain ⟨l, hl, hread⟩ := reads_target hexpr target (by omega) gap₄ (closing.starts ')' rfl)
    have hgroup : Refuses (token "(") i := refuses_token_of_stops rfl (hw.stops_char rfl)
    have hcomp : Refuses (token "@") i := refuses_token_of_stops rfl (hw.stops_char rfl)
    exact ⟨j, .refl, Refuses.orElse_reads hgroup.bind.rule (Refuses.orElse_reads
      hcomp.bind.rule.bind.rule (Reads.orElse (reads_relative word gap opening gap' distance gap''
        comma gap₃ target.starts hread hl closing)))⟩
  | fromSelf dot steps =>
    have hdot := dot.length_lt (by decide)
    have hs := dot.starts '.' rfl
    have hp : Refuses parentStep i :=
      (refuses_token_of_next rfl dot ((steps.follows hj).stops rfl)).rule
    refine ⟨j, .refl, reads_unary_of_dot hs (Reads.rule ?_)⟩
    refine Reads.bind (Refuses.orElse_reads hp.bind
      (Reads.bind (reads_token dot).rule reads_pure)) ?_
    exact Reads.bind (reads_moreSteps hexpr steps (by omega) hj) reads_pure
  | fromParent dots steps =>
    have hdots := dots.length_lt (by decide)
    have hs := dots.starts '.' rfl
    refine ⟨j, .refl, reads_unary_of_dot hs (Reads.rule ?_)⟩
    refine Reads.bind (Reads.orElse (Reads.bind (reads_token dots).rule reads_pure)) ?_
    exact Reads.bind (reads_moreSteps hexpr steps (by omega) hj) reads_pure

lemma reads_andExpr {i j : Input} {e : Expr} (h : AndText i e j) (hi : i.rest.length ≤ n)
    (hj : Follows ['o', ')', ']'] j) : ∃ k, Gap j k ∧ Reads (andExpr expr) i e k := by
  obtain ⟨first, more⟩ := h
  exact reads_chain rfl rfl (by decide) UnaryText.reaches UnaryText.starts (reads_unary hexpr) first
    more.more hi hj

lemma reads_orExpr {i j : Input} {e : Expr} (h : OrText i e j) (hi : i.rest.length ≤ n)
    (hj : Follows [')', ']'] j) : ∃ k, Gap j k ∧ Reads (orExpr expr) i e k := by
  obtain ⟨first, more⟩ := h
  exact reads_chain rfl rfl (by decide) AndText.reaches AndText.starts (reads_andExpr hexpr) first
    more.more hi hj

lemma reads_path {i j : Input} {ss : List Step} (h : PathText i ss j) (hi : i.rest.length ≤ n)
    (hj : Follows ['a', 'o', ')', ']'] j) : Reads (path expr) i ss j := by
  cases h with
  | plain first more =>
    have hs := first.starts.stops_char (d := '/') rfl
    have hsep : Refuses separator i := Refuses.rule (Refuses.orElse
      (refuses_token_of_stops rfl hs).bind (refuses_token_of_stops rfl hs).bind)
    have hlen := first.reaches.length_le
    have hstep := reads_step hexpr first hi (more.follows hj)
    refine Reads.rule (Reads.bind (Reads.rule (Reads.bind hsep.optional (Reads.bind
      (reads_blanks .refl (first.starts.stops_blank rfl)) hstep))) ?_)
    exact Reads.bind (reads_moreSteps hexpr more (by omega) hj) reads_pure
  | leading separator gap first more =>
    have hsep := reads_separator separator (gap.stops_char (first.starts.stops_char rfl) rfl)
    have hlen := (gap.reaches.trans first.reaches).length_le
    have hlen' := gap.reaches.length_le
    have hlt := Separator.length_lt separator
    have hstep := reads_step hexpr first (by omega) (more.follows hj)
    refine Reads.rule (Reads.bind (Reads.rule (Reads.bind hsep.optional (Reads.bind
      (reads_blanks gap (first.starts.stops_blank rfl)) hstep))) ?_)
    exact Reads.bind (reads_moreSteps hexpr more (by omega) hj) reads_pure

end Rules

lemma reads_exprWithin {n : Nat} {i j : Input} {e : Expr} (hi : i.rest.length < n)
    (h : OrText i e j) (hj : Follows [')', ']'] j) :
    ∃ k, Gap j k ∧ Reads (exprWithin n) i e k := by
  induction n generalizing i j e with
  | zero => omega
  | succ n ih => exact reads_orExpr (fun _ _ _ hi h hj => ih hi h hj) h (by omega) hj

lemma PathText.stops_blank {i j : Input} {ss : List Step} (h : PathText i ss j) :
    i.Stops isBlank := by
  cases h with
  | plain first more => exact first.starts.stops_blank rfl
  | leading separator gap first more => exact (Separator.starts separator).stops_blank rfl

/-- What can be derived is read by the whole grammar. -/
theorem reads_of_derives {text : String} {ss : List Step} (h : Derives text ss) :
    ∃ j, Reads (wholePath text) (.start text) ss j := by
  obtain ⟨gap, path, gap', atEnd⟩ := h
  rename_i i j k
  have hk : k.Stops isBlank := by
    intro c hc
    rw [atEnd] at hc
    cases hc
  have hj : Follows ['a', 'o', ')', ']'] j := by
    refine Follows.before (fun l hl c hc => ?_) gap'
    rw [hl.eq_of_stops hk, atEnd] at hc
    cases hc
  have hi := gap.reaches.length_le
  have hlen : (Input.start text).rest.length = text.length := String.length_toList
  have hpath := reads_path (n := text.length + 1) (fun _ _ _ hi h hj => reads_exprWithin hi h hj)
    path (by omega) hj
  refine ⟨k, Reads.rule (Reads.bind (reads_blanks gap path.stops_blank) ?_)⟩
  exact Reads.bind hpath (Reads.bind (reads_blanks gap' hk)
    (Reads.bind (reads_atEnd atEnd).rule reads_pure))

end ControlQuery.CPath

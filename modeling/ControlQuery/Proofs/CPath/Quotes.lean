import ControlQuery.Proofs.CPath.Derivation

/-!
# What stands between quotes and what does not

Reading a text character by character, one can tell at each place whether it is between quotes,
without knowing more of the grammar. In a text that can be derived, every quote is closed, and
outside quotes no parenthesis stands behind the letter `n`.
-/

namespace ControlQuery.CPath

/-- Where the reading of a text has come to. -/
inductive Scan where
  /-- Outside quotes; the last character may have been the letter `n`. -/
  | outside (afterN : Bool)
  | inside (quote : Char)
  /-- Between quotes behind a backslash. -/
  | escaped (quote : Char)
  /-- Behind a parenthesis that opens right behind an `n`. -/
  | called
deriving DecidableEq

namespace Scan

def step : Scan → Char → Scan
  | outside afterN, c =>
    if c = '\'' ∨ c = '"' then inside c
    else if afterN = true ∧ c = '(' then called
    else outside (c == 'n')
  | inside quote, c =>
    if c = '\\' then escaped quote else if c = quote then outside false else inside quote
  | escaped quote, _ => inside quote
  | called, _ => called

def run (s : Scan) (cs : List Char) : Scan :=
  cs.foldl step s

variable {s : Scan} {cs ds : List Char} {c quote : Char}

lemma run_append : s.run (cs ++ ds) = (s.run cs).run ds :=
  List.foldl_append

lemma run_called : called.run cs = called := by
  induction cs with
  | nil => rfl
  | cons c cs ih => exact ih

/-- Quoted text leaves the quotes open. -/
lemma run_inside (h : IsBody quote cs) : (inside quote).run cs = inside quote := by
  induction h with
  | nil => rfl
  | escaped tail ih =>
    rw [run, List.foldl_cons, List.foldl_cons, step, if_pos rfl]
    exact ih
  | char notQuote notBackslash tail ih =>
    rw [run, List.foldl_cons, step, if_neg notBackslash, if_neg notQuote]
    exact ih

/-- What stands between quotes is passed over. -/
lemma run_quoted {afterN : Bool} (hquote : quote ∈ ['\'', '"']) (h : IsBody quote cs) :
    (outside afterN).run ([quote] ++ cs ++ [quote]) = outside false := by
  have hopen : (outside afterN).run [quote] = inside quote := by
    rw [run, List.foldl_cons, List.foldl_nil, step, if_pos (by simpa using hquote)]
  have hclose : (inside quote).run [quote] = outside false := by
    have hne : quote ≠ '\\' := by
      rintro rfl
      exact absurd hquote (by decide)
    rw [run, List.foldl_cons, List.foldl_nil, step, if_neg hne, if_pos rfl]
  rw [run_append, run_append, hopen, run_inside h, hclose]

/-- Whether a character neither opens quotes nor a parenthesis. -/
def isPlain (c : Char) : Bool :=
  c != '\'' && c != '"' && c != '('

lemma isPlain_of {p : Char → Bool} (hsingle : p '\'' = false) (hdouble : p '"' = false)
    (hparen : p '(' = false) (hc : p c = true) : isPlain c = true := by
  simp only [isPlain, Bool.and_eq_true, bne_iff_ne, ne_eq]
  refine ⟨⟨?_, ?_⟩, ?_⟩ <;>
  · rintro rfl
    simp_all

lemma step_plain {afterN : Bool} (hc : isPlain c = true) :
    (outside afterN).step c = outside (c == 'n') := by
  simp only [isPlain, Bool.and_eq_true, bne_iff_ne, ne_eq] at hc
  obtain ⟨⟨hsingle, hdouble⟩, hparen⟩ := hc
  rw [step, if_neg (by simp [hsingle, hdouble]), if_neg (by simp [hparen])]

lemma run_plain {afterN : Bool} (h : ∀ c ∈ cs, isPlain c = true) :
    ∃ afterN', (outside afterN).run cs = outside afterN' := by
  induction cs generalizing afterN with
  | nil => exact ⟨afterN, rfl⟩
  | cons c cs ih =>
    rw [run, List.foldl_cons, step_plain (h c (by simp))]
    exact ih fun d hd => h d (List.mem_cons_of_mem c hd)

end Scan

/-- Reading from the first place to the second leads from outside quotes to outside quotes, where
the flags say whether an `n` may stand right in front of each. -/
def Passes (m : Bool) (i j : Input) (n : Bool) : Prop :=
  ∃ cs, Piece i cs j ∧
    ∀ a : Bool, a ≤ m → ∃ b : Bool, b ≤ n ∧ (Scan.outside a).run cs = .outside b

namespace Passes

variable {i j k : Input} {m n o : Bool}

lemma refl : Passes m i i m :=
  ⟨[], .nil, fun a ha => ⟨a, ha, rfl⟩⟩

lemma trans (h : Passes m i j n) (h' : Passes n j k o) : Passes m i k o := by
  obtain ⟨cs, hp, h⟩ := h
  obtain ⟨ds, hp', h'⟩ := h'
  refine ⟨cs ++ ds, hp.append hp', fun a ha => ?_⟩
  obtain ⟨b, hb, hrun⟩ := h a ha
  obtain ⟨c, hc, hrun'⟩ := h' b hb
  exact ⟨c, hc, by rw [Scan.run_append, hrun, hrun']⟩

/-- The condition on the front may be dropped at the back, and may be asked for at the front. -/
lemma mono {m' n' : Bool} (h : Passes m i j n) (hm : m' ≤ m) (hn : n ≤ n') : Passes m' i j n' := by
  obtain ⟨cs, hp, h⟩ := h
  refine ⟨cs, hp, fun a ha => ?_⟩
  obtain ⟨b, hb, hrun⟩ := h a (Bool.le_trans ha hm)
  exact ⟨b, Bool.le_trans hb hn, hrun⟩

lemma weaken (h : Passes m i j n) : Passes false i j true :=
  h.mono (Bool.false_le m) (Bool.le_true n)

end Passes

/-! ## Tokens -/

section Tokens

variable {i j : Input} {m n : Bool}

lemma Piece.passes {cs : List Char} (h : Piece i cs j) (hcs : ∀ c ∈ cs, Scan.isPlain c = true) :
    Passes true i j true := by
  refine ⟨cs, h, fun a _ => ?_⟩
  obtain ⟨b, hb⟩ : ∃ b, (Scan.outside a).run cs = .outside b := Scan.run_plain hcs
  exact ⟨b, Bool.le_true b, hb⟩

lemma Word.passes {s : String} (h : Word s i j)
    (hs : ∀ a : Bool, a ≤ m → ∃ b : Bool, b ≤ n ∧ (Scan.outside a).run s.toList = .outside b) :
    Passes m i j n :=
  ⟨s.toList, h, hs⟩

/-- Blanks come behind no `n` that was not there before. -/
lemma Gap.passes (h : Gap i j) : Passes m i j m := by
  obtain ⟨cs, hp, hcs⟩ := h
  refine ⟨cs, hp, fun a ha => ?_⟩
  have hrun : ∀ a : Bool, ∃ b : Bool, b ≤ a ∧ (Scan.outside a).run cs = .outside b := by
    clear hp
    induction cs with
    | nil => exact fun a => ⟨a, Bool.le_refl a, rfl⟩
    | cons c cs ih =>
      intro a
      obtain ⟨b, hb, hrun⟩ := ih (fun d hd => hcs d (List.mem_cons_of_mem c hd)) false
      have hstep : (Scan.outside a).step c = .outside false := by
        have hc := hcs c (by simp)
        simp only [isBlank, blankChars, List.contains_iff_mem, List.mem_cons, List.not_mem_nil,
          or_false] at hc
        rcases hc with rfl | rfl | rfl | rfl <;> exact Scan.step_plain rfl
      refine ⟨b, Bool.le_trans hb (Bool.false_le a), ?_⟩
      rw [Scan.run, List.foldl_cons, hstep]
      exact hrun
  obtain ⟨b, hb, hrun⟩ := hrun a
  exact ⟨b, Bool.le_trans hb ha, hrun⟩

lemma IsRun.isPlain {p q : Char → Bool} {cs : List Char} (h : IsRun p q cs)
    (hp : ∀ c, p c = true → Scan.isPlain c = true) (hq : ∀ c, q c = true → Scan.isPlain c = true) :
    ∀ c ∈ cs, Scan.isPlain c = true := by
  obtain ⟨head, tail⟩ := h
  exact List.forall_mem_cons.mpr ⟨hp _ head, fun c hc => hq c (tail c hc)⟩

lemma DigitsText.passes {l : Lexeme} (h : DigitsText i l j) : Passes true i j true :=
  h.spans.piece.passes (h.run.isPlain (fun _ => Scan.isPlain_of rfl rfl rfl) fun _ =>
    Scan.isPlain_of rfl rfl rfl)

lemma IdentifierText.passes {l : Lexeme} (h : IdentifierText i l j) : Passes true i j true :=
  h.spans.piece.passes (h.run.isPlain (fun _ => Scan.isPlain_of rfl rfl rfl) fun _ =>
    Scan.isPlain_of rfl rfl rfl)

lemma AxisNameText.passes {l : Lexeme} (h : AxisNameText i l j) : Passes true i j true :=
  h.spans.piece.passes (h.run.isPlain (fun _ => Scan.isPlain_of rfl rfl rfl) fun _ =>
    Scan.isPlain_of rfl rfl rfl)

/-- A word without quotes and parentheses. -/
lemma Word.passes_plain {s : String} (h : Word s i j) (hs : s.toList.all Scan.isPlain = true) :
    Passes true i j true :=
  Piece.passes h (List.all_eq_true.mp hs)

lemma AxisText.passes {a : AxisSyntax} (h : AxisText i a j) : Passes true i j true := by
  cases h with
  | plain name => exact name.passes
  | limited name opening depth closing =>
    exact ((name.passes.trans (opening.passes_plain rfl)).trans depth.passes).trans
      (closing.passes_plain rfl)

lemma NodeTestText.passes {t : NodeTest} (h : NodeTestText i t j) : Passes true i j true := by
  cases h with
  | any star => exact star.passes_plain rfl
  | controlType name => exact name.passes

lemma LiteralText.passes {v : Literal} (h : LiteralText i v j) :
    Passes Bool.true i j Bool.true := by
  cases h with
  | string quote opening spans body closing =>
    exact ⟨_, (opening.append spans.piece).append closing, fun a _ =>
      ⟨Bool.false, Bool.false_le _, Scan.run_quoted quote body⟩⟩
  | true word => exact word.1.passes_plain rfl
  | false word => exact word.1.passes_plain rfl
  | positive digits => exact digits.passes
  | negative sign digits whole => exact (sign.passes_plain rfl).trans digits.passes

lemma CaseFlagText.passes {b : Bool} (h : CaseFlagText i b j) : Passes true i j true := by
  cases h with
  | absent => exact .refl
  | present word => exact word.1.passes_plain rfl

lemma Operator.isPlain_text (o : Operator) : o.text.toList.all Scan.isPlain = true := by
  obtain ⟨negated, relation⟩ := o
  cases negated <;> cases relation <;> rfl

lemma Separator.isPlain_text (sep : Separator) : sep.text.toList.all Scan.isPlain = true := by
  cases sep <;> rfl

lemma ComparisonText.passes {e : Expr} (h : ComparisonText i e j) : Passes true i j true := by
  obtain ⟨sign, property, gap, operator, gap', literal, gap'', flag⟩ := h
  have hp := ((sign.passes_plain rfl).trans property.passes).trans gap.passes
  have hl := ((operator.passes_plain (Operator.isPlain_text _)).trans gap'.passes).trans
    literal.passes
  exact (hp.trans hl).trans (gap''.passes.trans flag.passes)

lemma DistanceText.passes {d : DistanceSyntax} (h : DistanceText i d j) : Passes true i j true := by
  obtain ⟨sign, digits, whole⟩ := h
  refine .trans ?_ digits.passes
  cases sign with
  | any sign => exact sign.passes_plain rfl
  | up sign => exact sign.passes_plain rfl
  | down sign => exact sign.passes_plain rfl
  | absent => exact .refl

lemma StartText.passes {o : Option Lexeme} (h : StartText i o j) : Passes true i j true := by
  cases h with
  | absent => exact .refl
  | present digits gap => exact digits.passes.trans gap.passes

end Tokens

/-! ## Rules of conditions and steps -/

mutual

/-- A condition may begin with a parenthesis, so no `n` may stand right in front of it. -/
theorem OrText.passes {i j : Input} {e : Expr} : OrText i e j → Passes false i j true
  | .intro first more => first.passes.trans more.passes

theorem OrMoreText.passes {i j : Input} {es : List Expr} : OrMoreText i es j → Passes true i j true
  | .nil => .refl
  | .cons gap word gap' operand more =>
    (((gap.passes.trans (word.1.passes (n := false) (by decide))).trans gap'.passes).trans
      operand.passes).trans more.passes

theorem AndText.passes {i j : Input} {e : Expr} : AndText i e j → Passes false i j true
  | .intro first more => first.passes.trans more.passes

theorem AndMoreText.passes {i j : Input} {es : List Expr} :
    AndMoreText i es j → Passes true i j true
  | .nil => .refl
  | .cons gap word gap' operand more =>
    (((gap.passes.trans (word.1.passes (n := false) (by decide))).trans gap'.passes).trans
      operand.passes).trans more.passes

theorem UnaryText.passes {i j : Input} {e : Expr} : UnaryText i e j → Passes false i j true
  | .group opening gap expr gap' closing =>
    (((opening.passes (n := false) (by decide)).trans gap.passes).trans expr.passes).trans
      (gap'.passes.trans (closing.passes_plain rfl))
  | .comparison comparison => comparison.passes.weaken
  | .relative word gap opening gap' distance gap'' comma gap₃ target gap₄ closing =>
    have hopen := ((word.passes (m := false) (n := false) (by decide)).trans gap.passes).trans
      ((opening.passes (n := true) (by decide)).trans gap'.passes)
    have hcomma := (gap''.passes.trans (comma.passes (n := false) (by decide))).trans gap₃.passes
    ((hopen.trans distance.passes).trans hcomma).trans
      (target.passes.trans (gap₄.passes.trans (closing.passes_plain rfl)))
  | .fromSelf dot steps => ((dot.passes_plain rfl).trans steps.passes).weaken
  | .fromParent dots steps => ((dots.passes_plain rfl).trans steps.passes).weaken

theorem TargetText.passes {i j : Input} {e : Option Expr} :
    TargetText i e j → Passes false i j true
  | .any star => (star.passes_plain rfl).weaken
  | .expr expr => expr.passes

theorem StepsText.passes {i j : Input} {ss : List Step} : StepsText i ss j → Passes true i j true
  | .nil => .refl
  | .cons gap separator gap' step more =>
    ((gap.passes.trans (separator.passes_plain (Separator.isPlain_text _))).trans
      gap'.passes).trans (step.passes.trans more.passes)

theorem StepText.passes {i j : Input} {sep : Separator} {s : Step} :
    StepText sep i s j → Passes true i j true
  | .parent dots => dots.passes_plain rfl
  | .self dot => dot.passes_plain rfl
  | .plain test predicates => test.passes.trans predicates.passes
  | .axis axis gap colons gap' test predicates =>
    ((axis.passes.trans gap.passes).trans ((colons.passes_plain rfl).trans gap'.passes)).trans
      (test.passes.trans predicates.passes)

theorem PredicatesText.passes {i j : Input} {ps : List Predicate} :
    PredicatesText i ps j → Passes true i j true
  | .nil => .refl
  | .cons gap predicate more => gap.passes.trans (predicate.passes.trans more.passes)

theorem PredicateText.passes {i j : Input} {p : Predicate} :
    PredicateText i p j → Passes true i j true
  | .position opening gap number gap' closing _ =>
    ((opening.passes_plain rfl).trans gap.passes).trans
      (number.passes.trans (gap'.passes.trans (closing.passes_plain rfl)))
  | .slice opening gap start colon gap' stop _ gap'' closing _ =>
    (((opening.passes_plain rfl).trans gap.passes).trans
      (start.passes.trans ((colon.passes_plain rfl).trans gap'.passes))).trans
      (stop.passes.trans (gap''.passes.trans (closing.passes_plain rfl)))
  | .openSlice opening gap start colon gap' _ closing _ =>
    ((opening.passes_plain rfl).trans gap.passes).trans
      (start.passes.trans ((colon.passes_plain rfl).trans
        (gap'.passes.trans (closing.passes_plain rfl))))
  | .condition opening gap expr gap' closing =>
    (((opening.passes (n := false) (by decide)).trans gap.passes).trans expr.passes).trans
      (gap'.passes.trans (closing.passes_plain rfl))

end

lemma PathText.passes {i j : Input} {ss : List Step} (h : PathText i ss j) :
    Passes true i j true := by
  cases h with
  | plain first more => exact first.passes.trans more.passes
  | leading separator gap first more =>
    exact ((separator.passes_plain (Separator.isPlain_text _)).trans gap.passes).trans
      (first.passes.trans more.passes)

/-- A text that can be derived closes all its quotes, and no parenthesis outside of them stands
right behind an `n`. -/
theorem Derives.run_eq_outside {text : String} {ss : List Step} (h : Derives text ss) :
    ∃ b, (Scan.outside false).run text.toList = .outside b := by
  obtain ⟨gap, path, gap', atEnd⟩ := h
  obtain ⟨cs, hp, hrun⟩ := (gap.passes.trans path.passes).trans gap'.passes
  have htext : text.toList = cs := by
    have hrest := hp.rest
    rwa [atEnd, List.append_nil] at hrest
  obtain ⟨b, -, hb⟩ := hrun false (Bool.false_le _)
  exact ⟨b, htext ▸ hb⟩

end ControlQuery.CPath

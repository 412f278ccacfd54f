import ControlQuery.Proofs.CPath.Derivation

/-!
# What comes first and what comes next

Each rule begins with a character of its own class, and only a few characters can come next behind
a rule and the blanks after it. This is all that a reader looks at to choose between alternatives
and to end a repetition.
-/

namespace ControlQuery.CPath

/-- A character of the class comes next. -/
def Input.Starts (q : Char → Bool) (i : Input) : Prop :=
  ∃ c, i.rest.head? = some c ∧ q c = true

/-- Behind blanks, one of the characters comes next, or the text ends. -/
def Follows (s : List Char) (i : Input) : Prop :=
  ∀ j, Gap i j → ∀ c ∈ j.rest.head?, isBlank c = true ∨ c ∈ s

section Places

variable {i j k : Input} {q : Char → Bool} {c d : Char} {cs s s' : List Char} {t : String}

lemma Input.Starts.stops {p : Char → Bool} (h : i.Starts q) (hp : ∀ c, q c = true → p c = false) :
    i.Stops p := by
  obtain ⟨c, hc, hq⟩ := h
  exact .of_head hc (hp c hq)

lemma Input.Starts.stops_char (h : i.Starts q) (hd : q d = false) : i.Stops (· == d) := by
  refine h.stops fun c hc => ?_
  rw [beq_eq_false_iff_ne]
  rintro rfl
  rw [hd] at hc
  cases hc

lemma Input.Starts.stops_of_all {p : Char → Bool} (h : i.Starts (s.contains ·))
    (hp : s.all (!p ·) = true) : i.Stops p :=
  h.stops fun c hc => by simpa using List.all_eq_true.mp hp c (List.contains_iff_mem.mp hc)

lemma Input.Starts.stops_blank (h : i.Starts q) (hq : blankChars.all (!q ·) = true) :
    i.Stops isBlank := by
  refine h.stops fun c hc => ?_
  rw [Bool.eq_false_iff]
  intro hb
  have hc' := List.all_eq_true.mp hq c (List.contains_iff_mem.mp hb)
  rw [hc] at hc'
  cases hc'

lemma Input.Starts.stops_char_blank (h : i.Starts (· == c)) (hc : isBlank c = false) :
    i.Stops isBlank :=
  h.stops fun d hd => by rw [beq_iff_eq.mp hd, hc]

lemma Word.starts (h : Word t i j) (c : Char) (ht : t.toList.head? = some c) :
    i.Starts (· == c) := by
  obtain ⟨cs, hcs⟩ := List.head?_eq_some_iff.mp ht
  unfold Word at h
  rw [hcs] at h
  exact ⟨c, h.head, by simp⟩

lemma Word.length_lt (h : Word t i j) (ht : t.toList ≠ []) : j.rest.length < i.rest.length := by
  have hp := Piece.length h
  have ht := List.length_pos_iff.mpr ht
  omega

lemma IsRun.starts {p : Char → Bool} (h : IsRun q p cs) (hp : Piece i cs j) : i.Starts q := by
  obtain ⟨hc, -⟩ := h
  exact ⟨_, hp.head, hc⟩

lemma Follows.mono (h : Follows s i) (hs : s ⊆ s') : Follows s' i :=
  fun j hj c hc => (h j hj c hc).imp_right fun hm => hs hm

lemma Follows.of_gap (h : Follows s i) (hg : Gap i j) : Follows s j :=
  fun k hk => h k (hg.trans hk)

/-- Blanks in front make no difference to what comes next. -/
lemma Follows.before (h : Follows s j) (hg : Gap i j) : Follows s i := by
  intro k hk c hc
  by_cases hb : isBlank c = true
  · exact .inl hb
  · have hks : k.Stops isBlank := .of_head hc (by simpa using hb)
    exact h k (hg.of_stops hk hks) c hc

lemma Follows.stops {p : Char → Bool} (h : Follows s i)
    (hp : (blankChars ++ s).all (!p ·) = true) : i.Stops p := by
  intro c hc
  have hm : c ∈ blankChars ++ s := by
    rw [List.mem_append]
    exact (h i .refl c hc).imp_left List.contains_iff_mem.mp
  simpa using List.all_eq_true.mp hp c hm

lemma Input.Starts.follows (h : i.Starts (· == c)) (hb : isBlank c = false) (hc : c ∈ s) :
    Follows s i := by
  intro j hj d hd
  obtain ⟨e, he, hce⟩ := h
  rw [beq_iff_eq] at hce
  rw [hce] at he
  rw [hj.eq_of_stops (.of_head he hb), he, Option.mem_some] at hd
  rw [← hd]
  exact .inr hc

/-- Where no blanks come next, only these characters do. -/
lemma Follows.stops_char (h : Follows s i) (hi : i.Stops isBlank) (hd : d ∉ s) :
    i.Stops (· == d) := by
  intro c hc
  rw [beq_eq_false_iff_ne]
  rintro rfl
  rcases h i .refl c hc with hb | hs
  · rw [hi c hc] at hb
    cases hb
  · exact hd hs

end Places

/-! ## Rules -/

section Starts

variable {i j : Input} {l : Lexeme}

lemma DigitsText.starts (h : DigitsText i l j) : i.Starts Char.isDigit :=
  h.run.starts h.spans.piece

lemma IdentifierText.starts (h : IdentifierText i l j) : i.Starts isIdentStart :=
  h.run.starts h.spans.piece

lemma Operator.starts {op : Operator} (h : Word op.text i j) :
    i.Starts (['=', '!', '*', '~'].contains ·) := by
  unfold Word at h
  obtain ⟨negated, relation⟩ := op
  cases negated <;> cases relation <;> exact ⟨_, h.head, rfl⟩

/-- Whether a character may begin a literal. -/
def isLiteralStart (c : Char) : Bool :=
  ['\'', '"', 't', 'f', '-'].contains c || c.isDigit

lemma LiteralText.starts {v : Literal} (h : LiteralText i v j) : i.Starts isLiteralStart := by
  cases h with
  | string quote opening spans body closing =>
    refine ⟨_, opening.head, ?_⟩
    simp only [List.mem_cons, List.not_mem_nil, or_false] at quote
    rcases quote with rfl | rfl <;> rfl
  | true word => exact ⟨'t', Piece.head word.1, rfl⟩
  | false word => exact ⟨'f', Piece.head word.1, rfl⟩
  | positive digits =>
    obtain ⟨c, hc, hd⟩ := digits.starts
    exact ⟨c, hc, by rw [isLiteralStart, hd, Bool.or_true]⟩
  | negative sign digits whole => exact ⟨'-', Piece.head sign, rfl⟩

/-- Whether a character may begin a condition. -/
def isExprStart (c : Char) : Bool :=
  ['(', '@', 'r', '.'].contains c

/-- Whether a character may begin a node test. -/
def isTestStart (c : Char) : Bool :=
  c == '*' || isIdentStart c

/-- Whether a character may begin a step. -/
def isStepStart (c : Char) : Bool :=
  c == '.' || isTestStart c

lemma ComparisonText.starts {e : Expr} (h : ComparisonText i e j) : i.Starts (· == '@') := by
  obtain ⟨sign⟩ := h
  exact sign.starts '@' rfl

/-- Whether a character may begin a distance. -/
def isDistanceStart (c : Char) : Bool :=
  ['~', '-', '+'].contains c || c.isDigit

lemma DistanceText.starts {d : DistanceSyntax} (h : DistanceText i d j) :
    i.Starts isDistanceStart := by
  obtain ⟨sign, digits, whole⟩ := h
  cases sign with
  | any sign => exact ⟨'~', Piece.head sign, rfl⟩
  | up sign => exact ⟨'-', Piece.head sign, rfl⟩
  | down sign => exact ⟨'+', Piece.head sign, rfl⟩
  | absent =>
    obtain ⟨c, hc, hd⟩ := digits.starts
    exact ⟨c, hc, by rw [isDistanceStart, hd, Bool.or_true]⟩

lemma UnaryText.starts {e : Expr} (h : UnaryText i e j) : i.Starts isExprStart := by
  cases h with
  | group opening gap expr gap' closing => exact ⟨'(', Piece.head opening, rfl⟩
  | comparison comparison =>
    obtain ⟨c, hc, he⟩ := comparison.starts
    exact ⟨c, hc, by rw [beq_iff_eq.mp he]; rfl⟩
  | relative word => exact ⟨'r', Piece.head word, rfl⟩
  | fromSelf dot steps => exact ⟨'.', Piece.head dot, rfl⟩
  | fromParent dots steps => exact ⟨'.', Piece.head dots, rfl⟩

lemma AndText.starts {e : Expr} (h : AndText i e j) : i.Starts isExprStart := by
  obtain ⟨first, more⟩ := h
  exact first.starts

lemma OrText.starts {e : Expr} (h : OrText i e j) : i.Starts isExprStart := by
  obtain ⟨first, more⟩ := h
  exact first.starts

/-- Whether a character may begin what a relative condition asks for. -/
def isTargetStart (c : Char) : Bool :=
  c == '*' || isExprStart c

lemma TargetText.starts {e : Option Expr} (h : TargetText i e j) : i.Starts isTargetStart := by
  cases h with
  | any star => exact ⟨'*', Piece.head star, rfl⟩
  | expr expr =>
    obtain ⟨c, hc, hs⟩ := expr.starts
    exact ⟨c, hc, by rw [isTargetStart, hs, Bool.or_true]⟩

lemma NodeTestText.starts {t : NodeTest} (h : NodeTestText i t j) : i.Starts isTestStart := by
  cases h with
  | any star => exact ⟨'*', Piece.head star, rfl⟩
  | controlType name =>
    obtain ⟨c, hc, hs⟩ := name.starts
    exact ⟨c, hc, by rw [isTestStart, hs, Bool.or_true]⟩

lemma AxisText.starts {a : AxisSyntax} (h : AxisText i a j) : i.Starts Char.isAlpha := by
  cases h with
  | plain name => exact name.run.starts name.spans.piece
  | limited name opening depth closing => exact name.run.starts name.spans.piece

lemma StepText.starts {sep : Separator} {s : Step} (h : StepText sep i s j) :
    i.Starts isStepStart := by
  cases h with
  | parent dots => exact ⟨'.', Piece.head dots, rfl⟩
  | self dot => exact ⟨'.', Piece.head dot, rfl⟩
  | plain test predicates =>
    obtain ⟨c, hc, hs⟩ := test.starts
    exact ⟨c, hc, by rw [isStepStart, hs, Bool.or_true]⟩
  | axis axis gap colons gap' test predicates =>
    obtain ⟨c, hc, hs⟩ := axis.starts
    exact ⟨c, hc, by simp [isStepStart, isTestStart, isIdentStart, hs]⟩

lemma PredicateText.starts {p : Predicate} (h : PredicateText i p j) : i.Starts (· == '[') := by
  obtain ⟨k, opening, -⟩ := h.reaches_inside
  exact opening.starts '[' rfl

lemma Separator.starts {sep : Separator} (h : Word sep.text i j) : i.Starts (· == '/') := by
  cases sep with
  | child => exact Word.starts h '/' rfl
  | descendant => exact Word.starts h '/' rfl

lemma StartText.stops_blank {o : Option Lexeme} {k : Input} (h : StartText i o j)
    (colon : Word ":" j k) : i.Stops isBlank := by
  cases h with
  | absent => exact (colon.starts ':' rfl).stops_blank rfl
  | present digits gap => exact digits.starts.stops_blank rfl

lemma Separator.length_lt {sep : Separator} (h : Word sep.text i j) :
    j.rest.length < i.rest.length := by
  cases sep with
  | child => exact Word.length_lt h (by decide)
  | descendant => exact Word.length_lt h (by decide)

variable {s : List Char}

lemma PredicatesText.follows {ps : List Predicate} (h : PredicatesText i ps j) (hj : Follows s j) :
    Follows ('[' :: s) i := by
  cases h with
  | nil => exact hj.mono (List.subset_cons_self _ _)
  | cons gap predicate more => exact (predicate.starts.follows rfl (by simp)).before gap

lemma StepsText.follows {ss : List Step} (h : StepsText i ss j) (hj : Follows s j) :
    Follows ('/' :: s) i := by
  cases h with
  | nil => exact hj.mono (List.subset_cons_self _ _)
  | cons gap separator gap' step more =>
    exact ((Separator.starts separator).follows rfl (by simp)).before gap

lemma MoreText.follows {word : String} {rule : Input → Expr → Input → Prop} {c : Char}
    {es : List Expr} (h : MoreText word rule i es j) (hc : word.toList.head? = some c)
    (hb : isBlank c = false) (hj : Follows s j) : Follows (c :: s) i := by
  cases h with
  | nil => exact hj.mono (List.subset_cons_self _ _)
  | cons gap keyword gap' operand more =>
    exact ((keyword.1.starts c hc).follows hb (by simp)).before gap

lemma Gap.stops_char {d : Char} (h : Gap i j) (hj : j.Stops (· == d)) (hd : isBlank d = false) :
    i.Stops (· == d) := by
  obtain ⟨cs, hp, hcs⟩ := h
  cases cs with
  | nil =>
    rw [hp.eq_of_nil] at hj
    exact hj
  | cons c cs =>
    refine .of_head hp.head ?_
    rw [beq_eq_false_iff_ne]
    rintro rfl
    rw [hcs c (by simp)] at hd
    cases hd

end Starts

end ControlQuery.CPath

import ControlQuery.Proofs.CPath.Lookahead
import ControlQuery.Proofs.Rendering.Tokens
import Mathlib.Data.List.Forall2

/-!
# Written conditions

What a comparison, an operand or a chain writes can be derived, and is read as a comparison, an
operand or a chain again. An operand is written in two ways, by itself and inside a chain, and what
is said of either is kept together for the chains that it stands in.
-/

namespace ControlQuery

open CPath

/-- Where the text stands and no name can go on behind it, something with the property is derived
for it. -/
def Writes {α : Type} (rule : Input → α → Input → Prop) (property : α → Prop) (s : String) : Prop :=
  ∀ ⦃i j : Input⦄, Piece i s.toList j → j.Stops isIdentChar → ∃ a, rule i a j ∧ property a

lemma exists_caseFlagText {i j : Input} {b : Bool} (h : Word (if b then " i" else "") i j)
    (hj : j.Stops isIdentChar) : ∃ k, Gap i k ∧ CaseFlagText k b j := by
  cases b with
  | false =>
    rw [Piece.eq_of_nil h]
    exact ⟨i, .refl, .absent⟩
  | true =>
    obtain ⟨k, hgap, hflag⟩ := Word.split " " "i" h
    exact ⟨k, .of_space hgap, .present ⟨hflag, hj⟩⟩

lemma CPath.AndText.of_unary {i j : Input} {e : Expr} (h : UnaryText i e j) : AndText i e j :=
  .intro h .nil

lemma CPath.OrText.of_and {i j : Input} {e : Expr} (h : AndText i e j) : OrText i e j :=
  .intro h .nil

/-- The texts behind the first one of a chain, each behind the keyword. -/
def Connective.more (op : Connective) : List String → String
  | [] => ""
  | s :: ss => " " ++ (op.keyword ++ (" " ++ (s ++ op.more ss)))

lemma Connective.join_cons (op : Connective) (s : String) (ss : List String) :
    op.join (s :: ss) = s ++ op.more ss := by
  induction ss generalizing s with
  | nil => simp [join, more]
  | cons t ss ih => simp [join, more, ih, String.append_assoc]

lemma Connective.endsName_more (op : Connective) (ss : List String) :
    endsName (op.more ss) = true := by
  cases ss with
  | nil => rfl
  | cons s ss => exact endsName_append_left rfl rfl

variable [Regex.Engine]

/-- The expression has no faults and is read as the condition. -/
structure CPath.Expr.Means (e : Expr) (c : Condition) : Prop where
  faults : e.faults = []
  reading : e.reading = c

/-! ## Comparisons -/

/-- What a comparison looks for. -/
def Comparison.relation : Comparison → Relation
  | equals _ => .equals
  | contains _ => .contains
  | «matches» _ => .matches

lemma Operator.text_relation (negated : Bool) (c : Comparison) :
    Operator.text ⟨negated, c.relation⟩ = (if negated then "!" else "") ++ c.sign := by
  cases negated <;> cases c <;> rfl

lemma comparison_means (c : PropertyCondition) {name : Lexeme} {v : Literal}
    (hname : name.text = c.property.text) (hfaults : v.faults = [])
    (hreading : v.reading = c.comparison.operand) :
    (Expr.comparison name ⟨c.options.negated, c.comparison.relation⟩ v c.options.ignoreCase).Means
      (.property c) := by
  obtain ⟨property, comparison, options⟩ := c
  refine ⟨?_, ?_⟩
  · rw [Expr.faults, comparisonFaults, hname, PropertyId.ofName?_text, hfaults, hreading]
    cases comparison with
    | equals value => rfl
    | contains text => rfl
    | «matches» r => simp [Comparison.operand, Comparison.relation, Regex.ofText?_source]
  · rw [Expr.reading, comparisonReading, hname, PropertyId.ofName?_text, hreading]
    cases comparison with
    | equals value => rfl
    | contains text => rfl
    | «matches» r => simp [Comparison.operand, Comparison.relation, Regex.ofText?_source]

lemma writes_comparison (c : PropertyCondition) :
    Writes UnaryText (·.Means (.property c)) c.render := by
  intro i j h hj
  unfold PropertyCondition.render at h
  obtain ⟨o, h, hflag⟩ := h.split_append
  obtain ⟨n, h, hliteral⟩ := h.split_append
  obtain ⟨m, h, hsign⟩ := h.split_append
  obtain ⟨l, h, hnegation⟩ := h.split_append
  obtain ⟨k, hat, hname⟩ := h.split_append
  have hoperator := hnegation.append hsign
  rw [← String.toList_append, ← Operator.text_relation] at hoperator
  have hl : l.Stops isIdentChar := (Operator.starts hoperator).stops_of_all rfl
  have ho : o.Stops isIdentChar := by
    apply hflag.stops _ hj
    cases c.options.ignoreCase <;> rfl
  have hproperty : IdentifierText k ⟨k.offset, c.property.text⟩ l :=
    ⟨.of_word hname, isRun_of_isIdentifier c.property.isIdentifier_text, hl⟩
  obtain ⟨v, hv, hfaults, hreading⟩ := PropertyValue.exists_literalText _ hliteral ho
  obtain ⟨p, hgap, hcase⟩ := exists_caseFlagText hflag hj
  exact ⟨_, .comparison (.intro hat hproperty .refl hoperator .refl hv hgap hcase),
    comparison_means c rfl hfaults hreading⟩

/-! ## Chains -/

/-- What an operand writes by itself and inside a chain means the condition. -/
structure Operand.Means (x : Operand) (c : Condition) : Prop where
  alone : Writes OrText (·.Means c) x.alone
  inside : Writes UnaryText (·.Means c) x.inside

lemma Operand.means_plain {s : String} {c : Condition} (h : Writes UnaryText (·.Means c) s) :
    (Operand.plain s).Means c where
  alone := by
    intro i j hs hj
    obtain ⟨e, he, hc⟩ := h hs hj
    exact ⟨e, .of_and (.of_unary he), hc⟩
  inside := h

lemma Operand.means_grouped {s : String} {c : Condition} (h : Writes OrText (·.Means c) s) :
    (Operand.grouped s).Means c where
  alone := h
  inside := by
    intro i j hs hj
    obtain ⟨l, hs, hclose⟩ := hs.split_append
    obtain ⟨k, hopen, hs⟩ := hs.split_append
    obtain ⟨e, he, hc⟩ := h hs (Word.stops_name hclose rfl rfl)
    exact ⟨e, .group hopen .refl he .refl hclose, hc⟩

lemma CPath.Expr.Means.foldl {f : Expr → Expr → Expr} {op : Connective}
    (hf : ∀ {e e' c c'}, e.Means c → e'.Means c' → (f e e').Means (.logical op c c'))
    {es : List Expr} {cs : List Condition} (hes : List.Forall₂ Expr.Means es cs) :
    ∀ {e c}, e.Means c → (es.foldl f e).Means (cs.foldl (.logical op) c) := by
  induction hes with
  | nil => exact fun h => h
  | cons h _ ih => exact fun h' => ih (hf h' h)

lemma CPath.Expr.Means.both {e e' : Expr} {c c' : Condition} (h : e.Means c) (h' : e'.Means c') :
    (Expr.both e e').Means (.logical .and c c') := by
  constructor
  · rw [Expr.faults, h.faults, h'.faults, List.append_nil]
  · rw [Expr.reading, h.reading, h'.reading]

lemma CPath.Expr.Means.either {e e' : Expr} {c c' : Condition} (h : e.Means c) (h' : e'.Means c') :
    (Expr.either e e').Means (.logical .or c c') := by
  constructor
  · rw [Expr.faults, h.faults, h'.faults, List.append_nil]
  · rw [Expr.reading, h.reading, h'.reading]

section Chains

variable {op : Connective} {rule : Input → Expr → Input → Prop} {s : String} {ss : List String}
  {c : Condition} {cs : List Condition}

lemma writes_more (h : List.Forall₂ (fun s c => Writes rule (·.Means c) s) ss cs) :
    Writes (MoreText op.keyword rule) (fun es => List.Forall₂ Expr.Means es cs) (op.more ss) := by
  induction h with
  | nil =>
    intro i j hs hj
    rw [Piece.eq_of_nil hs]
    exact ⟨[], .nil, .nil⟩
  | @cons s c ss cs hs hss ih =>
    intro i n h hn
    obtain ⟨j, hgap, h⟩ := h.split_append
    obtain ⟨k, hword, h⟩ := h.split_append
    obtain ⟨l, hgap', h⟩ := h.split_append
    obtain ⟨m, hoperand, hmore⟩ := h.split_append
    have hk : k.Stops isIdentChar := Word.stops_name hgap' rfl rfl
    have hm : m.Stops isIdentChar := hmore.stops (op.endsName_more ss) hn
    obtain ⟨e, he, hc⟩ := hs hoperand hm
    obtain ⟨es, hes, hcs⟩ := ih hmore hn
    exact ⟨e :: es, .cons (.of_space hgap) ⟨hword, hk⟩ (.of_space hgap') he hes, .cons hc hcs⟩

lemma writes_joined (op : Connective) {chainRule : Input → Expr → Input → Prop}
    {f : Expr → Expr → Expr}
    (chain : ∀ {i j k e es}, rule i e j → MoreText op.keyword rule j es k →
      chainRule i (es.foldl f e) k)
    (means : ∀ {e e' c c'}, e.Means c → e'.Means c' → (f e e').Means (.logical op c c'))
    (hs : Writes rule (·.Means c) s)
    (hss : List.Forall₂ (fun s c => Writes rule (·.Means c) s) ss cs) :
    Writes chainRule (·.Means (cs.foldl (.logical op) c)) (op.join (s :: ss)) := by
  intro i k h hk
  rw [Connective.join_cons] at h
  obtain ⟨j, hfirst, hmore⟩ := h.split_append
  obtain ⟨e, he, hc⟩ := hs hfirst (hmore.stops (op.endsName_more ss) hk)
  obtain ⟨es, hes, hcs⟩ := writes_more hss hmore hk
  exact ⟨_, chain he hes, Expr.Means.foldl means hcs hc⟩

lemma writes_join {x : Operand} {xs : List Operand} (hx : x.Means c)
    (hxs : List.Forall₂ Operand.Means xs cs) :
    Writes OrText (·.Means (cs.foldl (.logical op) c))
      (op.join ((x :: xs).map Operand.inside)) := by
  rw [List.map_cons]
  cases op with
  | and =>
    intro i j h hj
    have hinside : List.Forall₂ (fun s c => Writes UnaryText (·.Means c) s)
        (xs.map Operand.inside) cs := by
      rw [List.forall₂_map_left_iff]
      exact hxs.imp fun _ _ h => h.inside
    obtain ⟨e, he, hc⟩ := writes_joined .and AndText.of_more Expr.Means.both hx.inside
      hinside h hj
    exact ⟨e, .of_and he, hc⟩
  | or =>
    have hand : ∀ x c, Operand.Means x c → Writes AndText (·.Means c) x.inside := by
      intro x c hx i j h hj
      obtain ⟨e, he, hc⟩ := hx.inside h hj
      exact ⟨e, .of_unary he, hc⟩
    apply writes_joined .or OrText.of_more Expr.Means.either (hand x c hx)
    rw [List.forall₂_map_left_iff]
    exact hxs.imp hand

/-- A chain means its conditions joined from the left. -/
theorem writes_chain {xs : List Operand} (hxs : List.Forall₂ Operand.Means xs cs)
    (hc : op.fold cs = some c) : Writes OrText (·.Means c) (op.chain xs) := by
  cases hxs with
  | nil => cases hc
  | @cons x d xs ds hx hxs =>
    cases hc
    cases hxs with
    | nil => exact hx.alone
    | cons hx' hxs => exact writes_join hx (.cons hx' hxs)

end Chains

end ControlQuery

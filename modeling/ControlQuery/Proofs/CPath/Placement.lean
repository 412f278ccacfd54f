import ControlQuery.Proofs.CPath.Clashes
import Mathlib.Data.List.Forall2

/-!
# A position may stand anywhere in its row

What a step asks of a control and which of the matches it takes are written in the same row, but
they do not get in each other's way. The only position of a row may be moved to any other place of
the row, with any blanks between the brackets, and the text still writes the same query.
-/

namespace ControlQuery.CPath

/-! ## Positions and conditions commute -/

namespace Predicate

variable {p : Predicate} {front back ps : List Predicate}

lemma positions_append (ps qs : List Predicate) :
    positions (ps ++ qs) = positions ps ++ positions qs := by
  induction ps with
  | nil => rfl
  | cons p ps ih =>
    rw [List.cons_append, positions_cons, ih, ← List.append_assoc, ← positions_cons]

section Engine

variable [Regex.Engine]

/-- A position sets a page, whatever the element. -/
lemma exists_page (hp : positions [p] ≠ []) :
    ∃ (page : Except ParseError (Count × Option Count)) (w : Lexeme),
      Predicate.apply [p] = fun e => page >>= fun n => withPage e w n.1 n.2 := by
  cases p with
  | condition expr => exact absurd rfl hp
  | position whole number =>
    refine ⟨positionPage number, whole, funext fun e => ?_⟩
    rw [Predicate.apply]
    exact bind_congr fun n => bind_pure _
  | slice whole bounds start stop =>
    refine ⟨slicePage bounds start stop, whole, funext fun e => ?_⟩
    rw [Predicate.apply]
    exact bind_congr fun n => bind_pure _

lemma apply_condition (x : Expr) :
    Predicate.apply [.condition x] = fun e => x.condition >>= fun c => pure (e.appendCondition c) :=
  funext fun e => by
    rw [Predicate.apply]
    rfl

lemma withPage_appendCondition (e : Element) (c : Condition) (w : Lexeme) (skip : Count)
    (take : Option Count) :
    withPage (e.appendCondition c) w skip take =
      withPage e w skip take >>= fun e => pure (e.appendCondition c) := by
  unfold withPage Element.appendCondition
  dsimp only
  split <;> rfl

/-- A position and the condition behind it may change places: if both are in order they set
different fields, and otherwise either order fails. -/
lemma sameAll_swap (hp : positions [p] ≠ []) (x : Expr) (ps : List Predicate) :
    SameAll (p :: .condition x :: ps) (.condition x :: p :: ps) := by
  intro e
  have hswap : Agree (Predicate.apply [p] e >>= Predicate.apply [.condition x])
      (Predicate.apply [.condition x] e >>= Predicate.apply [p]) := by
    obtain ⟨page, w, hpage⟩ := exists_page hp
    rw [hpage, apply_condition]
    simp only [bind_assoc, pure_bind, withPage_appendCondition]
    cases page with
    | error err => cases x.condition <;> rfl
    | ok n =>
      cases x.condition with
      | error err =>
        change Agree (withPage e w n.1 n.2 >>= fun _ => .error err) (.error err)
        cases withPage e w n.1 n.2 <;> rfl
      | ok c => exact .refl _
  have hassoc : ∀ q r : Predicate, Predicate.apply (q :: r :: ps) e =
      (Predicate.apply [q] e >>= Predicate.apply [r]) >>= Predicate.apply ps := by
    intro q r
    rw [apply_cons, bind_assoc]
    exact bind_congr fun _ => apply_cons r ps _
  rw [hassoc, hassoc]
  exact hswap.bind fun _ => .refl _

/-- A position may be moved to the front, past conditions. -/
lemma sameAll_front (hp : positions [p] ≠ []) (hfront : positions front = []) :
    SameAll (front ++ p :: back) (p :: (front ++ back)) := by
  induction front with
  | nil => exact .refl _
  | cons q front ih =>
    cases q with
    | position whole number => cases hfront
    | slice whole bounds start stop => cases hfront
    | condition x =>
      refine SameAll.trans (.cons (.refl [.condition x]) (ih hfront)) ?_
      exact (sameAll_swap hp x (front ++ back)).symm

/-- A position may be moved anywhere past conditions. -/
lemma sameAll_move {front' back' : List Predicate} (hp : positions [p] ≠ [])
    (hothers : positions (front ++ back) = []) (hmoved : front' ++ back' = front ++ back) :
    SameAll (front ++ p :: back) (front' ++ p :: back') := by
  have hothers' : positions (front' ++ back') = [] := by rw [hmoved, hothers]
  rw [positions_append, List.append_eq_nil_iff] at hothers hothers'
  refine (sameAll_front hp hothers.1).trans ?_
  rw [← hmoved]
  exact (sameAll_front hp hothers'.1).symm

end Engine

lemma positions_others (hp : positions [p] ≠ [])
    (hone : (positions (front ++ p :: back)).length = 1) : positions (front ++ back) = [] := by
  have hpos := List.length_pos_iff.mpr hp
  rw [positions_append, positions_cons, List.length_append, List.length_append] at hone
  rw [positions_append, List.append_eq_nil_iff]
  exact ⟨List.eq_nil_of_length_eq_zero (by omega), List.eq_nil_of_length_eq_zero (by omega)⟩

end Predicate

/-! ## Rows with the texts of their predicates -/

/-- `predicate*`, with the text of each predicate. -/
inductive RowText : Input → List (List Char × Predicate) → Input → Prop where
  | nil {i : Input} : RowText i [] i
  | cons {i j k l : Input} {b : List Char} {p : Predicate} {items : List (List Char × Predicate)}
      (gap : Gap i j) (piece : Piece j b k) (predicate : PredicateText j p k)
      (more : RowText k items l) : RowText i ((b, p) :: items) l

/-- Texts that follow each other, with blanks in front of each. -/
inductive Spaced : List (List Char) → List Char → Prop where
  | nil : Spaced [] []
  | cons {blanks b row : List Char} {bs : List (List Char)} (gap : ∀ c ∈ blanks, isBlank c = true)
      (more : Spaced bs row) : Spaced (b :: bs) (blanks ++ (b ++ row))

theorem PredicatesText.exists_items {i j : Input} {ps : List Predicate}
    (h : PredicatesText i ps j) : ∃ items, RowText i items j ∧ items.map Prod.snd = ps := by
  induction ps generalizing i with
  | nil =>
    cases h
    exact ⟨[], .nil, rfl⟩
  | cons p ps ih =>
    obtain - | ⟨gap, predicate, more⟩ := h
    obtain ⟨items, hitems, rfl⟩ := ih more
    obtain ⟨b, piece⟩ := predicate.reaches
    exact ⟨_, .cons gap piece predicate hitems, rfl⟩

lemma RowText.exists_piece {i j : Input} {items : List (List Char × Predicate)}
    (h : RowText i items j) :
    ∀ item ∈ items, ∃ k l, Piece k item.1 l ∧ PredicateText k item.2 l := by
  induction h with
  | nil => simp
  | cons gap piece predicate _ ih =>
    intro item hitem
    rcases List.mem_cons.mp hitem with rfl | hitem
    · exact ⟨_, _, piece, predicate⟩
    · exact ih item hitem

lemma PredicateText.getLast?_eq {i j : Input} {p : Predicate} {b : List Char}
    (h : PredicateText i p j) (hb : Piece i b j) : b.getLast? = some ']' := by
  have hclosing : ∃ k, Reaches i k ∧ Word "]" k j := by
    cases h with
    | position opening gap number gap' closing whole =>
      exact ⟨_, opening.reaches.trans (gap.reaches.trans (number.spans.reaches.trans
        gap'.reaches)), closing⟩
    | slice opening gap start colon gap' stop bounds gap'' closing whole =>
      exact ⟨_, opening.reaches.trans (gap.reaches.trans (bounds.reaches.trans gap''.reaches)),
        closing⟩
    | openSlice opening gap start colon gap' bounds closing whole =>
      exact ⟨_, opening.reaches.trans (gap.reaches.trans bounds.reaches), closing⟩
    | condition opening gap expr gap' closing =>
      exact ⟨_, opening.reaches.trans (gap.reaches.trans (expr.reaches.trans gap'.reaches)),
        closing⟩
  obtain ⟨k, ⟨cs, front⟩, closing⟩ := hclosing
  rw [← hb.take_eq, (front.append closing).take_eq]
  exact List.getLast?_concat

lemma PredicatesText.stops_isIdentChar {i j : Input} {p : Predicate} {ps : List Predicate}
    (h : PredicatesText i (p :: ps) j) : i.Stops isIdentChar := by
  cases h with
  | cons gap predicate more =>
    have hfollows : Follows ['['] i := (predicate.starts.follows rfl (by simp)).before gap
    exact hfollows.stops rfl

section Engine

variable [Regex.Engine]

/-- Brackets from anywhere, written one behind the other. -/
lemma Spaced.exists_predicates {items : List (List Char × Predicate)} {u row v : List Char}
    (h : Spaced (items.map Prod.fst) row)
    (hitems : ∀ item ∈ items, ∃ k l, Piece k item.1 l ∧ PredicateText k item.2 l) :
    ∃ ps, PredicatesText (.behind u (row ++ v)) ps (.behind (u ++ row) v) ∧
      List.Forall₂ Predicate.Same (items.map Prod.snd) ps := by
  induction items generalizing u row with
  | nil =>
    cases h
    refine ⟨[], ?_, .nil⟩
    rw [List.append_nil]
    exact .nil
  | cons item items ih =>
    obtain ⟨b, p⟩ := item
    cases h with
    | cons gap more =>
      rename_i blanks row
      obtain ⟨k, l, piece, predicate⟩ := hitems (b, p) List.mem_cons_self
      have hcopy := Piece.behind (u ++ blanks) b (row ++ v)
      have hlast : ∀ c ∈ b.getLast?, isIdentChar c = true → l.Stops isIdentChar →
          (Input.behind (u ++ blanks ++ b) (row ++ v)).Stops isIdentChar := by
        intro c hc hident
        rw [predicate.getLast?_eq piece] at hc
        obtain rfl := Option.some.inj hc
        cases hident
      obtain ⟨p', predicate', hp⟩ := predicate.portable.copy ⟨b, piece, hcopy, hlast⟩
      obtain ⟨ps, hps, hsame⟩ := ih (u := u ++ blanks ++ b) more fun item hitem =>
        hitems item (List.mem_cons_of_mem _ hitem)
      have hgap : Gap (.behind u (blanks ++ (b ++ (row ++ v))))
          (.behind (u ++ blanks) (b ++ (row ++ v))) := ⟨blanks, .behind u blanks _, gap⟩
      have hrow := PredicatesText.cons hgap predicate' hps
      refine ⟨p' :: ps, ?_, .cons hp hsame⟩
      simpa only [List.append_assoc] using hrow

/-! ## Moving a position -/

/-- The only position of a row may stand anywhere in the row: the text in which the position has
been moved to another place, with the conditions in the same order and any blanks between the
brackets, writes the same query. -/
theorem parse_of_moved_position {text : String} {q : Query} (hparse : parse text = .ok q) :
    ∃ ss, Derives text ss ∧ ∀ ps ∈ Step.allRows ss, (Predicate.positions ps).length = 1 →
      ∃ u row v items, text = String.ofList (u ++ (row ++ v)) ∧
        RowText (.behind u (row ++ v)) items (.behind (u ++ row) v) ∧ items.map Prod.snd = ps ∧
        ∀ front item back front' back' row', items = front ++ item :: back →
          Predicate.positions [item.2] ≠ [] → front' ++ back' = front ++ back →
          Spaced ((front' ++ item :: back').map Prod.fst) row' →
          parse (String.ofList (u ++ (row' ++ v))) = .ok q := by
  obtain ⟨ss, h⟩ := exists_derives_of_parse hparse
  refine ⟨ss, h, fun ps hps hone => ?_⟩
  obtain ⟨u, row, v, htext, hrow, hagain⟩ := h.exists_row hps
  obtain ⟨items, hitems, rfl⟩ := hrow.exists_items
  refine ⟨u, row, v, items, htext, hitems, rfl, ?_⟩
  rintro front item back front' back' row' rfl hitem hmoved hspaced
  have hpieces : ∀ other ∈ front' ++ item :: back',
      ∃ k l, Piece k other.1 l ∧ PredicateText k other.2 l := by
    intro other hother
    refine hitems.exists_piece other ?_
    have hperm : (front' ++ item :: back').Perm (item :: (front ++ back)) := by
      rw [← hmoved]
      exact List.perm_middle
    exact (hperm.trans List.perm_middle.symm).mem_iff.mp hother
  obtain ⟨ps', hrow', hsame⟩ := hspaced.exists_predicates (u := u) (v := v) hpieces
  have hmove : Predicate.SameAll ((front ++ item :: back).map Prod.snd)
      ((front' ++ item :: back').map Prod.snd) := by
    rw [List.map_append, List.map_cons] at hone ⊢
    rw [List.map_append, List.map_cons]
    refine Predicate.sameAll_move hitem (Predicate.positions_others hitem hone) ?_
    rw [← List.map_append, ← List.map_append, hmoved]
  have hstops : (Input.behind u (row' ++ v)).Stops isIdentChar := by
    cases ps' with
    | nil => simpa using hsame.length_eq
    | cons p' ps' => exact hrow'.stops_isIdentChar
  obtain ⟨ss', h', hss⟩ := hagain row' ps' hrow' (hmove.trans (.of_forall₂ hsame)) fun _ => hstops
  exact (h.agree_parse h' hss).eq_ok hparse

end Engine

/-- The position of a step inside of a condition, which changes places with the condition behind
it. -/
theorem parse_of_moved_position_inner :
    ∃ q, parse "//A[./B[2] [@Name='x']or @Name='y'][3]" = .ok q ∧
      ∃ u row v p r a b,
        "//A[./B[2] [@Name='x']or @Name='y'][3]" = String.ofList (u ++ (row ++ v)) ∧
        RowText (.behind u (row ++ v)) [(a, p), (b, r)] (.behind (u ++ row) v) ∧
        (Predicate.positions [p]).map Prod.fst = [⟨7, "[2]"⟩] ∧
        parse (String.ofList (u ++ (b ++ a ++ v))) = .ok q := by
  have hok : (match parse "//A[./B[2] [@Name='x']or @Name='y'][3]" with
      | .ok _ => true
      | .error _ => false) = true := by
    decide +kernel
  have hrows : (match steps "//A[./B[2] [@Name='x']or @Name='y'][3]" with
      | .ok ss => (Step.allRows ss).any fun ps => ps.length = 2 ∧
          (Predicate.positions ps).length = 1 ∧
          (Predicate.positions (ps.take 1)).map Prod.fst = [⟨7, "[2]"⟩]
      | .error _ => false) = true := by
    decide +kernel
  cases hparse : parse "//A[./B[2] [@Name='x']or @Name='y'][3]" with
  | error e =>
    rw [hparse] at hok
    cases hok
  | ok q =>
    obtain ⟨ss, h, hmove⟩ := parse_of_moved_position hparse
    rw [steps_of_derives h] at hrows
    simp only [List.any_eq_true, decide_eq_true_eq] at hrows
    obtain ⟨ps, hps, hlength, hone, hfirst⟩ := hrows
    obtain ⟨u, row, v, items, htext, hrow, rfl, hmove⟩ := hmove ps hps hone
    match items with
    | [(a, p), (b, r)] =>
      have hp : (Predicate.positions [p]).map Prod.fst = [⟨7, "[2]"⟩] := hfirst
      have hne : Predicate.positions [p] ≠ [] := by
        intro hnil
        rw [hnil] at hp
        cases hp
      have hspaced : Spaced [b, a] ([] ++ (b ++ ([] ++ (a ++ [])))) :=
        .cons (by simp) (.cons (by simp) .nil)
      have hparse' := hmove [] (a, p) [(b, r)] [(b, r)] [] _ rfl hne rfl hspaced
      refine ⟨q, rfl, u, row, v, p, r, a, b, htext, hrow, hp, ?_⟩
      simpa using hparse'

example : parse "//A[./B[2] [@Name='x']or @Name='y'][3]" =
    parse "//A [3][./B[@Name='x'][2]or @Name='y']" := by
  decide +kernel

end ControlQuery.CPath

import ControlQuery.Unicode.Lowercase
import Mathlib.Data.List.Basic
import Mathlib.Tactic.Common

/-!
# The two forms of the small sigma

The lowercase form of a character depends on its surroundings in a single case: a capital sigma that
ends a word becomes `ς`, and any other one becomes `σ`. So a text that occurs in another one may be
written otherwise in lowercase there than it is by itself, and then it need not occur in the
lowercase form of the other text at all. Whether this can happen to a text is seen from its sigmas.
-/

namespace ControlQuery.Unicode

/-- Whether a capital sigma ends a word, where `before` holds what is in front of it, nearest first,
and `after` what is behind it. -/
def endsWord (before after : List Char) : Bool :=
  startsCased before && !startsCased after

/-- The lowercase form of `cs` between what is in front of it, nearest first, and what is behind
it. -/
def lowerBetween (before after : List Char) : List Char → List Char
  | [] => []
  | c :: cs =>
    (if c = 'Σ' then [if endsWord before (cs ++ after) then 'ς' else 'σ'] else lowerChar c) ++
      lowerBetween (c :: before) after cs

variable {before after before' after' cs : List Char}

lemma startsCased_append (xs ys : List Char) :
    startsCased (xs ++ ys) = if xs.all isCaseIgnorable then startsCased ys else startsCased xs := by
  unfold startsCased
  rw [List.dropWhile_append]
  induction xs with
  | nil => rfl
  | cons x xs ih =>
    by_cases hx : isCaseIgnorable x = true
    · simpa [List.dropWhile_cons, hx] using ih
    · simp [hx]

lemma startsCased_of_all {xs : List Char} (h : xs.all isCaseIgnorable = true) :
    startsCased xs = false := by
  have happend := startsCased_append xs []
  rw [if_pos h, List.append_nil] at happend
  rw [happend]
  rfl

lemma lowerBetween_nil : lowerBetween before [] cs = lowerAfter before cs := by
  induction cs generalizing before with
  | nil => rfl
  | cons c cs ih =>
    rw [lowerBetween, lowerAfter, ih, List.append_nil]
    rfl

lemma lowerBetween_append (xs ys : List Char) :
    lowerBetween before after (xs ++ ys) =
      lowerBetween before (ys ++ after) xs ++ lowerBetween (xs.reverse ++ before) after ys := by
  induction xs generalizing before with
  | nil => rfl
  | cons x xs ih =>
    rw [List.cons_append, lowerBetween, lowerBetween, ih, List.append_assoc, List.append_assoc,
      List.reverse_cons, List.append_assoc]
    rfl

/-- Where the text stands in another one, its lowercase form there stands in the other's. -/
lemma lowerBetween_infix : lowerBetween before.reverse after cs <:+:
    lowerAfter [] (before ++ cs ++ after) := by
  rw [← lowerBetween_nil, lowerBetween_append, lowerBetween_append, List.append_nil,
    List.append_nil]
  exact ⟨_, _, rfl⟩

/-- Nothing but the ends of words matters. -/
lemma lowerBetween_congr (h : ∀ p s, cs = p ++ 'Σ' :: s →
    endsWord (p.reverse ++ before) (s ++ after) = endsWord (p.reverse ++ before') (s ++ after')) :
    lowerBetween before after cs = lowerBetween before' after' cs := by
  induction cs generalizing before before' with
  | nil => rfl
  | cons c cs ih =>
    have hcs : lowerBetween (c :: before) after cs = lowerBetween (c :: before') after' cs := by
      apply ih
      intro p s hp
      have hends := h (c :: p) s (by rw [hp, List.cons_append])
      simpa using hends
    rw [lowerBetween, lowerBetween, hcs]
    by_cases hc : c = 'Σ'
    · have hends := h [] cs (by rw [hc, List.nil_append])
      rw [List.reverse_nil, List.nil_append, List.nil_append] at hends
      rw [hends]
    · rw [if_neg hc, if_neg hc]

/-! ### Counting sigmas -/

/-- No fewer sigmas are final in the second text, and no more are not. -/
def SigmaLe (xs ys : List Char) : Prop :=
  xs.count 'ς' ≤ ys.count 'ς' ∧ ys.count 'σ' ≤ xs.count 'σ'

lemma SigmaLe.append {xs ys xs' ys' : List Char} (h : SigmaLe xs ys) (h' : SigmaLe xs' ys') :
    SigmaLe (xs ++ xs') (ys ++ ys') := by
  obtain ⟨h₁, h₂⟩ := h
  obtain ⟨h₁', h₂'⟩ := h'
  unfold SigmaLe
  simp only [List.count_append]
  omega

/-- The more words end, the more sigmas are final. -/
lemma lowerBetween_le (h : ∀ p s, cs = p ++ 'Σ' :: s →
    endsWord (p.reverse ++ before) (s ++ after) = true →
    endsWord (p.reverse ++ before') (s ++ after') = true) :
    SigmaLe (lowerBetween before after cs) (lowerBetween before' after' cs) := by
  induction cs generalizing before before' with
  | nil => exact ⟨Nat.le_refl _, Nat.le_refl _⟩
  | cons c cs ih =>
    have hcs : SigmaLe (lowerBetween (c :: before) after cs)
        (lowerBetween (c :: before') after' cs) := by
      apply ih
      intro p s hp
      have hends := h (c :: p) s (by rw [hp, List.cons_append])
      simpa using hends
    rw [lowerBetween, lowerBetween]
    refine SigmaLe.append ?_ hcs
    by_cases hc : c = 'Σ'
    · have hends := h [] cs (by rw [hc, List.nil_append])
      rw [List.reverse_nil, List.nil_append, List.nil_append] at hends
      rw [if_pos hc, if_pos hc]
      cases hb : endsWord before (cs ++ after) with
      | true =>
        rw [hends hb]
        exact ⟨Nat.le_refl _, Nat.le_refl _⟩
      | false =>
        cases endsWord before' (cs ++ after') with
        | true => exact ⟨by decide, by decide⟩
        | false => exact ⟨Nat.le_refl _, Nat.le_refl _⟩
    · rw [if_neg hc, if_neg hc]
      exact ⟨Nat.le_refl _, Nat.le_refl _⟩

/-- If a sigma is final in the one surroundings only, and none in the other surroundings only, then
both numbers differ. -/
lemma lowerBetween_lt {p s : List Char} (h : ∀ p' s', p ++ 'Σ' :: s = p' ++ 'Σ' :: s' →
    endsWord (p'.reverse ++ before) (s' ++ after) = true →
    endsWord (p'.reverse ++ before') (s' ++ after') = true)
    (hno : endsWord (p.reverse ++ before) (s ++ after) = false)
    (hyes : endsWord (p.reverse ++ before') (s ++ after') = true) :
    (lowerBetween before after (p ++ 'Σ' :: s)).count 'ς' <
        (lowerBetween before' after' (p ++ 'Σ' :: s)).count 'ς' ∧
      (lowerBetween before' after' (p ++ 'Σ' :: s)).count 'σ' <
        (lowerBetween before after (p ++ 'Σ' :: s)).count 'σ' := by
  -- neither in front of the sigma nor behind it can the numbers go the other way
  have hfront : SigmaLe (lowerBetween before ('Σ' :: (s ++ after)) p)
      (lowerBetween before' ('Σ' :: (s ++ after')) p) := by
    apply lowerBetween_le
    intro p' s' hp
    simpa using h p' (s' ++ 'Σ' :: s) (by simp [hp])
  have hback : SigmaLe (lowerBetween ('Σ' :: (p.reverse ++ before)) after s)
      (lowerBetween ('Σ' :: (p.reverse ++ before')) after' s) := by
    apply lowerBetween_le
    intro p' s' hs
    simpa using h (p ++ 'Σ' :: p') s' (by simp [hs])
  obtain ⟨hς, hσ⟩ := hfront.append hback
  rw [lowerBetween_append, lowerBetween_append, lowerBetween, lowerBetween, hno, hyes]
  simp only [List.count_append] at hς hσ
  simp
  omega

/-! ### Sigmas whose form is open -/

/-- Whether it depends on what surrounds a text if a capital sigma in it ends a word, where `before`
and `after` are what the text has in front of the sigma, nearest first, and behind it. -/
def isOpen (before after : List Char) : Bool :=
  startsCased before && after.all isCaseIgnorable ||
    before.all isCaseIgnorable && !startsCased after

/-- Whether a text has a capital sigma whose form depends on what surrounds the text, where `before`
is what the text has in front of `cs`, nearest first. -/
def hasOpenSigma (before : List Char) : List Char → Bool
  | [] => false
  | c :: cs => c == 'Σ' && isOpen before cs || hasOpenSigma (c :: before) cs

lemma hasOpenSigma_iff : hasOpenSigma before cs = true ↔
    ∃ p s, cs = p ++ 'Σ' :: s ∧ isOpen (p.reverse ++ before) s = true := by
  induction cs generalizing before with
  | nil => simp [hasOpenSigma]
  | cons c cs ih =>
    rw [hasOpenSigma, Bool.or_eq_true, Bool.and_eq_true, beq_iff_eq, ih]
    constructor
    · rintro (⟨rfl, hopen⟩ | ⟨p, s, rfl, hopen⟩)
      · exact ⟨[], cs, rfl, hopen⟩
      · exact ⟨c :: p, s, rfl, by simpa using hopen⟩
    · rintro ⟨p, s, hcs, hopen⟩
      cases p with
      | nil =>
        cases hcs
        exact .inl ⟨rfl, hopen⟩
      | cons x p =>
        cases hcs
        exact .inr ⟨p, s, rfl, by simpa using hopen⟩

lemma endsWord_append_of_not_isOpen (h : isOpen before after = false) (xs ys : List Char) :
    endsWord (before ++ xs) (after ++ ys) = endsWord before after := by
  rw [isOpen, Bool.or_eq_false_iff] at h
  rw [endsWord, endsWord, startsCased_append, startsCased_append]
  by_cases hbefore : before.all isCaseIgnorable = true
  · -- no word can end here, as one goes on behind
    have hafter : startsCased after = true := by simpa [hbefore] using h.2
    have hall : ¬after.all isCaseIgnorable = true := by
      intro hall
      rw [startsCased_of_all hall] at hafter
      cases hafter
    rw [if_neg hall, hafter, Bool.not_true, Bool.and_false, Bool.and_false]
  · rw [if_neg hbefore]
    by_cases hall : after.all isCaseIgnorable = true
    · have hbefore' : startsCased before = false := by simpa [hall] using h.1
      rw [hbefore', Bool.false_and, Bool.false_and]
    · rw [if_neg hall]

/-! ### Occurrences in lowercase -/

/-- An occurrence is written as the text by itself if each of its sigmas is. -/
theorem lowerAfter_infix {front back : List Char} (h : ∀ p s, cs = p ++ 'Σ' :: s →
    endsWord (p.reverse ++ front.reverse) (s ++ back) = endsWord p.reverse s) :
    lowerAfter [] cs <:+: lowerAfter [] (front ++ cs ++ back) := by
  have hsame : lowerBetween front.reverse back cs = lowerBetween [] [] cs := by
    apply lowerBetween_congr
    intro p s hp
    rw [List.append_nil, List.append_nil]
    exact h p s hp
  rw [← lowerBetween_nil, ← hsame]
  exact lowerBetween_infix

theorem lowerAfter_infix_of_not_hasOpenSigma (h : hasOpenSigma [] cs = false) {text : List Char}
    (hcs : cs <:+: text) : lowerAfter [] cs <:+: lowerAfter [] text := by
  obtain ⟨front, back, rfl⟩ := hcs
  apply lowerAfter_infix
  intro p s hp
  apply endsWord_append_of_not_isOpen
  by_contra hopen
  rw [Bool.not_eq_false] at hopen
  have hhas := hasOpenSigma_iff.2 ⟨p, s, hp, by rwa [List.append_nil]⟩
  rw [h] at hhas
  cases hhas

lemma startsCased_append_of_startsCased {xs : List Char} (h : startsCased xs = true)
    (ys : List Char) : startsCased (xs ++ ys) = true := by
  rw [startsCased_append, if_neg, h]
  intro hall
  rw [startsCased_of_all hall] at h
  cases h

lemma endsWord_of_append_right {xs : List Char} (h : endsWord before (after ++ xs) = true) :
    endsWord before after = true := by
  rw [endsWord, Bool.and_eq_true, Bool.not_eq_true'] at h ⊢
  refine ⟨h.1, ?_⟩
  by_contra hafter
  rw [Bool.not_eq_false] at hafter
  rw [startsCased_append_of_startsCased hafter xs] at h
  cases h.2

lemma endsWord_append_left (h : endsWord before after = true) (xs : List Char) :
    endsWord (before ++ xs) after = true := by
  rw [endsWord, Bool.and_eq_true] at h ⊢
  exact ⟨startsCased_append_of_startsCased h.1 xs, h.2⟩

lemma startsCased_letter : startsCased ['Α'] = true := by decide +kernel

lemma lowerChar_letter : lowerChar 'Α' = ['α'] := by decide +kernel

lemma lowerAfter_letter_behind :
    lowerAfter [] (cs ++ ['Α']) = lowerBetween [] ['Α'] cs ++ ['α'] := by
  rw [← lowerBetween_nil, lowerBetween_append, lowerBetween, lowerBetween, if_neg (by decide),
    lowerChar_letter]
  rfl

lemma lowerAfter_letter_front : lowerAfter [] ('Α' :: cs) = 'α' :: lowerBetween ['Α'] [] cs := by
  rw [← lowerBetween_nil, lowerBetween, if_neg (by decide), lowerChar_letter]
  rfl

/-- A sigma that is final in the text by itself is not in front of a letter, and no other sigma
makes up for it. -/
lemma not_infix_letter_behind {p s : List Char} (hp : startsCased p.reverse = true)
    (hs : s.all isCaseIgnorable = true) :
    ¬lowerAfter [] (p ++ 'Σ' :: s) <:+: lowerAfter [] (p ++ 'Σ' :: s ++ ['Α']) := by
  intro hinfix
  have hlt : (lowerBetween [] ['Α'] (p ++ 'Σ' :: s)).count 'ς' <
      (lowerBetween [] [] (p ++ 'Σ' :: s)).count 'ς' := by
    refine (lowerBetween_lt (fun p' s' _ hends => ?_) ?_ ?_).1
    · rw [List.append_nil s']
      exact endsWord_of_append_right hends
    · rw [endsWord, startsCased_append s, if_pos hs, startsCased_letter, Bool.not_true,
        Bool.and_false]
    · rw [List.append_nil, List.append_nil, endsWord, hp, startsCased_of_all hs]
      rfl
  have hle := hinfix.sublist.count_le 'ς'
  rw [lowerAfter_letter_behind, ← lowerBetween_nil, List.count_append] at hle
  have hnone : ['α'].count 'ς' = 0 := rfl
  omega

/-- A sigma that is not final in the text by itself is so behind a letter, and all final ones stay
final. -/
lemma not_infix_letter_front {p s : List Char} (hp : p.reverse.all isCaseIgnorable = true)
    (hs : startsCased s = false) :
    ¬lowerAfter [] (p ++ 'Σ' :: s) <:+: lowerAfter [] ('Α' :: (p ++ 'Σ' :: s)) := by
  intro hinfix
  have hlt : (lowerBetween ['Α'] [] (p ++ 'Σ' :: s)).count 'σ' <
      (lowerBetween [] [] (p ++ 'Σ' :: s)).count 'σ' := by
    refine (lowerBetween_lt (fun p' s' _ hends => ?_) ?_ ?_).2
    · rw [List.append_nil p'.reverse] at hends
      exact endsWord_append_left hends _
    · rw [List.append_nil, endsWord, startsCased_of_all hp]
      rfl
    · rw [endsWord, startsCased_append, if_pos hp, startsCased_letter, List.append_nil, hs]
      rfl
  have hle := hinfix.sublist.count_le 'σ'
  rw [lowerAfter_letter_front, ← lowerBetween_nil, List.count_cons_of_ne (by decide)] at hle
  omega

theorem exists_not_lowerAfter_infix_of_hasOpenSigma (h : hasOpenSigma [] cs = true) :
    ∃ text, cs <:+: text ∧ ¬lowerAfter [] cs <:+: lowerAfter [] text := by
  obtain ⟨p, s, rfl, hopen⟩ := hasOpenSigma_iff.1 h
  rw [List.append_nil, isOpen, Bool.or_eq_true, Bool.and_eq_true, Bool.and_eq_true,
    Bool.not_eq_true'] at hopen
  rcases hopen with ⟨hp, hs⟩ | ⟨hp, hs⟩
  · exact ⟨_, ⟨[], ['Α'], rfl⟩, not_infix_letter_behind hp hs⟩
  · exact ⟨_, List.infix_cons (List.infix_refl _), not_infix_letter_front hp hs⟩

example : hasOpenSigma [] "ΣΟΦΟΣ".toList = true ∧ hasOpenSigma [] "ΣΟΦΟΣ ".toList = false := by
  decide +kernel

end ControlQuery.Unicode

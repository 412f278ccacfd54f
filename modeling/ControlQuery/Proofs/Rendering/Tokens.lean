import ControlQuery.Proofs.CPath.Derivation
import ControlQuery.Proofs.CPath.Prescription
import ControlQuery.Query.Render

/-!
# Written tokens

The tokens that canonical texts are made of can be derived, and what is read from them is what was
written. Numbers, names and quoted texts come first, then comparisons of a property.
-/

namespace ControlQuery

open CPath

/-! ## Numbers -/

namespace Digits

lemma value_toString (n : Nat) : value (toString n).toList = n := by
  rw [Nat.toString_eq_repr, Nat.toList_repr]
  exact Nat.ofDigitChars_ten_toDigits

lemma isRun_toString (n : Nat) : IsRun Char.isDigit Char.isDigit (toString n).toList := by
  rw [Nat.toString_eq_repr, Nat.toList_repr]
  have hdigits : ∀ c ∈ Nat.toDigits 10 n, c.isDigit = true := by
    intro c hc
    exact Nat.isDigit_of_mem_toDigits (by omega) (by omega) hc
  cases h : Nat.toDigits 10 n with
  | nil => exact absurd h Nat.toDigits_ne_nil
  | cons c cs =>
    rw [h, List.forall_mem_cons] at hdigits
    exact ⟨hdigits.1, hdigits.2⟩

end Digits

lemma countOf_toString (n : Nat) : countOf (toString n) = UInt64.ofNat n := by
  unfold countOf
  rw [Digits.value_toString]

lemma countOf_toString_toNat (n : Count) : countOf (toString n.toNat) = n := by
  rw [countOf_toString]
  exact UInt64.ofNat_toNat

lemma countFaults_toString {n : Nat} (h : n < 2 ^ 64) (place : Lexeme) :
    countFaults place (toString n) = [] := by
  unfold countFaults
  rw [Digits.value_toString, if_pos h]

lemma integerOf_of_isRun {s : String} (h : IsRun Char.isDigit Char.isDigit s.toList) :
    integerOf s = Digits.value s.toList := by
  unfold integerOf
  split
  · next ds heq =>
    rw [heq] at h
    obtain ⟨head, -⟩ := h
    exact absurd head (by decide)
  · rfl

lemma integerOf_minus {s : String} {ds : List Char} (h : s.toList = '-' :: ds) :
    integerOf s = -(Digits.value ds : Int) := by
  unfold integerOf
  split
  · next ds' heq =>
    rw [List.cons_inj_right '-' |>.mp (h.symm.trans heq)]
  · next hne => exact absurd h (hne ds)

/-! ## Places in a written text -/

namespace CPath

variable {i j k : Input} {s s' : String}

lemma Piece.split_append (h : Piece i (s ++ s').toList k) :
    ∃ j, Piece i s.toList j ∧ Piece j s'.toList k := by
  rw [String.toList_append] at h
  exact h.split

lemma Word.split (s s' : String) (h : Word (s ++ s') i k) : ∃ j, Word s i j ∧ Word s' j k :=
  Piece.split_append h

lemma Gap.of_space (h : Word " " i j) : Gap i j :=
  ⟨_, h, List.all_eq_true.mp rfl⟩

lemma Spans.of_word (h : Word s i j) : Spans i ⟨i.offset, s⟩ j :=
  ⟨rfl, h⟩

lemma DigitsText.of_word {n : Nat} (h : Word (toString n) i j) :
    DigitsText i ⟨i.offset, toString n⟩ j :=
  ⟨.of_word h, Digits.isRun_toString n⟩

lemma exists_digitsText {n : Nat} (h : Word (toString n) i j) (hn : n < 2 ^ 64) :
    ∃ l, DigitsText i l j ∧ l.countFaults = [] ∧ countOf l.text = UInt64.ofNat n :=
  ⟨_, .of_word h, countFaults_toString hn _, countOf_toString n⟩

/-- Whether no name in front of the text goes on in it: it is empty or begins with another
character. -/
def endsName (s : String) : Bool :=
  s.toList.head?.all fun c => !isIdentChar c

lemma Piece.stops (h : Piece j s.toList k) (hs : endsName s = true) (hk : k.Stops isIdentChar) :
    j.Stops isIdentChar := by
  unfold endsName at hs
  cases hcs : s.toList with
  | nil =>
    rw [hcs] at h
    rw [← h.eq_of_nil]
    exact hk
  | cons c cs =>
    rw [hcs] at h hs
    apply Input.Stops.of_head h.head
    simpa using hs

lemma Word.stops_name {c : Char} (h : Word s i j) (hs : s.toList.head? = some c)
    (hc : isIdentChar c = false) : i.Stops isIdentChar := by
  obtain ⟨cs, hcs⟩ := List.head?_eq_some_iff.mp hs
  unfold Word at h
  rw [hcs] at h
  exact .of_head h.head hc

lemma endsName_append_left {c : Char} (hs : s.toList.head? = some c) (hc : isIdentChar c = false) :
    endsName (s ++ s') = true := by
  unfold endsName
  rw [String.toList_append, List.head?_append, hs, Option.some_or, Option.all_some, hc]
  rfl

lemma endsName_append (h : endsName s = true) (h' : endsName s' = true) :
    endsName (s ++ s') = true := by
  unfold endsName at *
  rw [String.toList_append]
  cases hcs : s.toList with
  | nil => exact h'
  | cons c cs =>
    rw [hcs] at h
    exact h

end CPath

/-! ## Names and literals -/

lemma isRun_of_isIdentifier {s : String} (h : isIdentifier s = true) :
    IsRun isIdentStart isIdentChar s.toList := by
  unfold isIdentifier at h
  cases hcs : s.toList with
  | nil =>
    rw [hcs] at h
    cases h
  | cons c cs =>
    rw [hcs] at h
    simp only [Bool.and_eq_true, List.all_eq_true] at h
    exact ⟨h.1, h.2⟩

namespace PropertyId

lemma isIdentifier_text (p : PropertyId) : isIdentifier p.text = true := by
  have hall : ∀ p ∈ all, isIdentifier p.text = true := by decide +kernel
  exact hall p (mem_all p)

lemma ofName?_text (p : PropertyId) : ofName? p.text = some p := by
  have hall : ∀ p ∈ all, ofName? p.text = some p := by decide +kernel
  exact hall p (mem_all p)

end PropertyId

lemma Quoted.isBody_encode (q : Char) (cs : List Char) : IsBody q (Quoted.encode q cs) := by
  induction cs with
  | nil => exact .nil
  | cons c cs ih =>
    unfold Quoted.encode
    by_cases h : c = q ∨ c = '\\'
    · rw [if_pos h]
      exact .escaped ih
    · rw [if_neg h]
      rw [not_or] at h
      exact .char h.1 h.2 ih

lemma CPath.Literal.faults_number {l : Lexeme} {n : Int64} (h : integerOf l.text = n.toInt) :
    (Literal.number l).faults = [] ∧ (Literal.number l).reading = .int n := by
  dsimp only [Literal.faults, Literal.reading]
  rw [h, Int64.ofInt_toInt, if_pos ⟨n.le_toInt, n.toInt_lt⟩]
  exact ⟨rfl, rfl⟩

namespace PropertyValue

variable {i j : Input}

lemma exists_literalText_str (s : String) (h : Word (str s).literal i j) :
    ∃ l, LiteralText i l j ∧ l.faults = [] ∧ l.reading = str s := by
  unfold literal Quoted.quote at h
  obtain ⟨l, h, hclose⟩ := h.split_append
  obtain ⟨k, hopen, hbody⟩ := h.split_append
  rw [String.toList_singleton] at hopen hclose
  have hspans := Spans.of_word hbody
  refine ⟨_, .string (by simp) hopen hspans ?_ hclose, rfl, ?_⟩
  · rw [String.toList_ofList]
    exact Quoted.isBody_encode _ _
  · dsimp only [Literal.reading]
    rw [String.toList_ofList, Quoted.decode_encode, String.ofList_toList]

lemma exists_literalText_bool (b : Bool) (h : Word (bool b).literal i j)
    (hj : j.Stops isIdentChar) : ∃ l, LiteralText i l j ∧ l.faults = [] ∧ l.reading = bool b := by
  cases b with
  | true => exact ⟨_, .true ⟨h, hj⟩, rfl, rfl⟩
  | false => exact ⟨_, .false ⟨h, hj⟩, rfl, rfl⟩

lemma exists_literalText_int (n : Int64) (h : Word (int n).literal i j) :
    ∃ l, LiteralText i l j ∧ l.faults = [] ∧ l.reading = int n := by
  change Word (toString n.toInt) i j at h
  rw [Int.toString_eq_repr, Int.repr_eq_if] at h
  by_cases hn : 0 ≤ n.toInt
  · rw [if_pos hn] at h
    have hdigits := DigitsText.of_word h
    refine ⟨_, .positive hdigits, Literal.faults_number ?_⟩
    rw [integerOf_of_isRun hdigits.run, Digits.value_toString]
    exact Int.toNat_of_nonneg hn
  · rw [if_neg hn] at h
    have hwhole := Spans.of_word h
    obtain ⟨k, hsign, hdigits⟩ := h.split_append
    refine ⟨_, .negative hsign (DigitsText.of_word hdigits) hwhole, Literal.faults_number ?_⟩
    have htext : ("-" ++ (-n.toInt).toNat.repr).toList = '-' :: (-n.toInt).toNat.repr.toList :=
      String.toList_append
    have hvalue := Digits.value_toString (-n.toInt).toNat
    rw [Nat.toString_eq_repr] at hvalue
    rw [integerOf_minus htext, hvalue]
    omega

lemma exists_literalText (v : PropertyValue) (h : Word v.literal i j) (hj : j.Stops isIdentChar) :
    ∃ l, LiteralText i l j ∧ l.faults = [] ∧ l.reading = v := by
  cases v with
  | bool b => exact exists_literalText_bool b h hj
  | int n => exact exists_literalText_int n h
  | str s => exact exists_literalText_str s h

end PropertyValue

end ControlQuery

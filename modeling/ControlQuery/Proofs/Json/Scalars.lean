import ControlQuery.Json.Reader
import ControlQuery.Json.Writer
import ControlQuery.Proofs.Rendering.Tokens

/-!
# Written scalars

Quoted texts and property values in JSON are read as what they write, wherever they stand. A number
needs a comma, a bracket or a blank behind it, since digits could go on.
-/

namespace ControlQuery

/-! ## Texts -/

namespace Json

lemma hexDigit?_hexDigit {n : Nat} (h : n < 16) : Digits.hexDigit? (hexDigit n) = some n := by
  have hall : ∀ n < 16, Digits.hexDigit? (hexDigit n) = some n := by decide
  exact hall n h

/-- A control character is written as its code unit. -/
lemma codeUnit?_escape {n : Nat} (h : n < 32) :
    codeUnit? '0' '0' (hexDigit (n / 16)) (hexDigit (n % 16)) = some n := by
  have hzero : Digits.hexDigit? '0' = some 0 := by decide
  unfold codeUnit?
  rw [hzero, hexDigit?_hexDigit (by omega), hexDigit?_hexDigit (by omega)]
  change some (((16 * 0 + 0) * 16 + n / 16) * 16 + n % 16) = some n
  congr 1
  omega

variable {c d : Char} {rest : List Char}

lemma stringBody_plain (hquote : c ≠ '"') (hslash : c ≠ '\\') (hc : ¬c.toNat < 32)
    (rest : List Char) :
    stringBody (c :: rest) = (stringBody rest).map fun read => (c :: read.1, read.2) := by
  rw [stringBody]
  · rw [if_neg (not_or.mpr ⟨hc, hslash⟩)]
    cases stringBody rest <;> rfl
  · exact hquote
  · exact fun _ _ _ _ _ h => absurd h hslash
  · exact fun _ _ h => absurd h hslash

lemma stringBody_short (hc : shortEscape? c = some d) (rest : List Char) :
    stringBody ('\\' :: c :: rest) = (stringBody rest).map fun read => (d :: read.1, read.2) := by
  rw [stringBody]
  · rw [hc]
    cases stringBody rest <;> rfl
  · rintro _ _ _ _ _ rfl
    cases hc

lemma stringBody_codeUnit (hc : c.toNat < 32) (rest : List Char) :
    stringBody ('\\' :: 'u' :: '0' :: '0' :: hexDigit (c.toNat / 16) :: hexDigit (c.toNat % 16) ::
      rest) = (stringBody rest).map fun read => (c :: read.1, read.2) := by
  have hhigh : ¬isHighSurrogate c.toNat = true := by
    simp [isHighSurrogate]
    omega
  have hlow : ¬isLowSurrogate c.toNat = true := by
    simp [isLowSurrogate]
    omega
  rw [stringBody, codeUnit?_escape hc]
  change (if isHighSurrogate c.toNat = true then _ else _) = _
  rw [if_neg hhigh, if_neg hlow, Char.ofNat_toNat]
  cases stringBody rest <;> rfl

/-- One written character is read as the character. -/
lemma stringBody_escape (c : Char) (rest : List Char) :
    stringBody (escape c ++ rest) = (stringBody rest).map fun read => (c :: read.1, read.2) := by
  unfold escape
  split_ifs with hquote hslash h₃ h₄ h₅ h₆ h₇ hcontrol
  · rw [hquote]
    exact stringBody_short rfl rest
  · rw [hslash]
    exact stringBody_short rfl rest
  · rw [h₃]
    exact stringBody_short rfl rest
  · rw [h₄]
    exact stringBody_short rfl rest
  · rw [h₅]
    exact stringBody_short rfl rest
  · rw [h₆]
    exact stringBody_short rfl rest
  · rw [h₇]
    exact stringBody_short rfl rest
  · exact stringBody_codeUnit hcontrol rest
  · exact stringBody_plain hquote hslash hcontrol rest

/-- A written text is read up to its closing quote, and no further. -/
lemma stringBody_flatMap_escape (cs rest : List Char) :
    stringBody (cs.flatMap escape ++ '"' :: rest) = some (cs, rest) := by
  induction cs with
  | nil => exact stringBody_quote rest
  | cons c cs ih =>
    rw [List.flatMap_cons, List.append_assoc, stringBody_escape, ih]
    rfl

lemma toList_quote (s : String) : (quote s).toList = '"' :: (s.toList.flatMap escape ++ ['"']) := by
  simp [quote]

/-! ## Numbers -/

/-- The characters that may stand right behind a value. -/
def endChars : List Char :=
  [',', ']', '\x7d', ' ', '\n', '\t', '\r']

/-- What follows begins with a comma, a closing bracket or a blank, if with anything. -/
def Ends (rest : List Char) : Prop :=
  ∀ c ∈ rest.head?, c ∈ endChars

lemma Ends.isDigit_eq_false (h : Ends (c :: rest)) : c.isDigit = false := by
  have hall : endChars.all (fun c => !c.isDigit) = true := by decide
  simpa using List.all_eq_true.mp hall c (h c rfl)

lemma Ends.ne (h : Ends (c :: rest)) (hd : d ∉ endChars) : c ≠ d := by
  rintro rfl
  exact hd (h c rfl)

lemma takeWhile_isDigit {digits : List Char} (h : ∀ c ∈ digits, c.isDigit = true)
    (hrest : Ends rest) : (digits ++ rest).takeWhile Char.isDigit = digits := by
  rw [List.takeWhile_append_of_pos h]
  cases rest with
  | nil => simp
  | cons c rest => simp [hrest.isDigit_eq_false]

lemma dropWhile_isDigit {digits : List Char} (h : ∀ c ∈ digits, c.isDigit = true)
    (hrest : Ends rest) : (digits ++ rest).dropWhile Char.isDigit = rest := by
  rw [List.dropWhile_append_of_pos h]
  cases rest with
  | nil => rfl
  | cons c rest => simp [hrest.isDigit_eq_false]

lemma fraction_of_ends (h : Ends rest) : fraction rest = some (none, rest) := by
  unfold fraction
  split
  · exact absurd rfl (h.ne (d := '.') (by decide))
  · rfl

lemma exponent_of_ends (h : Ends rest) : exponent rest = some (none, rest) := by
  cases rest with
  | nil => rfl
  | cons c rest => exact if_neg (not_or.mpr ⟨h.ne (by decide), h.ne (by decide)⟩)

end Json

namespace Digits

/-- The value of further digits behind others. -/
def valueFrom (n : Nat) (digits : List Char) : Nat :=
  digits.foldl (fun n c => 10 * n + (c.toNat - '0'.toNat)) n

lemma le_valueFrom (n : Nat) (digits : List Char) : n ≤ valueFrom n digits := by
  induction digits generalizing n with
  | nil => exact Nat.le_refl n
  | cons c digits ih =>
    have hstep := ih (10 * n + (c.toNat - '0'.toNat))
    change n ≤ valueFrom (10 * n + (c.toNat - '0'.toNat)) digits
    omega

lemma toNat_digitChar {n : Nat} (h : n < 10) : n.digitChar.toNat - '0'.toNat = n := by
  rw [Nat.toNat_digitChar_of_lt_ten h]
  exact Nat.add_sub_cancel_left 48 n

/-- No digits are written in front of the first one that counts. -/
lemma head?_toDigits {n : Nat} (h : (Nat.toDigits 10 n).head? = some '0') : n = 0 := by
  induction n using Nat.strong_induction_on with
  | _ n ih =>
    by_cases hn : n < 10
    · rw [Nat.toDigits_of_lt_base hn] at h
      have hvalue := toNat_digitChar hn
      rw [Option.some.inj h] at hvalue
      exact hvalue.symm
    · obtain ⟨c, cs, hdigits⟩ := List.exists_cons_of_ne_nil
        (Nat.toDigits_ne_nil : Nat.toDigits 10 (n / 10) ≠ [])
      rw [Nat.toDigits_of_base_le (by omega) (by omega), hdigits] at h
      have hzero := ih (n / 10) (by omega) (by rw [hdigits]; exact h)
      omega

end Digits

namespace Json

open Digits (valueFrom)

/-- Digits of a number that is not too great are all kept. -/
lemma significand_eq {digits : List Char} {n : Nat} (h : valueFrom n digits < significandLimit) :
    significand n digits = (valueFrom n digits, 0) := by
  induction digits generalizing n with
  | nil => rfl
  | cons c digits ih =>
    have hnext := Nat.lt_of_le_of_lt (Digits.le_valueFrom _ digits) h
    rw [significand, if_pos hnext]
    exact ih h

lemma overflows_eq_false {n : Nat} (h : n < significandLimit) :
    Digits.overflows n ((0 : Nat) : Int) = false := by
  have hlimit : significandLimit ≤ Digits.infinityThreshold := by decide +kernel
  have hsmall : ¬n * 10 ^ 0 ≥ Digits.infinityThreshold := by omega
  unfold Digits.overflows
  rw [Bool.and_eq_false_iff]
  right
  rw [Bool.or_eq_false_iff]
  exact ⟨rfl, decide_eq_false hsmall⟩

/-- A run of digits that writes a number small enough to be kept exactly. -/
structure IsNumeral (digits : List Char) : Prop where
  isDigit : ∀ c ∈ digits, c.isDigit = true
  ne_nil : digits ≠ []
  no_zeros : digits.head? = some '0' → digits.length = 1
  small : Digits.value digits < significandLimit

lemma isNumeral_toString {n : Nat} (h : n < significandLimit) :
    IsNumeral (toString n).toList := by
  have hvalue := Digits.value_toString n
  rw [Nat.toString_eq_repr, Nat.toList_repr] at hvalue ⊢
  refine ⟨fun c => Nat.isDigit_of_mem_toDigits (by omega) (by omega), Nat.toDigits_ne_nil, ?_, ?_⟩
  · intro hzero
    rw [Digits.head?_toDigits hzero]
    rfl
  · rwa [hvalue]

lemma IsNumeral.no_minus {digits : List Char} (h : IsNumeral digits) (rest cs : List Char) :
    digits ++ rest ≠ '-' :: cs := by
  obtain ⟨c, ds, rfl⟩ := List.exists_cons_of_ne_nil h.ne_nil
  intro heq
  have hc := h.isDigit c List.mem_cons_self
  rw [(List.cons.inj heq).1] at hc
  exact absurd hc (by decide)

/-- An integer is read as far as its digits go. -/
lemma number_numeral (negative : Bool) {digits : List Char} (h : IsNumeral digits)
    (hrest : Ends rest) :
    number ((if negative then ['-'] else []) ++ (digits ++ rest)) =
      some (if negative then if Digits.value digits = 0 then .real
          else .integer (-(Digits.value digits : Int))
        else .integer (Digits.value digits), rest) := by
  have hsignificand : significand 0 digits = (Digits.value digits, 0) := significand_eq h.small
  have hwellformed : ¬(digits.isEmpty || digits.head? == some '0' && decide (digits.length > 1)) =
      true := by
    simp only [Bool.or_eq_true, Bool.and_eq_true, List.isEmpty_iff, beq_iff_eq, decide_eq_true_eq]
    rintro (hnil | ⟨hzero, hlength⟩)
    · exact h.ne_nil hnil
    · have hone := h.no_zeros hzero
      omega
  unfold number
  split
  next sign cs hsign =>
    have hparts : negative = sign ∧ digits ++ rest = cs := by
      split at hsign
      · next cs' heq =>
        cases negative with
        | true => exact Prod.mk.inj ((congrArg (true, ·) (List.cons.inj heq).2).trans hsign)
        | false => exact absurd heq (h.no_minus rest cs')
      · next hne =>
        cases negative with
        | true => exact absurd rfl (hne (digits ++ rest))
        | false => exact Prod.mk.inj hsign
    obtain ⟨rfl, rfl⟩ := hparts
    rw [takeWhile_isDigit h.isDigit hrest, dropWhile_isDigit h.isDigit hrest]
    dsimp only
    rw [if_neg hwellformed, fraction_of_ends hrest, hsignificand]
    change (exponent rest >>= _) = _
    rw [exponent_of_ends hrest]
    change (if Digits.overflows (Digits.value digits) ((0 : Nat) : Int) = true then none else _) = _
    rw [overflows_eq_false h.small]
    cases negative <;> rfl

/-! ## Values -/

lemma skipBlanks_cons (hc : c ≠ ' ' ∧ c ≠ '\n' ∧ c ≠ '\t' ∧ c ≠ '\r') (cs : List Char) :
    skipBlanks (c :: cs) = c :: cs := by
  have hc : (c == ' ' || c == '\n' || c == '\t' || c == '\r') = false := by
    simp [hc]
  exact List.dropWhile_cons_of_neg (by simp [hc])

lemma value_quote (nesting : Nat) (s : String) (rest : List Char) :
    value nesting ((quote s).toList ++ rest) = (.text s, some rest) := by
  rw [toList_quote, List.cons_append, List.append_assoc, value, skipBlanks_cons (by decide)]
  change scalar ((stringBody (s.toList.flatMap escape ++ '"' :: rest)).map _) = _
  rw [stringBody_flatMap_escape]
  exact congrArg (fun s => (Document.text s, some rest)) String.ofList_toList

lemma value_number (nesting : Nat) (hc : c = '-' ∨ c.isDigit = true) (cs : List Char) :
    value nesting (c :: cs) = scalar (number (c :: cs)) := by
  have hother : ∀ d, d.isDigit = false → d ≠ '-' → c ≠ d := by
    rintro d hdigit hminus rfl
    rcases hc with hc | hc
    · exact hminus hc
    · rw [hc] at hdigit
      cases hdigit
  have hblanks := skipBlanks_cons ⟨hother ' ' rfl (by decide), hother '\n' rfl (by decide),
    hother '\t' rfl (by decide), hother '\r' rfl (by decide)⟩ cs
  rw [value, hblanks]
  split
  · next heq => exact absurd (List.cons.inj heq).1 (hother 'n' rfl (by decide))
  · next heq => exact absurd (List.cons.inj heq).1 (hother 't' rfl (by decide))
  · next heq => exact absurd (List.cons.inj heq).1 (hother 'f' rfl (by decide))
  · next heq => exact absurd (List.cons.inj heq).1 (hother '"' rfl (by decide))
  · next heq => exact absurd (List.cons.inj heq).1 (hother '[' rfl (by decide))
  · next heq => exact absurd (List.cons.inj heq).1 (hother '\x7b' rfl (by decide))
  · rfl

lemma value_numeral (nesting : Nat) (negative : Bool) {digits : List Char} (h : IsNumeral digits)
    (hrest : Ends rest) :
    value nesting ((if negative then ['-'] else []) ++ (digits ++ rest)) =
      (if negative then if Digits.value digits = 0 then .real
          else .integer (-(Digits.value digits : Int))
        else .integer (Digits.value digits), some rest) := by
  have hnumber := number_numeral negative h hrest
  have hscalar : value nesting ((if negative then ['-'] else []) ++ (digits ++ rest)) =
      scalar (number ((if negative then ['-'] else []) ++ (digits ++ rest))) := by
    cases negative with
    | true => exact value_number nesting (.inl rfl) _
    | false =>
      obtain ⟨c, ds, rfl⟩ := List.exists_cons_of_ne_nil h.ne_nil
      exact value_number nesting (.inr (h.isDigit c List.mem_cons_self)) _
  rw [hscalar, hnumber]
  rfl

lemma value_int (nesting : Nat) (n : Int64) (hrest : Ends rest) :
    value nesting ((toString n.toInt).toList ++ rest) = (.integer n.toInt, some rest) := by
  have hlow := n.le_toInt
  have hhigh := n.toInt_lt
  have hlimit : significandLimit = 2 ^ 64 := rfl
  rw [Int.toString_eq_repr, Int.repr_eq_if]
  by_cases hn : 0 ≤ n.toInt
  · have hread := value_numeral nesting false
      (isNumeral_toString (n := n.toInt.toNat) (by omega)) hrest
    rw [Digits.value_toString, Int.toNat_of_nonneg hn] at hread
    rw [if_pos hn]
    exact hread
  · have hread := value_numeral nesting true
      (isNumeral_toString (n := (-n.toInt).toNat) (by omega)) hrest
    have hpos : ¬(-n.toInt).toNat = 0 := by omega
    rw [Digits.value_toString, if_pos rfl, if_pos rfl, if_neg hpos,
      Int.toNat_of_nonneg (by omega), Int.neg_neg] at hread
    rw [if_neg hn, String.toList_append]
    exact hread

end Json

/-- What is read where a property value is written. -/
def PropertyValue.document : PropertyValue → Document
  | bool b => .bool b
  | int n => .integer n.toInt
  | str s => .text s

namespace PropertyValue

lemma value_toJson (v : PropertyValue) (nesting : Nat) {rest : List Char} (hrest : Json.Ends rest) :
    Json.value nesting (v.toJson.toList ++ rest) = (v.document, some rest) := by
  cases v with
  | bool b =>
    cases b with
    | true => rw [Json.value]; rfl
    | false => rw [Json.value]; rfl
  | int n => exact Json.value_int nesting n hrest
  | str s => exact Json.value_quote nesting s rest

lemma propertyValue?_document (v : PropertyValue) : v.document.propertyValue? = some v := by
  cases v with
  | bool b => rfl
  | int n =>
    have hlow := n.le_toInt
    have hhigh := n.toInt_lt
    have hrange : leastInteger ≤ n.toInt ∧ n.toInt ≤ greatestInteger := by
      unfold leastInteger greatestInteger
      omega
    change ofInt? n.toInt = _
    rw [ofInt?, if_pos hrange, Int64.ofInt_toInt]
  | str s => rfl

lemma isComplete_document (v : PropertyValue) : v.document.isComplete = true := by
  cases v <;> rfl

end PropertyValue

end ControlQuery

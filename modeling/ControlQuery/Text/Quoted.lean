/-!
# Quoted text

A text is quoted by writing a backslash before every quote character and every backslash. Reading
drops each backslash and keeps the character after it, so whatever follows a backslash stands for
itself. Main statement: decoding undoes encoding.
-/

namespace ControlQuery.Quoted

/-- Writes a backslash before each quote character and each backslash. -/
def encode (quote : Char) : List Char → List Char
  | [] => []
  | c :: cs =>
    if c = quote ∨ c = '\\' then '\\' :: c :: encode quote cs else c :: encode quote cs

/-- Drops each backslash and keeps the character after it; a backslash at the very end is lost. -/
def decode : List Char → List Char
  | [] => []
  | '\\' :: [] => []
  | '\\' :: c :: cs => c :: decode cs
  | c :: cs => c :: decode cs

/-- The text between two quote characters. -/
def quote (q : Char) (s : String) : String :=
  String.singleton q ++ String.ofList (encode q s.toList) ++ String.singleton q

theorem decode_cons {c : Char} (h : c ≠ '\\') (cs : List Char) :
    decode (c :: cs) = c :: decode cs := by
  rw [decode.eq_4] <;> simp_all

theorem decode_encode (q : Char) (cs : List Char) : decode (encode q cs) = cs := by
  induction cs with
  | nil => rfl
  | cons c cs ih =>
    by_cases h : c = q ∨ c = '\\'
    · simp [encode, h, decode, ih]
    · have hc : c ≠ '\\' := fun e => h (.inr e)
      simp [encode, h, decode_cons hc, ih]

end ControlQuery.Quoted

import ControlQuery.Proofs.CPath.Meaning
import ControlQuery.Proofs.CPath.Soundness
import ControlQuery.Proofs.CPath.Tokens
import ControlQuery.Proofs.Rendering.Tokens

/-!
# Quoted texts are read back

A text can be quoted in many ways: only quote characters and backslashes need a backslash, and any
other character may have one. Whatever stands behind it, each of them is read up to its closing
quote and is then worth the text. Nothing else between quotes is read as a text.
-/

namespace ControlQuery

namespace Quoted

variable {q : Char} {cs body : List Char}

/-- The body writes the text: a backslash stands before each quote character and each backslash,
and before any other characters. -/
inductive Encodes (quote : Char) : List Char → List Char → Prop where
  | nil : Encodes quote [] []
  | escaped {c : Char} {cs body : List Char} (tail : Encodes quote cs body) :
      Encodes quote (c :: cs) ('\\' :: c :: body)
  | plain {c : Char} {cs body : List Char} (notQuote : c ≠ quote) (notBackslash : c ≠ '\\')
      (tail : Encodes quote cs body) : Encodes quote (c :: cs) (c :: body)

lemma Encodes.isBody (h : Encodes q cs body) : CPath.IsBody q body := by
  induction h with
  | nil => exact .nil
  | escaped _ ih => exact .escaped ih
  | plain notQuote notBackslash _ ih => exact .char notQuote notBackslash ih

/-- What a body writes is what is left of it without the escaping backslashes. -/
lemma Encodes.decode_eq (h : Encodes q cs body) : decode body = cs := by
  induction h with
  | nil => rfl
  | @escaped c cs body _ ih =>
    rw [decode, ih]
  | plain _ notBackslash _ ih => rw [decode_cons notBackslash, ih]

/-- Whatever may stand between quotes writes some text. -/
lemma encodes_decode (h : CPath.IsBody q body) : Encodes q (decode body) body := by
  induction h with
  | nil => exact .nil
  | escaped _ ih => exact .escaped ih
  | char notQuote notBackslash _ ih =>
    rw [decode_cons notBackslash]
    exact .plain notQuote notBackslash ih

lemma encodes_encode (q : Char) (cs : List Char) : Encodes q cs (encode q cs) := by
  have h := encodes_decode (isBody_encode q cs)
  rwa [decode_encode] at h

lemma toList_quote (q : Char) (s : String) :
    (quote q s).toList = [q] ++ encode q s.toList ++ [q] := by
  simp [quote]

end Quoted

namespace CPath

open Reader

variable {q : Char} {cs body rest : List Char} {offset : Nat}

/-- A body that may stand between quotes is read up to the closing one. -/
lemma reads_literal_of_isBody (hq : q ∈ ['\'', '"']) (h : IsBody q body) (rest : List Char)
    (offset : Nat) :
    Reads literal ⟨[q] ++ body ++ [q] ++ rest, offset⟩ (.string offset (String.ofList body))
      ⟨rest, offset + bytes ([q] ++ body ++ [q])⟩ := by
  have hwhole : Piece ⟨[q] ++ body ++ [q] ++ rest, offset⟩ ([q] ++ body ++ [q])
      ⟨rest, offset + bytes ([q] ++ body ++ [q])⟩ := .of_rest rfl
  obtain ⟨k, hfront, hclose⟩ := hwhole.split
  obtain ⟨j, hopen, hbody⟩ := hfront.split
  exact reads_string hq hopen (.of_piece hbody) (by rwa [String.toList_ofList]) hclose

/-- What is read as a text between quotes may stand there. -/
lemma isBody_of_reads_literal
    (h : Reads literal ⟨[q] ++ body ++ [q] ++ rest, offset⟩ (.string offset (String.ofList body))
      ⟨rest, offset + bytes ([q] ++ body ++ [q])⟩) : IsBody q body := by
  generalize hl : Literal.string offset (String.ofList body) = l at h
  cases literalText_of_mayRead ⟨{}, h {}⟩ with
  | @string _ _ _ q' b quote opening spans hbody closing =>
    have hb : b.text = String.ofList body := (Literal.string.inj hl).2.symm
    obtain rfl : q = q' := Option.some_inj.mp opening.head
    rwa [hb, String.toList_ofList] at hbody
  | _ => cases hl

/-- A literal is read up to its end where no name can go on behind it. -/
lemma exists_reads_literal (v : PropertyValue) (rest : List Char) (offset : Nat)
    (hrest : ∀ c ∈ rest.head?, isIdentChar c = false) :
    ∃ l, Reads literal ⟨v.literal.toList ++ rest, offset⟩ l
        ⟨rest, offset + bytes v.literal.toList⟩ ∧ l.value = .ok v := by
  have hword : Word v.literal ⟨v.literal.toList ++ rest, offset⟩
      ⟨rest, offset + bytes v.literal.toList⟩ := .of_rest rfl
  obtain ⟨l, hl, hfaults, hreading⟩ := v.exists_literalText hword hrest
  have hdigit : ∀ c ∈ rest.head?, c.isDigit = false := by
    intro c hc
    have hident := hrest c hc
    simp only [isIdentChar, Char.isAlphanum, Bool.or_eq_false_iff] at hident
    exact hident.1.2
  refine ⟨l, reads_literal hl hdigit, ?_⟩
  rw [Literal.value_eq, hfaults, hreading]
  rfl

/-- A text that is quoted in any way is read up to its closing quote, whatever follows, and is then
worth the text; and nothing else between quotes is read as a text. The literal of a property value
is read up to its end and is worth the value; only a truth value or a number needs what follows to
be no letter, no digit and no underscore. -/
theorem reads_literal_of_encodes (q : Char) (hq : q ∈ ['\'', '"']) :
    (∀ (s : String) (body : List Char), Quoted.Encodes q s.toList body →
      ∀ (rest : List Char) (offset : Nat),
        Reads literal ⟨[q] ++ body ++ [q] ++ rest, offset⟩ (.string offset (String.ofList body))
            ⟨rest, offset + bytes ([q] ++ body ++ [q])⟩ ∧
          (Literal.string offset (String.ofList body)).value = .ok (.str s)) ∧
      (∀ (body rest : List Char) (offset : Nat),
        Reads literal ⟨[q] ++ body ++ [q] ++ rest, offset⟩ (.string offset (String.ofList body))
            ⟨rest, offset + bytes ([q] ++ body ++ [q])⟩ →
          Quoted.Encodes q (Quoted.decode body) body) ∧
      ∀ (v : PropertyValue) (rest : List Char) (offset : Nat),
        (v.string? = none → ∀ c ∈ rest.head?, isIdentChar c = false) →
          ∃ l : Literal,
            Reads literal ⟨v.literal.toList ++ rest, offset⟩ l
                ⟨rest, offset + bytes v.literal.toList⟩ ∧
              l.value = .ok v ∧
              ∀ s, v = .str s → ∃ body, Quoted.Encodes '\'' s.toList body ∧
                v.literal.toList = ['\''] ++ body ++ ['\''] ∧
                l = .string offset (String.ofList body) := by
  have hread : ∀ {q : Char}, q ∈ ['\'', '"'] → ∀ (s : String) (body : List Char),
      Quoted.Encodes q s.toList body → ∀ (rest : List Char) (offset : Nat),
        Reads literal ⟨[q] ++ body ++ [q] ++ rest, offset⟩ (.string offset (String.ofList body))
            ⟨rest, offset + bytes ([q] ++ body ++ [q])⟩ ∧
          (Literal.string offset (String.ofList body)).value = .ok (.str s) := by
    intro q hq s body h rest offset
    refine ⟨reads_literal_of_isBody hq h.isBody rest offset, ?_⟩
    rw [Literal.value, String.toList_ofList, h.decode_eq, String.ofList_toList]
    rfl
  refine ⟨hread hq, fun body rest offset h => Quoted.encodes_decode (isBody_of_reads_literal h), ?_⟩
  intro v rest offset hrest
  cases v with
  | str s =>
    have henc := Quoted.encodes_encode '\'' s.toList
    have h := hread (q := '\'') (by decide) s _ henc rest offset
    rw [PropertyValue.literal, Quoted.toList_quote]
    refine ⟨_, h.1, h.2, ?_⟩
    rintro s' ⟨⟩
    exact ⟨_, henc, rfl, rfl⟩
  | _ =>
    obtain ⟨l, hl, hv⟩ := exists_reads_literal _ rest offset (hrest rfl)
    exact ⟨l, hl, hv, nofun⟩

/-- Both quotes and a backslash at the end, in double quotes with one backslash more than needed,
and another quote behind it. -/
theorem reads_literal_of_encodes_trailing_backslash :
    let s := "'\"\\"
    let body := ['\\', '\'', '\\', '"', '\\', '\\']
    let rest := ['"', ']']
    '"' ∈ ['\'', '"'] ∧ Quoted.Encodes '"' s.toList body ∧
      Reads literal ⟨['"'] ++ body ++ ['"'] ++ rest, 9⟩ (.string 9 (String.ofList body))
        ⟨rest, 17⟩ ∧
      (Literal.string 9 (String.ofList body)).value = .ok (.str s) := by
  intro s body rest
  have hq : '"' ∈ ['\'', '"'] := by decide
  have hs : Quoted.Encodes '"' s.toList body := by
    have hchars : s.toList = ['\'', '"', '\\'] := by decide +kernel
    rw [hchars]
    exact .escaped (.escaped (.escaped .nil))
  exact ⟨hq, hs, (reads_literal_of_encodes '"' hq).1 s body hs rest 9⟩

end CPath

end ControlQuery

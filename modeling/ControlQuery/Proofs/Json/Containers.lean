import ControlQuery.Proofs.Json.Scalars
import Mathlib.Data.List.DropRight

/-!
# Written containers

Objects and arrays are read as what their members and items write, as long as no more containers
stand inside one another than may. Blanks may stand in front of each item, each member and each
closing bracket, and behind the colon of a member.
-/

namespace ControlQuery.Json

/-! ## Blanks -/

section Blanks

variable {cs ds rest : List Char} {c : Char}

lemma skipBlanks_append_of_eq_nil (h : skipBlanks cs = []) (rest : List Char) :
    skipBlanks (cs ++ rest) = skipBlanks rest := by
  unfold skipBlanks at *
  rw [List.dropWhile_append, h]
  rfl

lemma skipBlanks_append_of_eq_cons (h : skipBlanks cs = c :: ds) (rest : List Char) :
    skipBlanks (cs ++ rest) = c :: (ds ++ rest) := by
  unfold skipBlanks at *
  rw [List.dropWhile_append, h]
  rfl

lemma skipBlanks_skipBlanks (cs : List Char) : skipBlanks (skipBlanks cs) = skipBlanks cs :=
  List.dropWhile_idempotent _ cs

/-- A comma is no blank, so what stands behind one is not passed over. -/
lemma length_lt_skipBlanks (cs ds : List Char) :
    ds.length < (skipBlanks (cs ++ ',' :: ds)).length := by
  cases h : skipBlanks cs with
  | nil =>
    rw [skipBlanks_append_of_eq_nil h, skipBlanks_cons (by decide)]
    exact Nat.lt_succ_self _
  | cons b bs =>
    rw [skipBlanks_append_of_eq_cons h, List.length_cons, List.length_append, List.length_cons]
    omega

/-- Blanks may stand in front of what ends a value. -/
lemma ends_of_skipBlanks (h : skipBlanks cs = c :: ds) (hc : c ∈ endChars) (rest : List Char) :
    Ends (cs ++ rest) := by
  cases cs with
  | nil => cases h
  | cons b cs =>
    rintro b' ⟨⟩
    by_cases hb : b = ' ' ∨ b = '\n' ∨ b = '\t' ∨ b = '\r'
    · rcases hb with rfl | rfl | rfl | rfl <;> decide
    · simp only [not_or] at hb
      rw [skipBlanks_cons hb] at h
      rwa [(List.cons.inj h).1]

lemma value_skipBlanks (nesting : Nat) (cs : List Char) :
    value nesting (skipBlanks cs) = value nesting cs := by
  rw [value, value, skipBlanks_skipBlanks]

lemma key_skipBlanks (cs : List Char) : key (skipBlanks cs) = key cs := by
  rw [key, key, skipBlanks_skipBlanks]

lemma items_skipBlanks (nesting fuel : Nat) (cs : List Char) :
    items (value nesting) fuel (skipBlanks cs) = items (value nesting) fuel cs := by
  cases fuel with
  | zero => rfl
  | succ fuel => rw [items, items, value_skipBlanks]

lemma members_skipBlanks (read : List Char → Reading) (fuel : Nat) (cs : List Char) :
    members read fuel (skipBlanks cs) = members read fuel cs := by
  cases fuel with
  | zero => rfl
  | succ fuel => rw [members, members, key_skipBlanks]

end Blanks

/-- Wherever the text stands, it is read as the document, and nothing behind it is read. -/
def ReadsAs (read : List Char → Reading) (text : String) (d : Document) : Prop :=
  ∀ rest, Ends rest → read (text.toList ++ rest) = (d, some rest)

/-- The text writes a member of an object, perhaps behind blanks. -/
def MemberReadsAs (read : List Char → Reading) (text : String) (member : String × Document) :
    Prop :=
  ∃ front value, skipBlanks front.toList = (quote member.1).toList ∧ text = front ++ ":" ++ value ∧
    ReadsAs read value member.2

/-- The text is a closing bracket, perhaps behind blanks. -/
def Closes (bracket : Char) (text : String) : Prop :=
  skipBlanks text.toList = [bracket]

variable {read : List Char → Reading} {texts : List String} {text closing : String}
  {rest : List Char} {nesting : Nat} {d : Document}

lemma Closes.ends {bracket : Char} (h : Closes bracket text) (hb : bracket ∈ endChars)
    (rest : List Char) : Ends (text.toList ++ rest) :=
  ends_of_skipBlanks h hb rest

lemma Closes.skipBlanks_append {bracket : Char} (h : Closes bracket text) (rest : List Char) :
    skipBlanks (text.toList ++ rest) = bracket :: rest :=
  skipBlanks_append_of_eq_cons h rest

lemma commas_cons_cons (s s' : String) (texts : List String) :
    commas (s :: s' :: texts) = s ++ "," ++ commas (s' :: texts) := by
  rw [commas]
  exact List.cons_ne_nil s' texts

lemma toList_commas_cons (s s' : String) (texts : List String) :
    (commas (s :: s' :: texts)).toList = s.toList ++ ',' :: (commas (s' :: texts)).toList := by
  rw [commas_cons_cons, String.toList_append, String.toList_append, List.append_assoc]
  rfl

lemma length_le_commas (texts : List String) : texts.length ≤ (commas texts).toList.length + 1 := by
  induction texts with
  | nil => exact Nat.zero_le _
  | cons s texts ih =>
    cases texts with
    | nil => exact Nat.le_add_left 1 _
    | cons s' texts =>
      rw [toList_commas_cons, List.length_append]
      simp only [List.length_cons] at ih ⊢
      omega

/-- There are enough characters to take one off the text for each of the members. -/
lemma length_le_skipBlanks_commas (texts : List String) (rest : List Char) :
    texts.length ≤ (skipBlanks ((commas texts).toList ++ rest)).length + 1 := by
  cases texts with
  | nil => exact Nat.zero_le _
  | cons s texts =>
    cases texts with
    | nil => exact Nat.le_add_left 1 _
    | cons s' texts =>
      have hlast := length_le_commas (s' :: texts)
      have hlength := length_lt_skipBlanks s.toList ((commas (s' :: texts)).toList ++ rest)
      rw [List.length_append] at hlength
      rw [toList_commas_cons, List.append_assoc, List.cons_append, List.length_cons]
      omega

/-- The first character that is no blank stays the first one in front of other texts. -/
lemma exists_skipBlanks_commas {c : Char} {cs : List Char} (h : skipBlanks text.toList = c :: cs)
    (texts : List String) (rest : List Char) :
    ∃ ds, skipBlanks ((commas (text :: texts)).toList ++ rest) = c :: ds := by
  cases texts with
  | nil => exact ⟨_, skipBlanks_append_of_eq_cons h rest⟩
  | cons s texts =>
    rw [toList_commas_cons, List.append_assoc]
    exact ⟨_, skipBlanks_append_of_eq_cons h _⟩

lemma ends_comma (rest : List Char) : Ends (',' :: rest) := by
  rintro c ⟨⟩
  decide

/-! ## Arrays -/

lemma items_commas {ds : List Document} (h : List.Forall₂ (ReadsAs read) texts ds)
    (hne : texts ≠ []) {fuel : Nat} (hfuel : texts.length ≤ fuel) (hclosing : Closes ']' closing)
    (rest : List Char) :
    items read fuel ((commas texts).toList ++ (closing.toList ++ rest)) = (ds, some rest) := by
  induction h generalizing fuel with
  | nil => exact absurd rfl hne
  | @cons s d texts ds hs h ih =>
    obtain ⟨fuel, rfl⟩ := Nat.exists_eq_add_one.mpr (Nat.lt_of_lt_of_le Nat.succ_pos' hfuel)
    cases h with
    | nil =>
      rw [commas, items, hs _ (hclosing.ends (by decide) rest)]
      dsimp only
      rw [hclosing.skipBlanks_append]
      rfl
    | @cons s' d' texts ds hs' h =>
      have hmore := ih (List.cons_ne_nil s' texts) (Nat.le_of_succ_le_succ hfuel)
      rw [toList_commas_cons, List.append_assoc, List.cons_append, items, hs _ (ends_comma _)]
      dsimp only
      rw [skipBlanks_cons (by decide)]
      simp only [hmore]

/-- No value begins with a closing bracket. -/
lemma ReadsAs.exists_skipBlanks (h : ReadsAs (value nesting) text d) :
    ∃ c cs, skipBlanks text.toList = c :: cs ∧ c ≠ ']' := by
  have hread := h [] nofun
  rw [List.append_nil, value] at hread
  cases hcs : skipBlanks text.toList with
  | nil =>
    rw [hcs] at hread
    cases hread
  | cons c cs =>
    refine ⟨c, cs, rfl, ?_⟩
    rintro rfl
    rw [hcs] at hread
    cases hread

lemma value_bracket (nesting : Nat) (cs : List Char) :
    value (nesting + 1) ('[' :: cs) =
      match skipBlanks cs with
      | ']' :: rest => (.list [] true, some rest)
      | cs =>
        let (ds, rest) := items (value nesting) (cs.length + 1) cs
        (.list ds rest.isSome, rest) := by
  rw [value]
  rfl

lemma value_bracket_of_ne {c : Char} {cs ds : List Char} (h : skipBlanks cs = c :: ds)
    (hc : c ≠ ']') :
    value (nesting + 1) ('[' :: cs) =
      let (ds, rest) := items (value nesting) ((skipBlanks cs).length + 1) cs
      (.list ds rest.isSome, rest) := by
  rw [value_bracket, ← items_skipBlanks, h]
  split
  · next heq => exact absurd (List.cons.inj heq).1 hc
  · rfl

/-- An array is read as its items. -/
lemma readsAs_array {ds : List Document} (h : List.Forall₂ (ReadsAs (value nesting)) texts ds)
    (hclosing : Closes ']' closing) :
    ReadsAs (value (nesting + 1)) ("[" ++ commas texts ++ closing) (.list ds true) := by
  intro rest _
  have htext : ("[" ++ commas texts ++ closing).toList ++ rest =
      '[' :: ((commas texts).toList ++ (closing.toList ++ rest)) := by
    simp
  rw [htext]
  cases h with
  | nil =>
    have hskip : skipBlanks ((commas []).toList ++ (closing.toList ++ rest)) = ']' :: rest :=
      hclosing.skipBlanks_append rest
    rw [value_bracket, hskip]
    rfl
  | @cons s d texts ds hs h =>
    obtain ⟨c, cs, hcs, hc⟩ := hs.exists_skipBlanks
    obtain ⟨more, hskip⟩ := exists_skipBlanks_commas hcs texts (closing.toList ++ rest)
    have hlength := length_le_skipBlanks_commas (s :: texts) (closing.toList ++ rest)
    have hitems := items_commas (.cons hs h) (List.cons_ne_nil s texts) hlength hclosing rest
    rw [value_bracket_of_ne hskip hc, hitems]
    rfl

/-! ## Objects -/

lemma key_quote {name front : String} (h : skipBlanks front.toList = (quote name).toList)
    (rest : List Char) : key (front.toList ++ ':' :: rest) = some (name, rest) := by
  rw [toList_quote] at h
  rw [key, skipBlanks_append_of_eq_cons h, List.append_assoc]
  change (stringBody (name.toList.flatMap escape ++ '"' :: ':' :: rest) >>= _) = _
  rw [stringBody_flatMap_escape, Option.bind_eq_bind, Option.bind_some]
  dsimp only
  rw [skipBlanks_cons (by decide), String.ofList_toList]
  rfl

lemma skipBlanks_quote (name : String) :
    skipBlanks (quote name).toList = (quote name).toList := by
  rw [toList_quote]
  exact skipBlanks_cons (by decide) _

lemma MemberReadsAs.toList_append {member : String × Document}
    (h : MemberReadsAs read text member) (hrest : Ends rest) :
    ∃ cs, key (text.toList ++ rest) = some (member.1, cs) ∧ read cs = (member.2, some rest) := by
  obtain ⟨front, value, hfront, rfl, hvalue⟩ := h
  refine ⟨value.toList ++ rest, ?_, hvalue rest hrest⟩
  rw [String.toList_append, String.toList_append, List.append_assoc, List.append_assoc]
  exact key_quote hfront (value.toList ++ rest)

lemma MemberReadsAs.exists_skipBlanks {member : String × Document}
    (h : MemberReadsAs read text member) : ∃ cs, skipBlanks text.toList = '"' :: cs := by
  obtain ⟨front, value, hfront, rfl, -⟩ := h
  rw [toList_quote] at hfront
  rw [String.append_assoc, String.toList_append]
  exact ⟨_, skipBlanks_append_of_eq_cons hfront _⟩

lemma members_commas {es : List (String × Document)}
    (h : List.Forall₂ (MemberReadsAs read) texts es) (hne : texts ≠ [])
    {fuel : Nat} (hfuel : texts.length ≤ fuel) (hclosing : Closes '\x7d' closing)
    (rest : List Char) :
    members read fuel ((commas texts).toList ++ (closing.toList ++ rest)) = (es, some rest) := by
  induction h generalizing fuel with
  | nil => exact absurd rfl hne
  | @cons s e texts es hs h ih =>
    obtain ⟨fuel, rfl⟩ := Nat.exists_eq_add_one.mpr (Nat.lt_of_lt_of_le Nat.succ_pos' hfuel)
    cases h with
    | nil =>
      obtain ⟨cs, hkey, hvalue⟩ := hs.toList_append (hclosing.ends (by decide) rest)
      rw [commas, members, hkey]
      dsimp only
      rw [hvalue]
      dsimp only
      rw [hclosing.skipBlanks_append]
      rfl
    | @cons s' e' texts es hs' h =>
      have hmore := ih (List.cons_ne_nil s' texts) (Nat.le_of_succ_le_succ hfuel)
      obtain ⟨cs, hkey, hvalue⟩ :=
        hs.toList_append (ends_comma ((commas (s' :: texts)).toList ++ (closing.toList ++ rest)))
      rw [toList_commas_cons, List.append_assoc, List.cons_append, members, hkey]
      dsimp only
      rw [hvalue]
      dsimp only
      rw [skipBlanks_cons (by decide)]
      simp only [hmore]

lemma value_brace (nesting : Nat) (cs : List Char) :
    value (nesting + 1) ('\x7b' :: cs) =
      match skipBlanks cs with
      | '\x7d' :: rest => (.table [] true, some rest)
      | cs =>
        let (es, rest) := members (value nesting) (cs.length + 1) cs
        (.table es rest.isSome, rest) := by
  rw [value]
  rfl

lemma value_brace_of_ne {c : Char} {cs ds : List Char} (h : skipBlanks cs = c :: ds)
    (hc : c ≠ '\x7d') :
    value (nesting + 1) ('\x7b' :: cs) =
      let (es, rest) := members (value nesting) ((skipBlanks cs).length + 1) cs
      (.table es rest.isSome, rest) := by
  rw [value_brace, ← members_skipBlanks, h]
  split
  · next heq => exact absurd (List.cons.inj heq).1 hc
  · rfl

/-- An object is read as its members. -/
lemma readsAs_object {es : List (String × Document)}
    (h : List.Forall₂ (MemberReadsAs (value nesting)) texts es) (hclosing : Closes '\x7d' closing) :
    ReadsAs (value (nesting + 1)) ("\x7b" ++ commas texts ++ closing) (.table es true) := by
  intro rest _
  have htext : ("\x7b" ++ commas texts ++ closing).toList ++ rest =
      '\x7b' :: ((commas texts).toList ++ (closing.toList ++ rest)) := by
    simp
  rw [htext]
  cases h with
  | nil =>
    have hskip : skipBlanks ((commas []).toList ++ (closing.toList ++ rest)) = '\x7d' :: rest :=
      hclosing.skipBlanks_append rest
    rw [value_brace, hskip]
    rfl
  | @cons s e texts es hs h =>
    obtain ⟨cs, hcs⟩ := hs.exists_skipBlanks
    obtain ⟨more, hskip⟩ := exists_skipBlanks_commas hcs texts (closing.toList ++ rest)
    have hlength := length_le_skipBlanks_commas (s :: texts) (closing.toList ++ rest)
    have hmembers := members_commas (.cons hs h) (List.cons_ne_nil s texts) hlength hclosing rest
    rw [value_brace_of_ne hskip (by decide), hmembers]
    rfl

end ControlQuery.Json

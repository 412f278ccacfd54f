import ControlQuery.Proofs.Report.Pieces

/-!
# Colours are only added

Colours are control sequences around pieces of output. No control sequence begins within a piece of
a JSON value, since control characters are escaped in quoted texts. So deleting all control
sequences from a coloured value leaves the value without colours.
-/

namespace ControlQuery.Report

/-! ## Deleting colours -/

/-- Whether a character can be one of the parameters of a control sequence. -/
def isParameter (c : Char) : Bool :=
  '0' ≤ c && c ≤ '?'

/-- What stands behind a control sequence that sets or resets colours. -/
def behindControl? : List Char → Option (List Char)
  | '\x1b' :: '[' :: cs =>
    match cs.dropWhile isParameter with
    | 'm' :: rest => some rest
    | _ => none
  | _ => none

variable {cs rest : List Char} {c : Char}

lemma length_lt_of_behindControl? (h : behindControl? cs = some rest) :
    rest.length < cs.length := by
  unfold behindControl? at h
  split at h
  · next cs =>
    split at h
    · next heq =>
      cases h
      have hlength := (List.dropWhile_sublist (l := cs) isParameter).length_le
      rw [heq] at hlength
      simp only [List.length_cons] at hlength ⊢
      omega
    · cases h
  · cases h

/-- A text without its control sequences that set or reset colours. -/
def withoutColours : List Char → List Char
  | [] => []
  | c :: cs =>
    match _ : behindControl? (c :: cs) with
    | some rest => withoutColours rest
    | none => c :: withoutColours cs
termination_by cs => cs.length
decreasing_by
  · exact length_lt_of_behindControl? (by assumption)
  · exact Nat.lt_succ_self _

lemma withoutColours_of_behindControl? (h : behindControl? cs = some rest) :
    withoutColours cs = withoutColours rest := by
  cases cs with
  | nil => cases h
  | cons c cs =>
    rw [withoutColours]
    split
    · next heq => rw [Option.some.inj (heq.symm.trans h)]
    · next heq => cases heq.symm.trans h

lemma withoutColours_cons (hc : c ≠ '\x1b') (cs : List Char) :
    withoutColours (c :: cs) = c :: withoutColours cs := by
  have hnone : behindControl? (c :: cs) = none := by
    rw [behindControl?]
    rintro _ ⟨rfl, -⟩
    exact hc rfl
  rw [withoutColours]
  split
  · next heq => cases heq.symm.trans hnone
  · rfl

/-- Where no control sequence begins, nothing is deleted. -/
lemma withoutColours_append (h : '\x1b' ∉ cs) (rest : List Char) :
    withoutColours (cs ++ rest) = cs ++ withoutColours rest := by
  induction cs with
  | nil => rfl
  | cons c cs ih =>
    rw [List.mem_cons, not_or] at h
    rw [List.cons_append, withoutColours_cons (Ne.symm h.1), ih h.2, List.cons_append]

lemma withoutColours_control {parameters : String}
    (h : parameters.toList.all isParameter = true) (rest : List Char) :
    withoutColours (control parameters ++ rest) = withoutColours rest := by
  apply withoutColours_of_behindControl?
  have hcontrol : control parameters ++ rest =
      '\x1b' :: '[' :: (parameters.toList ++ 'm' :: rest) := by
    simp [control]
  rw [hcontrol, behindControl?, List.dropWhile_append_of_pos (List.all_eq_true.mp h)]
  rfl

/-! ## Coloured pieces -/

lemma Part.isParameter_of_colour? {part : Part} {colour : String} (h : part.colour? = some colour) :
    colour.toList.all isParameter = true := by
  cases part <;> cases h <;> decide

/-- Colours are only set again behind a sequence that resets them. -/
lemma restart_eq_self (start : List Char) (h : '\x1b' ∉ cs) : restart start cs = cs := by
  induction cs with
  | nil => rfl
  | cons c cs ih =>
    rw [List.mem_cons, not_or] at h
    rw [restart, ih h.2]
    rintro _ rfl
    exact absurd rfl h.1

lemma withoutColours_coloured {p : Piece} (h : '\x1b' ∉ p.text.toList) (rest : List Char) :
    withoutColours (p.coloured ++ rest) = p.text.toList ++ withoutColours rest := by
  unfold Piece.coloured
  split
  · exact withoutColours_append h rest
  · next colour hcolour =>
    dsimp only
    rw [restart_eq_self _ h, List.append_assoc, List.append_assoc,
      withoutColours_control (Part.isParameter_of_colour? hcolour), withoutColours_append h,
      withoutColours_control (by decide)]

/-- No control sequence begins within one of the pieces. -/
def Uncontrolled (ps : List Piece) : Prop :=
  ∀ p ∈ ps, '\x1b' ∉ p.text.toList

/-- Deleting the colours of pieces leaves the pieces as they are written without colours. -/
theorem Uncontrolled.withoutColours_render {ps : List Piece} (h : Uncontrolled ps) :
    withoutColours (render true ps).toList = (render false ps).toList := by
  have hrest : ∀ rest, withoutColours (ps.flatMap (Piece.render true) ++ rest) =
      ps.flatMap (Piece.render false) ++ withoutColours rest := by
    intro rest
    induction ps with
    | nil => rfl
    | cons p ps ih =>
      obtain ⟨hp, hps⟩ := List.forall_mem_cons.mp h
      rw [List.flatMap_cons, List.flatMap_cons, List.append_assoc, List.append_assoc, ← ih hps]
      exact withoutColours_coloured hp _
  have hall := hrest []
  rw [withoutColours, List.append_nil, List.append_nil] at hall
  rw [render, render, String.toList_ofList, String.toList_ofList, hall]

/-! ## Pieces of JSON values -/

@[simp]
lemma uncontrolled_nil : Uncontrolled [] :=
  fun _ hp => absurd hp List.not_mem_nil

@[simp]
lemma uncontrolled_cons {p : Piece} {ps : List Piece} :
    Uncontrolled (p :: ps) ↔ '\x1b' ∉ p.text.toList ∧ Uncontrolled ps :=
  List.forall_mem_cons

@[simp]
lemma uncontrolled_append {ps qs : List Piece} :
    Uncontrolled (ps ++ qs) ↔ Uncontrolled ps ∧ Uncontrolled qs :=
  List.forall_mem_append

lemma not_mem_escape (c : Char) : '\x1b' ∉ Json.escape c := by
  have hdigit : ∀ n < 16, '\x1b' ≠ Json.hexDigit n := by decide
  unfold Json.escape
  split_ifs with h₁ h₂ h₃ h₄ h₅ h₆ h₇ hcontrol
  · decide
  · decide
  · decide
  · decide
  · decide
  · decide
  · decide
  · have hhigh := hdigit (c.toNat / 16) (by omega)
    have hlow := hdigit (c.toNat % 16) (by omega)
    simp [hhigh, hlow]
  · rw [List.mem_singleton]
    rintro rfl
    exact hcontrol (by decide)

/-- Quoted texts hold no control characters. -/
lemma not_mem_quote (s : String) : '\x1b' ∉ (Json.quote s).toList := by
  have hbody : '\x1b' ∉ s.toList.flatMap Json.escape := by
    rw [List.mem_flatMap]
    rintro ⟨c, -, hc⟩
    exact not_mem_escape c hc
  simpa [Json.quote] using hbody

lemma not_mem_toString (n : Int) : '\x1b' ∉ (toString n).toList := by
  have hdigits : ∀ n : Nat, '\x1b' ∉ n.repr.toList := by
    intro n hmem
    rw [Nat.toList_repr] at hmem
    have hdigit := Nat.isDigit_of_mem_toDigits (by omega) (by omega) hmem
    exact absurd hdigit (by decide)
  rw [Int.toString_eq_repr, Int.repr_eq_if]
  split
  · exact hdigits _
  · rw [String.toList_append, List.mem_append, not_or]
    exact ⟨by decide, hdigits _⟩

lemma uncontrolled_lineBreak (pretty : Bool) (indent : Nat) :
    Uncontrolled (lineBreak pretty indent) := by
  cases pretty <;> simp [lineBreak, Piece.plain]

lemma uncontrolled_unless {ps : List Piece} (h : Uncontrolled ps) (absent : Bool) :
    Uncontrolled (if absent then [] else ps) := by
  cases absent
  · exact h
  · exact uncontrolled_nil

lemma uncontrolled_singleton {p : Piece} (h : '\x1b' ∉ p.text.toList) : Uncontrolled [p] :=
  uncontrolled_cons.mpr ⟨h, uncontrolled_nil⟩

mutual

/-- No control sequence begins within a piece of a value. -/
theorem uncontrolled_value (pretty : Bool) : ∀ (indent : Nat) (v : JsonValue),
    Uncontrolled (valuePieces pretty indent v)
  | _, .null => by
    rw [valuePieces]
    exact uncontrolled_singleton (by decide)
  | _, .bool b => by
    rw [valuePieces]
    cases b <;> exact uncontrolled_singleton (by decide)
  | _, .integer n => by
    rw [valuePieces]
    exact uncontrolled_singleton (not_mem_toString n.toInt)
  | _, .text s => by
    rw [valuePieces]
    exact uncontrolled_singleton (not_mem_quote s)
  | indent, .array items => by
    have hitems := uncontrolled_items pretty (indent + 2) items
    have hend := uncontrolled_unless (uncontrolled_lineBreak pretty indent) items.isEmpty
    have hopen : Uncontrolled [.plain "["] := uncontrolled_singleton (by decide)
    have hclose : Uncontrolled [.plain "]"] := uncontrolled_singleton (by decide)
    rw [valuePieces]
    simp only [uncontrolled_append]
    exact ⟨⟨⟨hopen, hitems⟩, hend⟩, hclose⟩
  | indent, .object members => by
    have hmembers := uncontrolled_members pretty (indent + 2) members
    have hend := uncontrolled_unless (uncontrolled_lineBreak pretty indent) members.isEmpty
    have hopen : Uncontrolled [.plain "\x7b"] := uncontrolled_singleton (by decide)
    have hclose : Uncontrolled [.plain "\x7d"] := uncontrolled_singleton (by decide)
    rw [valuePieces]
    simp only [uncontrolled_append]
    exact ⟨⟨⟨hopen, hmembers⟩, hend⟩, hclose⟩

/-- No control sequence begins within a piece of an item. -/
theorem uncontrolled_items (pretty : Bool) : ∀ (indent : Nat) (vs : List JsonValue),
    Uncontrolled (itemPieces pretty indent vs)
  | _, [] => uncontrolled_nil
  | indent, v :: vs => by
    have hv := uncontrolled_value pretty indent v
    have hvs := uncontrolled_items pretty indent vs
    have hcomma : Uncontrolled [.plain ","] := uncontrolled_singleton (by decide)
    rw [itemPieces]
    simp only [uncontrolled_append]
    exact ⟨⟨⟨uncontrolled_lineBreak pretty indent, hv⟩, uncontrolled_unless hcomma _⟩, hvs⟩

/-- No control sequence begins within a piece of a member. -/
theorem uncontrolled_members (pretty : Bool) : ∀ (indent : Nat) (ms : List (String × JsonValue)),
    Uncontrolled (memberPieces pretty indent ms)
  | _, [] => uncontrolled_nil
  | indent, (name, v) :: ms => by
    have hv := uncontrolled_value pretty indent v
    have hms := uncontrolled_members pretty indent ms
    have hcolon : Uncontrolled [.plain (if pretty then ": " else ":")] := by
      cases pretty <;> exact uncontrolled_singleton (by decide)
    have hkey : Uncontrolled
        [⟨.key, Json.quote name⟩, .plain (if pretty then ": " else ":")] :=
      uncontrolled_cons.mpr ⟨not_mem_quote name, hcolon⟩
    have hcomma : Uncontrolled [.plain ","] := uncontrolled_singleton (by decide)
    rw [memberPieces]
    simp only [uncontrolled_append]
    exact ⟨⟨⟨⟨uncontrolled_lineBreak pretty indent, hkey⟩, hv⟩, uncontrolled_unless hcomma _⟩, hms⟩

end

end ControlQuery.Report

import ControlQuery.Proofs.Json.Containers
import ControlQuery.Proofs.Report.Pieces

/-!
# Reported values are read back

A JSON value that is reported without colours is read back, whether it is spread over lines or not:
line breaks and indentation are blanks, and they stand only where blanks may stand.
-/

namespace ControlQuery

open Json (ReadsAs MemberReadsAs Closes commas skipBlanks)

/-! ## What is read -/

namespace JsonValue

mutual

/-- The number of containers that stand inside one another. -/
def nesting : JsonValue → Nat
  | array items => nestingAll items + 1
  | object members => nestingOfMembers members + 1
  | _ => 0

/-- The greatest of such numbers in a row of values. -/
def nestingAll : List JsonValue → Nat
  | [] => 0
  | v :: vs => max v.nesting (nestingAll vs)

/-- The greatest of such numbers in the values of members. -/
def nestingOfMembers : List (String × JsonValue) → Nat
  | [] => 0
  | (_, v) :: ms => max v.nesting (nestingOfMembers ms)

end

mutual

/-- What is read where the value is written. -/
def document : JsonValue → Document
  | null => .null
  | bool b => .bool b
  | integer n => .integer n.toInt
  | text s => .text s
  | array items => .list (documents items) true
  | object members => .table (memberDocuments members) true

/-- What is read where values in a row are written. -/
def documents : List JsonValue → List Document
  | [] => []
  | v :: vs => v.document :: documents vs

/-- What is read where the members of an object are written. -/
def memberDocuments : List (String × JsonValue) → List (String × Document)
  | [] => []
  | (name, v) :: ms => (name, v.document) :: memberDocuments ms

end

end JsonValue

namespace Report

/-! ## Layout -/

/-- What separates lines, if output is spread over lines. -/
def gap (pretty : Bool) (indent : Nat) : String :=
  render false (lineBreak pretty indent)

lemma skipBlanks_gap (pretty : Bool) (indent : Nat) :
    skipBlanks (gap pretty indent).toList = [] := by
  cases pretty with
  | false => rfl
  | true =>
    have hgap : (gap true indent).toList = '\n' :: List.replicate indent ' ' := by
      simp [gap, lineBreak, render_plain]
    rw [hgap, skipBlanks, List.dropWhile_eq_nil_iff]
    intro c hc
    rcases List.mem_cons.mp hc with rfl | hc
    · rfl
    · rw [List.eq_of_mem_replicate hc]
      rfl

/-- The end of a container: its bracket, on a line of its own unless nothing is in the container. -/
lemma closes_bracket (pretty : Bool) (indent : Nat) (isEmpty : Bool) (bracket : Char)
    (hb : skipBlanks [bracket] = [bracket]) :
    Closes bracket (render false ((if isEmpty then [] else lineBreak pretty indent) ++
      [.plain (String.singleton bracket)])) := by
  have hfront : skipBlanks (render false (if isEmpty then [] else lineBreak pretty indent)).toList =
      [] := by
    cases isEmpty with
    | true => rfl
    | false => exact skipBlanks_gap pretty indent
  rw [Closes, render_append, render_plain, String.toList_append, String.toList_singleton,
    Json.skipBlanks_append_of_eq_nil hfront, hb]

/-- Blanks may stand in front of a value. -/
lemma readsAs_append {k : Nat} {text front : String} {d : Document}
    (h : ReadsAs (Json.value k) text d) (hfront : skipBlanks front.toList = []) :
    ReadsAs (Json.value k) (front ++ text) d := by
  intro rest hrest
  rw [String.toList_append, List.append_assoc, ← Json.value_skipBlanks,
    Json.skipBlanks_append_of_eq_nil hfront, Json.value_skipBlanks]
  exact h rest hrest

/-- The text of an item of an array. -/
def itemText (pretty : Bool) (indent : Nat) (v : JsonValue) : String :=
  gap pretty indent ++ render false (valuePieces pretty indent v)

/-- The text of a member of an object. -/
def memberText (pretty : Bool) (indent : Nat) (m : String × JsonValue) : String :=
  gap pretty indent ++ Json.quote m.1 ++ ":" ++
    ((if pretty then " " else "") ++ render false (valuePieces pretty indent m.2))

lemma render_itemPieces (pretty : Bool) (indent : Nat) (vs : List JsonValue) :
    render false (itemPieces pretty indent vs) = commas (vs.map (itemText pretty indent)) := by
  induction vs with
  | nil => rfl
  | cons v vs ih =>
    rw [itemPieces, render_append, render_append, render_append, ih]
    cases vs with
    | nil => simp [commas, itemText, gap, render]
    | cons v' vs =>
      have hcommas := Json.commas_cons_cons (itemText pretty indent v) (itemText pretty indent v')
        (vs.map (itemText pretty indent))
      exact hcommas.symm

lemma render_memberPieces (pretty : Bool) (indent : Nat) (ms : List (String × JsonValue)) :
    render false (memberPieces pretty indent ms) = commas (ms.map (memberText pretty indent)) := by
  induction ms with
  | nil => rfl
  | cons m ms ih =>
    obtain ⟨name, v⟩ := m
    have hcolon : (if pretty then ": " else ":") = ":" ++ (if pretty then " " else "") := by
      cases pretty <;> rfl
    have hkey : render false [⟨.key, Json.quote name⟩, .plain (if pretty then ": " else ":")] =
        Json.quote name ++ (":" ++ (if pretty then " " else "")) := by
      rw [render_false, render_plain, hcolon]
    have htext : memberText pretty indent (name, v) = render false (lineBreak pretty indent) ++
        (Json.quote name ++ (":" ++ (if pretty then " " else ""))) ++
        render false (valuePieces pretty indent v) := by
      simp only [memberText, gap, String.append_assoc]
    rw [memberPieces, render_append, render_append, render_append, render_append, hkey, ih, ← htext]
    cases ms with
    | nil => simp [commas, render]
    | cons m' ms =>
      have hcommas := Json.commas_cons_cons (memberText pretty indent (name, v))
        (memberText pretty indent m') (ms.map (memberText pretty indent))
      exact hcommas.symm

lemma memberReadsAs_memberText {k : Nat} {pretty : Bool} {indent : Nat} {m : String × JsonValue}
    {d : Document} (h : ReadsAs (Json.value k) (render false (valuePieces pretty indent m.2)) d) :
    MemberReadsAs (Json.value k) (memberText pretty indent m) (m.1, d) := by
  refine ⟨_, _, ?_, rfl, readsAs_append h (by cases pretty <;> rfl)⟩
  rw [String.toList_append, Json.skipBlanks_append_of_eq_nil (skipBlanks_gap pretty indent),
    Json.skipBlanks_quote]

/-- A scalar is written as the property value that it is. -/
lemma readsAs_scalar (k : Nat) (v : PropertyValue) (part : Part) :
    ReadsAs (Json.value k) (render false [⟨part, v.toJson⟩]) v.document := by
  have htext : render false [⟨part, v.toJson⟩] = v.toJson :=
    (render_false _ _).trans String.append_empty
  rw [htext]
  exact fun rest hrest => v.value_toJson k hrest

/-! ## Reading values -/

mutual

/-- A value that is reported is read as what it writes if containers are not nested too deep. -/
theorem readsAs_value (pretty : Bool) : ∀ (v : JsonValue) (indent k : Nat),
    v.nesting ≤ k → ReadsAs (Json.value k) (render false (valuePieces pretty indent v)) v.document
  | .null, indent, k, _ => by
    intro rest _
    rw [valuePieces, Json.value]
    rfl
  | .bool b, indent, k, _ => by
    rw [valuePieces]
    exact readsAs_scalar k (.bool b) .truthValue
  | .integer n, indent, k, _ => by
    rw [valuePieces]
    exact readsAs_scalar k (.int n) .number
  | .text s, indent, k, _ => by
    rw [valuePieces]
    exact readsAs_scalar k (.str s) .text
  | .array items, indent, k, h => by
    rw [JsonValue.nesting] at h
    obtain ⟨k, rfl⟩ := Nat.exists_eq_add_one.mpr (Nat.lt_of_lt_of_le (Nat.succ_pos _) h)
    have hitems := forall₂_items pretty items (indent + 2) k (Nat.le_of_succ_le_succ h)
    have hclosing := closes_bracket pretty indent items.isEmpty ']' rfl
    have hread := Json.readsAs_array hitems hclosing
    rw [valuePieces, List.append_assoc, render_append, render_append, render_plain,
      render_itemPieces, JsonValue.document]
    exact hread
  | .object members, indent, k, h => by
    rw [JsonValue.nesting] at h
    obtain ⟨k, rfl⟩ := Nat.exists_eq_add_one.mpr (Nat.lt_of_lt_of_le (Nat.succ_pos _) h)
    have hmembers := forall₂_members pretty members (indent + 2) k (Nat.le_of_succ_le_succ h)
    have hclosing := closes_bracket pretty indent members.isEmpty '\x7d' rfl
    have hread := Json.readsAs_object hmembers hclosing
    rw [valuePieces, List.append_assoc, render_append, render_append, render_plain,
      render_memberPieces, JsonValue.document]
    exact hread

/-- The items of an array are read as what they write. -/
theorem forall₂_items (pretty : Bool) : ∀ (vs : List JsonValue) (indent k : Nat),
    JsonValue.nestingAll vs ≤ k →
    List.Forall₂ (ReadsAs (Json.value k)) (vs.map (itemText pretty indent)) (JsonValue.documents vs)
  | [], _, _, _ => .nil
  | v :: vs, indent, k, h => by
    rw [JsonValue.nestingAll, Nat.max_le] at h
    have hfirst := readsAs_value pretty v indent k h.1
    exact .cons (readsAs_append hfirst (skipBlanks_gap pretty indent))
      (forall₂_items pretty vs indent k h.2)

/-- The members of an object are read as what they write. -/
theorem forall₂_members (pretty : Bool) : ∀ (ms : List (String × JsonValue)) (indent k : Nat),
    JsonValue.nestingOfMembers ms ≤ k →
    List.Forall₂ (MemberReadsAs (Json.value k)) (ms.map (memberText pretty indent))
      (JsonValue.memberDocuments ms)
  | [], _, _, _ => .nil
  | (name, v) :: ms, indent, k, h => by
    rw [JsonValue.nestingOfMembers, Nat.max_le] at h
    have hfirst := readsAs_value pretty v indent k h.1
    exact .cons (memberReadsAs_memberText hfirst) (forall₂_members pretty ms indent k h.2)

end

end Report

end ControlQuery

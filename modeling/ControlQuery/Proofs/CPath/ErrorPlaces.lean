import ControlQuery.Proofs.CPath.Furthest
import ControlQuery.Proofs.Rendering.Tokens

/-!
# Every error quotes what stands at its place

The offset of an error counts the bytes in front of a place of the text, and what the error quotes
is what the text goes on with there. A name or a number is quoted as it stands, a predicate with its
brackets, and a pattern as the quoted text around it writes it.
-/

namespace ControlQuery

namespace CPath

/-! ## Texts that are patterns -/

/-- Only a quoted text can be no pattern. -/
lemma Literal.isSome_ofText? [Regex.Engine] {v : Literal}
    (h : ∀ offset body, v ≠ .string offset body) :
    (Regex.ofText? v.reading.plain).isSome = true := by
  refine Regex.isSome_ofText? ?_
  cases v with
  | string offset body => exact absurd rfl (h offset body)
  | boolean offset b => exact Regex.Engine.isSome_compile?_bool b
  | number l => exact Regex.Engine.isSome_compile?_int _

/-! ## What errors quote -/

/-- The longest beginning of a text that has no white space and at most 24 characters. -/
structure IsExcerpt (word rest : List Char) : Prop where
  front : word <+: rest
  length : word.length ≤ 24
  plain : ∀ c ∈ word, Unicode.isWhiteSpace c = false
  longest : ∀ cs, cs <+: rest → cs.length ≤ 24 → (∀ c ∈ cs, Unicode.isWhiteSpace c = false) →
    cs <+: word

/-- What the error quotes is what the text goes on with, `rest` being the text from the place of the
error on. -/
def ParseError.Quotes (rest : List Char) : ParseError → Prop
  | .unexpected place _ => IsExcerpt place.text.toList rest
  | .unknownProperty name => name.text.toList <+: rest
  | .unknownAxis name => name.text.toList <+: rest
  | .invalidNumber number _ => number.text.toList <+: rest
  | .invalidRegex _ pattern => ∃ quote body, quote ∈ ['\'', '"'] ∧ IsBody quote body ∧
      [quote] ++ body ++ [quote] <+: rest ∧ String.ofList (Quoted.decode body) = pattern
  | .duplicatePosition predicate => predicate.text.toList <+: rest

/-- The error of the fault points at the place and quotes what stands there. -/
def Marks (i : Input) (f : Fault) : Prop :=
  f.error.offset = i.offset ∧ f.error.Quotes i.rest

section Marks

variable {i j : Input} {l : Lexeme} {f : Fault}

lemma Spans.isPrefix (h : Spans i l j) : l.text.toList <+: i.rest :=
  ⟨j.rest, h.piece.rest.symm⟩

lemma Spans.marks_number (h : Spans i l j) (fault : NumberFault) :
    Marks i (.invalidNumber l fault) :=
  ⟨h.offset, h.isPrefix⟩

lemma Spans.marks_duplicate (h : Spans i l j) (overlooked : Bool) :
    Marks i (.duplicatePosition l overlooked) :=
  ⟨h.offset, h.isPrefix⟩

lemma eq_of_mem_countFaults {digits : String} (h : f ∈ countFaults l digits) :
    f = .invalidNumber l .outOfRange := by
  unfold countFaults at h
  split at h
  · cases h
  · exact List.mem_singleton.mp h

lemma Spans.marks_count {digits : String} (h : Spans i l j) (hf : f ∈ countFaults l digits) :
    Marks i f := by
  rw [eq_of_mem_countFaults hf]
  exact h.marks_number _

lemma Spans.marks_repeated {seen narrowed : Bool} (h : Spans i l j)
    (hf : f ∈ repeatedFaults l seen narrowed) : Marks i f := by
  unfold repeatedFaults at hf
  split at hf
  · rw [List.mem_singleton.mp hf]
    exact h.marks_duplicate _
  · cases hf

/-- The fault marks a place that is not in front of the given one. -/
def MarksBehind (i : Input) (f : Fault) : Prop :=
  ∃ k, Reaches i k ∧ Marks k f

lemma Marks.here (h : Marks i f) : MarksBehind i f :=
  ⟨i, .refl, h⟩

lemma MarksBehind.trans (hij : Reaches i j) (h : MarksBehind j f) : MarksBehind i f := by
  obtain ⟨k, hjk, h⟩ := h
  exact ⟨k, hij.trans hjk, h⟩

lemma AxisNameText.marks (h : AxisNameText i l j)
    (hf : f ∈ if l.text ∈ axisNames then [] else [.unknownAxis l]) : Marks i f := by
  split at hf
  · cases hf
  · rw [List.mem_singleton.mp hf]
    exact ⟨h.spans.offset, h.spans.isPrefix⟩

lemma AxisText.marks {a : AxisSyntax} (h : AxisText i a j) (hf : f ∈ a.faults) :
    MarksBehind i f := by
  rcases List.mem_append.mp hf with hname | hdepth
  · cases h with
    | plain name => exact (name.marks hname).here
    | limited name opening depth closing => exact (name.marks hname).here
  · cases h with
    | plain name => cases hdepth
    | limited name opening depth closing =>
      refine .trans (name.spans.reaches.trans opening.reaches) (Marks.here ?_)
      rcases List.mem_append.mp hdepth with hf | hf
      · exact depth.spans.marks_count hf
      · split at hf
        · rw [List.mem_singleton.mp hf]
          exact depth.spans.marks_number _
        · cases hf

lemma LiteralText.marks {v : Literal} (h : LiteralText i v j) (hf : f ∈ v.faults) : Marks i f := by
  have hnumber : ∀ {l : Lexeme}, Spans i l j → f ∈ (Literal.number l).faults → Marks i f := by
    intro l hspans hf
    simp only [Literal.faults] at hf
    split at hf
    · cases hf
    · rw [List.mem_singleton.mp hf]
      exact hspans.marks_number _
  cases h with
  | string quote opening spans body closing => cases hf
  | true word => cases hf
  | false word => cases hf
  | positive digits => exact hnumber digits.spans hf
  | negative sign digits whole => exact hnumber whole hf

section Engine

variable [Regex.Engine]

/-- A pattern that cannot be read is quoted together with its quotes and escapes. -/
lemma LiteralText.marks_regex {v : Literal} (h : LiteralText i v j)
    (hv : Regex.ofText? v.reading.plain = none) :
    Marks i (.invalidRegex v.offset v.reading.plain) := by
  have hstring : ∃ offset body, v = .string offset body := by
    by_contra hne
    have hsome := Literal.isSome_ofText? (v := v) fun offset body he => hne ⟨offset, body, he⟩
    rw [hv] at hsome
    cases hsome
  obtain ⟨offset, body, rfl⟩ := hstring
  cases h with
  | string quote opening spans hbody closing =>
    have hpiece := (opening.append spans.piece).append closing
    exact ⟨rfl, _, _, quote, hbody, ⟨_, hpiece.rest.symm⟩, rfl⟩

lemma ComparisonText.marks {p : Lexeme} {o : Operator} {v : Literal} {b : Bool}
    (h : ComparisonText i (.comparison p o v b) j) (hf : f ∈ comparisonFaults p o v) :
    MarksBehind i f := by
  cases h with
  | intro sign property gap operator gap' literal gap'' flag =>
    have hfront := (sign.reaches.trans property.spans.reaches).trans
      ((gap.reaches.trans operator.reaches).trans gap'.reaches)
    rcases List.mem_append.mp hf with hf | hf
    · rcases List.mem_append.mp hf with hf | hf
      · refine .trans sign.reaches (Marks.here ?_)
        split at hf
        · cases hf
        · rw [List.mem_singleton.mp hf]
          exact ⟨property.spans.offset, property.spans.isPrefix⟩
      · exact .trans hfront (literal.marks hf).here
    · refine .trans hfront (Marks.here ?_)
      split at hf
      · next hregex =>
        rw [List.mem_singleton.mp hf]
        exact literal.marks_regex (Option.isNone_iff_eq_none.mp hregex.2)
      · cases hf

end Engine

lemma DigitsText.marks_position (h : DigitsText i l j) (hf : f ∈ positionFaults l) :
    Marks i f := by
  rcases List.mem_append.mp hf with hf | hf
  · exact h.spans.marks_count hf
  · split at hf
    · rw [List.mem_singleton.mp hf]
      exact h.spans.marks_number _
    · cases hf

lemma PredicateText.marks_position {w n : Lexeme} {seen narrowed : Bool}
    (h : PredicateText i (.position w n) j)
    (hf : f ∈ positionFaults n ++ repeatedFaults w seen narrowed) : MarksBehind i f := by
  cases h with
  | position opening gap number gap' closing whole =>
    rcases List.mem_append.mp hf with hf | hf
    · exact .trans (opening.reaches.trans gap.reaches) (number.marks_position hf).here
    · exact (whole.marks_repeated hf).here

lemma StartText.marks {s : Option Lexeme} (h : StartText i s j)
    (hf : f ∈ (s.map Lexeme.countFaults).getD []) : Marks i f := by
  cases h with
  | absent => cases hf
  | present digits gap => exact digits.spans.marks_count hf

/-- A reversed slice is quoted from its first bound to its last. -/
lemma PredicateText.marks_slice {w b : Lexeme} {s t : Option Lexeme} {seen narrowed : Bool}
    (h : PredicateText i (.slice w b s t) j)
    (hf : f ∈ sliceFaults b s t ++ repeatedFaults w seen narrowed) : MarksBehind i f := by
  cases h with
  | slice opening gap start colon gap' stop bounds gap'' closing whole =>
    have hopen := opening.reaches.trans gap.reaches
    rcases List.mem_append.mp hf with hf | hf
    · rcases List.mem_append.mp hf with hf | hf
      · exact .trans hopen (start.marks hf).here
      · rcases List.mem_append.mp hf with hf | hf
        · exact .trans (hopen.trans (start.reaches.trans (colon.reaches.trans gap'.reaches)))
            (stop.spans.marks_count hf).here
        · split at hf
          · rw [List.mem_singleton.mp hf]
            exact .trans hopen (bounds.marks_number _).here
          · cases hf
    · exact (whole.marks_repeated hf).here
  | openSlice opening gap start colon gap' bounds closing whole =>
    rcases List.mem_append.mp hf with hf | hf
    · rcases List.mem_append.mp hf with hf | hf
      · exact .trans (opening.reaches.trans gap.reaches) (start.marks hf).here
      · cases hf
    · exact (whole.marks_repeated hf).here

variable [Regex.Engine]

lemma LeafText.marks {l : Leaf} (h : LeafText i l j) (hf : f ∈ l.faults) : MarksBehind i f := by
  cases h with
  | axis axis => exact axis.marks hf
  | comparison comparison => exact comparison.marks hf
  | distance distance =>
    obtain ⟨sign, digits, whole⟩ := distance
    exact (whole.marks_count hf).here
  | position predicate => exact predicate.marks_position hf
  | slice predicate => exact predicate.marks_slice hf

lemma LeavesText.marks {l : Leaf} {ls : List Leaf} (h : LeavesText i ls j) (hl : l ∈ ls)
    (hf : f ∈ l.faults) : MarksBehind i f := by
  induction h with
  | nil reaches => cases hl
  | cons reaches leaf _ ih =>
    rcases List.mem_cons.mp hl with rfl | hl
    · exact .trans reaches (leaf.marks hf)
    · exact .trans (reaches.trans leaf.reaches) (ih hl)

end Marks

/-! ## Unknown names -/

section Names

variable {l : Leaf} {name place : Lexeme} {digits : String}

@[simp] lemma unknownProperty_notMem_countFaults :
    Fault.unknownProperty name ∉ countFaults place digits := by
  simp [countFaults]

@[simp] lemma unknownAxis_notMem_countFaults :
    Fault.unknownAxis name ∉ countFaults place digits := by
  simp [countFaults]

variable [Regex.Engine]

/-- Only the name of a compared property is an unknown property. -/
lemma Leaf.eq_comparison_of_mem_faults (h : .unknownProperty name ∈ l.faults) :
    PropertyId.ofName? name.text = none ∧ ∃ o v, l = .comparison name o v := by
  cases l with
  | axis a =>
    cases hd : a.depth <;>
      simp [Leaf.faults, AxisSyntax.faults, Lexeme.countFaults, hd] at h
  | comparison property operator literal =>
    have hunknown : PropertyId.ofName? property.text = none ∧ name = property := by
      cases literal <;> simpa [Leaf.faults, comparisonFaults, Literal.faults] using h
    obtain ⟨hnone, rfl⟩ := hunknown
    exact ⟨hnone, operator, literal, rfl⟩
  | distance d => simp [Leaf.faults] at h
  | position whole number seen narrowed =>
    simp [Leaf.faults, positionFaults, repeatedFaults, Lexeme.countFaults] at h
  | slice whole bounds start stop seen narrowed =>
    cases start <;> cases stop <;>
      simp [Leaf.faults, sliceFaults, stopFaults, repeatedFaults, Lexeme.countFaults] at h

/-- Only the name of an axis is an unknown axis. -/
lemma Leaf.eq_axis_of_mem_faults (h : .unknownAxis name ∈ l.faults) :
    name.text ∉ axisNames ∧ ∃ depth, l = .axis ⟨name, depth⟩ := by
  cases l with
  | axis a =>
    obtain ⟨n, depth⟩ := a
    have hunknown : n.text ∉ axisNames ∧ name = n := by
      cases depth <;> simpa [Leaf.faults, AxisSyntax.faults, Lexeme.countFaults] using h
    obtain ⟨hnotMem, rfl⟩ := hunknown
    exact ⟨hnotMem, depth, rfl⟩
  | comparison property operator literal =>
    cases literal <;> simp [Leaf.faults, comparisonFaults, Literal.faults] at h
  | distance d => simp [Leaf.faults] at h
  | position whole number seen narrowed =>
    simp [Leaf.faults, positionFaults, repeatedFaults, Lexeme.countFaults] at h
  | slice whole bounds start stop seen narrowed =>
    cases start <;> cases stop <;>
      simp [Leaf.faults, sliceFaults, stopFaults, repeatedFaults, Lexeme.countFaults] at h

end Names

/-! ## Syntax errors -/

lemma dropBytes_append (front rest : List Char) :
    dropBytes (bytes front) (front ++ rest) = rest := by
  induction front with
  | nil => cases rest <;> rfl
  | cons c cs ih =>
    have hbytes : bytes (c :: cs) = (c.utf8Size - 1 + bytes cs) + 1 := by
      rw [bytes, List.map_cons, List.sum_cons, ← bytes]
      have := c.utf8Size_pos
      omega
    have hpos := c.utf8Size_pos
    rw [hbytes, List.cons_append, dropBytes]
    have hrest : c.utf8Size - 1 + bytes cs + 1 - c.utf8Size = bytes cs := by
      omega
    rw [hrest, ih]

lemma isExcerpt_take (rest : List Char) :
    IsExcerpt ((rest.takeWhile fun c => !Unicode.isWhiteSpace c).take 24) rest where
  front := (List.take_prefix _ _).trans (List.takeWhile_prefix _)
  length := List.length_take_le _ _
  plain := fun c hc => by
    have := List.mem_takeWhile_imp (List.mem_of_mem_take hc)
    simpa using this
  longest := by
    rintro cs ⟨ds, rfl⟩ hlength hcs
    rw [List.takeWhile_append_of_pos fun c hc => by rw [hcs c hc]; rfl, List.prefix_take_iff]
    exact ⟨List.prefix_append _ _, hlength⟩

lemma Attempts.quotes_error {text : String} {σ : Attempts} {i : Input} {front : List Char}
    (h : Piece (.start text) front i) (hσ : σ.offset = i.offset) :
    (σ.error text).Quotes i.rest := by
  have hoffset : i.offset = bytes front := h.offset.trans (Nat.zero_add _)
  have hrest : dropBytes σ.offset text.toList = i.rest := by
    rw [hσ, hoffset, show text.toList = front ++ i.rest from h.rest, dropBytes_append]
  change IsExcerpt (String.ofList (List.take quoteLimit _)).toList i.rest
  rw [hrest, String.toList_ofList]
  exact isExcerpt_take i.rest

/-! ## All errors -/

section Errors

variable [Regex.Engine] {text : String} {e : ParseError}

lemma exists_place_of_parse_error (h : parse text = .error e) :
    ∃ front i, Piece (.start text) front i ∧ e.offset = i.offset ∧ e.Quotes i.rest := by
  by_cases hss : ∃ ss, Derives text ss
  · obtain ⟨ss, hss⟩ := hss
    obtain ⟨l, hl, f, hf, rfl⟩ := exists_mem_faults_of_parse_error hss h
    obtain ⟨j, hleaves⟩ := hss.leaves
    obtain ⟨i, ⟨front, hfront⟩, hoffset, hquotes⟩ := hleaves.marks hl hf
    exact ⟨front, i, hfront, hoffset, hquotes⟩
  · cases hs : steps text with
    | ok ss => exact absurd ⟨ss, derives_of_steps hs⟩ hss
    | error e' =>
      obtain ⟨σ, rfl, i, ⟨front, _, _, hfront, _⟩, hoffset⟩ := viable_of_steps_error hs
      have he := parse_of_steps_error hs
      rw [h] at he
      obtain rfl := Except.error.inj he
      exact ⟨front, i, hfront, hoffset, Attempts.quotes_error hfront hoffset⟩

/-- An error points into the text, between two characters, and the text goes on there with what the
error quotes. An unknown name is that of a property or an axis in the tree of the text. -/
theorem exists_quoted_of_parse_error (h : parse text = .error e) :
    ∃ before after, text = before ++ after ∧ before.utf8ByteSize = e.offset ∧
      e.Quotes after.toList ∧
      (∀ name, e = .unknownProperty name → PropertyId.ofName? name.text = none ∧
        ∃ ss operator literal, Derives text ss ∧
          .comparison name operator literal ∈ Step.allLeaves ss) ∧
      ∀ name, e = .unknownAxis name → name.text ∉ axisNames ∧
        ∃ ss depth, Derives text ss ∧ .axis ⟨name, depth⟩ ∈ Step.allLeaves ss := by
  obtain ⟨front, i, hfront, hoffset, hquotes⟩ := exists_place_of_parse_error h
  obtain ⟨htext, hsize⟩ := hfront.start
  have htree : (∀ place expected, e ≠ .unexpected place expected) →
      ∃ ss, Derives text ss ∧ ∃ l ∈ Step.allLeaves ss, ∃ f ∈ l.faults, f.error = e := by
    intro hne
    by_cases hss : ∃ ss, Derives text ss
    · obtain ⟨ss, hss⟩ := hss
      exact ⟨ss, hss, exists_mem_faults_of_parse_error hss h⟩
    · obtain ⟨place, expected, he⟩ := parse_of_not_derives hss
      rw [h] at he
      exact absurd (Except.error.inj he) (hne place expected)
  refine ⟨_, _, htext, hsize.trans hoffset.symm, ?_, fun name he => ?_, fun name he => ?_⟩
  · rwa [String.toList_ofList]
  · obtain ⟨ss, hss, l, hl, f, hf, hfe⟩ := htree fun _ _ => by rw [he]; exact ParseError.noConfusion
    obtain rfl : f = .unknownProperty name := by
      cases f <;> cases hfe.trans he
      rfl
    obtain ⟨hnone, operator, literal, rfl⟩ := Leaf.eq_comparison_of_mem_faults hf
    exact ⟨hnone, ss, operator, literal, hss, hl⟩
  · obtain ⟨ss, hss, l, hl, f, hf, hfe⟩ := htree fun _ _ => by rw [he]; exact ParseError.noConfusion
    obtain rfl : f = .unknownAxis name := by
      cases f <;> cases hfe.trans he
      rfl
    obtain ⟨hnotMem, depth, rfl⟩ := Leaf.eq_axis_of_mem_faults hf
    exact ⟨hnotMem, ss, depth, hss, hl⟩

end Errors

/-- The name behind a text whose characters take more than a byte. -/
theorem exists_quoted_of_unknown_property :
    ∃ e, parse "//*[@Name='größe'][.//Edit[@Wert=1]]" = .error e ∧
      e = .unknownProperty ⟨30, "Wert"⟩ ∧
      ∃ before after, "//*[@Name='größe'][.//Edit[@Wert=1]]" = before ++ after ∧
        before.utf8ByteSize = e.offset ∧ e.Quotes after.toList := by
  have hcheck : (match parse "//*[@Name='größe'][.//Edit[@Wert=1]]" with
      | .ok _ => none
      | .error e => some e) = some (.unknownProperty ⟨30, "Wert"⟩) := by
    decide +kernel
  cases h : parse "//*[@Name='größe'][.//Edit[@Wert=1]]" with
  | ok q =>
    rw [h] at hcheck
    cases hcheck
  | error e =>
    rw [h] at hcheck
    obtain ⟨before, after, htext, hsize, hquotes, -, -⟩ := exists_quoted_of_parse_error h
    exact ⟨e, rfl, Option.some.inj hcheck, before, after, htext, hsize, hquotes⟩

end CPath

end ControlQuery

import ControlQuery.Proofs.CPath.Leaves

/-!
# Where faults are

Every fault of a tree points into the piece of the text that the tree was read from, and behind the
fault of a repeated position all others point further on. So no two positions share an error.
-/

namespace ControlQuery.CPath

section Offsets

variable {i j k : Input} {cs : List Char}

lemma bytes_pos (h : cs ≠ []) : 0 < bytes cs := by
  cases cs with
  | nil => exact absurd rfl h
  | cons c cs =>
    rw [bytes, List.map_cons, List.sum_cons]
    have := c.utf8Size_pos
    omega

lemma Piece.offset_lt (h : Piece i cs j) (hcs : cs ≠ []) : i.offset < j.offset := by
  have := bytes_pos hcs
  rw [h.offset]
  omega

lemma Reaches.offset_le (h : Reaches i j) : i.offset ≤ j.offset := by
  obtain ⟨cs, h⟩ := h
  rw [h.offset]
  omega

lemma IsRun.ne_nil {p q : Char → Bool} (h : IsRun p q cs) : cs ≠ [] := by
  obtain ⟨-, -⟩ := h
  exact List.cons_ne_nil _ _

lemma DigitsText.offset_lt {l : Lexeme} (h : DigitsText i l j) : i.offset < j.offset :=
  h.spans.piece.offset_lt h.run.ne_nil

end Offsets

/-- Whether the fault is a repeated position. -/
def Fault.repeats : Fault → Bool
  | .duplicatePosition _ _ => true
  | _ => false

lemma Fault.repeats_of_overlooked {f : Fault} (h : f.overlooked = true) : f.repeats = true := by
  cases f with
  | duplicatePosition predicate overlooked => rfl
  | unknownProperty name => cases h
  | unknownAxis name => cases h
  | invalidNumber number fault => cases h
  | invalidRegex offset pattern => cases h

/-- The faults of what stands between two places point there, and behind that of a repeated position
all others point further on. -/
structure Placed (i : Input) (fs : List Fault) (j : Input) : Prop where
  reaches : Reaches i j
  within : ∀ f ∈ fs, i.offset ≤ f.error.offset ∧ f.error.offset < j.offset
  order : fs.Pairwise fun f g => f.repeats = true → f.error.offset < g.error.offset

namespace Placed

variable {i j k : Input} {fs gs : List Fault}

lemma nil (h : Reaches i j) : Placed i [] j :=
  ⟨h, by simp, .nil⟩

lemma append (h : Placed i fs j) (h' : Placed j gs k) : Placed i (fs ++ gs) k := by
  have hij := h.reaches.offset_le
  have hjk := h'.reaches.offset_le
  refine ⟨h.reaches.trans h'.reaches, fun f hf => ?_, ?_⟩
  · rcases List.mem_append.mp hf with hf | hf
    · have := h.within f hf
      omega
    · have := h'.within f hf
      omega
  · refine List.pairwise_append.mpr ⟨h.order, h'.order, fun f hf g hg _ => ?_⟩
    have := h.within f hf
    have := h'.within g hg
    omega

lemma behind (hi : Reaches i j) (h : Placed j fs k) : Placed i fs k := by
  have := (nil hi).append h
  rwa [List.nil_append] at this

lemma before (h : Placed i fs j) (hj : Reaches j k) : Placed i fs k := by
  have := h.append (nil hj)
  rwa [List.append_nil] at this

end Placed

/-- Faults of the very beginning of what they are about, none of them a repeated position. -/
def Begin (i : Input) (fs : List Fault) : Prop :=
  ∀ f ∈ fs, f.error.offset = i.offset ∧ f.repeats = false

namespace Begin

variable {i j : Input} {fs gs : List Fault} {f : Fault}

lemma nil : Begin i [] := by
  simp [Begin]

lemma single (h : f.error.offset = i.offset) (hr : f.repeats = false) : Begin i [f] := by
  intro g hg
  rw [List.mem_singleton.mp hg]
  exact ⟨h, hr⟩

lemma append (h : Begin i fs) (h' : Begin i gs) : Begin i (fs ++ gs) :=
  List.forall_mem_append.mpr ⟨h, h'⟩

lemma ite {p : Prop} [Decidable p] (h : Begin i fs) (h' : Begin i gs) :
    Begin i (if p then fs else gs) := by
  split
  · exact h
  · exact h'

lemma placed (hfs : Begin i fs) (h : Reaches i j) (hlt : i.offset < j.offset) :
    Placed i fs j := by
  refine ⟨h, fun f hf => ?_, List.pairwise_of_forall_mem_list fun f hf g hg hr => ?_⟩
  · rw [(hfs f hf).1]
    omega
  · rw [(hfs f hf).2] at hr
    cases hr

end Begin

section Leaves

variable {i j k : Input}

lemma begin_countFaults {place : Lexeme} {digits : String} (h : place.offset = i.offset) :
    Begin i (countFaults place digits) :=
  .ite .nil (.single h rfl)

lemma DigitsText.placed {l : Lexeme} (h : DigitsText i l j) : Placed i l.countFaults j :=
  (begin_countFaults h.spans.offset).placed h.spans.reaches h.offset_lt

lemma AxisText.placed {a : AxisSyntax} (h : AxisText i a j) : Placed i a.faults j := by
  have hname : ∀ {l : Lexeme} {k : Input}, AxisNameText i l k →
      Placed i (if l.text ∈ axisNames then [] else [.unknownAxis l]) k :=
    fun {l _} hl => (Begin.ite .nil (.single (f := .unknownAxis l) hl.spans.offset rfl)).placed
      hl.spans.reaches (hl.spans.piece.offset_lt hl.run.ne_nil)
  cases h with
  | plain name => exact (hname name).append (.nil .refl)
  | limited name opening depth closing =>
    refine (hname name).append (.behind opening.reaches
      (.before (Begin.placed ?_ depth.spans.reaches depth.offset_lt) closing.reaches))
    exact (begin_countFaults depth.spans.offset).append
      (.ite (.single (f := .invalidNumber _ .selfDepth) depth.spans.offset rfl) .nil)

lemma LiteralText.offset_lt {v : Literal} (h : LiteralText i v j) :
    v.offset = i.offset ∧ i.offset < j.offset := by
  cases h with
  | string quote opening spans body closing =>
    refine ⟨rfl, (opening.offset_lt (by simp)).trans_le ?_⟩
    exact (spans.reaches.trans closing.reaches).offset_le
  | true word => exact ⟨rfl, Piece.offset_lt word.1 (by decide)⟩
  | false word => exact ⟨rfl, Piece.offset_lt word.1 (by decide)⟩
  | positive digits => exact ⟨digits.spans.offset, digits.offset_lt⟩
  | negative sign digits whole =>
    refine ⟨whole.offset, (Piece.offset_lt sign (by decide)).trans_le ?_⟩
    exact digits.spans.reaches.offset_le

lemma begin_literalFaults {v : Literal} (h : v.offset = i.offset) : Begin i v.faults := by
  cases v with
  | string offset body => exact .nil
  | boolean offset value => exact .nil
  | number digits => exact .ite .nil (.single h rfl)

lemma ComparisonText.placed [Regex.Engine] {property : Lexeme} {op : Operator} {v : Literal}
    {b : Bool} (h : ComparisonText i (.comparison property op v b) j) :
    Placed i (comparisonFaults property op v) j := by
  cases h with
  | intro sign name gap operator gap' literal gap'' flag =>
    obtain ⟨hoffset, hlt⟩ := literal.offset_lt
    have hname := (Begin.ite .nil (.single (f := .unknownProperty property) name.spans.offset rfl)
      (p := (PropertyId.ofName? property.text).isSome)).placed name.spans.reaches
      (name.spans.piece.offset_lt name.run.ne_nil)
    have hliteral := ((begin_literalFaults hoffset).append (Begin.ite (.single
      (f := .invalidRegex v.offset v.reading.plain) hoffset rfl) .nil
      (p := op.relation = .matches ∧ (Regex.ofText? v.reading.plain).isNone))).placed
      literal.reaches hlt
    have hmiddle := (gap.reaches.trans operator.reaches).trans gap'.reaches
    rw [comparisonFaults, List.append_assoc]
    exact (hname.behind sign.reaches).append
      ((hliteral.behind hmiddle).before (gap''.reaches.trans flag.reaches))

lemma DistanceText.placed {d : DistanceSyntax} (h : DistanceText i d j) :
    Placed i (countFaults d.whole d.digits) j := by
  obtain ⟨sign, digits, whole⟩ := h
  exact (begin_countFaults whole.offset).placed whole.reaches
    (sign.reaches.offset_le.trans_lt digits.offset_lt)

lemma StartText.placed {o : Option Lexeme} (h : StartText i o j) :
    Placed i ((o.map Lexeme.countFaults).getD []) j := by
  cases h with
  | absent => exact .nil .refl
  | present digits gap => exact digits.placed.before gap.reaches

lemma repeats_countFaults {place : Lexeme} {digits : String} :
    ∀ f ∈ countFaults place digits, f.repeats = false := by
  intro f hf
  exact (begin_countFaults (i := ⟨[], place.offset⟩) rfl f hf).2

lemma begin_positionFaults {number : Lexeme} (h : DigitsText i number j) :
    Begin i (positionFaults number) :=
  (begin_countFaults h.spans.offset).append
    (.ite (.single (f := .invalidNumber number .positionZero) h.spans.offset rfl) .nil)

/-- The numbers of a slice, none of which is a repeated position. -/
lemma placed_sliceFaults {bounds : Lexeme} {s t : Option Lexeme} {l : Input}
    (start : StartText i s j) (colon : Word ":" j k)
    (stop : Placed k ((t.map Lexeme.countFaults).getD []) l) (hb : bounds.offset = i.offset) :
    Placed i (sliceFaults bounds s t) l ∧ ∀ f ∈ sliceFaults bounds s t, f.repeats = false := by
  have hlt := Piece.offset_lt colon (by decide)
  have hle := start.reaches.offset_le
  have hle' := stop.reaches.offset_le
  have hcount : ∀ {o : Option Lexeme}, ∀ f ∈ (o.map Lexeme.countFaults).getD [],
      f.repeats = false := by
    intro o f hf
    cases o with
    | none => cases hf
    | some l => exact repeats_countFaults f hf
  have hall : ∀ f ∈ sliceFaults bounds s t, (i.offset ≤ f.error.offset ∧
      f.error.offset < l.offset) ∧ f.repeats = false := by
    intro f hf
    rcases List.mem_append.mp hf with hf | hf
    · have hw := start.placed.within f hf
      exact ⟨by omega, hcount f hf⟩
    · cases t with
      | none => cases hf
      | some t =>
        rcases List.mem_append.mp hf with hf | hf
        · have hw := stop.within f hf
          exact ⟨by omega, repeats_countFaults f hf⟩
        · have hf := Begin.ite (i := i) (.single (f := .invalidNumber bounds .sliceReversed) hb rfl)
            .nil f hf
          exact ⟨by omega, hf.2⟩
  refine ⟨⟨start.reaches.trans (colon.reaches.trans stop.reaches), fun f hf => (hall f hf).1, ?_⟩,
    fun f hf => (hall f hf).2⟩
  refine List.pairwise_of_forall_mem_list fun f hf g _ hr => ?_
  rw [(hall f hf).2] at hr
  cases hr

/-- The position of a predicate comes after what is wrong inside of the brackets, and points in
front of it. -/
lemma Placed.repeated {fs : List Fault} {whole : Lexeme} {seen narrowed : Bool}
    (opening : Word "[" i j) (h : Placed j fs k) (hr : ∀ f ∈ fs, f.repeats = false)
    (hwhole : whole.offset = i.offset) : Placed i (fs ++ repeatedFaults whole seen narrowed) k := by
  have hlt := Piece.offset_lt opening (by decide)
  have hle := h.reaches.offset_le
  obtain ⟨hreaches, hwithin, horder⟩ := h.behind opening.reaches
  refine ⟨hreaches, fun f hf => ?_, List.pairwise_append.mpr ⟨horder, ?_, ?_⟩⟩
  · rcases List.mem_append.mp hf with hf | hf
    · exact hwithin f hf
    · unfold repeatedFaults at hf
      split at hf
      · rw [List.mem_singleton.mp hf]
        change i.offset ≤ whole.offset ∧ whole.offset < k.offset
        omega
      · cases hf
  · unfold repeatedFaults
    split
    · exact List.pairwise_singleton _ _
    · exact .nil
  · intro f hf g _ hfr
    rw [hr f hf] at hfr
    cases hfr

lemma PredicateText.placed_position {whole number : Lexeme} {seen narrowed : Bool}
    (h : PredicateText i (.position whole number) j) :
    Placed i (positionFaults number ++ repeatedFaults whole seen narrowed) j := by
  cases h with
  | position opening gap digits gap' closing spans =>
    have hnumber := begin_positionFaults digits
    have hplaced := ((hnumber.placed digits.spans.reaches digits.offset_lt).behind
      gap.reaches).before (gap'.reaches.trans closing.reaches)
    exact hplaced.repeated opening (fun f hf => (hnumber f hf).2) spans.offset

lemma PredicateText.placed_slice {whole bounds : Lexeme} {s t : Option Lexeme}
    {seen narrowed : Bool} (h : PredicateText i (.slice whole bounds s t) j) :
    Placed i (sliceFaults bounds s t ++ repeatedFaults whole seen narrowed) j := by
  cases h with
  | slice opening gap start colon gap' stop spans gap'' closing spans' =>
    obtain ⟨hslice, hr⟩ := placed_sliceFaults (t := some _) start colon
      (stop.placed.behind gap'.reaches) spans.offset
    have hplaced := (hslice.behind gap.reaches).before (gap''.reaches.trans closing.reaches)
    exact hplaced.repeated opening hr spans'.offset
  | openSlice opening gap start colon gap' spans closing spans' =>
    obtain ⟨hslice, hr⟩ := placed_sliceFaults (t := none) start colon (.nil gap'.reaches)
      spans.offset
    have hplaced := (hslice.behind gap.reaches).before closing.reaches
    exact hplaced.repeated opening hr spans'.offset

variable [Regex.Engine]

lemma LeafText.placed {l : Leaf} (h : LeafText i l j) : Placed i l.faults j := by
  cases h with
  | axis axis => exact axis.placed
  | comparison comparison => exact comparison.placed
  | distance distance => exact distance.placed
  | position predicate => exact predicate.placed_position
  | slice predicate => exact predicate.placed_slice

/-- The faults of one leaf come before those of the next. -/
lemma LeavesText.placed {ls : List Leaf} (h : LeavesText i ls j) :
    Placed i (ls.flatMap Leaf.faults) j := by
  induction h with
  | nil reaches => exact .nil reaches
  | cons reaches leaf _ ih =>
    rw [List.flatMap_cons]
    exact (leaf.placed.behind reaches).append ih

end Leaves

end ControlQuery.CPath

import ControlQuery.Proofs.Query.Normal
import ControlQuery.Proofs.Rendering.Conditions

/-!
# Written steps

A step is written as the text that leads to its node test, the node test, and its predicates. Pages
in brackets are read as pages bounded by the greatest count.
-/

namespace ControlQuery

open CPath

lemma lt_of_le_greatestCount {n : Nat} (h : n ≤ greatestCount) : n < 2 ^ 64 := by
  unfold greatestCount at h
  omega

lemma stopFaults_eq_nil {l bounds : Lexeme} {first : Count} {n : Nat} (hfaults : l.countFaults = [])
    (hcount : countOf l.text = UInt64.ofNat n) (hle : first.toNat ≤ n) (hn : n < 2 ^ 64) :
    stopFaults bounds first (some l) = [] := by
  have hnot : ¬ UInt64.ofNat n < first := by
    rw [UInt64.lt_iff_toNat_lt, UInt64.toNat_ofNat_of_lt' hn]
    omega
  simp [stopFaults, hfaults, hcount, hnot]

lemma endsName_pageText (skip take : Option Count) : endsName (pageText skip take) = true := by
  unfold pageText
  split
  · rfl
  · dsimp only
    simp only [String.append_assoc]
    split
    · split_ifs
      · exact endsName_append_left rfl rfl
      · exact endsName_append_left rfl rfl
      · exact endsName_append_left rfl rfl
    · exact endsName_append_left rfl rfl

/-- The conjuncts that an element does not write as a node test. -/
def restText (xs : List Operand) : String :=
  if xs.isEmpty then "" else "[" ++ Connective.and.chain xs ++ "]"

lemma endsName_restText (xs : List Operand) : endsName (restText xs) = true := by
  unfold restText
  split_ifs
  · rfl
  · rw [String.append_assoc]
    exact endsName_append_left rfl rfl

lemma endsName_predicates (xs : List Operand) (skip take : Option Count) :
    endsName (restText xs ++ pageText skip take) = true :=
  endsName_append (endsName_restText xs) (endsName_pageText skip take)

lemma isRun_of_mem_axisNames {name : String} (h : name ∈ axisNames) :
    IsRun Char.isAlpha isAxisChar name.toList := by
  simp only [axisNames, List.mem_cons, List.not_mem_nil, or_false] at h
  rcases h with rfl | rfl | rfl | rfl | rfl | rfl | rfl <;>
    exact ⟨rfl, List.all_eq_true.mp rfl⟩

lemma exists_axisText {i j : Input} {name : String} {depth : Option Count}
    (hname : name ∈ axisNames) (hself : name = "self" → depth = none)
    (h : Word (axisText name depth) i j) :
    ∃ a, AxisText i a j ∧ a.faults = [] ∧ a.name.text = name ∧
      (a.depth.map fun d => countOf d.text) = depth := by
  have hrun := isRun_of_mem_axisNames hname
  cases depth with
  | none =>
    have hplain : AxisText i ⟨⟨i.offset, name⟩, none⟩ j := .plain ⟨.of_word h, hrun⟩
    exact ⟨_, hplain, by simp [AxisSyntax.faults, hname], rfl, rfl⟩
  | some n =>
    unfold axisText at h
    obtain ⟨m, h, hclose⟩ := h.split_append
    obtain ⟨l, h, hdepth⟩ := h.split_append
    obtain ⟨k, htext, hopen⟩ := h.split_append
    obtain ⟨d, hd, hfaults, hcount⟩ := exists_digitsText hdepth n.toNat_lt
    have hne : name ≠ "self" := fun he => by cases hself he
    refine ⟨_, .limited ⟨.of_word htext, hrun⟩ hopen hd hclose, ?_, rfl, ?_⟩
    · simp [AxisSyntax.faults, hname, hfaults, hne]
    · simp [hcount]

variable [Regex.Engine]

/-- The steps have no faults and are read as the elements. -/
structure CPath.Step.Mean (ss : List Step) (es : List Element) : Prop where
  faults : Step.allFaults ss = []
  readings : Step.readings ss = es

/-- The predicates have no faults and are read as the conditions and the page. -/
structure CPath.Predicate.Mean (ps : List Predicate) (cs : List Condition) (page : Page) :
    Prop where
  faults : Predicate.allFaults false false ps = []
  readings : Predicate.readings ps = cs
  page : Predicate.page ⟨none, none⟩ ps = page

/-- The text writes steps that mean the elements, and no name in front of it goes on in it. -/
structure WritesSteps (s : String) (es : List Element) : Prop where
  ends : endsName s = true
  writes : Writes StepsText (Step.Mean · es) s

lemma CPath.Predicate.Mean.nil : Predicate.Mean [] [] ⟨none, none⟩ where
  faults := by rw [Predicate.allFaults]
  readings := by rw [Predicate.readings]
  page := by rw [Predicate.page]

/-! ## Pages -/

section Pages

variable {i j : Input}

lemma exists_position {n : Nat} (h : Word ("[" ++ toString n ++ "]") i j) (hpos : 0 < n)
    (hn : n ≤ greatestCount) :
    ∃ ps, PredicatesText i ps j ∧ Predicate.Mean ps [] (.from (UInt64.ofNat n - 1) (some 1)) := by
  have hwhole := Spans.of_word h
  obtain ⟨l, h, hclose⟩ := h.split_append
  obtain ⟨k, hopen, hnumber⟩ := h.split_append
  have hlt := lt_of_le_greatestCount hn
  obtain ⟨d, hd, hfaults, hcount⟩ := exists_digitsText hnumber hlt
  have hzero : UInt64.ofNat n ≠ 0 := by
    intro h0
    have hn0 := congrArg UInt64.toNat h0
    rw [UInt64.toNat_ofNat_of_lt' hlt] at hn0
    exact absurd hn0 (Nat.ne_of_gt hpos)
  refine ⟨_, .cons .refl (.position hopen .refl hd .refl hclose hwhole) .nil, ?_, ?_, ?_⟩
  · simp [Predicate.allFaults, positionFaults, repeatedFaults, hfaults, hcount, hzero]
  · simp [Predicate.readings]
  · simp [Predicate.page, positionReading, hcount]

lemma slice_means {whole bounds : Lexeme} {start stop : Option Lexeme} {first : Count}
    {take : Option Count} (hstart : (start.map Lexeme.countFaults).getD [] = [])
    (hfirst : sliceStart start = first) (hstop : stopFaults bounds first stop = [])
    (htake : stop.map (fun l => countOf l.text - first) = take) :
    Predicate.Mean [.slice whole bounds start stop] [] (.from first take) := by
  constructor
  · simp [Predicate.allFaults, sliceFaults, repeatedFaults, hstart, hfirst, hstop]
  · simp [Predicate.readings]
  · simp [Predicate.page, sliceReading, hfirst, htake]

lemma exists_slice {first : Count} {n : Nat}
    (h : Word ("[" ++ toString first.toNat ++ ":" ++ toString n ++ "]") i j)
    (hle : first.toNat ≤ n) (hn : n ≤ greatestCount) :
    ∃ ps, PredicatesText i ps j ∧
      Predicate.Mean ps [] (.from first (some (UInt64.ofNat n - first))) := by
  have hwhole := Spans.of_word h
  obtain ⟨o, h, hclose⟩ := h.split_append
  obtain ⟨m, h, hstop⟩ := h.split_append
  obtain ⟨l, h, hcolon⟩ := h.split_append
  obtain ⟨k, hopen, hstart⟩ := h.split_append
  have hbounds := Spans.of_piece ((hstart.append hcolon).append hstop)
  have hlt := lt_of_le_greatestCount hn
  obtain ⟨d, hd, hfaults, hcount⟩ := exists_digitsText hstart first.toNat_lt
  obtain ⟨d', hd', hfaults', hcount'⟩ := exists_digitsText hstop hlt
  refine ⟨_, .cons .refl (.slice hopen .refl (.present hd .refl) hcolon .refl hd' hbounds .refl
    hclose hwhole) .nil, slice_means hfaults ?_ (stopFaults_eq_nil hfaults' hcount' hle hlt) ?_⟩
  · simp [sliceStart, hcount]
  · simp [hcount']

lemma exists_slice_from_start {n : Nat} (h : Word ("[:" ++ toString n ++ "]") i j)
    (hn : n ≤ greatestCount) :
    ∃ ps, PredicatesText i ps j ∧ Predicate.Mean ps [] (.from 0 (some (UInt64.ofNat n - 0))) := by
  have hwhole := Spans.of_word h
  obtain ⟨o, h, hclose⟩ := h.split_append
  obtain ⟨m, h, hstop⟩ := h.split_append
  obtain ⟨k, hopen, hcolon⟩ := Word.split "[" ":" h
  have hbounds := Spans.of_piece (hcolon.append hstop)
  have hlt := lt_of_le_greatestCount hn
  obtain ⟨d, hd, hfaults, hcount⟩ := exists_digitsText hstop hlt
  refine ⟨_, .cons .refl (.slice hopen .refl .absent hcolon .refl hd hbounds .refl hclose hwhole)
    .nil, slice_means rfl rfl (stopFaults_eq_nil hfaults hcount (Nat.zero_le n) hlt) ?_⟩
  simp [hcount]

lemma exists_slice_to_end {first : Count} (h : Word ("[" ++ toString first.toNat ++ ":]") i j) :
    ∃ ps, PredicatesText i ps j ∧ Predicate.Mean ps [] (.from first none) := by
  have hwhole := Spans.of_word h
  obtain ⟨l, h, hend⟩ := h.split_append
  obtain ⟨k, hopen, hstart⟩ := h.split_append
  obtain ⟨m, hcolon, hclose⟩ := Word.split ":" "]" hend
  have hbounds := Spans.of_piece (hstart.append hcolon)
  obtain ⟨d, hd, hfaults, hcount⟩ := exists_digitsText hstart first.toNat_lt
  refine ⟨_, .cons .refl (.openSlice hopen .refl (.present hd .refl) hcolon .refl hbounds hclose
    hwhole) .nil, slice_means hfaults ?_ rfl rfl⟩
  simp [sliceStart, hcount]

lemma exists_page {start count : Count}
    (h : Word (if count = 1 then "[" ++ toString (min (start.toNat + 1) greatestCount) ++ "]"
      else if start.toNat = 0 then "[:" ++ toString count.toNat ++ "]"
      else "[" ++ toString start.toNat ++ ":" ++
        toString (min (start.toNat + count.toNat) greatestCount) ++ "]") i j) :
    ∃ ps, PredicatesText i ps j ∧ Predicate.Mean ps [] (normalPage (some start) (some count)) := by
  unfold normalPage cappedCount
  dsimp only [Option.getD_some]
  by_cases hone : count = 1
  · rw [if_pos hone] at h ⊢
    exact exists_position h (Nat.lt_min.mpr ⟨Nat.succ_pos _, by decide⟩) (Nat.min_le_right _ _)
  · rw [if_neg hone] at h ⊢
    by_cases hzero : start.toNat = 0
    · have hstart : start = 0 := UInt64.toNat_inj.mp hzero
      rw [if_pos hzero] at h
      rw [hzero, Nat.zero_add, Nat.min_eq_left (Count.toNat_le count), hstart]
      exact exists_slice_from_start h (Count.toNat_le count)
    · rw [if_neg hzero] at h
      apply exists_slice h _ (Nat.min_le_right _ _)
      exact Nat.le_min.mpr ⟨Nat.le_add_right _ _, Count.toNat_le start⟩

lemma writes_pageText (skip take : Option Count) :
    Writes PredicatesText (Predicate.Mean · [] (normalPage skip take)) (pageText skip take) := by
  intro i j h hj
  unfold pageText at h
  split at h
  · rw [Piece.eq_of_nil h]
    exact ⟨[], .nil, .nil⟩
  · dsimp only at h
    rw [toNat_getD] at h
    cases take with
    | none => exact exists_slice_to_end h
    | some count => exact exists_page h

end Pages

/-! ## Predicates -/

lemma CPath.Predicate.Mean.condition {e : Expr} {ps : List Predicate} {c : Condition}
    {cs : List Condition} {page : Page} (he : e.Means c) (hps : Predicate.Mean ps cs page) :
    Predicate.Mean (.condition e :: ps) (c :: cs) page := by
  constructor
  · rw [Predicate.allFaults, he.faults, hps.faults, List.append_nil]
  · rw [Predicate.readings, he.reading, hps.readings]
  · rw [Predicate.page, hps.page]

lemma writes_predicates {xs : List Operand} {cs : List Condition} (skip take : Option Count)
    (h : List.Forall₂ Operand.Means xs cs) :
    Writes PredicatesText
      (Predicate.Mean · (Connective.and.fold cs).toList (normalPage skip take))
      (restText xs ++ pageText skip take) := by
  intro i m ht hm
  obtain ⟨l, hrest, hpage⟩ := ht.split_append
  obtain ⟨ps, hps, hmean⟩ := writes_pageText skip take hpage hm
  have hl : l.Stops isIdentChar := hpage.stops (endsName_pageText skip take) hm
  unfold restText at hrest
  cases h with
  | nil =>
    rw [← Piece.eq_of_nil hrest]
    exact ⟨ps, hps, hmean⟩
  | @cons x c xs cs hx hxs =>
    obtain ⟨k, hrest, hclose⟩ := hrest.split_append
    obtain ⟨j, hopen, hchain⟩ := hrest.split_append
    have hk : k.Stops isIdentChar := Word.stops_name hclose rfl rfl
    obtain ⟨e, he, hc⟩ := writes_chain (.cons hx hxs) rfl hchain hk
    exact ⟨_, .cons .refl (.condition hopen .refl he .refl hclose) hps, hmean.condition hc⟩

/-! ## Node tests -/

lemma Condition.exists_spine_of_nodeTest? {name : String} : ∀ {c : Condition},
    c.nodeTest? = some name → isIdentifier name = true ∧ ∃ cs, c.spine .and =
      .property { property := .controlType, comparison := .equals (.str name) } :: cs
  | .property condition, h => by
    obtain ⟨property, comparison, options⟩ := condition
    rw [Condition.nodeTest?, PropertyCondition.nodeTest?] at h
    split at h
    · next text heq =>
      by_cases hplain : property = .controlType ∧ options = {} ∧ isIdentifier text = true
      · rw [if_pos hplain, Option.some.injEq] at h
        obtain ⟨rfl, rfl, hname⟩ := hplain
        rw [← h]
        dsimp only at heq
        rw [heq, Condition.spine]
        exact ⟨hname, [], rfl⟩
      · rw [if_neg hplain] at h
        cases h
    · cases h
  | .logical .and left right, h => by
    rw [Condition.nodeTest?] at h
    obtain ⟨hname, cs, hcs⟩ := Condition.exists_spine_of_nodeTest? h
    refine ⟨hname, cs ++ right.spine .and, ?_⟩
    rw [Condition.spine, if_pos rfl, hcs, List.cons_append]
  | .logical .or left right, h => by cases h
  | .function condition, h => by cases h
  | .hasElement query, h => by cases h
  | .relative distance condition, h => by cases h

lemma exists_nodeTestText {i j : Input} (condition : Option Condition)
    (h : Word ((condition.bind Condition.nodeTest?).getD "*") i j) (hj : j.Stops isIdentChar) :
    ∃ t, NodeTestText i t j ∧
      t.conditions = (Condition.spineOption condition).take (Condition.testCount condition) := by
  unfold Condition.testCount
  cases ht : condition.bind Condition.nodeTest? with
  | none =>
    rw [ht] at h
    exact ⟨.any, .any h, by simp [NodeTest.conditions]⟩
  | some name =>
    rw [ht] at h
    obtain ⟨c, rfl, hc⟩ := Option.bind_eq_some_iff.mp ht
    obtain ⟨hname, cs, hcs⟩ := Condition.exists_spine_of_nodeTest? hc
    refine ⟨_, .controlType ⟨.of_word h, isRun_of_isIdentifier hname, hj⟩, ?_⟩
    rw [Condition.spineOption, hcs]
    rfl

/-! ## Walks -/

/-- The text leads to the node test of a step that walks the part. -/
def Leads (s : String) (p : Part) : Prop :=
  ∀ ⦃i j : Input⦄, Word s i j → ∃ k sep axis, Word sep.text i k ∧
    (axis.map AxisSyntax.faults).getD [] = [] ∧ stepScope sep axis = [p] ∧
      ∀ ⦃l m t ps⦄, NodeTestText j t l → PredicatesText l ps m →
        StepText sep k (.axis sep axis t ps) m

lemma Leads.endsName_append {s : String} {p : Part} (h : Leads s p) (s' : String) :
    endsName (s ++ s') = true := by
  have hpiece : Word s ⟨s.toList, 0⟩ _ := .of_rest (List.append_nil s.toList).symm
  obtain ⟨k, sep, axis, hsep, -⟩ := h hpiece
  obtain ⟨c, hc, heq⟩ := Separator.starts hsep
  rw [beq_iff_eq] at heq
  rw [heq] at hc
  exact endsName_append_left hc rfl

lemma leads_child : Leads "/" (.descendants (some 1) false) :=
  fun _ j h => ⟨j, .child, none, h, rfl, rfl, fun _ _ _ _ ht hps => .plain ht hps⟩

lemma leads_descendant : Leads "//" (.descendants none false) :=
  fun _ j h => ⟨j, .descendant, none, h, rfl, rfl, fun _ _ _ _ ht hps => .plain ht hps⟩

lemma leads_axis {name : String} {depth : Option Count} {p : Part} (hname : name ∈ axisNames)
    (hself : name = "self" → depth = none)
    (hp : ∀ a : AxisSyntax, a.name.text = name →
      (a.depth.map fun d => countOf d.text) = depth → a.reading = p) :
    Leads ("/" ++ axisText name depth ++ "::") p := by
  intro i l h
  obtain ⟨k, h, hcolons⟩ := Piece.split_append h
  obtain ⟨j, hslash, haxis⟩ := h.split_append
  obtain ⟨a, ha, hfaults, htext, hdepth⟩ := exists_axisText hname hself haxis
  refine ⟨j, .child, some a, hslash, hfaults, ?_, ?_⟩
  · rw [stepScope, hp a htext hdepth]
    rfl
  · intro m n t ps ht hps
    exact .axis ha .refl hcolons .refl ht hps

lemma exists_leads_ancestors (maxDepth : Option Count) (includeSelf : Bool) :
    ∃ s, Leads s (.ancestors maxDepth includeSelf) ∧
      ∀ test, ancestorsStep maxDepth includeSelf test = s ++ test := by
  unfold ancestorsStep
  cases includeSelf with
  | true =>
    refine ⟨"/" ++ axisText "ancestor-or-self" maxDepth ++ "::", ?_, fun test => rfl⟩
    apply leads_axis (by decide) (fun h => absurd h (by decide))
    intro a hname hdepth
    simp [AxisSyntax.reading, hname, hdepth]
  | false =>
    by_cases hone : maxDepth = some 1
    · rw [hone]
      refine ⟨"/" ++ axisText "parent" none ++ "::", ?_, fun test => rfl⟩
      apply leads_axis (by decide) (fun h => absurd h (by decide))
      intro a hname hdepth
      simp [AxisSyntax.reading, hname, hdepth]
    · refine ⟨"/" ++ axisText "ancestor" maxDepth ++ "::", ?_, fun test => by simp [hone]⟩
      apply leads_axis (by decide) (fun h => absurd h (by decide))
      intro a hname hdepth
      simp [AxisSyntax.reading, hname, hdepth]

lemma exists_leads_descendants (maxDepth : Option Count) (includeSelf : Bool) :
    ∃ s, Leads s (.descendants maxDepth includeSelf) ∧
      ∀ test, descendantsStep maxDepth includeSelf test = s ++ test := by
  unfold descendantsStep
  cases includeSelf with
  | true =>
    refine ⟨"/" ++ axisText "descendant-or-self" maxDepth ++ "::", ?_, fun test => rfl⟩
    apply leads_axis (by decide) (fun h => absurd h (by decide))
    intro a hname hdepth
    simp [AxisSyntax.reading, hname, hdepth]
  | false =>
    by_cases hnone : maxDepth = none
    · rw [hnone]
      exact ⟨"//", leads_descendant, fun test => rfl⟩
    · by_cases hone : maxDepth = some 1
      · rw [hone]
        exact ⟨"/", leads_child, fun test => rfl⟩
      · refine ⟨"/" ++ axisText "descendant" maxDepth ++ "::", ?_, fun test => by
          simp [hnone, hone]⟩
        apply leads_axis (by decide) (fun h => absurd h (by decide))
        intro a hname hdepth
        simp [AxisSyntax.reading, hname, hdepth]

lemma leads_self : Leads "/self::" .identity := by
  have h : Leads ("/" ++ axisText "self" none ++ "::") .identity := by
    apply leads_axis (by decide) (fun _ => rfl)
    intro a hname hdepth
    simp [AxisSyntax.reading, hname]
  exact h

/-! ## Steps -/

lemma CPath.Step.allFaults_append (ss ss' : List Step) :
    Step.allFaults (ss ++ ss') = Step.allFaults ss ++ Step.allFaults ss' := by
  induction ss with
  | nil => simp [Step.allFaults]
  | cons s ss ih => simp [Step.allFaults, ih]

lemma CPath.Step.readings_append (ss ss' : List Step) :
    Step.readings (ss ++ ss') = Step.readings ss ++ Step.readings ss' := by
  induction ss with
  | nil => simp [Step.readings]
  | cons s ss ih => simp [Step.readings, ih]

namespace WritesSteps

variable {s s' : String} {es es' : List Element} {p : Part}

lemma nil : WritesSteps "" [] where
  ends := rfl
  writes := by
    intro i j h hj
    rw [Piece.eq_of_nil h]
    exact ⟨[], .nil, by simp [Step.allFaults], by simp [Step.readings]⟩

lemma append (h : WritesSteps s es) (h' : WritesSteps s' es') :
    WritesSteps (s ++ s') (es ++ es') where
  ends := endsName_append h.ends h'.ends
  writes := by
    intro i k ht hk
    obtain ⟨j, ht, ht'⟩ := ht.split_append
    obtain ⟨ss', hss', hmean'⟩ := h'.writes ht' hk
    obtain ⟨ss, hss, hmean⟩ := h.writes ht (ht'.stops h'.ends hk)
    refine ⟨ss ++ ss', hss.append hss', ?_, ?_⟩
    · rw [Step.allFaults_append, hmean.faults, hmean'.faults, List.append_nil]
    · rw [Step.readings_append, hmean.readings, hmean'.readings]

/-- A walk, a node test and predicates make one step. -/
lemma of_leads (condition : Option Condition) {predicates : String} {cs : List Condition}
    {page : Page} (hs : Leads s p) (hends : endsName predicates = true)
    (hpredicates : Writes PredicatesText (Predicate.Mean · cs page) predicates) :
    WritesSteps (s ++ ((condition.bind Condition.nodeTest?).getD "*" ++ predicates))
      [{ condition := Connective.and.fold
          ((Condition.spineOption condition).take (Condition.testCount condition) ++ cs)
         scope := [p], skip := page.skip, take := page.take }] where
  ends := hs.endsName_append _
  writes := by
    intro i m h hm
    obtain ⟨j, hlead, h⟩ := h.split_append
    obtain ⟨l, htest, hrest⟩ := h.split_append
    obtain ⟨k, sep, axis, hsep, hfaults, hscope, hstep⟩ := hs hlead
    obtain ⟨t, ht, hconditions⟩ := exists_nodeTestText condition htest (hrest.stops hends hm)
    obtain ⟨ps, hps, hmean⟩ := hpredicates hrest hm
    refine ⟨_, .cons .refl hsep .refl (hstep ht hps) .nil, ?_, ?_⟩
    · simp [Step.allFaults, Step.faults, hfaults, hmean.faults]
    · simp [Step.readings, Step.reading, hconditions, hmean.readings, hmean.page, hscope]

lemma of_leads_any (hs : Leads s p) : WritesSteps (s ++ "*") [.ofScope [p]] := by
  have hnil : Writes PredicatesText (Predicate.Mean · [] ⟨none, none⟩) "" := by
    intro i j h hj
    rw [Piece.eq_of_nil h]
    exact ⟨[], .nil, .nil⟩
  exact of_leads none hs rfl hnil

end WritesSteps

end ControlQuery

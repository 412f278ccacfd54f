import ControlQuery.Proofs.CPath.Rows
import Mathlib.Data.List.Forall2

/-!
# A text behind a text

A separator and a step may be written behind any path. Nothing of the path is read differently
because more text follows, and nothing of the step because a path stands in front of it. What the
two texts write together is the step, searched for from the matches of the path.
-/

namespace ControlQuery

namespace CPath

/-- The whole text is a separator with a step behind it, with blanks around them. -/
inductive SeparatedStep (text : String) (s : Step) : Prop where
  | intro {sep : Separator} {i j k l m : Input} (gap : Gap (.start text) i)
      (separator : Word sep.text i j) (gap' : Gap j k) (step : StepText sep k s l)
      (gap'' : Gap l m) (atEnd : m.rest = [])

section Concatenation

variable {text text₁ text₂ : String} {s : Step} {ss : List Step}

lemma SeparatedStep.derives (h : SeparatedStep text s) : Derives text [s] := by
  obtain ⟨gap, separator, gap', step, gap'', atEnd⟩ := h
  exact .intro gap (.leading separator gap' step .nil) gap'' atEnd

/-- A step does not begin with a slash. -/
lemma Derives.separatedStep (h : Derives text [s]) (hslash : text.toList.head? = some '/') :
    SeparatedStep text s := by
  obtain ⟨gap, path, gap', atEnd⟩ := h
  cases path with
  | plain first more =>
    rw [gap.eq_of_stops (.of_head hslash rfl)] at first
    have hstops := first.starts.stops_char (d := '/') rfl '/' hslash
    cases hstops
  | leading separator gap'' first more =>
    cases more with
    | nil => exact .intro gap separator gap'' first gap' atEnd

lemma SeparatedStep.stops_isIdentChar (h : SeparatedStep text s) :
    (Input.start text).Stops isIdentChar := by
  obtain ⟨gap, separator, -, -, -, -⟩ := h
  have hslash : Input.Starts (· == '/') _ := Separator.starts separator
  have hfollows : Follows ['/'] (.start text) := (hslash.follows rfl (by simp)).before gap
  exact hfollows.stops rfl

/-- What is derived from a whole text is derived wherever the text is written, if no identifier goes
on behind it. -/
lemma Portable.copy_whole {i j k : Input} {R : Input → Input → Prop}
    (h : Portable (.start text) k R) (hk : k.rest = []) (hpiece : Piece i text.toList j)
    (hj : j.Stops isIdentChar) : R i j := by
  obtain ⟨cs, hcs⟩ := h.reaches
  have htext : text.toList = cs := by
    have hrest := hcs.rest
    rwa [hk, List.append_nil] at hrest
  rw [htext] at hpiece
  exact h.copy ⟨cs, hcs, hpiece, fun _ _ _ _ => hj⟩

variable [Regex.Engine]

/-- The path keeps its steps with the separator behind it, and the step with the path in front. -/
lemma Derives.append (h : Derives text₁ ss) (h' : SeparatedStep text₂ s) :
    ∃ ts, Derives (text₁ ++ text₂) ts ∧ List.Forall₂ Step.Same (ss ++ [s]) ts := by
  have hfront := Piece.behind [] text₁.toList text₂.toList
  rw [← String.toList_append, ← Input.start_ofList, String.ofList_toList] at hfront
  have hback := Piece.behind text₁.toList text₂.toList []
  rw [List.append_nil] at hback
  have hstops := h'.stops_isIdentChar
  obtain ⟨gap, path, gap', atEnd⟩ := h
  obtain ⟨gap₂, separator, gap₂', step, gap₂'', atEnd₂⟩ := h'
  have hpath := gap.portable.comp (path.portable.comp gap'.portable)
  have hstep := gap₂.portable.comp (separator.portable.comp (gap₂'.portable.comp
    (step.portable.comp gap₂''.portable)))
  -- both derivations are copied to where their texts stand in the whole
  obtain ⟨_, gap, _, ⟨ts, path, hts⟩, gap'⟩ := hpath.copy_whole atEnd hfront hstops
  obtain ⟨_, gap₂, _, separator, _, gap₂', _, ⟨t, step, ht⟩, gap₂''⟩ :=
    hstep.copy_whole atEnd₂ hback (by simp [Input.Stops, Input.behind])
  have hmore := StepsText.cons (gap'.trans gap₂) separator gap₂' step .nil
  exact ⟨ts ++ [t], .intro gap (path.append hmore) gap₂'' rfl, List.rel_append hts (.cons ht .nil)⟩

end Concatenation

/-! ## The query of the whole -/

section Engine

variable [Regex.Engine]

lemma Step.elements_eq_ok {ss : List Step} {es : List Element} :
    Step.elements ss = .ok es ↔ List.Forall₂ (fun s e => s.element = .ok e) ss es := by
  induction ss generalizing es with
  | nil => simp [Step.elements, pure, Except.pure, eq_comm]
  | cons s ss ih =>
    rw [Step.elements]
    constructor
    · intro h
      cases hs : s.element with
      | error err =>
        rw [hs] at h
        cases h
      | ok e =>
        rw [hs] at h
        cases hss : Step.elements ss with
        | error err =>
          rw [hss] at h
          cases h
        | ok fs =>
          rw [hss] at h
          cases h
          exact .cons hs (ih.mp hss)
    · rintro (_ | ⟨hs, hss⟩)
      rw [hs, ih.mpr hss]
      rfl

lemma queryOfElements_childOf {es : List Element} (hes : es ≠ []) (e : Element) :
    (queryOfElements [e]).childOf (queryOfElements es) = queryOfElements (es ++ [e]) := by
  obtain ⟨fs, f, rfl⟩ := (List.eq_nil_or_concat' es).resolve_left hes
  simp [queryOfElements, Query.childOf]

lemma elements_of_parse {text : String} {ss : List Step} {q : Query} (h : parse text = .ok q)
    (hss : Derives text ss) : ∃ es, Step.elements ss = .ok es ∧ q = queryOfElements es := by
  unfold parse at h
  rw [steps_of_derives hss] at h
  cases hes : Step.elements ss with
  | error err =>
    simp only [bind, Except.bind, hes] at h
    cases h
  | ok es =>
    simp only [bind, Except.bind, hes] at h
    cases h
    exact ⟨es, rfl, rfl⟩

lemma parse_of_elements {text : String} {ss : List Step} {es : List Element} (hss : Derives text ss)
    (hes : Step.elements ss = .ok es) : parse text = .ok (queryOfElements es) := by
  unfold parse
  rw [steps_of_derives hss]
  simp only [bind, Except.bind, hes]
  rfl

/-- A separator and a step may be written behind any text that is read. The two together are read as
the query of the step, required to be found from a match of the query in front. -/
theorem parse_append {text₁ text₂ : String} {q₁ q₂ : Query} {s : Step}
    (h₁ : parse text₁ = .ok q₁) (h₂ : parse text₂ = .ok q₂) (hstep : SeparatedStep text₂ s) :
    parse (text₁ ++ text₂) = .ok (q₂.childOf q₁) := by
  obtain ⟨ss, hss⟩ := exists_derives_of_parse h₁
  obtain ⟨es, hes, rfl⟩ := elements_of_parse h₁ hss
  obtain ⟨fs, hfs, rfl⟩ := elements_of_parse h₂ hstep.derives
  rw [Step.elements_eq_ok] at hes hfs
  have hne : es ≠ [] := by
    intro hnil
    rw [hnil, List.forall₂_nil_right_iff] at hes
    exact hss.ne_nil hes
  obtain ⟨ts, hts, hsame⟩ := hss.append hstep
  have hwhole := Step.elements_eq_ok.mpr (List.rel_append hes hfs)
  have hts' := (Step.agree_elements hsame).eq_ok hwhole
  cases hfs with
  | cons he hnil =>
    cases hnil
    rw [queryOfElements_childOf hne]
    exact parse_of_elements hts hts'

end Engine

theorem parse_append_sliced_step :
    ∃ q₁ q₂ s, parse "//Pane[./Button]/.." = .ok q₁ ∧
      parse "//Edit[@Name*='a' i or ..][2:]" = .ok q₂ ∧
      SeparatedStep "//Edit[@Name*='a' i or ..][2:]" s ∧
      parse ("//Pane[./Button]/.." ++ "//Edit[@Name*='a' i or ..][2:]") = .ok (q₂.childOf q₁) := by
  have hfront : (parse "//Pane[./Button]/..").isOk = true := by decide +kernel
  have hback : (parse "//Edit[@Name*='a' i or ..][2:]").isOk = true := by decide +kernel
  have hsingle : (steps "//Edit[@Name*='a' i or ..][2:]").toOption.map List.length = some 1 := by
    decide +kernel
  cases h₁ : parse "//Pane[./Button]/.." with
  | error err =>
    rw [h₁] at hfront
    cases hfront
  | ok q₁ =>
    cases h₂ : parse "//Edit[@Name*='a' i or ..][2:]" with
    | error err =>
      rw [h₂] at hback
      cases hback
    | ok q₂ =>
      cases hs : steps "//Edit[@Name*='a' i or ..][2:]" with
      | error err =>
        rw [hs] at hsingle
        cases hsingle
      | ok ss =>
        rw [hs] at hsingle
        obtain ⟨s, rfl⟩ := List.length_eq_one_iff.mp (Option.some.inj hsingle)
        have hstep := (derives_of_steps hs).separatedStep rfl
        exact ⟨q₁, q₂, s, rfl, rfl, hstep, parse_append h₁ h₂ hstep⟩

end CPath

end ControlQuery

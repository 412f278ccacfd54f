import ControlQuery.Proofs.CPath.Completeness
import ControlQuery.Proofs.CPath.Layout
import ControlQuery.Proofs.CPath.Meaning
import ControlQuery.Proofs.CPath.Places
import ControlQuery.Proofs.CPath.Soundness
import ControlQuery.Regex.Standard

/-!
# The published grammar and its meaning

A text is refused as such exactly if it cannot be derived. A text that can be derived has one tree,
and is read as this tree prescribes, unless the first fault of the tree is overlooked: the second
position of a step behind slices that leave nothing out, such as `[1]` in `//*[:][1]`.
-/

namespace ControlQuery.CPath

open Reader

variable {text : String} {ss ss' : List Step}

lemma Derives.ne_nil (h : Derives text ss) : ss ≠ [] := by
  obtain ⟨-, path, -, -⟩ := h
  cases path <;> simp

lemma Derives.unique (h : Derives text ss) (h' : Derives text ss') : ss' = ss := by
  obtain ⟨j, hr⟩ := reads_of_derives h
  obtain ⟨j', hr'⟩ := reads_of_derives h'
  exact (hr'.unique ⟨{}, hr {}⟩).1

lemma steps_of_derives (h : Derives text ss) : steps text = .ok ss := by
  obtain ⟨j, hr⟩ := reads_of_derives h
  unfold steps
  rw [eq_mk (hr {})]

lemma derives_of_steps (h : steps text = .ok ss) : Derives text ss := by
  unfold steps at h
  split at h
  · next ss' j σ he =>
    cases h
    exact derives_of_mayRead ⟨{}, by rw [he]⟩
  · cases h

lemma Fault.error_ne_unexpected (f : Fault) (place : Lexeme) (expected : List Rule) :
    f.error ≠ .unexpected place expected := by
  cases f <;> exact ParseError.noConfusion

lemma prescribed_ne_unexpected {α : Type} {fs : List Fault} {a : α} (place : Lexeme)
    (expected : List Rule) : prescribed fs a ≠ .error (.unexpected place expected) := by
  cases fs with
  | nil => exact fun h => by cases h
  | cons f fs => exact fun h => f.error_ne_unexpected place expected (Except.error.inj h)

/-- The first fault decides, for no fault behind an overlooked one has its error. -/
lemma prescribed_heeded_eq_iff {α : Type} {i j : Input} {fs : List Fault} {a : α}
    (h : Placed i fs j) :
    prescribed (heeded fs) a = prescribed fs a ↔ ∀ f ∈ fs.head?, f.overlooked = false := by
  cases fs with
  | nil => simp [heeded]
  | cons f fs =>
    rw [List.head?_cons]
    cases ho : f.overlooked with
    | false =>
      refine iff_of_true ?_ (by simp [ho])
      unfold heeded
      rw [List.filter_cons_of_pos (by simp [ho])]
      rfl
    | true =>
      refine iff_of_false (fun he => ?_) (by simp [ho])
      unfold heeded at he
      rw [List.filter_cons_of_neg (by simp [ho])] at he
      cases hfs : fs.filter fun f => !f.overlooked with
      | nil =>
        rw [hfs] at he
        cases he
      | cons g gs =>
        rw [hfs] at he
        have hg : g ∈ fs := (List.mem_filter.mp (by rw [hfs]; exact List.mem_cons_self)).1
        have hlt := List.rel_of_pairwise_cons h.order hg (Fault.repeats_of_overlooked ho)
        rw [Except.error.inj he] at hlt
        omega

section Engine

variable [Regex.Engine]

lemma parse_of_derives (h : Derives text ss) :
    parse text = prescribed (heeded (Step.allFaults ss)) (Step.query ss) := by
  unfold parse
  rw [steps_of_derives h]
  change (Step.elements ss >>= _) = _
  rw [Step.elements_eq]
  exact prescribed_map queryOfElements

lemma parse_of_steps_error {e : ParseError} (h : steps text = .error e) :
    parse text = .error e := by
  unfold parse
  rw [h]
  rfl

lemma parse_of_not_derives (h : ¬ ∃ ss, Derives text ss) :
    ∃ place expected, parse text = .error (.unexpected place expected) := by
  cases hs : steps text with
  | ok ss => exact absurd ⟨ss, derives_of_steps hs⟩ h
  | error e =>
    have he : ∃ place expected, e = .unexpected place expected := by
      unfold steps at hs
      split at hs
      · cases hs
      · cases hs
        exact ⟨_, _, rfl⟩
    obtain ⟨place, expected, rfl⟩ := he
    exact ⟨place, expected, parse_of_steps_error hs⟩

lemma exists_derives_of_parse {q : Query} (h : parse text = .ok q) : ∃ ss, Derives text ss := by
  by_contra hnone
  obtain ⟨place, expected, herror⟩ := parse_of_not_derives hnone
  rw [herror] at h
  cases h

/-- The error of a text with a tree is a fault of some leaf. -/
lemma exists_mem_faults_of_parse_error {e : ParseError} (hss : Derives text ss)
    (h : parse text = .error e) : ∃ l ∈ Step.allLeaves ss, ∃ f ∈ l.faults, f.error = e := by
  rw [parse_of_derives hss] at h
  cases hfs : heeded (Step.allFaults ss) with
  | nil =>
    rw [hfs] at h
    cases h
  | cons f fs =>
    rw [hfs] at h
    have hf : f ∈ heeded (Step.allFaults ss) := by rw [hfs]; exact List.mem_cons_self
    have hf : f ∈ (Step.allLeaves ss).flatMap Leaf.faults := by
      rw [← Step.allFaults_eq]
      exact (mem_heeded.mp hf).1
    obtain ⟨l, hl, hf⟩ := List.mem_flatMap.mp hf
    exact ⟨l, hl, f, hf, Except.error.inj h⟩

lemma Derives.placed (h : Derives text ss) : ∃ i j, Placed i (Step.allFaults ss) j := by
  obtain ⟨j, hleaves⟩ := h.leaves
  rw [Step.allFaults_eq]
  exact ⟨_, j, hleaves.placed⟩

/-- Reading a text. A text that cannot be derived is refused with a syntax error, and no other text
is. A text that can be derived has a single tree. The result is that of the tree's first fault that
is not overlooked, or else the reading of the tree; so it is what the tree prescribes exactly if its
first fault is not overlooked. Layout and quotes make no difference but for the places of faults. -/
theorem parse_eq_prescribed (text : String) :
    ((∃ place expected, parse text = .error (.unexpected place expected)) ↔
      ¬ ∃ ss, Derives text ss) ∧
    ∀ ss, Derives text ss →
      (∀ ss', Derives text ss' → ss' = ss) ∧
      parse text = prescribed (heeded (Step.allFaults ss)) (Step.query ss) ∧
      (parse text = prescribed (Step.allFaults ss) (Step.query ss) ↔
        ∀ f ∈ (Step.allFaults ss).head?, f.overlooked = false) ∧
      ∀ text' ss', Derives text' ss' → Step.bareAll ss' = Step.bareAll ss →
        (parse text').mapError ParseError.bare = (parse text).mapError ParseError.bare := by
  refine ⟨⟨?_, parse_of_not_derives⟩, fun ss h => ⟨fun ss' => h.unique, parse_of_derives h, ?_, ?_⟩⟩
  · rintro ⟨place, expected, hparse⟩ ⟨ss, h⟩
    rw [parse_of_derives h] at hparse
    exact prescribed_ne_unexpected place expected hparse
  · obtain ⟨i, j, hplaced⟩ := h.placed
    rw [parse_of_derives h]
    exact prescribed_heeded_eq_iff hplaced
  · intro text' ss' h' hbare
    have hquery : Step.query ss' = Step.query ss := by
      unfold Step.query
      rw [← Step.readings_bare, hbare, Step.readings_bare]
    have hmarks : marks (Step.allFaults ss') = marks (Step.allFaults ss) := by
      rw [← Step.marks_bareAll, hbare, Step.marks_bareAll]
    rw [parse_of_derives h, parse_of_derives h', hquery]
    exact mapError_prescribed_heeded _ hmarks

end Engine

/-- A slice that leaves nothing out hides the position in front of it from the one behind it. -/
theorem parse_ne_prescribed_whole_slice :
    ∃ ss, Derives "//*[:][1]" ss ∧
      prescribed (Step.allFaults ss) (Step.query ss) = .error (.duplicatePosition ⟨6, "[1]"⟩) ∧
      parse "//*[:][1]" = .ok (Step.query ss) := by
  have hcheck : (match steps "//*[:][1]" with
      | .ok ss => (heeded (Step.allFaults ss)).isEmpty &&
          (Step.allFaults ss).head?.map Fault.error = some (.duplicatePosition ⟨6, "[1]"⟩)
      | .error _ => false) = true := by
    decide +kernel
  cases hs : steps "//*[:][1]" with
  | error e =>
    rw [hs] at hcheck
    cases hcheck
  | ok ss =>
    rw [hs] at hcheck
    simp only [Bool.and_eq_true, List.isEmpty_iff, decide_eq_true_eq] at hcheck
    obtain ⟨hheeded, hfirst⟩ := hcheck
    have h := derives_of_steps hs
    refine ⟨ss, h, ?_, ?_⟩
    · cases hf : Step.allFaults ss with
      | nil =>
        rw [hf] at hfirst
        cases hfirst
      | cons f fs =>
        rw [hf] at hfirst
        exact congrArg Except.error (Option.some.inj hfirst)
    · rw [parse_of_derives h, hheeded]
      rfl

end ControlQuery.CPath

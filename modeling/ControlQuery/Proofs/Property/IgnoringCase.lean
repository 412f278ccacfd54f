import ControlQuery.Proofs.Unicode.FinalSigma
import ControlQuery.Property.Condition
import ControlQuery.Regex.Standard

/-!
# Conditions that ignore case

A condition that ignores case is meant to hold wherever it holds with case. Equal texts have equal
lowercase forms, but a text that another one contains need not be contained in lowercase: a capital
sigma at one of its ends may take another form there than it takes by itself. No other character
gets a match lost.
-/

namespace ControlQuery

open Unicode

section Engine

variable [Regex.Engine]

namespace PropertyCondition

/-- The condition with case, or without. -/
def withIgnoreCase (c : PropertyCondition) (ignoreCase : Bool) : PropertyCondition :=
  { c with options := { c.options with ignoreCase } }

lemma holds_withIgnoreCase {c : PropertyCondition} (hpositive : c.options.negated = false)
    (ignoreCase : Bool) (actual : PropertyValue) :
    (c.withIgnoreCase ignoreCase).holds (some actual) = c.comparison.holds ignoreCase actual := by
  simp [withIgnoreCase, holds, hpositive]

end PropertyCondition

namespace Comparison

lemma holds_equals_ignoreCase {value actual : PropertyValue}
    (h : (equals value).holds false actual = true) : (equals value).holds true actual = true := by
  cases value <;> cases actual <;> simp_all [holds]

lemma holds_contains_iff {needle : String} {actual : PropertyValue} :
    (contains needle).holds false actual = true ↔ needle.toList <:+: actual.plain.toList := by
  rw [holds]
  exact occursIn_iff

lemma holds_contains_ignoreCase_iff {needle : String} {actual : PropertyValue} :
    (contains needle).holds true actual = true ↔
      lowerAfter [] needle.toList <:+: lowerAfter [] actual.plain.toList := by
  rw [holds, if_pos rfl, occursIn_iff, lowercase, lowercase, String.toList_ofList,
    String.toList_ofList]

end Comparison

end Engine

namespace PropertyCondition

/-- What gets lost when case is ignored: values that contain the text of a condition, but nowhere
without a capital sigma that ends a word in the value and none in the text by itself, or the other
way round. There are such values if and only if the text has an open sigma. -/
theorem holds_ignoreCase_of_holds [Regex.Engine] (c : PropertyCondition)
    (hpositive : c.options.negated = false) (hmode : ∀ r, c.comparison ≠ .matches r) :
    (∀ actual, (c.withIgnoreCase false).holds (some actual) = true →
      (c.withIgnoreCase true).holds (some actual) = false →
      ∃ needle, c.comparison = .contains needle ∧
        ∀ front back, actual.plain.toList = front ++ needle.toList ++ back →
          ∃ p s, needle.toList = p ++ 'Σ' :: s ∧
            endsWord (p.reverse ++ front.reverse) (s ++ back) ≠ endsWord p.reverse s) ∧
    ((∀ actual, (c.withIgnoreCase false).holds (some actual) = true →
        (c.withIgnoreCase true).holds (some actual) = true) ↔
      ∀ needle, c.comparison = .contains needle → hasOpenSigma [] needle.toList = false) := by
  simp only [holds_withIgnoreCase hpositive]
  cases hc : c.comparison with
  | «matches» r => exact absurd hc (hmode r)
  | equals value =>
    refine ⟨fun actual h h' => ?_, fun _ needle hneedle => ?_, fun _ actual h => ?_⟩
    · rw [Comparison.holds_equals_ignoreCase h] at h'
      cases h'
    · cases hneedle
    · exact Comparison.holds_equals_ignoreCase h
  | contains needle =>
    refine ⟨fun actual _ h' => ⟨needle, rfl, fun front back hsplit => ?_⟩, fun h needle' heq => ?_,
      fun h actual hactual => ?_⟩
    · by_contra hsame
      push Not at hsame
      have hinfix := lowerAfter_infix hsame
      rw [← hsplit, ← Comparison.holds_contains_ignoreCase_iff, h'] at hinfix
      cases hinfix
    · obtain rfl := Comparison.contains.inj heq
      by_contra hopen
      rw [Bool.not_eq_false] at hopen
      obtain ⟨text, hinfix, hlost⟩ := exists_not_lowerAfter_infix_of_hasOpenSigma hopen
      have hlower := h (.str (String.ofList text))
      rw [Comparison.holds_contains_iff, Comparison.holds_contains_ignoreCase_iff,
        PropertyValue.plain_str, String.toList_ofList] at hlower
      exact hlost (hlower hinfix)
    · rw [Comparison.holds_contains_iff] at hactual
      rw [Comparison.holds_contains_ignoreCase_iff]
      exact lowerAfter_infix_of_not_hasOpenSigma (h needle rfl) hactual

/-- With the blank behind it, the sigma is final wherever the text occurs. -/
theorem holds_ignoreCase_of_holds_closed_sigma :
    let c := contains .name "ΟΔΟΣ 1"
    (c.options.negated = false ∧ ∀ r, c.comparison ≠ .matches r) ∧
      ∀ actual, (c.withIgnoreCase false).holds (some actual) = true →
        (c.withIgnoreCase true).holds (some actual) = true := by
  intro c
  have hmode : ∀ r, c.comparison ≠ .matches r := by
    intro r hr
    cases hr
  refine ⟨⟨rfl, hmode⟩, (holds_ignoreCase_of_holds c rfl hmode).2.2 fun needle hneedle => ?_⟩
  obtain rfl := Comparison.contains.inj hneedle
  decide +kernel

/-- A sigma by itself is lost where it ends a word. -/
theorem not_holds_ignoreCase_final_sigma :
    let c := contains .name "Σ"
    c.options.negated = false ∧
      (c.withIgnoreCase false).holds (some (.str "ΟΔΟΣ")) = true ∧
      (c.withIgnoreCase true).holds (some (.str "ΟΔΟΣ")) = false := by
  decide +kernel

end PropertyCondition

end ControlQuery

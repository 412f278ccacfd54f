import ControlQuery.Query.Compose
import ControlQuery.Regex.Standard
import Mathlib.Tactic.Lemma
import Mathlib.Tactic.Common

/-!
# Removing a condition from a spine

A condition stands on the `and`-spine of another one if it is that condition or, through `and`s, one
of its operands. A removal takes every occurrence of its target off the spine. What is left of the
operands is joined again, and what is joined may be the target: the main statement says exactly when
the target stands on the spine after its removal, so that a second removal takes more away.
-/

namespace ControlQuery

section Engine

variable [Regex.Engine]

namespace Condition

/-- The conditions on the `and`-spine. -/
def andSpine : Condition → List Condition
  | .logical .and left right => .logical .and left right :: (left.andSpine ++ right.andSpine)
  | c => [c]

/-- No `and` joins the condition. -/
def IsLink (c : Condition) : Prop :=
  ∀ left right : Condition, c ≠ left.and right

/-- On the spine stands an `and` of which the removal leaves the two operands of the target. -/
def Rejoins (target c : Condition) : Prop :=
  ∃ left right left' right' : Condition,
    left.and right ∈ c.andSpine ∧ left.and right ≠ target ∧
      remove target left = some left' ∧ remove target right = some right' ∧
      target = left'.and right'

/-- A condition is an `and` of two conditions or the end of a spine. -/
lemma andSpine_induction {motive : Condition → Prop}
    (link : ∀ c : Condition, c.IsLink → motive c)
    (and : ∀ left right : Condition, motive left → motive right → motive (left.and right)) :
    ∀ c, motive c
  | .logical .and left right =>
    and left right (andSpine_induction link and left) (andSpine_induction link and right)
  | .logical .or _ _ => link _ fun _ _ h => by cases h
  | .property _ => link _ fun _ _ h => by cases h
  | .function _ => link _ fun _ _ h => by cases h
  | .hasElement _ => link _ fun _ _ h => by cases h
  | .relative _ _ => link _ fun _ _ h => by cases h

variable {target c d r left right left' right' : Condition}

/-! ### Conditions on a spine -/

lemma andSpine_and (left right : Condition) :
    (left.and right).andSpine = left.and right :: (left.andSpine ++ right.andSpine) := by
  rw [andSpine]

lemma IsLink.andSpine_eq (h : c.IsLink) : c.andSpine = [c] := by
  rw [andSpine]
  exact h

lemma mem_andSpine_self (c : Condition) : c ∈ c.andSpine := by
  induction c using andSpine_induction with
  | link c h => simp [h.andSpine_eq]
  | and left right _ _ => simp [andSpine_and]

/-- What stands on a spine is the whole of it or has a shorter spine. -/
lemma eq_or_length_lt_of_mem_andSpine (h : d ∈ c.andSpine) :
    d = c ∨ d.andSpine.length < c.andSpine.length := by
  induction c using andSpine_induction with
  | link c hc => exact .inl (by simpa [hc.andSpine_eq] using h)
  | and left right ihleft ihright =>
    simp only [andSpine_and, List.mem_cons, List.mem_append] at h
    simp only [andSpine_and, List.length_cons, List.length_append]
    rcases h with rfl | h | h
    · exact .inl rfl
    · rcases ihleft h with rfl | hlt
      · exact .inr (by omega)
      · exact .inr (by omega)
    · rcases ihright h with rfl | hlt
      · exact .inr (by omega)
      · exact .inr (by omega)

/-! ### What a removal leaves -/

lemma IsLink.remove_eq (h : c.IsLink) :
    remove target c = if c = target then none else some c := by
  rw [remove]
  exact h

lemma remove_self (target : Condition) : remove target target = none := by
  induction target using andSpine_induction with
  | link c h => simp [h.remove_eq]
  | and left right _ _ => rw [remove, if_pos rfl]

lemma remove_and (h : left.and right ≠ target) :
    remove target (left.and right) =
      match remove target left, remove target right with
      | some left, some right => some (left.and right)
      | some rest, none => some rest
      | none, some rest => some rest
      | none, none => none := by
  rw [remove]
  exact if_neg h

/-- The ways in which something is left of an `and`. -/
lemma remove_and_eq_some (h : remove target (left.and right) = some r) :
    left.and right ≠ target ∧
      ((∃ left' right', remove target left = some left' ∧ remove target right = some right' ∧
          r = left'.and right') ∨
        (remove target left = some r ∧ remove target right = none) ∨
        (remove target left = none ∧ remove target right = some r)) := by
  have hne : left.and right ≠ target := by
    rintro rfl
    rw [remove_self] at h
    cases h
  rw [remove_and hne] at h
  refine ⟨hne, ?_⟩
  cases hleft : remove target left <;> cases hright : remove target right <;>
    simp_all

/-- A removal does nothing where the target is not on the spine. -/
lemma remove_of_not_mem (h : target ∉ c.andSpine) : remove target c = some c := by
  induction c using andSpine_induction with
  | link c hc =>
    rw [hc.andSpine_eq, List.mem_singleton] at h
    rw [hc.remove_eq, if_neg (Ne.symm h)]
  | and left right ihleft ihright =>
    simp only [andSpine_and, List.mem_cons, List.mem_append, not_or] at h
    obtain ⟨hne, hleft, hright⟩ := h
    rw [remove_and (Ne.symm hne), ihleft hleft, ihright hright]

lemma length_andSpine_remove_le (h : remove target c = some r) :
    r.andSpine.length ≤ c.andSpine.length := by
  induction c using andSpine_induction generalizing r with
  | link c hc =>
    rw [hc.remove_eq] at h
    split at h
    · cases h
    · obtain rfl := Option.some.inj h
      exact Nat.le_refl _
  | and left right ihleft ihright =>
    rw [andSpine_and, List.length_cons, List.length_append]
    obtain ⟨-, ⟨left', right', hleft, hright, rfl⟩ | ⟨hleft, -⟩ | ⟨-, hright⟩⟩ :=
      remove_and_eq_some h
    · have hl := ihleft hleft
      have hr := ihright hright
      rw [andSpine_and, List.length_cons, List.length_append]
      omega
    · have hl := ihleft hleft
      omega
    · have hr := ihright hright
      omega

/-- A removal leaves a condition as it is only if the target is not on the spine. -/
lemma remove_eq_self_iff : remove target c = some c ↔ target ∉ c.andSpine := by
  refine ⟨fun h => ?_, remove_of_not_mem⟩
  induction c using andSpine_induction with
  | link c hc =>
    rw [hc.andSpine_eq, List.mem_singleton]
    rintro rfl
    rw [remove_self] at h
    cases h
  | and left right ihleft ihright =>
    obtain ⟨hne, ⟨left', right', hleft, hright, heq⟩ | ⟨hleft, -⟩ | ⟨-, hright⟩⟩ :=
      remove_and_eq_some h
    · obtain ⟨-, rfl, rfl⟩ := Condition.logical.inj heq
      simp only [andSpine_and, List.mem_cons, List.mem_append, not_or]
      exact ⟨Ne.symm hne, ihleft hleft, ihright hright⟩
    · have hlt := length_andSpine_remove_le hleft
      rw [andSpine_and, List.length_cons, List.length_append] at hlt
      omega
    · have hlt := length_andSpine_remove_le hright
      rw [andSpine_and, List.length_cons, List.length_append] at hlt
      omega

/-! ### Targets that are joined anew -/

lemma IsLink.not_rejoins (h : c.IsLink) : ¬Rejoins target c := by
  rintro ⟨left, right, -, -, hmem, -⟩
  rw [h.andSpine_eq, List.mem_singleton] at hmem
  exact h left right hmem.symm

lemma rejoins_and (hne : left.and right ≠ target) :
    Rejoins target (left.and right) ↔
      (∃ left' right', remove target left = some left' ∧ remove target right = some right' ∧
        target = left'.and right') ∨ Rejoins target left ∨ Rejoins target right := by
  constructor
  · rintro ⟨l, r, l', r', hmem, hlr, hrest⟩
    simp only [andSpine_and, List.mem_cons, List.mem_append] at hmem
    rcases hmem with heq | hmem | hmem
    · obtain ⟨-, rfl, rfl⟩ := Condition.logical.inj heq
      exact .inl ⟨l', r', hrest⟩
    · exact .inr (.inl ⟨l, r, l', r', hmem, hlr, hrest⟩)
    · exact .inr (.inr ⟨l, r, l', r', hmem, hlr, hrest⟩)
  · rintro (⟨l', r', hrest⟩ | ⟨l, r, l', r', hmem, hlr, hrest⟩ | ⟨l, r, l', r', hmem, hlr, hrest⟩)
    · exact ⟨left, right, l', r', mem_andSpine_self _, hne, hrest⟩
    · exact ⟨l, r, l', r', by simp [andSpine_and, hmem], hlr, hrest⟩
    · exact ⟨l, r, l', r', by simp [andSpine_and, hmem], hlr, hrest⟩

/-- No part of the target is long enough to leave the whole target. -/
lemma not_rejoins_self (target : Condition) : ¬Rejoins target target := by
  rintro ⟨left, right, left', right', hmem, hne, hleft, hright, heq⟩
  have hlt := (eq_or_length_lt_of_mem_andSpine hmem).resolve_left hne
  have hl := length_andSpine_remove_le hleft
  have hr := length_andSpine_remove_le hright
  rw [andSpine_and, List.length_cons, List.length_append] at hlt
  have hlen : target.andSpine.length = left'.andSpine.length + right'.andSpine.length + 1 := by
    rw [congrArg andSpine heq, andSpine_and, List.length_cons, List.length_append]
  omega

/-- Nothing is joined anew where nothing is left. -/
lemma not_rejoins_of_remove_eq_none (h : remove target c = none) : ¬Rejoins target c := by
  induction c using andSpine_induction with
  | link c hc => exact hc.not_rejoins
  | and left right ihleft ihright =>
    by_cases hne : left.and right = target
    · rw [hne]
      exact not_rejoins_self target
    · rw [remove_and hne] at h
      rw [rejoins_and hne]
      cases hleft : remove target left with
      | some l => cases hright : remove target right <;> simp [hleft, hright] at h
      | none =>
        cases hright : remove target right with
        | some r => simp [hleft, hright] at h
        | none => simp [ihleft hleft, ihright hright]

lemma mem_andSpine_remove_iff (h : remove target c = some r) :
    target ∈ r.andSpine ↔ Rejoins target c := by
  induction c using andSpine_induction generalizing r with
  | link c hc =>
    rw [hc.remove_eq] at h
    split at h
    · cases h
    · next hne =>
      obtain rfl := Option.some.inj h
      rw [hc.andSpine_eq, List.mem_singleton]
      exact iff_of_false (Ne.symm hne) hc.not_rejoins
  | and left right ihleft ihright =>
    obtain ⟨hne, ⟨l, r, hleft, hright, rfl⟩ | ⟨hleft, hright⟩ | ⟨hleft, hright⟩⟩ :=
      remove_and_eq_some h
    · rw [rejoins_and hne, andSpine_and, List.mem_cons, List.mem_append, ihleft hleft,
        ihright hright]
      simp [hleft, hright]
    · have hnone := not_rejoins_of_remove_eq_none hright
      rw [rejoins_and hne, ihleft hleft]
      simp [hright, hnone]
    · have hnone := not_rejoins_of_remove_eq_none hleft
      rw [rejoins_and hne, ihright hright]
      simp [hleft, hnone]

end Condition

namespace Query

lemma removeCondition_removeCondition_eq_iff (q : Query) (target : Condition) :
    (q.removeCondition target).removeCondition target = q.removeCondition target ↔
      ∀ c, q.element.condition = some c → ¬Condition.Rejoins target c := by
  obtain ⟨path, condition, scope, skip, take⟩ := q
  cases condition with
  | none => simp [removeCondition, Element.removeCondition]
  | some c =>
    simp only [removeCondition, Element.removeCondition, Option.bind_some, Query.mk.injEq,
      Element.mk.injEq, true_and, and_true, Option.some.injEq, forall_eq']
    cases hr : Condition.remove target c with
    | none => simp [Condition.not_rejoins_of_remove_eq_none hr]
    | some r =>
      rw [Option.bind_some, Condition.remove_eq_self_iff, Condition.mem_andSpine_remove_iff hr]

/-- What a removal leaves has the target on its spine exactly if the removal has joined it anew.
That only happens to a target that is an `and` itself, and exactly then a second removal takes away
more than the first. -/
theorem mem_andSpine_removeCondition_iff (target : Condition) :
    (∀ c r, Condition.remove target c = some r →
      (target ∈ r.andSpine ↔ Condition.Rejoins target c)) ∧
    (target.IsLink → ∀ c, ¬Condition.Rejoins target c) ∧
    ∀ q : Query, (q.removeCondition target).removeCondition target = q.removeCondition target ↔
      ∀ c, q.element.condition = some c → ¬Condition.Rejoins target c := by
  refine ⟨fun c r => Condition.mem_andSpine_remove_iff, ?_,
    fun q => q.removeCondition_removeCondition_eq_iff target⟩
  rintro hlink c ⟨-, -, left, right, -, -, -, -, heq⟩
  exact hlink left right heq

end Query

end Engine

/-- A target that is joined anew, and one without an `and` that is taken away for good. -/
theorem Query.mem_andSpine_removeCondition_iff_two_targets :
    let a : Condition := .property (.equals .name (.str "a"))
    let b : Condition := .property (.equals .name (.str "b"))
    let c := (a.and (a.and b)).and b
    (Condition.remove (a.and b) c = some (a.and b) ∧ Condition.Rejoins (a.and b) c) ∧
      (a.IsLink ∧ Condition.remove a c = some (b.and b) ∧ a ∉ (b.and b).andSpine) ∧
      let q := everything.require c
      (q.removeCondition (a.and b)).removeCondition (a.and b) ≠ q.removeCondition (a.and b) ∧
      (q.removeCondition a).removeCondition a = q.removeCondition a := by
  intro a b c
  have hjoined : Condition.remove (a.and b) c = some (a.and b) := by decide +kernel
  have hleft : Condition.remove a c = some (b.and b) := by decide +kernel
  have hlink : a.IsLink := by
    intro left right heq
    simp [a] at heq
  obtain ⟨hmem, -, htwice⟩ := mem_andSpine_removeCondition_iff (a.and b)
  obtain ⟨hmem', hnever, htwice'⟩ := mem_andSpine_removeCondition_iff a
  have hrejoins := (hmem c _ hjoined).1 (Condition.mem_andSpine_self _)
  refine ⟨⟨hjoined, hrejoins⟩, ⟨hlink, hleft, fun h => ?_⟩, fun h => ?_, ?_⟩
  · exact hnever hlink c ((hmem' c _ hleft).1 h)
  · exact (htwice _).1 h c rfl hrejoins
  · exact (htwice' _).2 fun d _ => hnever hlink d

/-- Once the inner `a and b` has gone, the `a` before it and the `b` behind it are joined: the
removal of a target leaves the target, and the second removal takes that away as well. -/
theorem Query.removeCondition_leaves_target :
    let a : Condition := .property (.equals .name (.str "a"))
    let b : Condition := .property (.equals .name (.str "b"))
    let q := everything.require ((a.and (a.and b)).and b)
    (q.removeCondition (a.and b)).element.condition = some (a.and b) ∧
      a.and b ∈ (a.and b).andSpine ∧
      ((q.removeCondition (a.and b)).removeCondition (a.and b)).element.condition = none := by
  decide +kernel

end ControlQuery

import ControlQuery.Snapshot.Tree

/-!
# Removing controls one by one

A control goes together with everything below it. What is below need not be known beforehand: a
removal looks at one control after the other, and a control that is there adds its children to those
that are still to be looked at.
-/

namespace ControlQuery

/-- A removal under way. -/
structure Removal where
  /-- The controls to look at, with the next one in front. -/
  pending : List NodeId
  /-- The removed controls. -/
  removed : List NodeId

namespace Removal

/-- Looks at the next control if any is left. A number that belongs to no control is passed over. -/
def step (entries : Array TreeEntry) (r : Removal) : Option Removal :=
  match r.pending with
  | [] => none
  | n :: pending =>
    match entries[n]? with
    | some e => some ⟨e.children.reverse ++ pending, n :: r.removed⟩
    | none => some ⟨pending, r.removed⟩

variable {entries : Array TreeEntry} {n : NodeId} {pending removed : List NodeId}

theorem step_of_entry {e : TreeEntry} (h : entries[n]? = some e) :
    step entries ⟨n :: pending, removed⟩ = some ⟨e.children.reverse ++ pending, n :: removed⟩ := by
  simp [step, h]

theorem step_of_no_entry (h : entries[n]? = none) :
    step entries ⟨n :: pending, removed⟩ = some ⟨pending, removed⟩ := by
  simp [step, h]

theorem step_eq_none_iff {r : Removal} : r.step entries = none ↔ r.pending = [] := by
  obtain ⟨_ | ⟨n, pending⟩, removed⟩ := r
  · simp [step]
  · cases h : entries[n]? <;> simp [step, h]

end Removal

end ControlQuery

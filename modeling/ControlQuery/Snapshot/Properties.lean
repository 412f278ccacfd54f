import ControlQuery.Property.Name
import ControlQuery.Property.Value

/-!
# Recorded properties

The properties recorded for one control: at most one value for each property, kept in the order of
the properties, so that equal records are equal lists.
-/

namespace ControlQuery

theorem PropertyId.eq_of_rank_eq {p q : PropertyId} (h : p.rank = q.rank) : p = q := by
  have hp : p.rank < all.length := List.idxOf_lt_length_of_mem (mem_all p)
  have hq : q.rank < all.length := List.idxOf_lt_length_of_mem (mem_all q)
  have key : all[p.rank] = all[q.rank] := by simp only [h]
  simpa only [rank, List.getElem_idxOf] using key

theorem PropertyId.lt_of_not_lt_of_ne {p q : PropertyId} (h : ¬p < q) (hne : p ≠ q) : q < p := by
  have hr : p.rank ≠ q.rank := fun e => hne (eq_of_rank_eq e)
  have hle : ¬p.rank < q.rank := h
  show q.rank < p.rank
  omega

/-- Values of properties, at most one for each, in the order of the properties. -/
structure PropertyMap where
  entries : List (PropertyId × PropertyValue)
  ordered : entries.Pairwise fun a b => a.1 < b.1
deriving DecidableEq

namespace PropertyMap

/-- No properties at all. -/
def empty : PropertyMap :=
  ⟨[], .nil⟩

instance : EmptyCollection PropertyMap := ⟨empty⟩

instance : Inhabited PropertyMap := ⟨empty⟩

/-- The value of a property. -/
def get? (m : PropertyMap) (id : PropertyId) : Option PropertyValue :=
  (m.entries.find? fun e => e.1 == id).map Prod.snd

/-- Puts a value at its place, and drops the one that was there before. -/
def insertEntry (id : PropertyId) (value : PropertyValue) :
    List (PropertyId × PropertyValue) → List (PropertyId × PropertyValue)
  | [] => [(id, value)]
  | e :: es =>
    if id < e.1 then (id, value) :: e :: es
    else if id = e.1 then (id, value) :: es
    else e :: insertEntry id value es

theorem mem_insertEntry {id : PropertyId} {value : PropertyValue}
    {es : List (PropertyId × PropertyValue)} {e : PropertyId × PropertyValue}
    (h : e ∈ insertEntry id value es) : e = (id, value) ∨ e ∈ es := by
  induction es with
  | nil => simpa [insertEntry] using h
  | cons a es ih =>
    simp only [insertEntry] at h
    split at h
    · simpa using h
    · split at h
      · rcases List.mem_cons.1 h with h | h
        · exact .inl h
        · exact .inr (List.mem_cons_of_mem _ h)
      · rcases List.mem_cons.1 h with h | h
        · exact .inr (h ▸ List.mem_cons_self)
        · rcases ih h with h | h
          · exact .inl h
          · exact .inr (List.mem_cons_of_mem _ h)

theorem pairwise_insertEntry {id : PropertyId} {value : PropertyValue}
    {es : List (PropertyId × PropertyValue)} (h : es.Pairwise fun a b => a.1 < b.1) :
    (insertEntry id value es).Pairwise fun a b => a.1 < b.1 := by
  induction es with
  | nil => simp [insertEntry]
  | cons a es ih =>
    obtain ⟨ha, hes⟩ := List.pairwise_cons.1 h
    simp only [insertEntry]
    split
    · next hlt =>
      refine List.pairwise_cons.2 ⟨fun b hb => ?_, h⟩
      rcases List.mem_cons.1 hb with rfl | hb
      · exact hlt
      · exact Nat.lt_trans hlt (ha b hb)
    · next hlt =>
      split
      · next heq => exact List.pairwise_cons.2 ⟨fun b hb => heq ▸ ha b hb, hes⟩
      · next hne =>
        refine List.pairwise_cons.2 ⟨fun b hb => ?_, ih hes⟩
        rcases mem_insertEntry hb with rfl | hb
        · exact PropertyId.lt_of_not_lt_of_ne hlt hne
        · exact ha b hb

/-- Records a value, in place of the one recorded before. -/
def insert (m : PropertyMap) (id : PropertyId) (value : PropertyValue) : PropertyMap where
  entries := insertEntry id value m.entries
  ordered := pairwise_insertEntry m.ordered

end PropertyMap

end ControlQuery

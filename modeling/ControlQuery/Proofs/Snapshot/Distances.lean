import ControlQuery.Proofs.Search.Neighbourhood
import ControlQuery.Proofs.Snapshot.Image

/-!
# Distances in a snapshot tree

The way between two controls goes up to their lowest common ancestor and down again, so its length
is given by the depths of the three. One step along a link brings a control nearer to all that lie
behind the link, and takes it away from all others. As whatever is still there has its ancestors,
links between valid controls lead exactly as far as the distance says.
-/

namespace ControlQuery

namespace SnapshotTree

/-- How many links lead down from the root to a control. -/
def depth (t : SnapshotTree) (n : NodeId) : Nat :=
  (t.ancestry n).length - 1

/-- The last control on the way down from the root to a control that is on the way to another one
as well. -/
def lowestCommon (t : SnapshotTree) (n m : NodeId) : NodeId :=
  ((t.ancestry n).filter (· ∈ t.ancestry m)).getLastD root

/-- The number of links between two controls, up and down again. -/
def distance (t : SnapshotTree) (n m : NodeId) : Nat :=
  t.depth n + t.depth m - 2 * t.depth (t.lowestCommon n m)

variable {t : SnapshotTree} {a c k m n p : Nat}

/-! ### The way from the root -/

section Recorded

variable (h : t.Recorded)
include h

lemma Recorded.ancestry_root (ht : 0 < t.size) : t.ancestry 0 = [0] := by
  rw [ancestry, upward_top ht h.parentLink_root]
  rfl

lemma Recorded.ancestry_child (hc : t.IsChild p c) : t.ancestry c = t.ancestry p ++ [c] := by
  have hlink := h.isChild_iff.1 hc
  have hlt := h.parentLink_lt hlink
  have hsize := lt_size_of_parentLink hlink
  obtain ⟨levels, hlevels⟩ : ∃ levels, t.size = levels + 1 := ⟨t.size - 1, by omega⟩
  have hup : t.upward levels p = t.upward (levels + 1) p :=
    h.upward_eq (by omega) (by omega) (by omega)
  rw [ancestry, ancestry, hlevels, upward_step hlink, hup, List.reverse_cons]

/-- What is true of the root and of a child if it is of its parent is true of all controls. -/
lemma Recorded.child_induction {motive : NodeId → Prop} (root : 0 < t.size → motive 0)
    (child : ∀ p c, t.IsChild p c → p < t.size → motive p → motive c) (hn : n < t.size) :
    motive n := by
  induction n using Nat.strong_induction_on with
  | _ n ih =>
    by_cases h0 : n = 0
    · exact h0 ▸ root (h0 ▸ hn)
    · obtain ⟨p, hp⟩ := h.exists_isChild hn h0
      have hlt := h.lt_of_isChild hp
      exact child p n hp (Nat.lt_trans hlt hn) (ih p hlt (Nat.lt_trans hlt hn))

lemma Recorded.exists_ancestry (hn : n < t.size) :
    ∃ way, t.ancestry n = way ++ [n] ∧ ∀ a ∈ way, a < n := by
  apply h.child_induction (motive := fun n => ∃ way, t.ancestry n = way ++ [n] ∧ ∀ a ∈ way, a < n)
    ?_ ?_ hn
  · intro hsize
    exact ⟨[], h.ancestry_root hsize, by simp⟩
  · rintro p c hc - ⟨way, hway, hlt⟩
    have hpc := h.lt_of_isChild hc
    refine ⟨t.ancestry p, h.ancestry_child hc, fun a ha => ?_⟩
    rw [hway, List.mem_append, List.mem_singleton] at ha
    rcases ha with ha | rfl
    · exact Nat.lt_trans (hlt a ha) hpc
    · exact hpc

lemma Recorded.mem_ancestry_self (hn : n < t.size) : n ∈ t.ancestry n := by
  obtain ⟨way, hway, -⟩ := h.exists_ancestry hn
  simp [hway]

lemma Recorded.mem_ancestry_child (hc : t.IsChild p c) :
    a ∈ t.ancestry c ↔ a ∈ t.ancestry p ∨ a = c := by
  simp [h.ancestry_child hc]

lemma Recorded.root_mem_ancestry (hn : n < t.size) : 0 ∈ t.ancestry n := by
  apply h.child_induction (motive := fun n => 0 ∈ t.ancestry n) ?_ ?_ hn
  · intro hsize
    exact h.mem_ancestry_self hsize
  · intro p c hc _ hp
    exact (h.mem_ancestry_child hc).2 (.inl hp)

/-- Whoever has a control among its ancestors has the parent of it too. -/
lemma Recorded.mem_ancestry_of_isChild (hc : t.IsChild p c) (hm : m < t.size)
    (hmem : c ∈ t.ancestry m) : p ∈ t.ancestry m := by
  revert hmem
  apply h.child_induction (motive := fun m => c ∈ t.ancestry m → p ∈ t.ancestry m) ?_ ?_ hm
  · intro hsize hmem
    rw [h.ancestry_root hsize, List.mem_singleton] at hmem
    have hlt := h.lt_of_isChild hc
    omega
  · intro q m hq hsize ih hmem
    rw [h.mem_ancestry_child hq] at hmem ⊢
    rcases hmem with hmem | rfl
    · exact .inl (ih hmem)
    · obtain rfl := h.parent_unique hc hq
      exact .inl (h.mem_ancestry_self hsize)

/-- An ancestor has a child on the way down, unless the way ends there. -/
lemma Recorded.exists_child_mem_ancestry (hm : m < t.size) (hmem : n ∈ t.ancestry m)
    (hne : n ≠ m) : ∃ c, t.IsChild n c ∧ c ∈ t.ancestry m := by
  revert hmem hne
  apply h.child_induction
    (motive := fun m => n ∈ t.ancestry m → n ≠ m → ∃ c, t.IsChild n c ∧ c ∈ t.ancestry m) ?_ ?_ hm
  · intro hsize hmem hne
    rw [h.ancestry_root hsize, List.mem_singleton] at hmem
    exact absurd hmem hne
  · intro p m hp hsize ih hmem hne
    rcases (h.mem_ancestry_child hp).1 hmem with hmem | heq
    · by_cases hnp : n = p
      · subst hnp
        exact ⟨m, hp, (h.mem_ancestry_child hp).2 (.inr rfl)⟩
      · obtain ⟨c, hc, hcp⟩ := ih hmem hnp
        exact ⟨c, hc, (h.mem_ancestry_child hp).2 (.inl hcp)⟩
    · exact absurd heq hne

lemma Recorded.alive_of_mem_ancestry (hclosed : t.Closed) (hm : t.alive m = true)
    (hmem : a ∈ t.ancestry m) : t.alive a = true := by
  revert hm hmem
  by_cases hsize : m < t.size
  · apply h.child_induction
      (motive := fun m => t.alive m = true → a ∈ t.ancestry m → t.alive a = true) ?_ ?_ hsize
    · intro hsize hm hmem
      rw [h.ancestry_root hsize, List.mem_singleton] at hmem
      exact hmem ▸ hm
    · intro p c hc _ ih hm hmem
      rcases (h.mem_ancestry_child hc).1 hmem with hmem | rfl
      · exact ih (hclosed p c hc hm) hmem
      · exact hm
  · intro hm
    exact absurd (alive_lt hm) hsize

/-! ### Depths -/

lemma Recorded.depth_child (hc : t.IsChild p c) : t.depth c = t.depth p + 1 := by
  obtain ⟨way, hway, -⟩ := h.exists_ancestry hc.lt_size
  simp [depth, h.ancestry_child hc, hway]

lemma Recorded.depth_le_of_mem_ancestry (hn : n < t.size) (hmem : a ∈ t.ancestry n) :
    t.depth a ≤ t.depth n := by
  revert hmem
  apply h.child_induction (motive := fun n => a ∈ t.ancestry n → t.depth a ≤ t.depth n) ?_ ?_ hn
  · intro hsize hmem
    rw [h.ancestry_root hsize, List.mem_singleton] at hmem
    rw [hmem]
  · intro p c hc _ ih hmem
    have hdepth := h.depth_child hc
    rcases (h.mem_ancestry_child hc).1 hmem with hmem | rfl
    · have := ih hmem
      omega
    · exact Nat.le_refl _

/-- The lowest common ancestor is an ancestor of both. -/
lemma Recorded.lowestCommon_mem (hn : n < t.size) (hm : m < t.size) :
    t.lowestCommon n m ∈ t.ancestry n ∧ t.lowestCommon n m ∈ t.ancestry m := by
  have hroot : 0 ∈ (t.ancestry n).filter (· ∈ t.ancestry m) := by
    simp [h.root_mem_ancestry hn, h.root_mem_ancestry hm]
  have hne := List.ne_nil_of_mem hroot
  have hlast : t.lowestCommon n m = ((t.ancestry n).filter (· ∈ t.ancestry m)).getLast hne := by
    rw [lowestCommon, List.getLastD_eq_getLast?, List.getLast?_eq_some_getLast hne]
    rfl
  have hmem := List.getLast_mem hne
  rw [← hlast, List.mem_filter, decide_eq_true_eq] at hmem
  exact hmem

lemma Recorded.lowestCommon_of_mem (hn : n < t.size) (hmem : n ∈ t.ancestry m) :
    t.lowestCommon n m = n := by
  obtain ⟨way, hway, -⟩ := h.exists_ancestry hn
  simp [lowestCommon, hway, List.filter_append, hmem]

lemma Recorded.lowestCommon_child (hc : t.IsChild p c) (hmem : c ∉ t.ancestry m) :
    t.lowestCommon c m = t.lowestCommon p m := by
  simp [lowestCommon, h.ancestry_child hc, List.filter_append, hmem]

/-! ### One step along a link -/

/-- Going down to a child brings a control nearer to what is below the child. -/
lemma Recorded.distance_parent_of_mem (hc : t.IsChild p c) (hm : m < t.size)
    (hmem : c ∈ t.ancestry m) : t.distance p m = t.distance c m + 1 := by
  have hsize : c < t.size := lt_size_of_parentLink (h.isChild_iff.1 hc)
  have hdepth := h.depth_child hc
  have hle := h.depth_le_of_mem_ancestry hm hmem
  rw [distance, distance, h.lowestCommon_of_mem hsize hmem,
    h.lowestCommon_of_mem hc.lt_size (h.mem_ancestry_of_isChild hc hm hmem)]
  omega

/-- Going down to a child takes a control away from what is not below the child. -/
lemma Recorded.distance_child_of_not_mem (hc : t.IsChild p c) (hm : m < t.size)
    (hmem : c ∉ t.ancestry m) : t.distance c m = t.distance p m + 1 := by
  have hdepth := h.depth_child hc
  obtain ⟨hp, hm'⟩ := h.lowestCommon_mem hc.lt_size hm
  have hlep := h.depth_le_of_mem_ancestry hc.lt_size hp
  have hlem := h.depth_le_of_mem_ancestry hm hm'
  rw [distance, distance, h.lowestCommon_child hc hmem]
  omega

lemma Recorded.distance_self (hn : n < t.size) : t.distance n n = 0 := by
  rw [distance, h.lowestCommon_of_mem hn (h.mem_ancestry_self hn)]
  omega

lemma Recorded.distance_le_of_isChild (hc : t.IsChild p c) (hm : m < t.size) :
    t.distance p m ≤ t.distance c m + 1 ∧ t.distance c m ≤ t.distance p m + 1 := by
  by_cases hmem : c ∈ t.ancestry m
  · have hstep := h.distance_parent_of_mem hc hm hmem
    omega
  · have hstep := h.distance_child_of_not_mem hc hm hmem
    omega

/-! ### Links between valid controls -/

lemma Recorded.parent?_eq_some_iff :
    t.parent? c = some p ↔ t.alive c = true ∧ t.alive p = true ∧ t.IsChild p c := by
  rw [h.isChild_iff, parentLink, parent?, Option.filter_eq_some_iff]
  rcases t.stale_or_alive c with ⟨hc, he⟩ | ⟨hc, e, he, hentry⟩
  · simp [hc, he, Except.toOption]
  · simp [hc, he, hentry, Except.toOption, and_comm]

lemma Recorded.mem_links : c ∈ t.links n ↔
    t.alive n = true ∧ t.alive c = true ∧ (t.IsChild c n ∨ t.IsChild n c) := by
  rw [links, List.mem_append, Option.mem_toList, h.parent?_eq_some_iff, mem_kids]
  tauto

/-- From a control some link leads one step nearer to any other one. -/
lemma Recorded.exists_nearer (hclosed : t.Closed) (hn : t.alive n = true) (hm : t.alive m = true)
    (hne : n ≠ m) : ∃ c ∈ t.links n, t.distance n m = t.distance c m + 1 := by
  have hsize := alive_lt hm
  by_cases hmem : n ∈ t.ancestry m
  · obtain ⟨c, hc, hcm⟩ := h.exists_child_mem_ancestry hsize hmem hne
    have hal := h.alive_of_mem_ancestry hclosed hm hcm
    exact ⟨c, h.mem_links.2 ⟨hn, hal, .inr hc⟩, h.distance_parent_of_mem hc hsize hcm⟩
  · have h0 : n ≠ 0 := fun h0 => hmem (h0 ▸ h.root_mem_ancestry hsize)
    obtain ⟨p, hp⟩ := h.exists_isChild (alive_lt hn) h0
    have hal := hclosed p n hp hn
    exact ⟨p, h.mem_links.2 ⟨hn, hal, .inl hp⟩, h.distance_child_of_not_mem hp hsize hmem⟩

/-- Links between valid controls lead as far as the distance says. -/
theorem Recorded.mem_within_iff (hclosed : t.Closed) (hn : t.alive n = true) :
    m ∈ t.within k n ↔ t.alive m = true ∧ t.distance n m ≤ k := by
  constructor
  · intro hw
    induction k generalizing n with
    | zero =>
      obtain rfl := List.mem_singleton.1 hw
      exact ⟨hn, Nat.le_of_eq (h.distance_self (alive_lt hn))⟩
    | succ k ih =>
      rcases mem_within_succ.1 hw with rfl | ⟨c, hc, hw⟩
      · exact ⟨hn, (h.distance_self (alive_lt hn)).symm ▸ Nat.zero_le _⟩
      · obtain ⟨-, hal, hlink⟩ := h.mem_links.1 hc
        obtain ⟨hm, hle⟩ := ih hal hw
        refine ⟨hm, ?_⟩
        rcases hlink with hlink | hlink
        · have hstep := h.distance_le_of_isChild hlink (alive_lt hm)
          omega
        · have hstep := h.distance_le_of_isChild hlink (alive_lt hm)
          omega
  · rintro ⟨hm, hle⟩
    induction k generalizing n with
    | zero =>
      by_cases hne : n = m
      · exact hne ▸ mem_within_self 0
      · obtain ⟨c, -, hstep⟩ := h.exists_nearer hclosed hn hm hne
        omega
    | succ k ih =>
      by_cases hne : n = m
      · exact hne ▸ mem_within_self _
      · obtain ⟨c, hc, hstep⟩ := h.exists_nearer hclosed hn hm hne
        exact mem_within_succ.2 (.inr ⟨c, hc, ih (alive_of_mem_links hc) (by omega)⟩)

lemma Recorded.distance_le_of_mem_links (hclosed : t.Closed) (hn : t.alive n = true)
    (hp : t.alive p = true) (hm : m ∈ t.links p) : t.distance n m ≤ t.distance n p + 1 := by
  have hreached : p ∈ t.within (t.distance n p) n :=
    (h.mem_within_iff hclosed hn).2 ⟨hp, Nat.le_refl _⟩
  have hnext := mem_within_succ_last.2 (.inr ⟨p, hreached, hm⟩)
  exact ((h.mem_within_iff hclosed hn).1 hnext).2

/-- The way to another control ends with a link from a control that is one step nearer. -/
lemma Recorded.exists_previous (hclosed : t.Closed) (hn : t.alive n = true)
    (hm : t.alive m = true) (hk : t.distance n m = k + 1) :
    ∃ p, t.alive p = true ∧ t.distance n p = k ∧ m ∈ t.links p := by
  have hreached : m ∈ t.within (k + 1) n :=
    (h.mem_within_iff hclosed hn).2 ⟨hm, Nat.le_of_eq hk⟩
  rcases mem_within_succ_last.1 hreached with hnear | ⟨p, hp, hlink⟩
  · have hle := ((h.mem_within_iff hclosed hn).1 hnear).2
    omega
  · obtain ⟨hal, hle⟩ := (h.mem_within_iff hclosed hn).1 hp
    have hstep := h.distance_le_of_mem_links hclosed hn hal hlink
    exact ⟨p, hal, by omega, hlink⟩

end Recorded

end SnapshotTree

end ControlQuery

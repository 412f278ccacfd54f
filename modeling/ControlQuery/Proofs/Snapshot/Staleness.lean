import ControlQuery.Proofs.Snapshot.Image
import ControlQuery.Snapshot.Removal

/-!
# What has gone after removals

A removal takes a control and everything below it, so after any removals a control is stale just if
it, or a control above it, was removed. The order of the removals is of no account, and the others
answer as they did before. A removal that looks at one control after the other comes to an end, and
takes the same controls.
-/

namespace ControlQuery

/-- One removal under way comes from another one by looking at controls. -/
def Removal.Reaches (entries : Array TreeEntry) : Removal → Removal → Prop :=
  Relation.ReflTransGen fun r r' => r.step entries = some r'

namespace SnapshotTree

variable {t : SnapshotTree} {parent : Option NodeId} {n m x : NodeId} {ns ms : List NodeId}

/-! ### Removals under way -/

/-- What is true of the removal of a control from a tree while it is under way: only the control and
what is below it goes, and what of it has not gone is below a control that is still to be looked
at. -/
structure Removing (t : SnapshotTree) (n : NodeId) (r : Removal) : Prop where
  pending : ∀ p ∈ r.pending, p < t.size → p ∈ t.subtree n
  sound : ∀ m ∈ r.removed, m ∈ t.subtree n ∨ m ∈ t.removed
  kept : ∀ m ∈ t.removed, m ∈ r.removed
  missing : ∀ m ∈ t.subtree n, m ∈ r.removed ∨ ∃ p ∈ r.pending, m ∈ t.subtree p

lemma removing_start (t : SnapshotTree) (n : NodeId) : t.Removing n ⟨[n], t.removed⟩ where
  pending := by
    intro p hp hsize
    obtain rfl := List.mem_singleton.1 hp
    exact mem_below_self hsize
  sound := fun m hm => .inr hm
  kept := fun m hm => hm
  missing := fun m hm => .inr ⟨n, List.mem_singleton_self n, hm⟩

section Recorded

variable (h : t.Recorded)
include h

/-- What is below a control is below one of its children, the control itself apart. -/
lemma Recorded.exists_child_of_mem_subtree (hm : m ∈ t.subtree n) :
    m = n ∨ ∃ c, t.IsChild n c ∧ m ∈ t.subtree c := by
  have hn := mem_subtree_lt hm
  rcases ((h.mem_subtree_iff hn).1 hm).cases_head with heq | ⟨c, hc, hcm⟩
  · exact .inl heq.symm
  · have hsize : c < t.size := lt_size_of_parentLink (h.isChild_iff.1 hc)
    exact .inr ⟨c, hc, (h.mem_subtree_iff hsize).2 hcm⟩

lemma Recorded.removing_step {r r' : Removal} (hr : t.Removing n r)
    (hstep : r.step t.entries = some r') : t.Removing n r' := by
  obtain ⟨pending, removed⟩ := r
  cases pending with
  | nil => cases hstep
  | cons p pending =>
    cases he : t.entries[p]? with
    | none =>
      rw [Removal.step_of_no_entry he] at hstep
      obtain rfl := Option.some.inj hstep
      refine ⟨fun q hq => hr.pending q (List.mem_cons_of_mem p hq), hr.sound, hr.kept,
        fun m hm => ?_⟩
      rcases hr.missing m hm with hgone | ⟨q, hq, hmq⟩
      · exact .inl hgone
      · rcases List.mem_cons.1 hq with rfl | hq
        · have hsize := mem_subtree_lt hmq
          rw [Array.getElem?_eq_none_iff] at he
          exact absurd hsize (Nat.not_lt_of_le he)
        · exact .inr ⟨q, hq, hmq⟩
    | some e =>
      rw [Removal.step_of_entry he] at hstep
      obtain rfl := Option.some.inj hstep
      have hsize : p < t.size := (Array.getElem?_eq_some_iff.1 he).1
      have hp := hr.pending p List.mem_cons_self hsize
      constructor
      · intro c hc hcsize
        rcases List.mem_append.1 hc with hc | hc
        · have hchild : t.IsChild p c := ⟨e, he, List.mem_reverse.1 hc⟩
          exact (h.mem_subtree_child hchild).2 (.inr hp)
        · exact hr.pending c (List.mem_cons_of_mem p hc) hcsize
      · intro m hm
        rcases List.mem_cons.1 hm with rfl | hm
        · exact .inl hp
        · exact hr.sound m hm
      · exact fun m hm => List.mem_cons_of_mem p (hr.kept m hm)
      · intro m hm
        rcases hr.missing m hm with hgone | ⟨q, hq, hmq⟩
        · exact .inl (List.mem_cons_of_mem p hgone)
        · rcases List.mem_cons.1 hq with rfl | hq
          · rcases h.exists_child_of_mem_subtree hmq with rfl | ⟨c, ⟨e', he', hc⟩, hmc⟩
            · exact .inl List.mem_cons_self
            · obtain rfl := Option.some.inj (he.symm.trans he')
              exact .inr ⟨c, List.mem_append_left _ (List.mem_reverse.2 hc), hmc⟩
          · exact .inr ⟨q, List.mem_append_right _ hq, hmq⟩

lemma Recorded.removing_of_reaches {r : Removal}
    (hr : Removal.Reaches t.entries ⟨[n], t.removed⟩ r) : t.Removing n r := by
  induction hr with
  | refl => exact t.removing_start n
  | tail _ hstep ih => exact h.removing_step ih hstep

end Recorded

/-- A removal that is over has taken the control and everything below it. -/
lemma Removing.mem_removed {r : Removal} (hr : t.Removing n r)
    (hover : r.step t.entries = none) : m ∈ r.removed ↔ m ∈ (t.remove n).removed := by
  obtain ⟨pending, removed⟩ := r
  obtain rfl : pending = [] := Removal.step_eq_none_iff.1 hover
  change m ∈ removed ↔ m ∈ t.subtree n ++ t.removed
  rw [List.mem_append]
  constructor
  · exact hr.sound m
  · rintro (hm | hm)
    · rcases hr.missing m hm with hgone | ⟨p, hp, -⟩
      · exact hgone
      · cases hp
    · exact hr.kept m hm

/-! ### Removals come to an end -/

mutual

/-- The controls below a control are all looked at before those that are pending behind it. -/
lemma Records.exists_reaches : ∀ (d : SnapshotNode) {parent : Option NodeId} {n : NodeId},
    t.Records parent n d → ∀ pending removed, ∃ removed',
      Removal.Reaches t.entries ⟨n :: pending, removed⟩ ⟨pending, removed'⟩
  | .node properties ds, parent, n, h, pending, removed => by
    obtain ⟨removed', hrest⟩ :=
      RecordsAll.exists_reaches ds h.children pending (n :: removed)
    exact ⟨removed', .head (Removal.step_of_entry h.entry_eq) hrest⟩

lemma RecordsAll.exists_reaches : ∀ (ds : List SnapshotNode) {parent : Option NodeId}
    {n : NodeId}, t.RecordsAll parent n ds → ∀ pending removed, ∃ removed',
      Removal.Reaches t.entries ⟨(SnapshotNode.numbers n ds).reverse ++ pending, removed⟩
        ⟨pending, removed'⟩
  | [], parent, n, h, pending, removed => ⟨removed, .refl⟩
  | d :: ds, parent, n, h, pending, removed => by
    -- the last child is looked at first
    obtain ⟨removed', hlast⟩ := RecordsAll.exists_reaches ds h.tail (n :: pending) removed
    obtain ⟨removed'', hfirst⟩ := Records.exists_reaches d h.head pending removed'
    rw [SnapshotNode.numbers, List.reverse_cons, List.append_assoc, List.singleton_append]
    exact ⟨removed'', hlast.trans hfirst⟩

end

lemma Recorded.exists_removal_over (h : t.Recorded) (n : NodeId) (removed : List NodeId) :
    ∃ r, Removal.Reaches t.entries ⟨[n], removed⟩ r ∧ r.step t.entries = none := by
  by_cases hn : n < t.size
  · obtain ⟨q, d, hd⟩ := h.exists_records hn
    obtain ⟨removed', hreach⟩ := Records.exists_reaches d hd [] removed
    exact ⟨_, hreach, rfl⟩
  · have hnone : t.entries[n]? = none := Array.getElem?_eq_none (Nat.le_of_not_lt hn)
    exact ⟨_, .single (Removal.step_of_no_entry hnone), rfl⟩

/-! ### Answers after removals -/

lemma mem_removed_removeAll :
    x ∈ (t.removeAll ns).removed ↔ x ∈ t.removed ∨ ∃ r ∈ ns, x ∈ t.subtree r := by
  induction ns generalizing t with
  | nil => simp [removeAll]
  | cons r ns ih =>
    have hsame : ∀ k, (t.remove r).subtree k = t.subtree k := t.below_remove r t.size
    have hone : x ∈ (t.remove r).removed ↔ x ∈ t.subtree r ∨ x ∈ t.removed := List.mem_append
    have hstep : t.removeAll (r :: ns) = (t.remove r).removeAll ns := rfl
    rw [hstep, ih, hone, List.exists_mem_cons_iff]
    simp only [hsame]
    tauto

/-- Whether a control is stale depends on what has been removed only. -/
lemma entry_congr {u : SnapshotTree} (hentries : t.entries = u.entries)
    (hremoved : x ∈ t.removed ↔ x ∈ u.removed) : t.entry x = u.entry x := by
  rw [entry, entry, hentries]
  simp only [hremoved]

lemma provider_congr {u : SnapshotTree} (hentries : t.entries = u.entries)
    (hremoved : ∀ x, x ∈ t.removed ↔ x ∈ u.removed) : t.provider = u.provider := by
  have hentry : t.entry = u.entry := funext fun x => entry_congr hentries (hremoved x)
  rw [provider, provider, hentry]

/-- The answers of an entry. -/
lemma answers_of_entry {e : TreeEntry} (h : t.entry x = .ok e) :
    t.provider.parent x = .ok e.parent ∧ t.provider.children x = .ok e.children ∧
      ∀ id, t.provider.property x id = .ok (e.properties.get? id) := by
  simp [provider, h, Except.map]

lemma stale_of_not_alive (h : ¬t.alive x = true) :
    t.provider.parent x = .error .stale ∧ t.provider.children x = .error .stale ∧
      ∀ id, t.provider.property x id = .error .stale := by
  rcases t.stale_or_alive x with ⟨-, he⟩ | ⟨hal, -⟩
  · simp [provider, he, Except.map]
  · exact absurd hal h

/-- A control is still there if neither it nor a control above it has been removed. -/
lemma alive_removeAll_ofNode (root : SnapshotNode) :
    ((ofNode root).removeAll ns).alive x = true ↔ x < (ofNode root).size ∧
      ∀ a, Relation.ReflTransGen (ofNode root).IsChild a x → a ∉ ns := by
  have h := recorded_ofNode root
  rw [alive_removeAll, alive_ofNode_iff, size_ofNode]
  refine and_congr_right fun hx => ⟨fun hout a hax ha => hout a ha ?_, fun hout a ha hmem => ?_⟩
  · have hsize : a < (ofNode root).size := by
      rcases hax.cases_head with rfl | ⟨c, hc, -⟩
      · rwa [size_ofNode]
      · exact hc.lt_size
    exact (h.mem_subtree_iff hsize).2 hax
  · exact hout a ((h.mem_subtree_iff (mem_subtree_lt hmem)).1 hmem) ha

/-- After any removals, of controls or of numbers that belong to none, in any order and however
often, a control is valid just if it belongs to the tree and no control from the root down to it was
removed. The controls that are not valid are stale, all others answer as they did at first, and
neither the size of the tree nor its links change. The same removals in another order come to the
same. Looking at one control after the other, a removal comes to an end, and has then taken what is
removed with the control. -/
theorem provider_removeAll (root : SnapshotNode) (ns : List NodeId) :
    let t := ofNode root
    let u := t.removeAll ns
    (∀ x, u.provider.isValid x = true ↔
        x < t.size ∧ ∀ a, Relation.ReflTransGen t.IsChild a x → a ∉ ns) ∧
      (∀ x, u.provider.isValid x = false →
        u.provider.parent x = .error .stale ∧ u.provider.children x = .error .stale ∧
          ∀ id, u.provider.property x id = .error .stale) ∧
      (∀ x, u.provider.isValid x = true → ∃ e, t.entries[x]? = some e ∧
        ∀ P ∈ [t.provider, u.provider], P.parent x = .ok e.parent ∧
          P.children x = .ok e.children ∧ ∀ id, P.property x id = .ok (e.properties.get? id)) ∧
      (u.size = t.size ∧ u.entries = t.entries) ∧
      (∀ ms, (∀ n, n ∈ ms ↔ n ∈ ns) →
        (∀ x, x ∈ (t.removeAll ms).removed ↔ x ∈ u.removed) ∧
          (t.removeAll ms).provider = u.provider) ∧
      ∀ n, (∃ r, Removal.Reaches u.entries ⟨[n], u.removed⟩ r ∧ r.step u.entries = none) ∧
        ∀ r, Removal.Reaches u.entries ⟨[n], u.removed⟩ r → r.step u.entries = none →
          ∀ x, x ∈ r.removed ↔ x ∈ (u.remove n).removed := by
  intro t u
  have h : u.Recorded := (recorded_ofNode root).removeAll ns
  refine ⟨fun x => alive_removeAll_ofNode root, fun x hx => ?_, fun x hx => ?_,
    ⟨size_removeAll t ns, entries_removeAll t ns⟩, fun ms hms => ?_, fun n => ⟨?_, ?_⟩⟩
  · have hstale : ¬u.alive x = true := Bool.eq_false_iff.1 hx
    exact stale_of_not_alive hstale
  · rcases u.stale_or_alive x with ⟨hstale, -⟩ | ⟨-, e, he, hentry⟩
    · exact absurd hx hstale
    · rw [entries_removeAll] at hentry
      have hfirst : t.entry x = .ok e := by
        rw [entry_ofNode, hentry]
        rfl
      refine ⟨e, hentry, fun P hP => ?_⟩
      rcases List.mem_pair.1 hP with rfl | rfl
      · exact answers_of_entry hfirst
      · exact answers_of_entry he
  · have hremoved : ∀ x, x ∈ (t.removeAll ms).removed ↔ x ∈ u.removed := by
      intro x
      rw [mem_removed_removeAll, mem_removed_removeAll]
      simp only [hms]
    have hentries : (t.removeAll ms).entries = u.entries := by
      rw [entries_removeAll, entries_removeAll]
    exact ⟨hremoved, provider_congr hentries hremoved⟩
  · exact h.exists_removal_over n u.removed
  · intro r hreach hover x
    exact (h.removing_of_reaches hreach).mem_removed hover

/-- A parent is removed twice, and its child and a number that is too great are removed as well.
The removal of the other parent, under way and over. -/
theorem provider_removeAll_nested :
    let leaf : SnapshotNode := .node ∅ []
    let t := ofNode (.node ∅ [.node ∅ [leaf], .node ∅ [leaf]])
    let u := t.removeAll [1, 9, 4, 1, 2]
    let r : Removal := ⟨[], 4 :: 3 :: u.removed⟩
    (u.provider.isValid 2 = false ∧ u.provider.isValid 3 = true ∧
        (∀ n, n ∈ [2, 1, 4, 9] ↔ n ∈ [1, 9, 4, 1, 2]) ∧
        Removal.Reaches u.entries ⟨[3], u.removed⟩ r ∧ r.step u.entries = none) ∧
      (∀ a, Relation.ReflTransGen t.IsChild a 3 → a ∉ [1, 9, 4, 1, 2]) ∧
      u.provider.children 2 = .error .stale ∧ u.provider.children 3 = .ok [4] ∧
      (t.removeAll [2, 1, 4, 9]).provider = u.provider ∧
      ∀ x, x ∈ r.removed ↔ x ∈ (u.remove 3).removed := by
  intro leaf t u r
  obtain ⟨hvalid, hstale, hanswers, -, hsame, hremoval⟩ :=
    provider_removeAll (.node ∅ [.node ∅ [leaf], .node ∅ [leaf]]) [1, 9, 4, 1, 2]
  have hgone : u.provider.isValid 2 = false := by decide +kernel
  have hthere : u.provider.isValid 3 = true := by decide +kernel
  have hnumbers : ∀ n, n ∈ [2, 1, 4, 9] ↔ n ∈ [1, 9, 4, 1, 2] := by
    intro n
    simp only [List.mem_cons, List.not_mem_nil, or_false]
    omega
  have hparent : u.entries[3]? = some ⟨some 0, [4], ∅⟩ := by decide +kernel
  have hchild : u.entries[4]? = some ⟨some 3, [], ∅⟩ := by decide +kernel
  have hfirst : Removal.step u.entries ⟨[3], u.removed⟩ = some ⟨[4], 3 :: u.removed⟩ := by
    rw [Removal.step_of_entry hparent]
    rfl
  have hsecond : Removal.step u.entries ⟨[4], 3 :: u.removed⟩ = some r := by
    rw [Removal.step_of_entry hchild]
    rfl
  have hreach : Removal.Reaches u.entries ⟨[3], u.removed⟩ r := .tail (.single hfirst) hsecond
  obtain ⟨e, he, hboth⟩ := hanswers 3 hthere
  obtain rfl := Option.some.inj (he.symm.trans hparent)
  have hchildren := (hboth u.provider (by simp [u, t])).2.1
  exact ⟨⟨hgone, hthere, hnumbers, hreach, rfl⟩, ((hvalid 3).1 hthere).2, (hstale 2 hgone).2.1,
    hchildren, (hsame _ hnumbers).2, (hremoval 3).2 r hreach rfl⟩

end SnapshotTree

end ControlQuery

import ControlQuery.Proofs.Search.Pauses
import ControlQuery.Proofs.Search.Results
import ControlQuery.Proofs.Snapshot.Subtrees

/-!
# What a paused search still owes

A search that only looks down keeps to the list that it would give if nothing were removed. Whenever
it is paused, the rest of that list is what it still owes: it may leave out a control of the list
only once that control has gone, and a control that has gone does not come back. Stages and walks
down pass this on.
-/

namespace ControlQuery

namespace SnapshotTree

/-- Some more controls may have been removed meanwhile. -/
def Later (t t' : SnapshotTree) : Prop :=
  ∃ ns, t' = t.removeAll ns

variable {t t' t'' : SnapshotTree} {n m : NodeId}

lemma Later.refl (t : SnapshotTree) : t.Later t :=
  ⟨[], rfl⟩

lemma Later.trans (h : t.Later t') (h' : t'.Later t'') : t.Later t'' := by
  obtain ⟨ns, rfl⟩ := h
  obtain ⟨ms, rfl⟩ := h'
  exact ⟨ns ++ ms, (List.foldl_append ..).symm⟩

lemma later_remove (t : SnapshotTree) (n : NodeId) : t.Later (t.remove n) :=
  ⟨[n], rfl⟩

lemma Later.alive (h : t.Later t') (hn : t'.alive n = true) : t.alive n = true := by
  obtain ⟨ns, rfl⟩ := h
  exact alive_of_alive_removeAll hn

lemma Later.entries (h : t.Later t') : t'.entries = t.entries := by
  obtain ⟨ns, rfl⟩ := h
  exact entries_removeAll t ns

lemma Later.value (h : t.Later t') (hn : t'.alive n = true) : t'.value n = t.value n := by
  have hentry : t'.entry n = t.entry n := by
    have hnow := (alive_iff.1 hn).2
    have hbefore := (alive_iff.1 (h.alive hn)).2
    rw [entry, entry, if_neg hnow, if_neg hbefore, h.entries]
  funext id
  rw [SnapshotTree.value, SnapshotTree.value, properties?, properties?, hentry]

lemma Later.below (h : t.Later t') (levels : Nat) (n : NodeId) :
    t'.below levels n = t.below levels n := by
  obtain ⟨ns, rfl⟩ := h
  induction ns generalizing t with
  | nil => rfl
  | cons r ns ih => exact ih.trans (t.below_remove r levels n)

end SnapshotTree

open SnapshotTree (Later entry_of_alive)

namespace Search

/-- From now on the search yields these controls in order, whatever is removed, and leaves one out
only if it has gone. -/
def Owes : Search NodeId → SnapshotTree → List NodeId → Prop
  | finish, t, ns => ∀ n ∈ ns, ¬t.alive n = true
  | fail _, _, _ => False
  | yield n rest, t, ns => ∃ gone ns', ns = gone ++ n :: ns' ∧ (∀ m ∈ gone, ¬t.alive m = true) ∧
    ∀ t', t.Later t' → rest.Owes t' ns'
  | ask r next, t, ns => (next (t.provider.reply r)).Owes t ns

variable {s u : Search NodeId} {t : SnapshotTree} {ns ms gone : List NodeId} {n : NodeId}

/-! ### Stages -/

lemma Owes.gone_append (h : s.Owes t ns) (hgone : ∀ m ∈ gone, ¬t.alive m = true) :
    s.Owes t (gone ++ ns) := by
  induction s with
  | finish =>
    intro m hm
    rcases List.mem_append.1 hm with hm | hm
    · exact hgone m hm
    · exact h m hm
  | fail e => exact h
  | yield n rest ih =>
    obtain ⟨gone', ns', rfl, hgone', hrest⟩ := h
    refine ⟨gone ++ gone', ns', (List.append_assoc ..).symm, fun m hm => ?_, hrest⟩
    rcases List.mem_append.1 hm with hm | hm
    · exact hgone m hm
    · exact hgone' m hm
  | ask r next ih => exact ih _ h

lemma owes_finish (t : SnapshotTree) : (finish : Search NodeId).Owes t [] := by
  intro m hm
  cases hm

lemma owes_yield {rest : Search NodeId} (h : ∀ t', t.Later t' → rest.Owes t' ns) :
    (yield n rest).Owes t (n :: ns) := by
  have hnone : ∀ m ∈ ([] : List NodeId), ¬t.alive m = true := by simp
  exact ⟨[], ns, rfl, hnone, h⟩

lemma owes_one (n : NodeId) (t : SnapshotTree) : (one n).Owes t [n] :=
  owes_yield fun t' _ => owes_finish t'

lemma Owes.append (hs : s.Owes t ns) (hu : ∀ t', t.Later t' → u.Owes t' ms) :
    (s.append u).Owes t (ns ++ ms) := by
  induction s generalizing t ns with
  | finish => exact (hu t (Later.refl t)).gone_append hs
  | fail e => exact hs
  | yield n rest ih =>
    obtain ⟨gone, ns', rfl, hgone, hrest⟩ := hs
    refine ⟨gone, ns' ++ ms, by simp, hgone, fun t' ht => ?_⟩
    exact ih (hrest t' ht) fun t'' ht' => hu t'' (ht.trans ht')
  | ask r next ih => exact ih _ hs hu

lemma Owes.flatMap {f : NodeId → Search NodeId} {g : NodeId → List NodeId} (hs : s.Owes t ns)
    (hf : ∀ t', t.Later t' → ∀ n, (f n).Owes t' (g n))
    (hg : ∀ t', t.Later t' → ∀ n, ¬t'.alive n = true → ∀ m ∈ g n, ¬t'.alive m = true) :
    (s.flatMap f).Owes t (ns.flatMap g) := by
  have hdead : ∀ t', t.Later t' → ∀ gone, (∀ n ∈ gone, ¬t'.alive n = true) →
      ∀ m ∈ List.flatMap g gone, ¬t'.alive m = true := by
    intro t' ht gone hgone m hm
    obtain ⟨n, hn, hm⟩ := List.mem_flatMap.1 hm
    exact hg t' ht n (hgone n hn) m hm
  induction s generalizing t ns with
  | finish => exact hdead t (Later.refl t) ns hs
  | fail e => exact hs
  | yield n rest ih =>
    obtain ⟨gone, ns', rfl, hgone, hrest⟩ := hs
    rw [List.flatMap_append, List.flatMap_cons]
    refine Owes.gone_append ?_ (hdead t (Later.refl t) gone hgone)
    refine (hf t (Later.refl t) n).append fun t' ht => ?_
    exact ih (hrest t' ht) (fun t'' ht' => hf t'' (ht.trans ht'))
      (fun t'' ht' => hg t'' (ht.trans ht')) fun t'' ht' => hdead t'' (ht.trans ht')
  | ask r next ih => exact ih _ hs hf hg hdead

/-- What is new in a row of lists is new in the first one, or new in the second one and not in the
first. -/
lemma eraseDups_filter_append (ns ms old : List NodeId) :
    ((ns ++ ms).filter (· ∉ old)).eraseDups =
      (ns.filter (· ∉ old)).eraseDups ++ (ms.filter (· ∉ ns ++ old)).eraseDups := by
  rw [List.filter_append, List.eraseDups_append]
  congr 2
  rw [List.removeAll, List.filter_filter]
  refine List.filter_congr fun m _ => ?_
  by_cases hold : m ∈ old <;> by_cases hm : m ∈ ns <;> simp [hold, hm]

lemma filter_notMem_cons (h : n ∈ ms) : (n :: ns).filter (· ∉ ms) = ns.filter (· ∉ ms) :=
  List.filter_cons_of_neg (by simpa using h)

/-- What stood in the list so far has been yielded, as `seen` says, or has gone. -/
lemma Owes.distinct (hs : s.Owes t ns) (hv : s.Vouched (fun _ => False) t)
    (seen old : List NodeId) (hseen : ∀ m ∈ seen, m ∈ old)
    (hold : ∀ m ∈ old, m ∉ seen → ¬t.alive m = true) :
    (s.distinct seen).Owes t (ns.filter (· ∉ old)).eraseDups := by
  induction s generalizing t ns seen old with
  | finish =>
    intro m hm
    exact hs m (List.mem_filter.1 (List.mem_eraseDups.1 hm)).1
  | fail e => exact hs
  | yield n rest ih =>
    obtain ⟨gone, ns', rfl, hgone, hrest⟩ := hs
    have hn : t.alive n = true := hv.1.resolve_right not_false
    have hseen' : ∀ m ∈ seen, m ∈ gone ++ old := fun m hm => List.mem_append_right _ (hseen m hm)
    have hold' : ∀ m ∈ gone ++ old, m ∉ seen → ¬t.alive m = true := by
      intro m hm hms
      rcases List.mem_append.1 hm with hm | hm
      · exact hgone m hm
      · exact hold m hm hms
    have hdead : ∀ m ∈ (gone.filter (· ∉ old)).eraseDups, ¬t.alive m = true := fun m hm =>
      hgone m (List.mem_filter.1 (List.mem_eraseDups.1 hm)).1
    rw [eraseDups_filter_append, Search.distinct]
    refine Owes.gone_append ?_ hdead
    -- A control that is there now was there all along, so if it stood in the list it was yielded.
    by_cases hns : n ∈ seen
    · rw [if_pos hns, filter_notMem_cons (hseen' n hns)]
      exact ih (hrest t (Later.refl t)) (hv.2 t) seen _ hseen' hold'
    · have hnew : n ∉ gone ++ old := fun hmem => hold' n hmem hns hn
      rw [if_neg hns, eraseDups_filter_cons hnew]
      refine owes_yield fun t' ht => ?_
      refine ih (hrest t' ht) (hv.2 t') _ _ (fun m hm => ?_) fun m hm hms hal => ?_
      · rcases List.mem_cons.1 hm with rfl | hm
        · exact List.mem_cons_self
        · exact List.mem_cons_of_mem n (hseen' m hm)
      · rw [List.mem_cons, not_or] at hms
        rcases List.mem_cons.1 hm with rfl | hm
        · exact hms.1 rfl
        · exact hold' m hm hms.2 (ht.alive hal)
  | ask r next ih => exact ih _ hs hv seen old hseen hold

lemma owes_search {i : Inquiry NodeId Bool} {k : Bool → Search NodeId} {b : Bool}
    (hi : i.run t.provider = .ok b) (hk : (k b).Owes t ns) : (i.search k).Owes t ns := by
  induction i with
  | done a =>
    cases hi
    exact hk
  | fail e => cases hi
  | ask r next ih => exact ih _ hi

/-- A filter may judge a control that has gone as it likes. -/
lemma Owes.filter {p : NodeId → Inquiry NodeId Bool} {b : NodeId → Bool} (hs : s.Owes t ns)
    (hp : ∀ t', t.Later t' → ∀ n, ∃ keep, (p n).run t'.provider = .ok keep ∧
      (keep = true → b n = true) ∧ (keep = false → t'.alive n = true → b n = false)) :
    (s.filter p).Owes t (ns.filter b) := by
  induction s generalizing t ns with
  | finish => exact fun m hm => hs m (List.mem_filter.1 hm).1
  | fail e => exact hs
  | yield n rest ih =>
    obtain ⟨gone, ns', rfl, hgone, hrest⟩ := hs
    have hlater : ∀ t', t.Later t' → (rest.filter p).Owes t' (ns'.filter b) := fun t' ht =>
      ih (hrest t' ht) fun t'' ht' => hp t'' (ht.trans ht')
    have hdead : ∀ m ∈ gone.filter b, ¬t.alive m = true := fun m hm =>
      hgone m (List.mem_filter.1 hm).1
    obtain ⟨keep, hrun, hkeep, hdrop⟩ := hp t (Later.refl t) n
    rw [List.filter_append]
    refine Owes.gone_append (owes_search hrun ?_) hdead
    cases keep with
    | true =>
      -- Kept now and in the list: it is the next one that is owed.
      rw [List.filter_cons_of_pos (hkeep rfl)]
      exact owes_yield hlater
    | false =>
      have hnow := hlater t (Later.refl t)
      cases hb : b n with
      | false =>
        rw [List.filter_cons_of_neg (by simp [hb])]
        exact hnow
      | true =>
        -- Dropped now although in the list: it has gone.
        have hn : ¬t.alive n = true := fun hal => by simp [hdrop rfl hal] at hb
        rw [List.filter_cons_of_pos hb]
        have hgone : ∀ m ∈ [n], ¬t.alive m = true := by simpa using hn
        exact hnow.gone_append hgone
  | ask r next ih => exact ih _ hs hp

/-! ### Walks -/

lemma owes_keepValid {k : List NodeId → Search NodeId} (h : (k (ns.filter t.alive)).Owes t ms) :
    (keepValid ns k).Owes t ms := by
  induction ns generalizing k with
  | nil => exact h
  | cons n ns ih =>
    refine ih ?_
    change (k (if t.alive n = true then n :: ns.filter t.alive else ns.filter t.alive)).Owes t ms
    rwa [← List.filter_cons]

lemma owes_isValid {here away : Search NodeId} (hhere : t.alive n = true → here.Owes t ns)
    (haway : ¬t.alive n = true → away.Owes t ns) :
    (ask (.isValid n) fun valid => if valid then here else away).Owes t ns := by
  change (if t.alive n = true then here else away).Owes t ns
  by_cases hn : t.alive n = true
  · rw [if_pos hn]
    exact hhere hn
  · rw [if_neg hn]
    exact haway hn

section Walks

variable {t₀ : SnapshotTree} (h₀ : t₀.Recorded) (hclosed : t₀.Closed)
include h₀ hclosed

/-- Nothing that a walk led to is left once its start has gone. -/
lemma not_alive_of_mem_preorder (ht : t₀.Later t) {levels : Nat} (hn : ¬t.alive n = true)
    {m : NodeId} (hm : m ∈ t₀.preorder levels n) : ¬t.alive m = true := by
  have hbelow := SnapshotTree.mem_below_of_mem_preorder hm
  rw [← ht.below] at hbelow
  have hclosed' : t.Closed := by
    obtain ⟨ns, rfl⟩ := ht
    exact h₀.closed_removeAll hclosed ns
  exact fun hal => hn (hclosed'.alive_of_mem_below hbelow hal)

lemma not_alive_of_mem_withSelf (ht : t₀.Later t) (includeSelf : Bool) {levels : Nat}
    (hn : ¬t.alive n = true) {m : NodeId}
    (hm : m ∈ SnapshotTree.withSelf includeSelf n (t₀.preorder levels n)) : ¬t.alive m = true := by
  rcases SnapshotTree.of_mem_withSelf hm with rfl | hm
  · exact hn
  · exact not_alive_of_mem_preorder h₀ hclosed ht hn hm

lemma owes_visit {levels : Nat} {rest : Search NodeId} (ht : t₀.Later t)
    (hbelow : ∀ t', t.Later t' → (descend levels n rest).Owes t' (t₀.preorder levels n ++ ns))
    (hrest : rest.Owes t ns) :
    (descend.visit (descend levels) n rest).Owes t (n :: t₀.preorder levels n ++ ns) := by
  refine owes_isValid (fun _ => owes_yield hbelow) fun hn => ?_
  exact hrest.gone_append fun m hm =>
    not_alive_of_mem_withSelf h₀ hclosed ht true hn hm

/-- The children that were there when they were asked for, each in its turn. -/
lemma owes_visits {levels : Nat} {rest : Search NodeId}
    (hdescend : ∀ {t rest ns} (c : NodeId), t₀.Later t → (∀ t', t.Later t' → rest.Owes t' ns) →
      (descend levels c rest).Owes t (t₀.preorder levels c ++ ns))
    (ht : t₀.Later t) (hrest : ∀ t', t.Later t' → rest.Owes t' ns) (cs : List NodeId) :
    ∀ t', t.Later t' →
      ((cs.filter t.alive).foldr (fun c rest => descend.visit (descend levels) c rest) rest).Owes t'
        (((cs.filter t₀.alive).flatMap fun c => c :: t₀.preorder levels c) ++ ns) := by
  induction cs with
  | nil => exact hrest
  | cons c cs ih =>
    intro t' ht'
    have hlater : t₀.Later t' := ht.trans ht'
    by_cases hc : t.alive c = true
    · rw [List.filter_cons_of_pos hc, List.filter_cons_of_pos (ht.alive hc), List.foldr_cons,
        List.flatMap_cons, List.append_assoc]
      refine owes_visit h₀ hclosed hlater (fun r hr => ?_) (ih t' ht')
      exact hdescend c (hlater.trans hr) fun r' hr' => ih r' ((ht'.trans hr).trans hr')
    · have hgone : ¬t'.alive c = true := fun hal => hc (ht'.alive hal)
      rw [List.filter_cons_of_neg hc]
      by_cases hc₀ : t₀.alive c = true
      · rw [List.filter_cons_of_pos hc₀, List.flatMap_cons, List.append_assoc]
        exact (ih t' ht').gone_append fun m hm =>
          not_alive_of_mem_withSelf h₀ hclosed hlater true hgone hm
      · rw [List.filter_cons_of_neg hc₀]
        exact ih t' ht'

lemma owes_descend (levels : Nat) (n : NodeId) {rest : Search NodeId} (ht : t₀.Later t)
    (hrest : ∀ t', t.Later t' → rest.Owes t' ns) :
    (descend levels n rest).Owes t (t₀.preorder levels n ++ ns) := by
  induction levels generalizing t n rest ns with
  | zero => exact hrest t (Later.refl t)
  | succ levels ih =>
    rw [descend, Owes]
    rcases t.stale_or_alive n with ⟨hn, he⟩ | ⟨hn, e, he, hentry⟩
    · simp only [Provider.reply, SnapshotTree.provider, he, Except.map]
      exact (hrest t (Later.refl t)).gone_append fun m hm =>
        not_alive_of_mem_preorder h₀ hclosed ht hn hm
    · have hkids : t₀.kids n = e.children.filter t₀.alive := by
        rw [ht.entries] at hentry
        simp [SnapshotTree.kids, entry_of_alive (ht.alive hn) hentry, Except.toOption]
      simp only [Provider.reply, SnapshotTree.provider, he, Except.map]
      rw [SnapshotTree.preorder, hkids]
      refine owes_keepValid ?_
      exact owes_visits h₀ hclosed (fun c ht' hrest' => ih c ht' hrest') ht hrest e.children t
        (Later.refl t)

lemma owes_descendants (levels : Nat) (includeSelf : Bool) (n : NodeId) (ht : t₀.Later t) :
    (descendants levels includeSelf n).Owes t
      (SnapshotTree.withSelf includeSelf n (t₀.preorder levels n)) := by
  have hbelow : ∀ t', t.Later t' →
      (descend levels n finish).Owes t' (t₀.preorder levels n ++ []) := fun t' ht' =>
    owes_descend h₀ hclosed levels n (ht.trans ht') fun t'' _ => owes_finish t''
  cases includeSelf with
  | false =>
    have hnow := hbelow t (Later.refl t)
    rwa [List.append_nil] at hnow
  | true =>
    have hvisit := owes_visit h₀ hclosed ht hbelow (owes_finish t)
    rwa [List.append_nil] at hvisit

end Walks

end Search

end ControlQuery

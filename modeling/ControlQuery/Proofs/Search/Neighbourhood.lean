import ControlQuery.Proofs.Search.Walks

/-!
# The neighbourhood of a control

The breadth-first search along links finds every control that so many links lead to, whichever way
it goes. What carries the search from one distance to the next is that the links of all controls
found so far lead to controls found so far, except from those that are still in the queue.
-/

namespace ControlQuery

namespace SnapshotTree

variable {t : SnapshotTree} {n m : NodeId}

lemma mem_within_succ {steps : Nat} :
    m ∈ t.within (steps + 1) n ↔ m = n ∨ ∃ c ∈ t.links n, m ∈ t.within steps c := by
  rw [within, List.mem_cons, List.mem_flatMap]

lemma mem_within_self (steps : Nat) : n ∈ t.within steps n := by
  cases steps with
  | zero => exact List.mem_singleton_self n
  | succ steps => exact List.mem_cons_self

lemma mem_within_succ_of_mem {steps : Nat} (h : m ∈ t.within steps n) :
    m ∈ t.within (steps + 1) n := by
  induction steps generalizing n with
  | zero =>
    obtain rfl := List.mem_singleton.1 h
    exact mem_within_self 1
  | succ steps ih =>
    rcases mem_within_succ.1 h with rfl | ⟨c, hc, h⟩
    · exact mem_within_self _
    · exact mem_within_succ.2 (.inr ⟨c, hc, ih h⟩)

lemma mem_within_succ_last {steps : Nat} :
    m ∈ t.within (steps + 1) n ↔
      m ∈ t.within steps n ∨ ∃ p ∈ t.within steps n, m ∈ t.links p := by
  constructor
  · intro h
    induction steps generalizing n with
    | zero =>
      rcases mem_within_succ.1 h with rfl | ⟨c, hc, h⟩
      · exact .inl (mem_within_self 0)
      · obtain rfl := List.mem_singleton.1 h
        exact .inr ⟨n, mem_within_self 0, hc⟩
    | succ steps ih =>
      rcases mem_within_succ.1 h with rfl | ⟨c, hc, h⟩
      · exact .inl (mem_within_self _)
      · rcases ih h with h | ⟨p, hp, h⟩
        · exact .inl (mem_within_succ.2 (.inr ⟨c, hc, h⟩))
        · exact .inr ⟨p, mem_within_succ.2 (.inr ⟨c, hc, hp⟩), h⟩
  · rintro (h | ⟨p, hp, h⟩)
    · exact mem_within_succ_of_mem h
    · induction steps generalizing n with
      | zero =>
        obtain rfl := List.mem_singleton.1 hp
        exact mem_within_succ.2 (.inr ⟨m, h, mem_within_self 0⟩)
      | succ steps ih =>
        rcases mem_within_succ.1 hp with rfl | ⟨c, hc, hp⟩
        · exact mem_within_succ.2 (.inr ⟨m, h, mem_within_self _⟩)
        · exact mem_within_succ.2 (.inr ⟨c, hc, ih hp⟩)

/-- Links lead from `seen` to nothing new, except from the controls in the queue. -/
def Settled (t : SnapshotTree) (queue seen : List NodeId) : Prop :=
  ∀ n ∈ seen, n ∉ queue → ∀ c ∈ t.links n, c ∈ seen

/-- Whatever is still to be found lies behind a new control that the queue leads to. -/
lemma Settled.exists_new {queue seen : List NodeId} (h : t.Settled queue seen) {steps : Nat}
    (hn : n ∈ seen) (hm : m ∉ seen) (hw : m ∈ t.within (steps + 1) n) :
    ∃ q ∈ queue, ∃ c ∈ t.links q, c ∉ seen ∧ m ∈ t.within steps c := by
  induction steps generalizing n with
  | zero =>
    rcases mem_within_succ.1 hw with rfl | ⟨c, hc, hw⟩
    · exact absurd hn hm
    · obtain rfl := List.mem_singleton.1 hw
      have hq : n ∈ queue := by
        by_contra hq
        exact hm (h n hn hq m hc)
      exact ⟨n, hq, m, hc, hm, mem_within_self 0⟩
  | succ steps ih =>
    rcases mem_within_succ.1 hw with rfl | ⟨c, hc, hw⟩
    · exact absurd hn hm
    · by_cases hseen : c ∈ seen
      · obtain ⟨q, hq, d, hd, hnew, hwd⟩ := ih hseen hw
        exact ⟨q, hq, d, hd, hnew, mem_within_succ_of_mem hwd⟩
      · have hq : n ∈ queue := by
          by_contra hq
          exact hseen (h n hn hq c hc)
        exact ⟨n, hq, c, hc, hseen, hw⟩

end SnapshotTree

/-- The request is for the parent or the children of a control. -/
def Request.IsLink {ν : Type} (n : ν) (r : Request ν) : Prop :=
  r = .parent n ∨ r = .children n

namespace Search

open SnapshotTree (entry_eq_stale_or_ok mem_within_succ Settled)

variable (t : SnapshotTree)

lemma leads_isValid {n : NodeId} {next : Bool → Search NodeId} {known ns : List NodeId}
    {u : Search NodeId}
    (h : (next (t.alive n)).Leads t.provider (Request.Allowed Request.IsLink known) ns u) :
    (ask (.isValid n) next).Leads t.provider (Request.Allowed Request.IsLink known) ns u :=
  .ask (.inl ⟨n, rfl⟩) h

lemma leads_discover (ns next seen : List NodeId) : ∃ next' seen' : List NodeId,
    (∀ m, m ∈ next' ↔ m ∈ next ∨ m ∉ seen ∧ m ∈ ns.filter t.alive) ∧
    (∀ m, m ∈ seen' ↔ m ∈ seen ∨ m ∈ ns.filter t.alive) ∧
    (next.Nodup → (∀ m ∈ next, m ∈ seen) → next'.Nodup) ∧
    ∀ (known : List NodeId) (k : List NodeId → List NodeId → Search NodeId),
      (discover ns next seen k).Leads t.provider (Request.Allowed Request.IsLink known) []
        (k next' seen') := by
  induction ns generalizing next seen with
  | nil => exact ⟨next, seen, by simp, by simp, fun h _ => h, fun known k => .here _⟩
  | cons n ns ih =>
    by_cases hn : t.alive n = true ∧ n ∉ seen
    · obtain ⟨next', seen', hnext, hseen, hnodup, hk⟩ := ih (next ++ [n]) (n :: seen)
      refine ⟨next', seen', fun m => ?_, fun m => ?_, fun hnd hsub => hnodup ?_ ?_,
        fun known k => ?_⟩
      · rw [hnext, List.filter_cons_of_pos hn.1]
        by_cases hm : m = n
        · subst hm
          simp [hn.2]
        · simp [hm]
      · rw [hseen, List.filter_cons_of_pos hn.1, List.mem_cons, List.mem_cons]
        tauto
      · have hnew : n ∉ next := fun hmem => hn.2 (hsub n hmem)
        refine List.nodup_append.2 ⟨hnd, by simp, fun a ha b hb => ?_⟩
        rintro rfl
        exact hnew (List.mem_singleton.1 hb ▸ ha)
      · intro m hm
        rcases List.mem_append.1 hm with hm | hm
        · exact List.mem_cons_of_mem n (hsub m hm)
        · exact List.mem_singleton.1 hm ▸ List.mem_cons_self
      · refine leads_isValid t ?_
        rw [if_pos hn]
        exact hk known k
    · obtain ⟨next', seen', hnext, hseen, hnodup, hk⟩ := ih next seen
      have hsame : ∀ m, m ∉ seen → (m ∈ (n :: ns).filter t.alive ↔ m ∈ ns.filter t.alive) := by
        intro m hm
        have hne : m = n → ¬t.alive n = true := fun h halive => hn ⟨halive, h ▸ hm⟩
        rw [List.mem_filter, List.mem_filter, List.mem_cons]
        constructor
        · rintro ⟨rfl | hmem, halive⟩
          · exact absurd halive (hne rfl)
          · exact ⟨hmem, halive⟩
        · rintro ⟨hmem, halive⟩
          exact ⟨.inr hmem, halive⟩
      refine ⟨next', seen', fun m => ?_, fun m => ?_, hnodup, fun known k => ?_⟩
      · rw [hnext]
        exact or_congr_right (and_congr_right fun hm => (hsame m hm).symm)
      · rw [hseen]
        by_cases hm : m ∈ seen
        · simp [hm]
        · rw [hsame m hm]
      · refine leads_isValid t ?_
        rw [if_neg hn]
        exact hk known k

lemma leads_neighbours (n : NodeId) : ∃ found : List NodeId,
    found.filter t.alive = t.links n ∧
    ∀ (known : List NodeId) (k : List NodeId → Search NodeId), n ∈ known →
      (neighbours n k).Leads t.provider (Request.Allowed Request.IsLink known) [] (k found) := by
  rcases entry_eq_stale_or_ok t n with he | ⟨e, he, -⟩
  · refine ⟨[], ?_, fun known k hn => .ask (.inr ⟨n, hn, .inl rfl⟩) ?_⟩
    · simp [SnapshotTree.links, SnapshotTree.parent?, SnapshotTree.kids, he, Except.toOption]
    · simp only [Provider.reply, SnapshotTree.provider, he, Except.map]
      exact .here _
  · refine ⟨e.parent.toList ++ e.children, ?_,
      fun known k hn => .ask (.inr ⟨n, hn, .inl rfl⟩) ?_⟩
    · simp only [SnapshotTree.links, SnapshotTree.parent?, SnapshotTree.kids, he, Except.toOption,
        Option.bind_some, Option.map_some, Option.getD_some, List.filter_append]
      congr 1
      cases e.parent with
      | none => rfl
      | some p => cases hp : t.alive p <;> simp [hp, Option.filter_some]
    · simp only [Provider.reply, SnapshotTree.provider, he, Except.map]
      refine .ask (.inr ⟨n, hn, .inr rfl⟩) ?_
      simp only [Provider.reply, he]
      exact .here _

/-- Serving valid controls finds what their links lead to. -/
lemma leads_serve (shown : Bool) {queue : List NodeId} (hq : ∀ q ∈ queue, t.alive q = true)
    (next seen : List NodeId) : ∃ next' seen' : List NodeId,
    (∀ m, m ∈ next' ↔ m ∈ next ∨ m ∉ seen ∧ ∃ q ∈ queue, m ∈ t.links q) ∧
    (∀ m, m ∈ seen' ↔ m ∈ seen ∨ ∃ q ∈ queue, m ∈ t.links q) ∧
    (next.Nodup → (∀ m ∈ next, m ∈ seen) → next'.Nodup) ∧
    ∀ (k : List NodeId → List NodeId → Search NodeId) (later : List NodeId),
      (serve true shown k (queue ++ later) next seen).Leads t.provider
        (Request.Allowed Request.IsLink queue) (if shown then queue else [])
        (serve true shown k later next' seen') := by
  induction queue generalizing next seen with
  | nil =>
    refine ⟨next, seen, by simp, by simp, fun h _ => h, fun k later => ?_⟩
    cases shown <;> exact .here _
  | cons n queue ih =>
    obtain ⟨found, hfound, hlinks⟩ := leads_neighbours t n
    obtain ⟨next₁, seen₁, hnext₁, hseen₁, hnodup₁, hdiscover⟩ := leads_discover t found next seen
    obtain ⟨next₂, seen₂, hnext₂, hseen₂, hnodup₂, hserve⟩ :=
      ih (fun q h => hq q (List.mem_cons_of_mem n h)) next₁ seen₁
    rw [hfound] at hnext₁ hseen₁
    have hnd : next.Nodup → (∀ m ∈ next, m ∈ seen) → next₂.Nodup := by
      intro hnd hsub
      refine hnodup₂ (hnodup₁ hnd hsub) fun m hm => (hseen₁ m).2 ?_
      rcases (hnext₁ m).1 hm with hm | ⟨-, hm⟩
      · exact .inl (hsub m hm)
      · exact .inr hm
    clear hnodup₁ hnodup₂
    refine ⟨next₂, seen₂, fun m => ?_, fun m => ?_, hnd, fun k later => leads_isValid t ?_⟩
    · rw [hnext₂, hnext₁, hseen₁]
      by_cases hlink : m ∈ t.links n <;> simp [hlink]
    · rw [hseen₂, hseen₁, or_assoc]
      simp only [List.mem_cons, exists_eq_or_imp]
    · rw [if_pos (hq n List.mem_cons_self)]
      have hrest := (hserve k later).mono fun r hr =>
        hr.mono fun q hq => List.mem_cons_of_mem n hq
      refine (hlinks (n :: queue) (fun found => discover found next seen _)
        List.mem_cons_self).trans ((hdiscover _ _).trans ?_)
      cases shown with
      | true => exact .yield hrest
      | false => exact hrest

/-- At the last distance nothing is looked for any more. -/
lemma leads_serve_last (shown : Bool) {queue : List NodeId} (hq : ∀ q ∈ queue, t.alive q = true)
    (k : List NodeId → List NodeId → Search NodeId) (later next seen known : List NodeId) :
    (serve false shown k (queue ++ later) next seen).Leads t.provider
      (Request.Allowed Request.IsLink known) (if shown then queue else [])
      (serve false shown k later next seen) := by
  induction queue with
  | nil => cases shown <;> exact .here _
  | cons n queue ih =>
    refine leads_isValid t ?_
    rw [if_pos (hq n List.mem_cons_self)]
    have hrest := ih fun q h => hq q (List.mem_cons_of_mem n h)
    cases shown with
    | true => exact .yield hrest
    | false => exact hrest

lemma around_nil {ν : Type} [DecidableEq ν] (steps : Nat) (shown : Bool) (seen : List ν) :
    around steps shown [] seen = finish := by
  cases steps <;> rfl

/-- The controls at one distance are served, then the search goes on with those they lead to. -/
lemma leads_around (steps : Nat) (shown : Bool) {queue : List NodeId}
    (hq : ∀ q ∈ queue, t.alive q = true) (seen : List NodeId) : ∃ next seen' : List NodeId,
    (∀ m, m ∈ next ↔ m ∉ seen ∧ ∃ q ∈ queue, m ∈ t.links q) ∧
    (∀ m, m ∈ seen' ↔ m ∈ seen ∨ ∃ q ∈ queue, m ∈ t.links q) ∧ next.Nodup ∧
    (around (steps + 1) shown queue seen).Leads t.provider
      (Request.Allowed Request.IsLink queue) (if shown then queue else [])
      (around steps true next seen') := by
  obtain ⟨next, seen', hnext, hseen, hnodup, hserve⟩ := leads_serve t shown hq [] seen
  have hnew : ∀ m, m ∈ next ↔ m ∉ seen ∧ ∃ q ∈ queue, m ∈ t.links q := by
    intro m
    rw [hnext]
    simp
  have hleads := hserve
    (fun next seen => if next.isEmpty then finish else around steps true next seen) []
  have honwards : serve true shown
      (fun next seen => if next.isEmpty then finish else around steps true next seen) [] next
      seen' = around steps true next seen' := by
    cases next with
    | nil => exact (around_nil steps true seen').symm
    | cons n next => rfl
  rw [List.append_nil, honwards] at hleads
  exact ⟨next, seen', hnew, hseen, hnodup List.nodup_nil (by simp), hleads⟩

theorem yields_around (steps : Nat) (shown : Bool) (queue seen : List NodeId)
    (hq : ∀ q ∈ queue, t.alive q = true) (hsub : ∀ q ∈ queue, q ∈ seen)
    (hsettled : t.Settled queue seen) : ∃ ns : List NodeId,
    (around steps shown queue seen).Yields t.provider ns ∧
    ∀ m, m ∈ ns ↔ shown = true ∧ m ∈ queue ∨ m ∉ seen ∧ ∃ q ∈ queue, m ∈ t.within steps q := by
  induction steps generalizing shown queue seen with
  | zero =>
    have hlast := (leads_serve_last t shown hq (fun _ _ => finish) [] [] seen []).yields
      yields_finish
    rw [List.append_nil, List.append_nil] at hlast
    refine ⟨_, hlast, fun m => ?_⟩
    have hnone : ¬(m ∉ seen ∧ ∃ q ∈ queue, m ∈ t.within 0 q) := by
      rintro ⟨hm, q, hqueue, hw⟩
      obtain rfl := List.mem_singleton.1 hw
      exact hm (hsub m hqueue)
    cases shown <;> simp [hnone]
  | succ steps ih =>
    obtain ⟨next, seen', hnew, hseen', -, hleads⟩ := leads_around t steps shown hq seen
    have halive : ∀ q ∈ next, t.alive q = true := by
      intro q h
      obtain ⟨-, p, -, hp⟩ := (hnew q).1 h
      exact SnapshotTree.alive_of_mem_links hp
    have hsub' : ∀ q ∈ next, q ∈ seen' := fun q h => (hseen' q).2 (.inr ((hnew q).1 h).2)
    have hsettled' : t.Settled next seen' := by
      intro n hn hne c hc
      rcases (hseen' n).1 hn with hn | hn
      · by_cases hnq : n ∈ queue
        · exact (hseen' c).2 (.inr ⟨n, hnq, hc⟩)
        · exact (hseen' c).2 (.inl (hsettled n hn hnq c hc))
      · by_cases hold : n ∈ seen
        · by_cases hnq : n ∈ queue
          · exact (hseen' c).2 (.inr ⟨n, hnq, hc⟩)
          · exact (hseen' c).2 (.inl (hsettled n hold hnq c hc))
        · exact absurd ((hnew n).2 ⟨hold, hn⟩) hne
    obtain ⟨ms, hms, hmem⟩ := ih true next seen' halive hsub' hsettled'
    refine ⟨_, hleads.yields hms, fun m => ?_⟩
    have hms_iff : m ∈ ms ↔ m ∉ seen ∧ ∃ q ∈ queue, m ∈ t.within (steps + 1) q := by
      rw [hmem]
      constructor
      · rintro (⟨-, hm⟩ | ⟨hm, c, hc, hw⟩)
        · obtain ⟨hold, q, hqueue, hlink⟩ := (hnew m).1 hm
          exact ⟨hold, q, hqueue,
            mem_within_succ.2 (.inr ⟨m, hlink, SnapshotTree.mem_within_self steps⟩)⟩
        · obtain ⟨-, q, hqueue, hlink⟩ := (hnew c).1 hc
          exact ⟨fun hold => hm ((hseen' m).2 (.inl hold)), q, hqueue,
            mem_within_succ.2 (.inr ⟨c, hlink, hw⟩)⟩
      · rintro ⟨hm, q, hqueue, hw⟩
        obtain ⟨p, hp, c, hc, hcnew, hw⟩ := hsettled.exists_new (hsub q hqueue) hm hw
        have hcnext : c ∈ next := (hnew c).2 ⟨hcnew, p, hp, hc⟩
        by_cases hm' : m ∈ seen'
        · rcases (hseen' m).1 hm' with h | h
          · exact absurd h hm
          · exact .inl ⟨rfl, (hnew m).2 ⟨hm, h⟩⟩
        · exact .inr ⟨hm', c, hcnext, hw⟩
    rw [List.mem_append, hms_iff]
    cases shown <;> simp

/-- The neighbourhood of a control is what so many links lead to, the control itself left out. -/
theorem yields_neighbourhood (steps : Nat) (n : NodeId) : ∃ ns : List NodeId,
    (neighbourhood steps n).Yields t.provider ns ∧
    ∀ m, m ∈ ns ↔ m ∈ (t.within steps n).filter (· ≠ n) := by
  by_cases hn : t.alive n = true
  · obtain ⟨ns, hns, hmem⟩ := yields_around t steps false [n] [n]
      (fun q h => by rwa [List.mem_singleton.1 h]) (fun q h => h)
      (fun m hm hne => absurd hm hne)
    refine ⟨ns, hns, fun m => ?_⟩
    rw [hmem, List.mem_filter]
    simp [and_comm]
  · refine ⟨[], ?_, fun m => ?_⟩
    · cases steps <;> refine yields_isValid t ?_ <;> rw [if_neg hn] <;> exact yields_finish
    · have hlinks : t.links n = [] := by
        rcases entry_eq_stale_or_ok t n with he | ⟨e, he, -⟩
        · simp [SnapshotTree.links, SnapshotTree.parent?, SnapshotTree.kids, he, Except.toOption]
        · exact absurd (by simp [SnapshotTree.alive, he, Except.isOk, Except.toBool]) hn
      cases steps <;> simp [SnapshotTree.within, hlinks]

end Search

end ControlQuery

import ControlQuery.Proofs.Search.Eager
import ControlQuery.Proofs.Snapshot.Distances
import ControlQuery.Proofs.Snapshot.Subtrees

/-!
# Near controls

A search in all directions goes by rounds. In each round the queue holds all controls at one
distance, and what has been seen are those and all nearer ones; so on a tree the search finds just
the controls within the distance, near ones first. The rounds make up one loop that serves one
queue, whose entries count the steps that led to them. This loop is stated as a relation between a
queue and a search, which also carries what is true of every queue that the loop comes to, whatever
the replies.
-/

namespace ControlQuery

namespace Search

variable {ν : Type} [DecidableEq ν]

/-- The search serves this queue in a loop, and `Q` holds of every queue on the way. Controls that
are fewer than `most` steps away lead on to others, which then stand at the end of the queue. -/
inductive Serves (most : Nat) (Q : List (ν × Nat) → Prop) : List (ν × Nat) → List ν →
    Search ν → Prop
  | done {seen : List ν} (holds : Q []) : Serves most Q [] seen finish
  | expand {n : ν} {steps : Nat} {queue : List (ν × Nat)} {seen : List ν} {gone : Search ν}
      {onwards : List ν → List ν → Search ν} (holds : Q ((n, steps) :: queue))
      (near : steps < most) (stale : Serves most Q queue seen gone)
      (valid : ∀ found seen',
        Serves most Q (queue ++ found.map (·, steps + 1)) seen' (onwards found seen')) :
      Serves most Q ((n, steps) :: queue) seen
        (ask (.isValid n) fun valid =>
          if valid then
            neighbours n fun ns => discover ns [] seen fun found seen' =>
              if 0 < steps then yield n (onwards found seen') else onwards found seen'
          else gone)
  | deliver {n : ν} {steps : Nat} {queue : List (ν × Nat)} {seen : List ν} {rest : Search ν}
      (holds : Q ((n, steps) :: queue)) (far : most ≤ steps)
      (next : Serves most Q queue seen rest) :
      Serves most Q ((n, steps) :: queue) seen
        (ask (.isValid n) fun valid =>
          if valid then if 0 < steps then yield n rest else rest else rest)

/-- Whatever is found is added to what was found before. -/
lemma discover_append (ns next seen : List ν) (k : List ν → List ν → Search ν) :
    discover ns next seen k = discover ns [] seen fun found => k (next ++ found) := by
  have hmore : ∀ (before : List ν) (seen : List ν), discover ns (next ++ before) seen k =
      discover ns before seen fun found => k (next ++ found) := by
    induction ns with
    | nil =>
      intro before seen
      rfl
    | cons n ns ih =>
      intro before seen
      rw [discover, discover]
      congr 1
      funext valid
      split
      · rw [List.append_assoc]
        exact ih (before ++ [n]) (n :: seen)
      · exact ih before seen
  simpa using hmore [] seen

section Loop

variable {most steps : Nat} {Q : List (ν × Nat) → Prop}

/-- One round: the controls at one distance are served while those one step further gather behind
them. -/
lemma serves_serve (hsteps : steps < most) {k : List ν → List ν → Search ν}
    (hQ : ∀ queue next : List ν, Q (queue.map (·, steps) ++ next.map (·, steps + 1)))
    (hk : ∀ next seen, Serves most Q (next.map (·, steps + 1)) seen (k next seen))
    (queue next seen : List ν) :
    Serves most Q (queue.map (·, steps) ++ next.map (·, steps + 1)) seen
      (serve true (decide (0 < steps)) k queue next seen) := by
  induction queue generalizing next seen with
  | nil => exact hk next seen
  | cons n queue ih =>
    have hloop : ∀ found seen', Serves most Q
        (queue.map (·, steps) ++ next.map (·, steps + 1) ++ found.map (·, steps + 1)) seen'
        (serve true (decide (0 < steps)) k queue (next ++ found) seen') := by
      intro found seen'
      rw [List.append_assoc, ← List.map_append]
      exact ih (next ++ found) seen'
    have hexpand := Serves.expand (hQ (n :: queue) next) hsteps (ih next seen) hloop
    have hserve : serve true (decide (0 < steps)) k (n :: queue) next seen =
        ask (.isValid n) fun valid =>
          if valid then
            neighbours n fun ns => discover ns [] seen fun found seen' =>
              if 0 < steps then
                yield n (serve true (decide (0 < steps)) k queue (next ++ found) seen')
              else serve true (decide (0 < steps)) k queue (next ++ found) seen'
          else serve true (decide (0 < steps)) k queue next seen := by
      rw [serve]
      simp only [discover_append _ next, decide_eq_true_eq, if_true]
    rw [hserve]
    exact hexpand

/-- The last round leads no further. -/
lemma serves_serve_last (hsteps : most ≤ steps) (hQ : ∀ queue : List ν, Q (queue.map (·, steps)))
    (queue next seen : List ν) :
    Serves most Q (queue.map (·, steps)) seen
      (serve false (decide (0 < steps)) (fun _ _ => finish) queue next seen) := by
  induction queue with
  | nil => exact .done (hQ [])
  | cons n queue ih =>
    have hdeliver := Serves.deliver (hQ (n :: queue)) hsteps ih
    rw [serve]
    simp only [decide_eq_true_eq, Bool.false_eq_true, if_false] at hdeliver ⊢
    exact hdeliver

/-- Round by round this is one loop, and no count of it goes beyond the number of steps. -/
theorem serves_around (steps left : Nat) (hmost : steps + left = most) (queue seen : List ν) :
    Serves most (fun queue => ∀ e ∈ queue, e.2 ≤ most) (queue.map (·, steps)) seen
      (around left (decide (0 < steps)) queue seen) := by
  induction left generalizing steps queue seen with
  | zero =>
    refine serves_serve_last (Nat.le_of_eq hmost.symm) (fun queue e he => ?_) queue [] seen
    obtain ⟨n, -, rfl⟩ := List.mem_map.1 he
    exact Nat.le_of_eq hmost
  | succ left ih =>
    have hlt : steps < most := by omega
    have hcounts : ∀ queue next : List ν,
        ∀ e ∈ queue.map (·, steps) ++ next.map (·, steps + 1), e.2 ≤ most := by
      intro queue next e he
      rcases List.mem_append.1 he with he | he
      · obtain ⟨n, -, rfl⟩ := List.mem_map.1 he
        exact Nat.le_of_lt hlt
      · obtain ⟨n, -, rfl⟩ := List.mem_map.1 he
        exact hlt
    have hround := serves_serve (Q := fun queue => ∀ e ∈ queue, e.2 ≤ most) hlt
      (k := fun next seen => if next.isEmpty then finish else around left true next seen)
      hcounts (fun next seen => ?_) queue [] seen
    · rwa [List.map_nil, List.append_nil] at hround
    · split
      · next hempty =>
        rw [List.isEmpty_iff.1 hempty]
        exact .done (by simp)
      · have hnext := ih (steps + 1) (by omega) next seen
        rwa [decide_eq_true (Nat.succ_pos steps)] at hnext

end Loop

end Search

/-! ### Round by round -/

namespace SnapshotTree

variable {t : SnapshotTree} {x : NodeId}

/-- The search from `x` in all directions has come to this distance: all controls at the distance
are in the queue, and those and all nearer ones have been seen. -/
structure Round (t : SnapshotTree) (x : NodeId) (distance : Nat) (queue seen : List NodeId) :
    Prop where
  queue : ∀ n, n ∈ queue ↔ t.alive n = true ∧ t.distance x n = distance
  seen : ∀ n, n ∈ seen ↔ t.alive n = true ∧ t.distance x n ≤ distance

lemma Recorded.round_zero (h : t.Recorded) (hclosed : t.Closed) (hx : t.alive x = true) :
    t.Round x 0 [x] [x] where
  queue n := by
    rw [← Nat.le_zero, ← h.mem_within_iff hclosed hx]
    rfl
  seen n := by
    rw [← h.mem_within_iff hclosed hx]
    rfl

lemma Recorded.round_succ (h : t.Recorded) (hclosed : t.Closed) (hx : t.alive x = true)
    {distance : Nat} {queue seen next seen' : List NodeId} (hround : t.Round x distance queue seen)
    (hnext : ∀ m, m ∈ next ↔ m ∉ seen ∧ ∃ q ∈ queue, m ∈ t.links q)
    (hseen : ∀ m, m ∈ seen' ↔ m ∈ seen ∨ ∃ q ∈ queue, m ∈ t.links q) :
    t.Round x (distance + 1) next seen' := by
  have hlinks : ∀ m, (∃ q ∈ queue, m ∈ t.links q) →
      t.alive m = true ∧ t.distance x m ≤ distance + 1 := by
    rintro m ⟨q, hq, hm⟩
    obtain ⟨hal, hdist⟩ := (hround.queue q).1 hq
    exact ⟨alive_of_mem_links hm, hdist ▸ h.distance_le_of_mem_links hclosed hx hal hm⟩
  have hfound : ∀ m, t.alive m = true → t.distance x m = distance + 1 →
      ∃ q ∈ queue, m ∈ t.links q := by
    intro m hm hdist
    obtain ⟨p, hp, hpdist, hlink⟩ := h.exists_previous hclosed hx hm hdist
    exact ⟨p, (hround.queue p).2 ⟨hp, hpdist⟩, hlink⟩
  constructor
  · intro m
    rw [hnext, hround.seen]
    constructor
    · rintro ⟨hnew, hm⟩
      obtain ⟨hal, hle⟩ := hlinks m hm
      have hlt : ¬t.distance x m ≤ distance := fun hle => hnew ⟨hal, hle⟩
      exact ⟨hal, by omega⟩
    · rintro ⟨hal, hdist⟩
      exact ⟨fun hold => by omega, hfound m hal hdist⟩
  · intro m
    rw [hseen, hround.seen]
    constructor
    · rintro (⟨hal, hle⟩ | hm)
      · exact ⟨hal, Nat.le_succ_of_le hle⟩
      · exact hlinks m hm
    · rintro ⟨hal, hle⟩
      rcases Nat.le_succ_iff.1 hle with hle | hdist
      · exact .inl ⟨hal, hle⟩
      · exact .inr (hfound m hal hdist)

/-- One round: the search yields the queue, if it is shown, and comes to the next round. -/
lemma Recorded.leads_round (h : t.Recorded) (hclosed : t.Closed) (hx : t.alive x = true)
    {distance : Nat} {queue seen : List NodeId} (hround : t.Round x distance queue seen)
    (left : Nat) (shown : Bool) : ∃ next seen', t.Round x (distance + 1) next seen' ∧
    next.Nodup ∧ (Search.around (left + 1) shown queue seen).Leads t.provider
      (Request.Allowed Request.IsLink queue) (if shown then queue else [])
      (Search.around left true next seen') := by
  obtain ⟨next, seen', hnext, hseen, hnodup, hleads⟩ :=
    Search.leads_around t left shown (fun q hq => ((hround.queue q).1 hq).1) seen
  exact ⟨next, seen', h.round_succ hclosed hx hround hnext hseen, hnodup, hleads⟩

/-- From a round on, the search yields the controls of this distance, if they are shown, and those
up to the last distance, near ones first. -/
lemma Recorded.yields_around (h : t.Recorded) (hclosed : t.Closed) (hx : t.alive x = true)
    {distance : Nat} (left : Nat) (shown : Bool) {queue seen : List NodeId}
    (hround : t.Round x distance queue seen) (hqueue : queue.Nodup) : ∃ ns : List NodeId,
    (Search.around left shown queue seen).Yields t.provider ns ∧
    (∀ y, y ∈ ns ↔ t.alive y = true ∧
      (if shown then distance else distance + 1) ≤ t.distance x y ∧
      t.distance x y ≤ distance + left) ∧
    ns.Nodup ∧ ns.Pairwise fun a b => t.distance x a ≤ t.distance x b := by
  induction left generalizing distance shown queue seen with
  | zero =>
    have hlast := (Search.leads_serve_last t shown (fun q hq => ((hround.queue q).1 hq).1)
      (fun _ _ => .finish) [] [] seen []).yields Search.yields_finish
    rw [List.append_nil, List.append_nil] at hlast
    refine ⟨_, hlast, fun y => ?_, ?_, ?_⟩
    · cases shown with
      | false =>
        simp only [Bool.false_eq_true, if_false, List.not_mem_nil, false_iff]
        omega
      | true =>
        rw [if_pos rfl, if_pos rfl, hround.queue]
        refine and_congr_right fun _ => ?_
        omega
    · cases shown <;> simp [hqueue]
    · cases shown with
      | false => exact .nil
      | true =>
        refine List.pairwise_of_forall_mem_list fun a ha b hb => ?_
        rw [((hround.queue a).1 ha).2, ((hround.queue b).1 hb).2]
  | succ left ih =>
    obtain ⟨next, seen', hround', hnext, hleads⟩ := h.leads_round hclosed hx hround left shown
    obtain ⟨ms, hms, hmem, hnodup, horder⟩ := ih true hround' hnext
    simp only [if_true] at hmem
    have hnear : ∀ a ∈ queue, ∀ b ∈ ms, t.distance x a < t.distance x b := by
      intro a ha b hb
      have hqueue := ((hround.queue a).1 ha).2
      have hlater := ((hmem b).1 hb).2.1
      omega
    refine ⟨_, hleads.yields hms, fun y => ?_, ?_, ?_⟩
    · rw [List.mem_append, hmem]
      cases shown with
      | false =>
        simp only [Bool.false_eq_true, if_false, List.not_mem_nil, false_or]
        refine and_congr_right fun _ => ?_
        omega
      | true =>
        rw [if_pos rfl, if_pos rfl, hround.queue, ← and_or_left]
        refine and_congr_right fun _ => ?_
        omega
    · cases shown with
      | false => exact hnodup
      | true =>
        refine List.nodup_append.2 ⟨hqueue, hnodup, fun a ha b hb heq => ?_⟩
        exact Nat.ne_of_lt (hnear a ha b hb) (heq ▸ rfl)
    · cases shown with
      | false => exact horder
      | true =>
        refine List.pairwise_append.2 ⟨?_, horder, fun a ha b hb => Nat.le_of_lt (hnear a ha b hb)⟩
        refine List.pairwise_of_forall_mem_list fun a ha b hb => ?_
        rw [((hround.queue a).1 ha).2, ((hround.queue b).1 hb).2]

/-- The search in all directions yields the other controls within the distance, near ones first. -/
lemma Recorded.yields_neighbourhood (h : t.Recorded) (hclosed : t.Closed)
    (hx : t.alive x = true) (steps : Nat) : ∃ ns : List NodeId,
    (Search.neighbourhood steps x).Yields t.provider ns ∧
    (∀ y, y ∈ ns ↔ t.alive y = true ∧ y ≠ x ∧ t.distance x y ≤ steps) ∧
    ns.Nodup ∧ ns.Pairwise fun a b => t.distance x a ≤ t.distance x b := by
  have hstart := h.round_zero hclosed hx
  obtain ⟨ns, hns, hmem, hnodup, horder⟩ :=
    h.yields_around hclosed hx steps false hstart (by simp)
  refine ⟨ns, hns, fun y => ?_, hnodup, horder⟩
  have hzero : t.alive y = true → (t.distance x y = 0 ↔ y = x) := by
    intro hy
    have hround := hstart.queue y
    simpa [hy] using hround.symm
  rw [hmem]
  simp only [Bool.false_eq_true, if_false, Nat.zero_add, Nat.one_le_iff_ne_zero]
  refine and_congr_right fun hy => and_congr_left fun _ => ?_
  rw [Ne, hzero hy]

end SnapshotTree

/-- The search in all directions from a valid control yields the other valid controls within the
distance, each once and near ones first, and then ends. So a relative condition holds just if one of
them will do. The steps that the search counts never exceed the distance. -/
theorem Distance.answers_walk_any [Regex.Engine] (root : SnapshotNode) (removed : List NodeId)
    (n : Count) (x : NodeId)
    (hx : ((SnapshotTree.ofNode root).removeAll removed).provider.isValid x = true)
    (s : Setting) (c : Option Condition) :
    let t := (SnapshotTree.ofNode root).removeAll removed
    let near := fun y => t.provider.isValid y = true ∧ y ≠ x ∧ t.distance x y ≤ n.toNat
    (∃ ns : List NodeId,
      (∀ k, ((Distance.any n).walk x).answers t.provider k = (ns.map Except.ok)[k]?) ∧
      (∀ y, y ∈ ns ↔ near y) ∧ ns.Nodup ∧
      ns.Pairwise fun a b => t.distance x a ≤ t.distance x b) ∧
    (∃ b, ((Condition.relative (.any n) c).evaluate s x).run t.provider = .ok b ∧
      (b = true ↔
        ∃ y, near y ∧ (Condition.evaluateTarget s c y).run t.provider = .ok true)) ∧
    Search.Serves n.toNat (fun queue => ∀ e ∈ queue, e.2 ≤ n.toNat) [(x, 0)] [x]
      ((Distance.any n).walk x) := by
  intro t near
  have hrecorded := (SnapshotTree.recorded_ofNode root).removeAll removed
  have hclosed := (SnapshotTree.removedAt_removeAll root removed).closed
  obtain ⟨ns, hns, hmem, hnodup, horder⟩ :=
    hrecorded.yields_neighbourhood hclosed hx n.toNat
  have htarget := fun y =>
    Condition.run_evaluateTarget (SnapshotTree.Agree.refl t s) c y
  refine ⟨⟨ns, hns.answers, hmem, hnodup, horder⟩,
    ⟨ns.any (Condition.targetHolds t s c), ?_, ?_⟩, ?_⟩
  · rw [Condition.evaluate]
    exact Search.Yields.run_any hns fun y _ => htarget y
  · rw [List.any_eq_true]
    refine exists_congr fun y => ?_
    rw [hmem, htarget, Except.ok.injEq]
    rfl
  · have hloop := Search.serves_around 0 n.toNat (Nat.zero_add _) [x] [x]
    exact hloop

/-- From a control in the first of two subtrees, with the bottom of the second one removed. -/
theorem Distance.answers_walk_any_cousin :
    let root : SnapshotNode :=
      .node ∅ [.node ∅ [.node ∅ [], .node ∅ []], .node ∅ [.node ∅ [.node ∅ []], .node ∅ []]]
    let t := (SnapshotTree.ofNode root).removeAll [5]
    t.provider.isValid 2 = true ∧
      (∃ ns : List NodeId, (∀ y, y ∈ ns ↔ t.provider.isValid y = true ∧ y ≠ 2 ∧
        t.distance 2 y ≤ (3 : Count).toNat) ∧ ns.Nodup) ∧
      t.distance 2 7 = 4 := by
  intro root t
  have hx : t.provider.isValid 2 = true := by decide +kernel
  obtain ⟨⟨ns, -, hmem, hnodup, -⟩, -, -⟩ :=
    Distance.answers_walk_any root [5] 3 2 hx { reach := 8 } none
  exact ⟨hx, ⟨ns, hmem, hnodup⟩, by decide +kernel⟩

end ControlQuery

import ControlQuery.Proofs.Search.Failure
import ControlQuery.Proofs.Search.Laziness
import ControlQuery.Proofs.Search.Nearness

/-!
# Relative conditions and faults behind the first hit

Of a walk along ancestors or descendants a relative condition needs no more than what the walk asks
before it comes to the first control that will do. The walk in all directions is different. It goes
round by round, one distance after the other, and looks for the links of a control before it yields
the control, unless the control is as far away as the walk goes. So it fails if these links cannot
be read, although they lead only to controls that nobody asked for.
-/

namespace ControlQuery

variable {ν : Type}

/-- No failure comes of the question for the parent of a control, nor of the question for its
children if there was an answer to the first one. -/
def Provider.AnswersLinks (P : Provider ν) (n : ν) : Prop :=
  P.failure? (.parent n) = none ∧
    ∀ parent, P.parent n = .ok parent → P.failure? (.children n) = none

namespace Search

/-! ### Whether there is a next control -/

section Next

variable {P : Provider ν} {s : Search ν}

lemma run_nonempty (s : Search ν) : s.nonempty.run P =
    match s.next P with
    | .found _ _ => .ok true
    | .failed e => .error e
    | .finished => .ok false := by
  induction s with
  | finish => rfl
  | fail e => rfl
  | yield n rest ih => rfl
  | ask r next ih => exact ih _

lemma nonempty_search {α : Type} (i : Inquiry ν α) (f : α → Search ν) :
    (i.search f).nonempty = i.bind fun a => (f a).nonempty := by
  induction i with
  | done a => rfl
  | fail e => rfl
  | ask r next ih =>
    rw [Inquiry.search, Inquiry.bind, nonempty]
    congr 1
    exact funext ih

/-- A search yields a control that will do if something comes through the filter. -/
lemma any_eq_nonempty_filter (p : ν → Inquiry ν Bool) (s : Search ν) :
    s.any p = (s.filter p).nonempty := by
  induction s with
  | finish => rfl
  | fail e => rfl
  | yield n rest ih =>
    rw [any, filter, nonempty_search]
    congr 1
    funext keep
    cases keep with
    | true => rfl
    | false => exact ih
  | ask r next ih =>
    rw [any, filter, nonempty]
    congr 1
    exact funext ih

lemma next_filter_of_failed {p : ν → Inquiry ν Bool} {e : SearchError}
    (h : s.next P = .failed e) : (s.filter p).next P = .failed e := by
  induction s with
  | finish => cases h
  | fail e' => exact h
  | yield n rest => cases h
  | ask r next ih => exact ih _ h

end Next

/-! ### The turn of a control -/

section Turn

variable {P : Provider ν} [DecidableEq ν]

lemma next_discover (ns next seen : List ν) (k : List ν → List ν → Search ν) :
    ∃ next' seen', (discover ns next seen k).next P = (k next' seen').next P := by
  induction ns generalizing next seen with
  | nil => exact ⟨next, seen, rfl⟩
  | cons n ns ih =>
    rw [discover, Search.next]
    split
    · exact ih (next ++ [n]) (n :: seen)
    · exact ih next seen

omit [DecidableEq ν] in
lemma next_neighbours {n : ν} (k : List ν → Search ν) :
    (P.AnswersLinks n ∧ ∃ found, (neighbours n k).next P = (k found).next P) ∨
    (¬P.AnswersLinks n ∧ ∃ e, (neighbours n k).next P = .failed e) := by
  simp only [neighbours, Search.next, Provider.reply, Provider.AnswersLinks, Provider.failure?,
    Request.failure?]
  cases hp : P.parent n with
  | error e =>
    cases e with
    | stale => exact .inl ⟨⟨rfl, fun _ h => by cases h⟩, [], rfl⟩
    | failure reason => exact .inr ⟨fun h => (by cases h.1), _, rfl⟩
  | ok parent =>
    simp only [Search.next, Provider.reply]
    cases hc : P.children n with
    | error e =>
      cases e with
      | stale => exact .inl ⟨⟨rfl, fun _ _ => rfl⟩, [], rfl⟩
      | failure reason => exact .inr ⟨fun h => (by cases h.2 parent rfl), _, rfl⟩
    | ok children => exact .inl ⟨⟨rfl, fun _ _ => rfl⟩, _, rfl⟩

/-- When it is the turn of a valid control, it is the next one, if only its links are answered in
case that they are asked for. -/
lemma next_serve {n : ν} (hn : P.isValid n = true) (spread : Bool)
    (k : List ν → List ν → Search ν) (queue next seen : List ν) :
    ((spread = true → P.AnswersLinks n) ∧
      ∃ rest, (serve spread true k (n :: queue) next seen).next P = .found n rest) ∨
    (¬(spread = true → P.AnswersLinks n) ∧
      ∃ e, (serve spread true k (n :: queue) next seen).next P = .failed e) := by
  simp only [serve, Search.next, Provider.reply, hn, if_true]
  cases spread with
  | false => exact .inl ⟨fun h => absurd h Bool.false_ne_true, _, rfl⟩
  | true =>
    simp only [if_true, forall_const]
    rcases next_neighbours (P := P) (n := n) fun found =>
      discover found next seen fun next seen => yield n (serve true true k queue next seen) with
      ⟨hlinks, found, hfound⟩ | ⟨hlinks, e, he⟩
    · obtain ⟨next', seen', hnext⟩ := next_discover (P := P) found next seen
        fun next seen => yield n (serve true true k queue next seen)
      exact .inl ⟨hlinks, _, hfound.trans hnext⟩
    · exact .inr ⟨hlinks, e, he⟩

end Turn

end Search

namespace SnapshotTree

variable {t : SnapshotTree} {x : NodeId}

/-- Within a round it becomes the turn of each control of the queue. The search looks past it just
if there are controls further away to be found. -/
lemma Round.leads_turn {distance : Nat} {before later seen : List NodeId} {w : NodeId}
    (hround : t.Round x distance (before ++ w :: later) seen) (left : Nat) :
    ∃ k next seen', (Search.around left true (before ++ w :: later) seen).Leads t.provider
      (Request.Allowed Request.IsLink before) before
      (Search.serve (decide (t.distance x w < distance + left)) true k (w :: later)
        next seen') := by
  have halive : ∀ q ∈ before, t.alive q = true := fun q hq =>
    ((hround.queue q).1 (List.mem_append_left _ hq)).1
  have hw := ((hround.queue w).1 (by simp)).2
  cases left with
  | zero =>
    have hleads := Search.leads_serve_last t true halive (fun _ _ => .finish) (w :: later) [] seen
    rw [decide_eq_false (by omega)]
    exact ⟨_, [], seen, hleads before⟩
  | succ left =>
    obtain ⟨next, seen', -, -, -, hserve⟩ := Search.leads_serve t true halive [] seen
    rw [decide_eq_true (by omega)]
    exact ⟨_, next, seen', hserve _ (w :: later)⟩

/-- Let the search in all directions come to `w`. By then it has only asked for links of controls
before `w`, and it asks for the links of `w` just if there are controls further away to be found. -/
lemma Recorded.leads_around (h : t.Recorded) (hclosed : t.Closed) (hx : t.alive x = true)
    {most left distance : Nat} (hmost : distance + left = most) (shown : Bool)
    {queue seen before after : List NodeId} {w : NodeId} (hround : t.Round x distance queue seen)
    (hdrain : ((Search.around left shown queue seen).drain t.provider).1 =
      before ++ w :: after) :
    ∃ k later next seen', (Search.around left shown queue seen).Leads t.provider
      (Request.Allowed Request.IsLink ((if shown then [] else queue) ++ before)) before
      (Search.serve (decide (t.distance x w < most)) true k (w :: later) next seen') := by
  subst hmost
  induction left generalizing distance shown queue seen before with
  | zero =>
    have hlast := Search.leads_serve_last t shown (fun q hq => ((hround.queue q).1 hq).1)
      (fun _ _ => .finish) [] [] seen []
    rw [List.append_nil] at hlast
    rw [Search.around, hlast.drain] at hdrain
    cases shown with
    | false => simp [Search.serve, Search.drain] at hdrain
    | true =>
      obtain rfl : queue = before ++ w :: after := by
        simpa [Search.serve, Search.drain] using hdrain
      obtain ⟨k, next, seen', hturn⟩ := hround.leads_turn 0
      exact ⟨k, after, next, seen', hturn⟩
  | succ left ih =>
    obtain ⟨next, seen', hround', -, hnow⟩ := h.leads_round hclosed hx hround left shown
    -- The control is in the queue of this round, or comes in a later one.
    have hthis : ∀ later, (if shown then queue else []) = before ++ w :: later →
        ∃ k later next seen', (Search.around (left + 1) shown queue seen).Leads t.provider
          (Request.Allowed Request.IsLink ((if shown then [] else queue) ++ before)) before
          (Search.serve (decide (t.distance x w < distance + (left + 1))) true k (w :: later)
            next seen') := by
      intro later hqueue
      cases shown with
      | false => simp at hqueue
      | true =>
        obtain rfl : queue = before ++ w :: later := hqueue
        obtain ⟨k, next, seen', hturn⟩ := hround.leads_turn (left + 1)
        exact ⟨k, later, next, seen', hturn⟩
    have hlater : ∀ before', before = (if shown then queue else []) ++ before' →
        ((Search.around left true next seen').drain t.provider).1 = before' ++ w :: after →
        ∃ k later next seen', (Search.around (left + 1) shown queue seen).Leads t.provider
          (Request.Allowed Request.IsLink ((if shown then [] else queue) ++ before)) before
          (Search.serve (decide (t.distance x w < distance + (left + 1))) true k (w :: later)
            next seen') := by
      rintro before' rfl hafter
      obtain ⟨k, later, next', seen'', hthen⟩ := ih true hround' hafter
      rw [Nat.add_assoc, Nat.add_comm 1] at hthen
      refine ⟨k, later, next', seen'',
        (hnow.mono fun r hr => hr.mono fun q hq => ?_).trans
          (hthen.mono fun r hr => hr.mono fun q hq => ?_)⟩
      · cases shown <;> simp [hq]
      · simp only [if_true, List.nil_append] at hq
        simp [hq]
    rw [hnow.drain] at hdrain
    rcases List.append_eq_append_iff.1 hdrain with ⟨before', hbefore, hafter⟩ |
      ⟨rest, hqueue, hrest⟩
    · exact hlater before' hbefore hafter
    · cases rest with
      | nil => exact hlater [] (by simpa using hqueue.symm) (by simpa using hrest.symm)
      | cons w' later =>
        obtain ⟨rfl, -⟩ := List.cons.inj hrest
        exact hthis later hqueue

/-- Of a chain of ancestors none occurs twice. -/
lemma Ordered.pairwise_chain (ht : t.Ordered) (levels n : Nat) :
    (n :: t.chain levels n).Pairwise (· > ·) := by
  induction levels generalizing n with
  | zero => exact List.pairwise_singleton _ n
  | succ levels ih =>
    rw [chain]
    cases hp : t.parent? n with
    | none => exact List.pairwise_singleton _ n
    | some p =>
      have hlt := ht.parent?_lt hp
      have hrest := ih p
      refine List.pairwise_cons.2 ⟨fun a ha => ?_, hrest⟩
      rcases List.mem_cons.1 ha with rfl | ha
      · exact hlt
      · exact Nat.lt_trans ((List.pairwise_cons.1 hrest).1 a ha) hlt

end SnapshotTree

/-! ### Walks as far as a distance -/

section Walks

variable {t : SnapshotTree} {x : NodeId}

/-- A walk comes to no control twice, and not back to its start. -/
lemma Distance.nodup_walk (h : t.Recorded) (hclosed : t.Closed) (hx : t.alive x = true)
    (d : Distance) : (x :: ((d.walk x).drain t.provider).1).Nodup := by
  cases d with
  | up steps =>
    have hchain := h.ordered.pairwise_chain steps.toNat x
    rw [walk, Search.yields_ancestors t steps.toNat false x]
    exact hchain.imp fun hlt => Nat.ne_of_gt hlt
  | down steps =>
    have hpreorder := h.pairwise_withSelf true steps.toNat x
    rw [walk, Search.yields_descendants t steps.toNat false (by simp)]
    exact hpreorder.imp fun hlt => Nat.ne_of_lt hlt
  | any steps =>
    obtain ⟨ns, hns, hmem, hnodup, -⟩ := h.yields_neighbourhood hclosed hx steps.toNat
    rw [walk, hns]
    exact List.nodup_cons.2 ⟨fun hmem' => ((hmem x).1 hmem').2.1 rfl, hnodup⟩

lemma Distance.alive_of_mem_walk (h : t.Recorded) (hclosed : t.Closed) (hx : t.alive x = true)
    (d : Distance) {w : NodeId} (hw : w ∈ ((d.walk x).drain t.provider).1) : t.alive w = true := by
  obtain ⟨ns, hns, hmem⟩ := d.yields_walk (t := t) x
  rw [hns, hmem] at hw
  cases d with
  | up steps => exact SnapshotTree.alive_of_mem_chain hw
  | down steps => exact SnapshotTree.alive_of_mem_preorder hw
  | any steps => exact ((h.mem_within_iff hclosed hx).1 (List.mem_filter.1 hw).1).1

/-- Whether a walk looks for more behind a control at this distance before it yields the control. -/
def Distance.looksPast : Distance → Nat → Bool
  | .up _, _ => false
  | .down _, _ => false
  | .any most, steps => steps < most.toNat

/-- Let a walk come to `w`. By then it has only asked for links of its start and of controls before
`w`. Whoever answers from then on, `w` is next, unless the walk looks past `w` and fails there. -/
lemma Distance.leads_walk (h : t.Recorded) (hclosed : t.Closed) (hx : t.alive x = true)
    (d : Distance) {before after : List NodeId} {w : NodeId}
    (hwalk : ((d.walk x).drain t.provider).1 = before ++ w :: after) : ∃ u,
    (d.walk x).Leads t.provider (Request.Allowed Request.IsLink (x :: before)) before u ∧
    ∀ P : Provider NodeId, P.isValid w = true →
      ((d.looksPast (t.distance x w) = true → P.AnswersLinks w) ∧
        ∃ rest, u.next P = .found w rest) ∨
      (¬(d.looksPast (t.distance x w) = true → P.AnswersLinks w) ∧
        ∃ e, u.next P = .failed e) := by
  cases d with
  | up steps =>
    have hlazy := Search.lazy_climb (P := t.provider) steps.toNat (List.mem_singleton_self x)
    obtain ⟨rest, hleads⟩ := hlazy.leads hwalk
    refine ⟨_, hleads.mono fun r hr => ?_, fun P _ => .inl ⟨fun h => (nomatch h), rest, rfl⟩⟩
    exact hr.imp id fun ⟨n, hn, hask⟩ => ⟨n, hn, .inl hask⟩
  | down steps =>
    have hlazy := Search.lazy_descendants (P := t.provider) steps.toNat false x
    obtain ⟨rest, hleads⟩ := hlazy.leads hwalk
    refine ⟨_, hleads.mono fun r hr => ?_, fun P _ => .inl ⟨fun h => (nomatch h), rest, rfl⟩⟩
    exact hr.imp id fun ⟨n, hn, hask⟩ => ⟨n, hn, .inr hask⟩
  | any steps =>
    obtain ⟨k, later, next, seen, hleads⟩ := h.leads_around hclosed hx (Nat.zero_add _) false
      (h.round_zero hclosed hx) hwalk
    exact ⟨_, hleads, fun P hw => Search.next_serve hw _ k later next seen⟩

end Walks

/-- Let `w` be the first control of a walk that will do, and let the answers of a provider differ
from those of the tree about nothing but the links of `w` and the links and properties of later
controls. Then the relative condition still holds, except that the search in all directions fails if
it looks past `w` and the links of `w` are not answered. -/
theorem Condition.run_evaluate_relative_iff [Regex.Engine] {root : SnapshotNode}
    {removed : List NodeId} {t : SnapshotTree}
    (ht : t = (SnapshotTree.ofNode root).removeAll removed) (s : Setting) {x : NodeId}
    (hx : t.provider.isValid x = true) (d : Distance) {c : Option Condition}
    (hplain : c.all Condition.isPlain = true) {before after : List NodeId} {w : NodeId}
    (hwalk : (d.walk x).Yields t.provider (before ++ w :: after))
    (hbefore : ∀ n ∈ before, (evaluateTarget s c n).run t.provider ≠ .ok true)
    (hw : (evaluateTarget s c w).run t.provider = .ok true) {P : Provider NodeId}
    (hagree : t.provider.AgreesOn P (· ∉ w :: after) (· ∉ w :: after) (· ∉ after)) :
    ((Condition.relative d c).evaluate s x).run P = .ok true ↔
      (d.looksPast (t.distance x w) = true → P.AnswersLinks w) := by
  have hrecorded : t.Recorded := ht ▸ (SnapshotTree.recorded_ofNode root).removeAll removed
  have hclosed : t.Closed := ht ▸ (SnapshotTree.removedAt_removeAll root removed).closed
  have hdrain := congrArg Prod.fst hwalk
  obtain ⟨u, hleads, hturn⟩ := Distance.leads_walk hrecorded hclosed hx d hdrain
  have hvalid : P.isValid w = true := by
    rw [hagree.isValid]
    exact Distance.alive_of_mem_walk hrecorded hclosed hx d (by simp [hdrain])
  -- Neither the start nor a control before `w` stands at `w` or behind it.
  have hnodup := Distance.nodup_walk hrecorded hclosed hx d
  rw [hdrain, ← List.cons_append, List.nodup_append] at hnodup
  have hapart : ∀ n ∈ x :: before, n ∉ w :: after := fun n hn hn' => hnodup.2.2 n hn n hn' rfl
  have hreply : ∀ r, r.Allowed Request.IsLink (x :: before) → P.reply r = t.provider.reply r := by
    rintro r (⟨n, rfl⟩ | ⟨n, hn, rfl | rfl⟩)
    · exact hagree.isValid n
    · exact hagree.parent n (hapart n hn)
    · exact hagree.children n (hapart n hn)
  have hsame : ∀ n, n ∉ after →
      (evaluateTarget s c n).run P = (evaluateTarget s c n).run t.provider :=
    fun n hn => run_evaluateTarget_of_plain (fun id => hagree.property n id hn) s hplain
  have hpass : ∀ n ∈ before, (evaluateTarget s c n).run P = .ok false := by
    intro n hn
    have hlater : n ∉ after := fun h =>
      hapart n (List.mem_cons_of_mem x hn) (List.mem_cons_of_mem w h)
    have hno := hbefore n hn
    rw [hsame n hlater]
    rw [run_evaluateTarget (SnapshotTree.Agree.refl _ s) c n] at hno ⊢
    simpa using hno
  have hkeep : (evaluateTarget s c w).run P = .ok true := by
    rw [hsame w (List.nodup_cons.1 hnodup.2.1).1, hw]
  have hfilter : ((d.walk x).filter (evaluateTarget s c)).next P =
      (u.filter (evaluateTarget s c)).next P :=
    (hleads.congr hreply).next_filter hpass
  rw [evaluate, Search.any_eq_nonempty_filter, Search.run_nonempty, hfilter]
  rcases hturn P hvalid with ⟨hfine, rest, hfound⟩ | ⟨hfine, e, he⟩
  · rw [Search.next_filter hfound hkeep]
    exact iff_of_true rfl hfine
  · rw [Search.next_filter_of_failed he]
    exact iff_of_false (fun h => by cases h) hfine

/-- The second control next to the start is the hit, and the walk goes no further: the condition
holds although nothing about the links of the hit, or about the control behind it, can be read. -/
theorem Condition.run_evaluate_relative_last_distance :
    let button := PropertyMap.empty.insert .controlType (.str "Button")
    let root : SnapshotNode :=
      .node ∅ [.node ∅ [.node button []], .node button [.node ∅ []], .node button []]
    let t := (SnapshotTree.ofNode root).removeAll [2]
    let isButton : Condition := .property (.equals .controlType (.str "Button"))
    let d : Distance := .any 1
    let s : Setting := { reach := 6 }
    let P := t.provider.withFaults
      [⟨.children, 3, .failure "lost"⟩, ⟨.parent, 3, .failure "lost"⟩,
        ⟨.property none, 5, .failure "lost"⟩]
    (t.provider.isValid 0 = true ∧ (d.walk 0).Yields t.provider ([1] ++ 3 :: [5]) ∧
      (∀ n ∈ [1], (evaluateTarget s (some isButton) n).run t.provider ≠ .ok true) ∧
      (evaluateTarget s (some isButton) 3).run t.provider = .ok true ∧
      t.provider.AgreesOn P (· ∉ [3, 5]) (· ∉ [3, 5]) (· ∉ [5])) ∧
      ((Condition.relative d (some isButton)).evaluate s 0).run P = .ok true := by
  intro button root t isButton d s P
  have hx : t.provider.isValid 0 = true := by decide +kernel
  have hwalk : (d.walk 0).Yields t.provider ([1] ++ 3 :: [5]) := by
    unfold Search.Yields
    decide +kernel
  have hbefore : ∀ n ∈ [1], (evaluateTarget s (some isButton) n).run t.provider ≠ .ok true := by
    decide +kernel
  have hw : (evaluateTarget s (some isButton) 3).run t.provider = .ok true := by decide +kernel
  have hagree : t.provider.AgreesOn P (· ∉ [3, 5]) (· ∉ [3, 5]) (· ∉ [5]) :=
    t.provider.agreesOn_withFaults _ (by simp [FaultyCall.Spares])
  have hpast : ¬d.looksPast (t.distance 0 3) = true := by decide +kernel
  have hiff := run_evaluate_relative_iff rfl s hx d rfl hwalk hbefore hw hagree
  exact ⟨⟨hx, hwalk, hbefore, hw, hagree⟩, hiff.2 fun h => absurd h hpast⟩

/-- The only child of the start is the hit, and the walk would go one link further. That the
children of the hit cannot be read makes the condition fail. -/
theorem Condition.run_evaluate_relative_lost_children :
    let t := (SnapshotTree.ofNode (.node ∅ [.node ∅ []])).removeAll []
    let d : Distance := .any 2
    let s : Setting := { reach := 2 }
    let P := t.provider.withFaults [⟨.children, 1, .failure "lost"⟩]
    (t.provider.isValid 0 = true ∧ (d.walk 0).Yields t.provider ([] ++ 1 :: []) ∧
      (evaluateTarget s none 1).run t.provider = .ok true ∧
      t.provider.AgreesOn P (· ∉ [1]) (· ∉ [1]) (· ∉ [])) ∧
      ((Condition.relative d none).evaluate s 0).run P = .error (.providerFailure "lost") := by
  intro t d s P
  have hagree : t.provider.AgreesOn P (· ∉ [1]) (· ∉ [1]) (· ∉ []) :=
    t.provider.agreesOn_withFaults _ (by simp [FaultyCall.Spares])
  have hwalk : (d.walk 0).Yields t.provider ([] ++ 1 :: []) := by
    unfold Search.Yields
    decide +kernel
  exact ⟨⟨by decide +kernel, hwalk, by decide +kernel, hagree⟩, by decide +kernel⟩

end ControlQuery

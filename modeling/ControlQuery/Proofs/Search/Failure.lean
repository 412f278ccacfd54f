import ControlQuery.Proofs.Search.Candour
import ControlQuery.Proofs.Snapshot.Order
import ControlQuery.Query.Compose
import ControlQuery.Tree.Fault
import ControlQuery.Regex.Standard

/-!
# Failures of the provider

When the provider fails, a search gives what it would have given without the failure up to some
place, then this failure, and then nothing more. Which failure it is, is the first one among all
requests that were put, in the order in which they were put. The main statement compares a provider
with one that never fails and else gives the same replies.
-/

namespace ControlQuery

variable {ν : Type}

/-- The reason if the provider fails to answer a request. -/
def Provider.failure? (P : Provider ν) (r : Request ν) : Option String :=
  r.failure? (P.reply r)

/-- The requests that are put until a search is drained, in order. -/
def Search.requests (P : Provider ν) : Search ν → List (Request ν)
  | finish => []
  | fail _ => []
  | yield _ rest => rest.requests P
  | ask r next => r :: (next (P.reply r)).requests P

/-- Another provider never fails, and replies the same wherever the first one does not fail. -/
structure Provider.MendedBy (P P₀ : Provider ν) : Prop where
  sound : ∀ r, P₀.failure? r = none
  same : ∀ r, P.failure? r = none → P.reply r = P₀.reply r

/-- A snapshot tree answers everything, if only that a control is stale. -/
theorem SnapshotTree.failure?_provider (t : SnapshotTree) (r : Request NodeId) :
    t.provider.failure? r = none := by
  have hentry : ∀ (n : NodeId) {α : Type} (f : TreeEntry → α),
      failureReason? ((t.entry n).map f) = none := by
    intro n α f
    rcases entry_eq_stale_or_ok t n with he | ⟨e, he, -⟩
    · rw [he]
      rfl
    · rw [he]
      rfl
  cases r with
  | parent n => exact hentry n _
  | children n => exact hentry n _
  | property n id => exact hentry n _
  | isValid n => rfl
  | enter => rfl
  | leave => rfl

/-! ### Faults as failures -/

section Faults

variable [DecidableEq ν]

lemma Provider.exists_of_faultFor {faults : List (Fault ν)} {n : ν} {covers : FaultyCall → Bool}
    {e : ProviderError} (h : faultFor faults n covers = some e) :
    ∃ f ∈ faults, covers f.call = true ∧ f.error = e := by
  obtain ⟨f, hf, rfl⟩ := Option.map_eq_some_iff.1 h
  have hcovers := List.find?_some hf
  rw [Bool.and_eq_true] at hcovers
  exact ⟨f, List.mem_of_find?_eq_some hf, hcovers.2, rfl⟩

/-- Faults that are failures, and none of validity, are mended by taking them away. -/
theorem Provider.mendedBy_withFaults {P : Provider ν} (hP : ∀ r, P.failure? r = none)
    {faults : List (Fault ν)}
    (h : ∀ f ∈ faults, f.call ≠ .isValid ∧ ∃ reason, f.error = .failure reason) :
    (P.withFaults faults).MendedBy P where
  sound := hP
  same := by
    have hanswer : ∀ {α : Type} {n : ν} {covers : FaultyCall → Bool}
        {answer : Except ProviderError α},
        failureReason? (answerUnless (faultFor faults n covers) answer) = none →
        answerUnless (faultFor faults n covers) answer = answer := by
      intro α n covers answer hnone
      cases hf : faultFor faults n covers with
      | none => rfl
      | some e =>
        obtain ⟨f, hmem, -, rfl⟩ := exists_of_faultFor hf
        obtain ⟨reason, he⟩ := (h f hmem).2
        rw [hf, he] at hnone
        cases hnone
    intro r hr
    cases r with
    | parent n => exact hanswer hr
    | children n => exact hanswer hr
    | property n id => exact hanswer hr
    | enter => rfl
    | leave => rfl
    | isValid n =>
      cases hf : faultFor faults n (· == .isValid) with
      | none => simp [reply, withFaults, hf]
      | some e =>
        obtain ⟨f, hmem, hcall, -⟩ := exists_of_faultFor hf
        exact absurd (eq_of_beq hcall) (h f hmem).1

end Faults

/-! ### Where a candid search ends -/

namespace Search

variable {P P₀ : Provider ν} {s : Search ν}

lemma Doomed.drain_eq {reason : String} (h : s.Doomed reason) (P : Provider ν) :
    s.drain P = ([], some (.providerFailure reason)) := by
  induction s with
  | finish => exact h.elim
  | fail e =>
    rw [show e = .providerFailure reason from h]
    rfl
  | yield n rest ih => exact h.elim
  | ask r next ih => exact ih _ (h _)

lemma Candid.after {r : Request ν} {next : r.Reply → Search ν} (h : (ask r next).Candid)
    (P : Provider ν) (hr : P.failure? r = none) : (next (P.reply r)).Candid := by
  have hreply := h (P.reply r)
  rwa [show r.failure? (P.reply r) = none from hr] at hreply

lemma Candid.after_failure {r : Request ν} {next : r.Reply → Search ν} (h : (ask r next).Candid)
    (P : Provider ν) {reason : String} (hr : P.failure? r = some reason) :
    (next (P.reply r)).Doomed reason := by
  have hreply := h (P.reply r)
  rwa [show r.failure? (P.reply r) = some reason from hr] at hreply

/-- With a provider that never fails a candid search does not fail either. -/
theorem Candid.yields (hs : s.Candid) (hP : ∀ r, P.failure? r = none) :
    s.Yields P (s.drain P).1 := by
  induction s with
  | finish => rfl
  | fail e => exact hs.elim
  | yield n rest ih => exact yields_yield (ih hs)
  | ask r next ih => exact yields_ask (ih _ (hs.after P (hP r)))

/-- A candid search of which no request fails comes to the same with the mended provider. -/
theorem Candid.drain_eq_of_mendedBy (hs : s.Candid) (h : P.MendedBy P₀)
    (hr : (s.requests P).findSome? P.failure? = none) : s.drain P = s.drain P₀ := by
  induction s with
  | finish => rfl
  | fail e => exact hs.elim
  | yield n rest ih => rw [drain, drain, ih hs hr]
  | ask r next ih =>
    rw [requests, List.findSome?_cons] at hr
    cases hf : P.failure? r with
    | some reason => simp [hf] at hr
    | none =>
      rw [hf] at hr
      rw [drain, drain, ← h.same r hf]
      exact ih _ (hs.after P hf) hr

/-- A candid search of which a request fails gives a part of what the mended provider gives, and
then the first failure. -/
theorem Candid.drain_of_failure (hs : s.Candid) (h : P.MendedBy P₀) {reason : String}
    (hr : (s.requests P).findSome? P.failure? = some reason) :
    (s.drain P).1 <+: (s.drain P₀).1 ∧ (s.drain P).2 = some (.providerFailure reason) := by
  induction s with
  | finish => simp [requests] at hr
  | fail e => exact hs.elim
  | yield n rest ih =>
    obtain ⟨hpre, hend⟩ := ih hs hr
    exact ⟨(List.prefix_cons_inj n).2 hpre, hend⟩
  | ask r next ih =>
    rw [requests, List.findSome?_cons] at hr
    rw [drain]
    cases hf : P.failure? r with
    | some first =>
      rw [hf] at hr
      obtain rfl := Option.some.inj hr
      rw [(hs.after_failure P hf).drain_eq P]
      exact ⟨List.nil_prefix, rfl⟩
    | none =>
      rw [hf] at hr
      rw [drain, ← h.same r hf]
      exact ih _ (hs.after P hf) hr

end Search

/-! ### Searches for queries are candid -/

lemma Predicate.doomed_evaluate (p : Predicate) (n : ν) (reason : String) :
    (p.evaluate n (some reason)).Doomed reason := by
  induction p with
  | answer b => exact rfl
  | read id next ih =>
    rw [Predicate.evaluate]
    intro reply
    match reply with
    | .ok value => exact ih value
    | .error .stale => exact ih none
    | .error (.failure _) => exact ih none

/-- The first failing read decides, even if the predicate reads on. -/
lemma Predicate.candid_evaluate (p : Predicate) (n : ν) : (p.evaluate n none).Candid := by
  induction p with
  | answer b => trivial
  | read id next ih =>
    rw [Predicate.evaluate]
    intro reply
    match reply with
    | .ok value => exact ih value
    | .error .stale => exact ih none
    | .error (.failure reason) => exact (next none).doomed_evaluate n reason

lemma Connective.candid_evaluate (op : Connective) {first second : Inquiry ν Bool}
    (hfirst : first.Candid) (hsecond : second.Candid) : (op.evaluate first second).Candid := by
  refine hfirst.bind fun b => ?_
  cases op with
  | and =>
    cases b with
    | true => exact hsecond
    | false => trivial
  | or =>
    cases b with
    | true => trivial
    | false => exact hsecond

lemma Distance.candid_walk [DecidableEq ν] (d : Distance) (n : ν) : (d.walk n).Candid := by
  cases d with
  | up steps => exact Search.candid_walkInvariant.ancestors _ _ n
  | down steps => exact Search.candid_walkInvariant.descendants _ _ n
  | any steps => exact Search.candid_walkInvariant.around _ _ _ _

section Engine

variable [Regex.Engine]

lemma PropertyCondition.candid_evaluate (c : PropertyCondition) (n : ν) :
    (c.evaluate n).Candid := by
  intro reply
  match reply with
  | .ok value => trivial
  | .error .stale => trivial
  | .error (.failure reason) => exact rfl

variable [DecidableEq ν]

mutual

theorem Condition.candid_evaluate (s : Setting) : ∀ (c : Condition) (n : ν),
    (c.evaluate s n).Candid
  | .property c, n => by
    rw [Condition.evaluate]
    exact PropertyCondition.candid_evaluate c n
  | .function f, n => by
    rw [Condition.evaluate]
    exact Predicate.candid_evaluate _ n
  | .logical op left right, n => by
    rw [Condition.evaluate]
    exact op.candid_evaluate (Condition.candid_evaluate s left n)
      (Condition.candid_evaluate s right n)
  | .hasElement q, n => by
    rw [Condition.evaluate]
    exact fun _ => (Query.candid_search s q n).nonempty.bind fun b _ => trivial
  | .relative d c, n => by
    rw [Condition.evaluate]
    exact (d.candid_walk n).any fun m => Condition.candid_evaluateTarget s c m

theorem Condition.candid_evaluateTarget (s : Setting) : ∀ (c : Option Condition) (n : ν),
    (Condition.evaluateTarget s c n).Candid
  | none, _ => by
    rw [Condition.evaluateTarget]
    trivial
  | some c, n => by
    rw [Condition.evaluateTarget]
    exact Condition.candid_evaluate s c n

theorem Part.candid_pursue (s : Setting) : ∀ (p : Part) {contexts : Search ν},
    contexts.Candid → (p.pursue s contexts).Candid
  | .identity, _, h => by
    rw [Part.pursue]
    exact h
  | .ancestors _ includeSelf, _, h => by
    rw [Part.pursue]
    exact (h.flatMap (Search.candid_walkInvariant.ancestors _ includeSelf)).distinct []
  | .descendants _ includeSelf, _, h => by
    rw [Part.pursue]
    exact (h.flatMap (Search.candid_walkInvariant.descendants _ includeSelf)).distinct []
  | .composite e, _, h => by
    rw [Part.pursue]
    exact Element.candid_pursue s e h

theorem Part.candid_pursueAll (s : Setting) : ∀ (ps : List Part) {contexts : Search ν},
    contexts.Candid → (Part.pursueAll s ps contexts).Candid
  | [], _, h => by
    rw [Part.pursueAll]
    exact h
  | p :: ps, _, h => by
    rw [Part.pursueAll]
    exact Part.candid_pursueAll s ps (Part.candid_pursue s p h)

theorem Element.candid_pursue (s : Setting) : ∀ (e : Element) {contexts : Search ν},
    contexts.Candid → (e.pursue s contexts).Candid
  | ⟨condition, scope, skip, take⟩, contexts, h => by
    rw [Element.pursue]
    have hscope := Part.candid_pursueAll s scope h
    have hselect : (Condition.select s condition (Part.pursueAll s scope contexts)).Candid := by
      cases condition with
      | none =>
        rw [Condition.select]
        exact hscope
      | some c =>
        rw [Condition.select]
        exact hscope.filter fun n => Condition.candid_evaluate s c n
    split
    · exact hselect
    · exact hselect.page _ _

theorem Query.candid_search (s : Setting) : ∀ (q : Query) (n : ν), (q.search s n).Candid
  | ⟨path, element⟩, n => by
    rw [Query.search]
    refine Search.candid_walkInvariant.isValid fun valid => ?_
    cases valid with
    | true => exact Element.candid_pursue s element (Part.candid_pursueAll s path trivial)
    | false => trivial

end

namespace Query

lemma candid_findAll (s : Setting) (P : Provider ν) (q : Query) (n : ν)
    (hdepth : q.depth ≤ s.maxNesting.toNat) : (q.findAll s P n).Candid := by
  obtain ⟨path, element⟩ := q
  have hsearch := Query.candid_search s ⟨path, element⟩ n
  rw [Query.search] at hsearch
  rw [findAll, nestingError?_eq_none hdepth]
  exact hsearch (P.isValid n)

/-- A search and the same search with the mended provider start alike, since no failure can hide
whether the start is valid. -/
lemma findAll_congr {P P₀ : Provider ν} (h : P.MendedBy P₀) (s : Setting) (q : Query) (n : ν) :
    q.findAll s P n = q.findAll s P₀ n := by
  have hvalid : P.isValid n = P₀.isValid n := h.same (.isValid n) rfl
  rw [findAll, findAll, hvalid]

/-- No failure is swallowed, invented or reordered. Let `ns` be what the search gives with the
mended provider. If none of its requests fails, the search gives just that; otherwise it gives the
first few of them, then the failure of the first request that fails, and nothing from then on. -/
theorem answers_findAll_of_mendedBy {P P₀ : Provider ν} (h : P.MendedBy P₀) (s : Setting)
    (q : Query) (n : ν) (hdepth : q.depth ≤ s.maxNesting.toNat) : ∃ ns : List ν,
    (∀ k, (q.findAll s P₀ n).answers P₀ k = (ns.map Except.ok)[k]?) ∧
    match ((q.findAll s P n).requests P).findSome? P.failure? with
    | none => ∀ k, (q.findAll s P n).answers P k = (ns.map Except.ok)[k]?
    | some reason => ∃ ms, ms <+: ns ∧ ∀ k, (q.findAll s P n).answers P k =
        (ms.map Except.ok ++ [Except.error (.providerFailure reason)])[k]? := by
  have hcandid := q.candid_findAll s P n hdepth
  have hyields : (q.findAll s P₀ n).Yields P₀ ((q.findAll s P₀ n).drain P₀).1 :=
    (q.candid_findAll s P₀ n hdepth).yields h.sound
  refine ⟨_, hyields.answers, ?_⟩
  cases hr : ((q.findAll s P n).requests P).findSome? P.failure? with
  | none =>
    have hsame : (q.findAll s P n).drain P = (q.findAll s P₀ n).drain P₀ := by
      rw [hcandid.drain_eq_of_mendedBy h hr, findAll_congr h]
    exact Search.Yields.answers (hsame.trans hyields)
  | some reason =>
    obtain ⟨hpre, hend⟩ := hcandid.drain_of_failure h hr
    rw [findAll_congr h] at hpre hend
    refine ⟨_, hpre, fun k => ?_⟩
    rw [findAll_congr h, Search.answers_eq, hend]
    rfl

end Query

end Engine

/-- The name of the second control cannot be read, although the predicate does not care. -/
theorem Query.answers_findAll_of_unreadable_name :
    let root : SnapshotNode := .node ∅ [.node ∅ [], .node ∅ []]
    let P₀ := (SnapshotTree.ofNode root).provider
    let faults : List (Fault NodeId) := [⟨.property none, 2, .failure "lost"⟩]
    let s : Setting := { predicates := fun _ => .read .name fun _ => .answer true, reach := 3 }
    let q : Query := everything.function { name := "named", predicate := 0 }
    ((P₀.withFaults faults).MendedBy P₀ ∧ q.depth ≤ s.maxNesting.toNat) ∧
      ∃ ns : List NodeId, (∀ k, (q.findAll s P₀ 0).answers P₀ k = (ns.map Except.ok)[k]?) ∧
        ∃ ms, ms <+: ns ∧ ∀ k, (q.findAll s (P₀.withFaults faults) 0).answers
          (P₀.withFaults faults) k =
            (ms.map Except.ok ++ [Except.error (.providerFailure "lost")])[k]? := by
  intro root P₀ faults s q
  have hmended : (P₀.withFaults faults).MendedBy P₀ :=
    Provider.mendedBy_withFaults (SnapshotTree.failure?_provider _) (by simp [faults])
  have hdepth : q.depth ≤ s.maxNesting.toNat := by decide
  have hfirst : ((q.findAll s (P₀.withFaults faults) 0).requests (P₀.withFaults faults)).findSome?
      (P₀.withFaults faults).failure? = some "lost" := by decide +kernel
  obtain ⟨ns, hns, hms⟩ := answers_findAll_of_mendedBy hmended s q 0 hdepth
  rw [hfirst] at hms
  exact ⟨⟨hmended, hdepth⟩, ns, hns, hms⟩

end ControlQuery

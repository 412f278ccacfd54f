import ControlQuery.Proofs.Search.Drain
import ControlQuery.Query.Compose
import ControlQuery.Snapshot.Tree
import ControlQuery.Tree.Fault
import ControlQuery.Regex.Standard

/-!
# Pages of a search

A query that skips some matches and takes some gives that part of what it gives without a page. A
failure that ends the search is one of its answers, and it stands behind the last control: a page
that is full by then does not come to it, and a page that is not does not hide it.
-/

namespace ControlQuery

variable {ν : Type}

namespace Search

variable {P : Provider ν} {s : Search ν}

/-- Controls and a failure behind them are told apart from their row of answers. -/
lemma eq_of_map_append_eq {ns ms : List ν} {e f : Option SearchError}
    (h : ns.map Except.ok ++ e.toList.map Except.error =
      ms.map Except.ok ++ f.toList.map Except.error) : ns = ms ∧ e = f := by
  induction ns generalizing ms with
  | nil =>
    cases ms with
    | nil => cases e <;> cases f <;> simp_all
    | cons m ms => cases e <;> simp at h
  | cons n ns ih =>
    cases ms with
    | nil => cases f <;> simp at h
    | cons m ms =>
      simp only [List.map_cons, List.cons_append, List.cons.injEq, Except.ok.injEq] at h
      obtain ⟨rfl, hrest⟩ := h
      obtain ⟨rfl, rfl⟩ := ih hrest
      exact ⟨rfl, rfl⟩

/-- The answers say what draining gives. -/
lemma drain_eq_of_answers {ns : List ν} {e : Option SearchError}
    (h : ∀ k, s.answers P k = (ns.map Except.ok ++ e.toList.map Except.error)[k]?) :
    s.drain P = (ns, e) := by
  have hlist : (s.drain P).1.map Except.ok ++ (s.drain P).2.toList.map Except.error =
      ns.map Except.ok ++ e.toList.map Except.error := by
    apply List.ext_getElem?
    intro k
    rw [← answers_eq, h]
  obtain ⟨hns, he⟩ := eq_of_map_append_eq hlist
  exact Prod.ext hns he

/-! ### Pages by indices -/

section Between

variable {α : Type}

/-- The items from an index on, up to another if there is one. -/
def between (start : Nat) (stop : Option Nat) (xs : List α) : List α :=
  (xs.zipIdx.filter fun x => start ≤ x.2 && stop.all fun last => x.2 < last).map Prod.fst

lemma pageOf_cons_skip (skip : Nat) (take : Option Nat) (x : α) (xs : List α) :
    pageOf (skip + 1) take (x :: xs) = pageOf skip take xs := by
  cases take <;> rfl

/-- The induction is for lists that start at any index. -/
lemma map_fst_filter_zipIdx (start index : Nat) (stop : Option Nat) (xs : List α) :
    ((xs.zipIdx index).filter fun x =>
        start ≤ x.2 && stop.all fun last => x.2 < last).map Prod.fst =
      pageOf (start - index) (stop.map (· - max start index)) xs := by
  induction xs generalizing index with
  | nil => cases stop <;> simp [pageOf]
  | cons x xs ih =>
    rw [List.zipIdx_cons]
    by_cases hstart : start ≤ index
    · have hmax : max start (index + 1) = index + 1 := by omega
      rw [Nat.sub_eq_zero_of_le hstart, Nat.max_eq_right hstart]
      by_cases hstop : (stop.all fun last => index < last) = true
      · have htake : stop.map (· - index) ≠ some 0 := by
          cases stop with
          | none => exact (Option.some_ne_none 0).symm
          | some last =>
            have hlast : index < last := of_decide_eq_true hstop
            exact fun hzero => Nat.sub_ne_zero_of_lt hlast (Option.some.inj hzero)
        rw [List.filter_cons_of_pos (by simp [hstart, hstop]), List.map_cons, ih, hmax,
          Nat.sub_eq_zero_of_le (Nat.le_succ_of_le hstart), pageOf_cons_take htake, Option.map_map]
        rfl
      · cases stop with
        | none => exact absurd rfl hstop
        | some last =>
          have hlast : last ≤ index := by simpa using hstop
          have hnone : last - index = 0 := Nat.sub_eq_zero_of_le hlast
          have hnone' : last - (index + 1) = 0 := Nat.sub_eq_zero_of_le (Nat.le_succ_of_le hlast)
          rw [List.filter_cons_of_neg (by simp [hlast]), ih, hmax, Option.map_some,
            Option.map_some, hnone, hnone']
          rfl
    · have hskip : start - index = start - (index + 1) + 1 := by omega
      have hmax : max start (index + 1) = max start index := by omega
      rw [List.filter_cons_of_neg (by simp [hstart]), ih, hskip, pageOf_cons_skip, hmax]

lemma pageOf_eq_between (start : Nat) (stop : Option Nat) (xs : List α) :
    pageOf start (stop.map (· - start)) xs = between start stop xs := by
  have h := map_fst_filter_zipIdx start 0 stop xs
  rw [Nat.sub_zero, Nat.max_zero] at h
  exact h.symm

end Between

end Search

variable [DecidableEq ν]

/-- A page of an element gives the part of what the element gives without it. -/
lemma Element.drain_pursue [Regex.Engine] (e : Element) (s : Setting) (P : Provider ν)
    (contexts : Search ν) :
    ((e.pursue s contexts).drain P).1 =
      Search.pageOf ((e.skip.map UInt64.toNat).getD 0) (e.take.map UInt64.toNat)
        ((({ e with skip := none, take := none } : Element).pursue s contexts).drain P).1 := by
  obtain ⟨condition, scope, skip, take⟩ := e
  have hplain : Element.pursue s { condition, scope } contexts =
      Condition.select s condition (Part.pursueAll s scope contexts) := by
    rw [Element.pursue]
    rfl
  rw [hplain, Element.pursue]
  dsimp only
  by_cases h : (skip.isNone && take.isNone) = true
  · rw [if_pos h]
    rw [Bool.and_eq_true, Option.isNone_iff_eq_none, Option.isNone_iff_eq_none] at h
    rw [h.1, h.2]
    rfl
  · rw [if_neg h, Search.drain_page]

namespace Query

section Engine

variable [Regex.Engine]

lemma depth_skip_take (q : Query) (skip take : Count) :
    ((q.skip skip).take take).depth = q.depth := by
  obtain ⟨path, condition, scope, _, _⟩ := q
  simp [Query.skip, Query.take, Query.depth, Element.depth]

/-- A page is added behind all other stages. -/
lemma findAll_skip_take {s : Setting} {q : Query} (hdepth : q.depth ≤ s.maxNesting.toNat)
    (hskip : q.element.skip = none) (htake : q.element.take = none) (P : Provider ν) (n : ν)
    (skip take : Count) :
    ((q.skip skip).take take).findAll s P n =
      (q.findAll s P n).page skip.toNat (some take.toNat) := by
  have hnest : q.nestingError? s = none := if_pos hdepth
  have hnest' : ((q.skip skip).take take).nestingError? s = none :=
    if_pos (by rwa [depth_skip_take])
  rw [findAll, findAll, hnest, hnest']
  obtain ⟨path, condition, scope, _, _⟩ := q
  obtain rfl : _ = none := hskip
  obtain rfl : _ = none := htake
  dsimp only
  split
  · simp [Query.skip, Query.take, Element.pursue]
  · rfl

/-- Let a query without a page give `ns` and then perhaps a failure. With a page it gives that part
of `ns`, and then the failure just if the page has room for a control and is not full by then. -/
theorem answers_findAll_skip_take (s : Setting) (P : Provider ν) (q : Query) (n : ν)
    (hdepth : q.depth ≤ s.maxNesting.toNat) (hskip : q.element.skip = none)
    (htake : q.element.take = none) {ns : List ν} {e : Option SearchError}
    (hall : ∀ k, (q.findAll s P n).answers P k =
      (ns.map Except.ok ++ e.toList.map Except.error)[k]?) (skip take : Count) (k : Nat) :
    (((q.skip skip).take take).findAll s P n).answers P k =
      (((ns.drop skip.toNat).take take.toNat).map Except.ok ++
        (if 0 < take.toNat ∧ ns.length < skip.toNat + take.toNat then e
          else none).toList.map Except.error)[k]? := by
  have hdrain := Search.drain_eq_of_answers hall
  have hopen : Search.pageOpen skip.toNat (some take.toNat) ns.length =
      decide (0 < take.toNat ∧ ns.length < skip.toNat + take.toNat) :=
    (Bool.decide_and _ _).symm
  rw [findAll_skip_take hdepth hskip htake, Search.answers_eq, Search.drain_page, hdrain]
  simp [Search.pageOf, hopen]

end Engine

/-- The children of the second match are lost. A page that is full before does not say so, one that
is not does, and so does one that begins far behind; a page without room asks for nothing. -/
theorem answers_findAll_skip_take_lost_children :
    let root : SnapshotNode := .node ∅ [.node ∅ [], .node ∅ [], .node ∅ []]
    let P := (SnapshotTree.ofNode root).provider.withFaults [⟨.children, 2, .failure "lost"⟩]
    let s : Setting := { reach := 4 }
    let q := everything
    let lost := SearchError.providerFailure "lost"
    let far : Count := 18446744073709551615
    (q.depth ≤ s.maxNesting.toNat ∧ q.element.skip = none ∧ q.element.take = none ∧
      ∀ k, (q.findAll s P 0).answers P k = [.ok 1, .ok 2, .error lost][k]?) ∧
      (∀ k, (((q.skip 1).take 1).findAll s P 0).answers P k = [.ok 2][k]?) ∧
      (∀ k, (((q.skip 1).take 2).findAll s P 0).answers P k = [.ok 2, .error lost][k]?) ∧
      (∀ k, (((q.skip far).take far).findAll s P 0).answers P k = [.error lost][k]?) ∧
      ∀ k, (((q.skip 0).take 0).findAll s P 0).answers P k = [][k]? := by
  intro root P s q lost far
  have hdepth : q.depth ≤ s.maxNesting.toNat := by decide
  have hdrain : (q.findAll s P 0).drain P = ([1, 2], some lost) := by decide +kernel
  have hall : ∀ k, (q.findAll s P 0).answers P k =
      (([1, 2] : List NodeId).map Except.ok ++ (some lost).toList.map Except.error)[k]? := by
    intro k
    rw [Search.answers_eq, hdrain]
  have hpage := answers_findAll_skip_take s P q 0 hdepth rfl rfl hall
  exact ⟨⟨hdepth, rfl, rfl, hall⟩, hpage 1 1, hpage 1 2, hpage far far, hpage 0 0⟩

end Query

end ControlQuery

import ControlQuery.Proofs.Search.Drain
import ControlQuery.Proofs.Snapshot.Order
import Mathlib.Data.List.Basic
import Mathlib.Tactic.Common

/-!
# Walks in a snapshot tree

The lists that the three kinds of walk come to in a snapshot tree that stays as it is: the chain of
valid parents, the valid controls below in preorder, and what a bounded number of links leads to. A
walk with at least as many levels as the tree has controls is not cut off at all.
-/

namespace ControlQuery

namespace SnapshotTree

/-- Whether a control is still there. -/
def alive (t : SnapshotTree) (n : NodeId) : Bool :=
  (t.entry n).isOk

/-- The parent of a control, if both are still there. -/
def parent? (t : SnapshotTree) (n : NodeId) : Option NodeId :=
  ((t.entry n).toOption.bind TreeEntry.parent).filter t.alive

/-- The children of a control that are still there; a stale control has none. -/
def kids (t : SnapshotTree) (n : NodeId) : List NodeId :=
  (((t.entry n).toOption.map TreeEntry.children).getD []).filter t.alive

/-- What the links of a control lead to. -/
def links (t : SnapshotTree) (n : NodeId) : List NodeId :=
  (t.parent? n).toList ++ t.kids n

/-- The valid ancestors of a control, nearest first, along at most so many links. -/
def chain (t : SnapshotTree) : Nat → NodeId → List NodeId
  | 0, _ => []
  | levels + 1, n =>
    match t.parent? n with
    | some p => p :: t.chain levels p
    | none => []

/-- The valid controls at most so many levels below a control, each before its children. -/
def preorder (t : SnapshotTree) : Nat → NodeId → List NodeId
  | 0, _ => []
  | levels + 1, n => (t.kids n).flatMap fun c => c :: t.preorder levels c

/-- What at most so many links, up or down, lead to from a control, the control included. A control
is listed once for each way there. -/
def within (t : SnapshotTree) : Nat → NodeId → List NodeId
  | 0, n => [n]
  | steps + 1, n => n :: (t.links n).flatMap (t.within steps)

/-- A walk with its start in front if asked for. -/
def withSelf (includeSelf : Bool) (n : NodeId) (ns : List NodeId) : List NodeId :=
  if includeSelf then n :: ns else ns

lemma of_mem_withSelf {includeSelf : Bool} {n m : NodeId} {ns : List NodeId}
    (h : m ∈ withSelf includeSelf n ns) : m = n ∨ m ∈ ns := by
  cases includeSelf with
  | false => exact .inr h
  | true => exact List.mem_cons.1 h

/-- The other controls at a distance from a control. -/
def nearby (t : SnapshotTree) (n : NodeId) : Distance → List NodeId
  | .up steps => t.chain steps.toNat n
  | .down steps => t.preorder steps.toNat n
  | .any steps => (t.within steps.toNat n).filter (· ≠ n)

variable {t : SnapshotTree} {n m : Nat}

/-- A control is stale, or it is there with its entry. -/
lemma stale_or_alive (t : SnapshotTree) (n : NodeId) :
    ¬t.alive n = true ∧ t.entry n = .error .stale ∨
      t.alive n = true ∧ ∃ e, t.entry n = .ok e ∧ t.entries[n]? = some e := by
  rcases entry_eq_stale_or_ok t n with he | ⟨e, he, hentry⟩
  · exact .inl ⟨by simp [alive, he, Except.isOk, Except.toBool], he⟩
  · exact .inr ⟨by simp [alive, he, Except.isOk, Except.toBool], e, he, hentry⟩

lemma alive_lt (h : t.alive n = true) : n < t.size := by
  rcases t.stale_or_alive n with ⟨hn, -⟩ | ⟨-, e, -, he⟩
  · exact absurd h hn
  · exact (Array.getElem?_eq_some_iff.1 he).1

lemma alive_of_parent? (h : t.parent? n = some m) : t.alive m = true :=
  (Option.filter_eq_some_iff.1 h).2

lemma alive_of_mem_kids (h : m ∈ t.kids n) : t.alive m = true :=
  (List.mem_filter.1 h).2

lemma alive_of_mem_links (h : m ∈ t.links n) : t.alive m = true := by
  rcases List.mem_append.1 h with h | h
  · exact alive_of_parent? (Option.mem_toList.1 h)
  · exact alive_of_mem_kids h

/-! ### Walks without a limit -/

section Ordered

variable (ht : t.Ordered)
include ht

lemma Ordered.parent?_lt (h : t.parent? n = some m) : m < n := by
  rcases entry_eq_stale_or_ok t n with he | ⟨e, he, hentry⟩
  · simp [parent?, he, Except.toOption] at h
  · have hm := (Option.filter_eq_some_iff.1 h).1
    rw [he] at hm
    exact (ht n e hentry).1 m hm

lemma Ordered.lt_of_mem_kids (h : m ∈ t.kids n) : n < m := by
  rcases entry_eq_stale_or_ok t n with he | ⟨e, he, hentry⟩
  · simp [kids, he, Except.toOption] at h
  · have hm := (List.mem_filter.1 h).1
    rw [he] at hm
    exact (ht n e hentry).2 m hm

lemma Ordered.chain_eq_of_le {levels levels' : Nat} (h : n ≤ levels) (h' : n ≤ levels') :
    t.chain levels n = t.chain levels' n := by
  induction levels generalizing levels' n with
  | zero =>
    cases levels' with
    | zero => rfl
    | succ levels' =>
      rw [chain, chain]
      cases hp : t.parent? n with
      | none => rfl
      | some p =>
        have hlt := ht.parent?_lt hp
        omega
  | succ levels ih =>
    rw [chain]
    cases hp : t.parent? n with
    | none =>
      cases levels' with
      | zero => rfl
      | succ levels' => rw [chain, hp]
    | some p =>
      have hlt := ht.parent?_lt hp
      cases levels' with
      | zero => omega
      | succ levels' =>
        have heq : t.chain levels p = t.chain levels' p := ih (by omega) (by omega)
        rw [chain, hp]
        simp only [heq]

lemma Ordered.kids_eq_nil (h : t.size ≤ n) : t.kids n = [] := by
  refine List.eq_nil_iff_forall_not_mem.2 fun c hc => ?_
  have hlt := ht.lt_of_mem_kids hc
  have hsize := alive_lt (alive_of_mem_kids hc)
  omega

lemma Ordered.preorder_eq_of_le {levels levels' : Nat} (h : t.size ≤ levels + n)
    (h' : t.size ≤ levels' + n) : t.preorder levels n = t.preorder levels' n := by
  induction levels generalizing levels' n with
  | zero =>
    cases levels' with
    | zero => rfl
    | succ levels' => rw [preorder, preorder, ht.kids_eq_nil (by omega), List.flatMap_nil]
  | succ levels ih =>
    cases levels' with
    | zero => rw [preorder, preorder, ht.kids_eq_nil (by omega), List.flatMap_nil]
    | succ levels' =>
      rw [preorder, preorder]
      refine List.flatMap_congr fun c hc => ?_
      have hlt := ht.lt_of_mem_kids hc
      have heq : t.preorder levels c = t.preorder levels' c := ih (by omega) (by omega)
      rw [heq]

/-- A walk up with as many levels as the tree has controls goes all the way. -/
theorem Ordered.chain_of_size_le {levels : Nat} (h : t.size ≤ levels) (n : NodeId) :
    t.chain levels n = t.chain t.size n := by
  by_cases hn : n < t.size
  · exact ht.chain_eq_of_le (Nat.le_trans (Nat.le_of_lt hn) h) (Nat.le_of_lt hn)
  · have hp : t.parent? n = none := by
      rcases entry_eq_stale_or_ok t n with he | ⟨e, -, he⟩
      · simp [parent?, he, Except.toOption]
      · exact absurd (Array.getElem?_eq_some_iff.1 he).1 hn
    cases levels <;> cases hs : t.size <;> simp [chain, hp]

/-- A walk down with as many levels as the tree has controls goes all the way. -/
theorem Ordered.preorder_of_size_le {levels : Nat} (h : t.size ≤ levels) (n : NodeId) :
    t.preorder levels n = t.preorder t.size n :=
  ht.preorder_eq_of_le (Nat.le_add_right_of_le h) (Nat.le_add_right _ _)

end Ordered

end SnapshotTree

/-! ### What the walks of a search yield -/

namespace Search

variable (t : SnapshotTree)

open SnapshotTree (parent? kids links chain preorder withSelf entry_eq_stale_or_ok)

lemma yields_isValid {n : NodeId} {next : Bool → Search NodeId} {ns : List NodeId}
    (h : (next (t.alive n)).Yields t.provider ns) :
    (ask (.isValid n) next).Yields t.provider ns := h

lemma yields_keepValid {ns ms : List NodeId} {next : List NodeId → Search NodeId}
    (h : (next (ns.filter t.alive)).Yields t.provider ms) :
    (keepValid ns next).Yields t.provider ms := by
  induction ns generalizing next with
  | nil => exact h
  | cons m ns ih =>
    refine yields_isValid t (ih ?_)
    rw [List.filter_cons] at h
    exact h

theorem yields_climb (levels : Nat) (n : NodeId) :
    (climb levels n).Yields t.provider (t.chain levels n) := by
  induction levels generalizing n with
  | zero => rfl
  | succ levels ih =>
    refine yields_ask ?_
    simp only [Provider.reply, SnapshotTree.provider, chain, parent?]
    rcases entry_eq_stale_or_ok t n with he | ⟨e, he, -⟩
    · simp only [he, Except.map, Except.toOption]
      exact yields_finish
    · simp only [he, Except.map, Except.toOption, Option.bind_some]
      cases e.parent with
      | none => exact yields_finish
      | some p =>
        refine yields_isValid t ?_
        cases hp : t.alive p with
        | true =>
          simp only [Option.filter_some, hp]
          exact yields_yield (ih p)
        | false =>
          simp only [Option.filter_some, hp]
          exact yields_finish

lemma Yields.visit {below : NodeId → Search NodeId → Search NodeId} {c : NodeId}
    {rest : Search NodeId} {ns ms : List NodeId} (hc : t.alive c = true)
    (hbelow : (below c rest).Yields t.provider (ns ++ ms)) :
    (descend.visit below c rest).Yields t.provider (c :: ns ++ ms) := by
  refine yields_isValid t ?_
  rw [if_pos hc]
  exact yields_yield hbelow

theorem Yields.descend (levels : Nat) (n : NodeId) {rest : Search NodeId} {ns : List NodeId}
    (hrest : rest.Yields t.provider ns) :
    (descend levels n rest).Yields t.provider (t.preorder levels n ++ ns) := by
  induction levels generalizing n rest ns with
  | zero => exact hrest
  | succ levels ih =>
    refine yields_ask ?_
    simp only [Provider.reply, SnapshotTree.provider, preorder, kids]
    rcases entry_eq_stale_or_ok t n with he | ⟨e, he, -⟩
    · simp only [he, Except.map, Except.toOption]
      exact hrest
    · simp only [he, Except.map, Except.toOption, Option.map_some, Option.getD_some]
      refine yields_keepValid t ?_
      have hvalid : ∀ c ∈ e.children.filter t.alive, t.alive c = true :=
        fun c hc => (List.mem_filter.1 hc).2
      generalize e.children.filter t.alive = kept at hvalid
      induction kept with
      | nil => exact hrest
      | cons c kept ihk =>
        rw [List.foldr_cons, List.flatMap_cons, List.append_assoc]
        have hkept := ihk fun d hd => hvalid d (List.mem_cons_of_mem c hd)
        exact Yields.visit t (hvalid c List.mem_cons_self) (ih c hkept)

theorem yields_ancestors (levels : Nat) (includeSelf : Bool) (n : NodeId) :
    (ancestors levels includeSelf n).Yields t.provider
      (withSelf includeSelf n (t.chain levels n)) := by
  cases includeSelf with
  | false => exact yields_climb t levels n
  | true => exact yields_yield (yields_climb t levels n)

theorem yields_descendants (levels : Nat) (includeSelf : Bool) {n : NodeId}
    (hn : includeSelf = true → t.alive n = true) :
    (descendants levels includeSelf n).Yields t.provider
      (withSelf includeSelf n (t.preorder levels n)) := by
  have hbelow := Yields.descend t levels n yields_finish
  rw [List.append_nil] at hbelow
  cases includeSelf with
  | false => exact hbelow
  | true =>
    refine yields_isValid t ?_
    rw [if_pos (hn rfl)]
    exact yields_yield hbelow

end Search

end ControlQuery

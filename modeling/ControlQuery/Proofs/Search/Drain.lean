import ControlQuery.Search.Engine
import Mathlib.Tactic.Lemma

/-!
# Searches of a tree that stays as it is

While nothing changes, a search comes to a list of controls and perhaps a failure at its end, and
each way to build a search from others is an operation on such lists. `Search.answers` are the
answers to one request after the other for the next control; by `answers_eq` they are the drained
list, then its failure, and nothing more from then on.
-/

namespace ControlQuery

variable {ν α β : Type}

/-- What the caller gets to see of an outcome. -/
def Outcome.answer : Outcome ν → Option (Except SearchError ν)
  | found n _ => some (.ok n)
  | failed e => some (.error e)
  | finished => none

/-- What is left of the search after an outcome. A search that has failed is over. -/
def Outcome.rest : Outcome ν → Search ν
  | found _ rest => rest
  | failed _ => .finish
  | finished => .finish

/-- The request is whether some control is valid, or is one that `asks` allows for a known one. -/
def Request.Allowed (asks : ν → Request ν → Prop) (known : List ν) (r : Request ν) : Prop :=
  (∃ n, r = .isValid n) ∨ ∃ n ∈ known, asks n r

lemma Request.Allowed.mono {asks : ν → Request ν → Prop} {known known' : List ν} {r : Request ν}
    (h : r.Allowed asks known) (hsub : ∀ n ∈ known, n ∈ known') : r.Allowed asks known' := by
  rcases h with h | ⟨n, hn, hr⟩
  · exact .inl h
  · exact .inr ⟨n, hsub n hn, hr⟩

namespace Search

/-- The answer to the request for a next control that `k` requests came before. -/
def answers (P : Provider ν) : Search ν → Nat → Option (Except SearchError ν)
  | s, 0 => (s.next P).answer
  | s, k + 1 => (s.next P).rest.answers P k

/-- The search yields these controls and then finishes. -/
def Yields (P : Provider ν) (s : Search ν) (ns : List ν) : Prop :=
  s.drain P = (ns, none)

section Answers

variable (P : Provider ν)

lemma answers_finish (k : Nat) : (finish : Search ν).answers P k = none := by
  induction k with
  | zero => rfl
  | succ k ih => exact ih

lemma answers_ask (r : Request ν) (next : r.Reply → Search ν) (k : Nat) :
    (ask r next).answers P k = (next (P.reply r)).answers P k := by
  cases k with
  | zero => rfl
  | succ k => rfl

theorem answers_eq (s : Search ν) (k : Nat) :
    s.answers P k =
      ((s.drain P).1.map Except.ok ++ (s.drain P).2.toList.map Except.error)[k]? := by
  induction s generalizing k with
  | finish => rw [answers_finish]; rfl
  | fail e =>
    cases k with
    | zero => rfl
    | succ k => exact answers_finish P k
  | yield n rest ih =>
    cases k with
    | zero => rfl
    | succ k => exact ih k
  | ask r next ih =>
    rw [answers_ask, ih]
    rfl

end Answers

variable {P : Provider ν} {s t : Search ν} {ns ms : List ν}

theorem Yields.answers (h : s.Yields P ns) (k : Nat) :
    s.answers P k = (ns.map Except.ok)[k]? := by
  rw [answers_eq, h]
  simp

/-! ### Building searches from searches -/

lemma yields_finish : (finish : Search ν).Yields P [] := rfl

lemma yields_yield {n : ν} (h : s.Yields P ns) : (yield n s).Yields P (n :: ns) := by
  unfold Yields at h ⊢
  rw [drain, h]

lemma yields_ask {r : Request ν} {next : r.Reply → Search ν}
    (h : (next (P.reply r)).Yields P ns) : (ask r next).Yields P ns := h

lemma yields_one (n : ν) : (one n).Yields P [n] := rfl

lemma drain_fail_ne {e : SearchError} : ¬(fail e : Search ν).Yields P ns := by
  intro h
  simp [Yields, drain] at h

lemma yields_yield_iff {n : ν} :
    (yield n s).Yields P ns ↔ ∃ ms, ns = n :: ms ∧ s.Yields P ms := by
  simp only [Yields, drain]
  constructor
  · intro h
    obtain ⟨hns, he⟩ := Prod.mk.inj h
    exact ⟨_, hns.symm, Prod.ext rfl he⟩
  · rintro ⟨ms, rfl, h⟩
    rw [h]

lemma append_finish (s : Search ν) : s.append finish = s := by
  induction s with
  | finish => rfl
  | fail e => rfl
  | yield n rest ih => rw [append, ih]
  | ask r next ih =>
    rw [append]
    congr 1
    exact funext ih

lemma Yields.append (hs : s.Yields P ns) (ht : t.Yields P ms) :
    (s.append t).Yields P (ns ++ ms) := by
  induction s generalizing ns with
  | finish =>
    cases hs
    exact ht
  | fail e => exact absurd hs drain_fail_ne
  | yield n rest ih =>
    obtain ⟨ns, rfl, hrest⟩ := yields_yield_iff.1 hs
    exact yields_yield (ih hrest)
  | ask r next ih => exact yields_ask (ih _ hs)

lemma Yields.flatMap {f : ν → Search ν} {g : ν → List ν} (hs : s.Yields P ns)
    (hf : ∀ n ∈ ns, (f n).Yields P (g n)) : (s.flatMap f).Yields P (ns.flatMap g) := by
  induction s generalizing ns with
  | finish => cases hs; rfl
  | fail e => exact absurd hs drain_fail_ne
  | yield n rest ih =>
    obtain ⟨ns, rfl, hrest⟩ := yields_yield_iff.1 hs
    rw [List.flatMap_cons]
    exact (hf n List.mem_cons_self).append
      (ih hrest fun m hm => hf m (List.mem_cons_of_mem n hm))
  | ask r next ih => exact yields_ask (ih _ hs hf)

/-- Of a control that is new only the first occurrence is. -/
lemma eraseDups_filter_cons [DecidableEq ν] {n : ν} {seen : List ν} (h : n ∉ seen) (ns : List ν) :
    ((n :: ns).filter (· ∉ seen)).eraseDups = n :: (ns.filter (· ∉ n :: seen)).eraseDups := by
  rw [List.filter_cons_of_pos (by simpa using h), List.eraseDups_cons, List.filter_filter]
  congr 2
  refine List.filter_congr fun m _ => ?_
  by_cases hm : m = n <;> simp [hm]

lemma Yields.distinct [DecidableEq ν] (hs : s.Yields P ns) (seen : List ν) :
    (s.distinct seen).Yields P (ns.filter (· ∉ seen)).eraseDups := by
  induction s generalizing ns seen with
  | finish => cases hs; rfl
  | fail e => exact absurd hs drain_fail_ne
  | yield n rest ih =>
    obtain ⟨ns, rfl, hrest⟩ := yields_yield_iff.1 hs
    by_cases hn : n ∈ seen
    · rw [Search.distinct, if_pos hn, List.filter_cons_of_neg (by simpa using hn)]
      exact ih hrest seen
    · rw [Search.distinct, if_neg hn, eraseDups_filter_cons hn]
      exact yields_yield (ih hrest (n :: seen))
  | ask r next ih => exact yields_ask (ih _ hs seen)

lemma Yields.distinct_nil [DecidableEq ν] (hs : s.Yields P ns) :
    (s.distinct []).Yields P ns.eraseDups := by
  have h := hs.distinct []
  rwa [List.filter_eq_self.2 (fun n _ => by simp)] at h

/-- What a page keeps of a list. -/
def pageOf (skip : Nat) (take : Option Nat) (ns : List ν) : List ν :=
  match take with
  | some count => (ns.drop skip).take count
  | none => ns.drop skip

lemma page_full (s : Search ν) (skip : Nat) : s.page skip (some 0) = finish := by
  cases s <;> simp [Search.page]

lemma page_yield_skip {take : Option Nat} (h : take ≠ some 0) (n : ν) (s : Search ν) (skip : Nat) :
    (yield n s).page (skip + 1) take = s.page skip take := by
  simp [Search.page, h]

lemma page_yield_take {take : Option Nat} (h : take ≠ some 0) (n : ν) (s : Search ν) :
    (yield n s).page 0 take = yield n (s.page 0 (take.map (· - 1))) := by
  simp [Search.page, h]

lemma page_ask {take : Option Nat} (h : take ≠ some 0) (r : Request ν)
    (next : r.Reply → Search ν) (skip : Nat) :
    (ask r next).page skip take = ask r fun reply => (next reply).page skip take := by
  simp [Search.page, h]

lemma pageOf_cons_take {take : Option Nat} (h : take ≠ some 0) (n : ν) (ns : List ν) :
    pageOf 0 take (n :: ns) = n :: pageOf 0 (take.map (· - 1)) ns := by
  cases take with
  | none => rfl
  | some count =>
    cases count with
    | zero => exact absurd rfl h
    | succ count => rfl

/-- Whether a page still waits for controls, or for the end, behind so many controls. -/
def pageOpen (skip : Nat) (take : Option Nat) (length : Nat) : Bool :=
  take.all fun count => 0 < count && length < skip + count

lemma pageOpen_skip (skip : Nat) (take : Option Nat) (length : Nat) :
    pageOpen (skip + 1) take (length + 1) = pageOpen skip take length := by
  cases take with
  | none => rfl
  | some count => simp [pageOpen, Nat.add_right_comm skip 1 count]

lemma pageOpen_take {take : Option Nat} (h : take ≠ some 0) (length : Nat) :
    pageOpen 0 take (length + 1) = pageOpen 0 (take.map (· - 1)) length := by
  cases take with
  | none => rfl
  | some count =>
    have hcount : count ≠ 0 := fun h0 => h (congrArg some h0)
    rw [Bool.eq_iff_iff]
    simp [pageOpen]
    omega

/-- A page gives its part of the list, and the failure behind the list unless it is full before. -/
theorem drain_page (P : Provider ν) (s : Search ν) (skip : Nat) (take : Option Nat) :
    (s.page skip take).drain P =
      (pageOf skip take (s.drain P).1,
        if pageOpen skip take (s.drain P).1.length then (s.drain P).2 else none) := by
  by_cases h0 : take = some 0
  · subst h0
    rw [page_full]
    simp [drain, pageOf, pageOpen]
  induction s generalizing skip take with
  | finish =>
    have hnone : pageOf skip take ([] : List ν) = [] := by cases take <;> simp [pageOf]
    exact Prod.ext hnone.symm (ite_self none).symm
  | fail e =>
    cases take with
    | none => simp [Search.page, drain, pageOf, pageOpen]
    | some count =>
      have hcount : 0 < count := Nat.pos_of_ne_zero fun h => h0 (congrArg some h)
      have hopen : pageOpen skip (some count) 0 = true := by
        simp only [pageOpen, Option.all_some, Bool.and_eq_true, decide_eq_true_eq]
        omega
      simp [Search.page, drain, pageOf, hopen, Nat.ne_of_gt hcount]
  | yield n rest ih =>
    rw [drain]
    cases skip with
    | succ skip =>
      rw [page_yield_skip h0, ih skip take h0, List.length_cons, pageOpen_skip]
      cases take <;> rfl
    | zero =>
      rw [page_yield_take h0, pageOf_cons_take h0, List.length_cons, pageOpen_take h0, drain]
      -- the last control of the page fills it, and nothing more is asked then
      by_cases hlast : take.map (· - 1) = some 0
      · rw [hlast, page_full]
        simp [drain, pageOf, pageOpen]
      · rw [ih 0 _ hlast]
  | ask r next ih =>
    rw [page_ask h0]
    exact ih _ skip take h0

lemma Yields.page (hs : s.Yields P ns) (skip : Nat) (take : Option Nat) :
    (s.page skip take).Yields P (pageOf skip take ns) := by
  unfold Yields at hs ⊢
  rw [drain_page, hs, ite_self]

/-! ### Searches that are left alone halfway -/

/-- When this provider replies, the search yields these controls and then goes on as `t`; up to then
it only puts requests of one kind. -/
inductive Leads (P : Provider ν) (kind : Request ν → Prop) : Search ν → List ν → Search ν → Prop
  | here (s : Search ν) : Leads P kind s [] s
  | yield {n : ν} {rest t : Search ν} {ns : List ν} (h : Leads P kind rest ns t) :
      Leads P kind (yield n rest) (n :: ns) t
  | ask {r : Request ν} {next : r.Reply → Search ν} {t : Search ν} {ns : List ν} (hr : kind r)
      (h : Leads P kind (next (P.reply r)) ns t) : Leads P kind (ask r next) ns t

section Leads

variable {kind kind' : Request ν → Prop} {u : Search ν}

lemma Leads.trans (hs : s.Leads P kind ns t) (ht : t.Leads P kind ms u) :
    s.Leads P kind (ns ++ ms) u := by
  induction hs with
  | here s => exact ht
  | yield _ ih => exact .yield (ih ht)
  | ask hr _ ih => exact .ask hr (ih ht)

lemma Leads.mono (h : s.Leads P kind ns t) (hkind : ∀ r, kind r → kind' r) :
    s.Leads P kind' ns t := by
  induction h with
  | here s => exact .here s
  | yield _ ih => exact .yield ih
  | ask hr _ ih => exact .ask (hkind _ hr) ih

/-- Another provider leads a search the same way if it gives the same replies on the way. -/
lemma Leads.congr {P' : Provider ν} (h : s.Leads P kind ns t)
    (hreply : ∀ r, kind r → P'.reply r = P.reply r) : s.Leads P' kind ns t := by
  induction h with
  | here s => exact .here s
  | yield _ ih => exact .yield ih
  | ask hr _ ih =>
    refine .ask hr ?_
    rw [hreply _ hr]
    exact ih

lemma Leads.drain (hs : s.Leads P kind ns t) :
    s.drain P = (ns ++ (t.drain P).1, (t.drain P).2) := by
  induction hs with
  | here s => rfl
  | yield _ ih => rw [Search.drain, ih, List.cons_append]
  | ask _ _ ih => exact ih

lemma Leads.yields (hs : s.Leads P kind ns t) (ht : t.Yields P ms) : s.Yields P (ns ++ ms) := by
  unfold Yields at ht ⊢
  rw [hs.drain, ht]

end Leads

/-! ### Inquiries -/

lemma next_search {i : Inquiry ν α} {a : α} (h : i.run P = .ok a) (f : α → Search ν) :
    (i.search f).next P = (f a).next P := by
  induction i with
  | done b =>
    cases h
    rfl
  | fail e => cases h
  | ask r next ih => exact ih _ h

/-- The next control comes through a filter that keeps it. -/
lemma next_filter {n : ν} {p : ν → Inquiry ν Bool} (h : s.next P = .found n t)
    (hp : (p n).run P = .ok true) : (s.filter p).next P = .found n (t.filter p) := by
  induction s with
  | finish => cases h
  | fail e => cases h
  | yield m rest =>
    cases h
    rw [filter, next_search hp]
    rfl
  | ask r next ih => exact ih _ h

/-- A filter passes over controls that it does not keep. -/
lemma Leads.next_filter {kind : Request ν → Prop} {p : ν → Inquiry ν Bool}
    (h : s.Leads P kind ns t) (hp : ∀ n ∈ ns, (p n).run P = .ok false) :
    (s.filter p).next P = (t.filter p).next P := by
  induction h with
  | here s => rfl
  | @yield n rest t ns _ ih =>
    rw [Search.filter, next_search (hp n List.mem_cons_self)]
    exact ih fun m hm => hp m (List.mem_cons_of_mem n hm)
  | ask _ _ ih => exact ih hp

lemma drain_search (i : Inquiry ν α) (f : α → Search ν) {a : α} (h : i.run P = .ok a) :
    (i.search f).drain P = (f a).drain P := by
  induction i with
  | done b =>
    cases h
    rfl
  | fail e => cases h
  | ask r next ih => exact ih _ h

lemma Yields.filter {p : ν → Inquiry ν Bool} {b : ν → Bool} (hs : s.Yields P ns)
    (hp : ∀ n ∈ ns, (p n).run P = .ok (b n)) : (s.filter p).Yields P (ns.filter b) := by
  induction s generalizing ns with
  | finish => cases hs; rfl
  | fail e => exact absurd hs drain_fail_ne
  | yield n rest ih =>
    obtain ⟨ns, rfl, hrest⟩ := yields_yield_iff.1 hs
    have hkeep := ih hrest fun m hm => hp m (List.mem_cons_of_mem n hm)
    unfold Yields
    rw [Search.filter, drain_search _ _ (hp n List.mem_cons_self)]
    cases hb : b n with
    | true =>
      rw [List.filter_cons_of_pos hb]
      exact yields_yield hkeep
    | false =>
      rw [List.filter_cons_of_neg (by simp [hb])]
      exact hkeep
  | ask r next ih => exact yields_ask (ih _ hs hp)

lemma Yields.run_nonempty (hs : s.Yields P ns) : s.nonempty.run P = .ok (!ns.isEmpty) := by
  induction s generalizing ns with
  | finish => cases hs; rfl
  | fail e => exact absurd hs drain_fail_ne
  | yield n rest ih =>
    obtain ⟨ns, rfl, -⟩ := yields_yield_iff.1 hs
    rfl
  | ask r next ih => exact ih _ hs

end Search

namespace Inquiry

variable {γ : Type} {P : Provider ν}

lemma bind_assoc (i : Inquiry ν α) (f : α → Inquiry ν β) (g : β → Inquiry ν γ) :
    (i.bind f).bind g = i.bind fun a => (f a).bind g := by
  induction i with
  | done a => rfl
  | fail e => rfl
  | ask r next ih =>
    rw [Inquiry.bind, Inquiry.bind, Inquiry.bind]
    congr 1
    exact funext ih

lemma run_bind_eq (i : Inquiry ν α) (f : α → Inquiry ν β) :
    (i.bind f).run P = (i.run P).bind fun a => (f a).run P := by
  induction i with
  | done a => rfl
  | fail e => rfl
  | ask r next ih => exact ih _

lemma run_bind {i : Inquiry ν α} {a : α} (h : i.run P = .ok a) (f : α → Inquiry ν β) :
    (i.bind f).run P = (f a).run P := by
  rw [run_bind_eq, h]
  rfl

end Inquiry

lemma Search.Yields.run_any {P : Provider ν} {s : Search ν} {ns : List ν}
    {p : ν → Inquiry ν Bool} {b : ν → Bool} (hs : s.Yields P ns)
    (hp : ∀ n ∈ ns, (p n).run P = .ok (b n)) : (s.any p).run P = .ok (ns.any b) := by
  induction s generalizing ns with
  | finish => cases hs; rfl
  | fail e => exact absurd hs drain_fail_ne
  | yield n rest ih =>
    obtain ⟨ns, rfl, hrest⟩ := yields_yield_iff.1 hs
    have hany := ih hrest fun m hm => hp m (List.mem_cons_of_mem n hm)
    rw [Search.any, Inquiry.run_bind (hp n List.mem_cons_self), List.any_cons]
    cases b n with
    | true => rfl
    | false => exact hany
  | ask r next ih => exact ih _ hs hp

/-! ### Opening a search -/

variable [Regex.Engine]

namespace Query

variable [DecidableEq ν] {P : Provider ν} {s : Setting} {q : Query} {n : ν}

lemma nestingError?_eq_none (h : q.depth ≤ s.maxNesting.toNat) : q.nestingError? s = none :=
  if_pos h

/-- A query whose sub-queries nest too deep is not run at all. -/
lemma findAll_of_not_le (h : ¬q.depth ≤ s.maxNesting.toNat) (P : Provider ν) (n : ν) :
    q.findAll s P n = .fail (.nestedTooDeep q.depth s.maxNesting) := by
  rw [findAll, nestingError?, if_neg h]

lemma findFirst_of_yields {ns : List ν} (h : (q.findAll s P n).Yields P ns) :
    q.findFirst s P n = .ok ns.head? := by
  have hfirst := h.answers 0
  rw [Search.answers] at hfirst
  rw [findFirst]
  cases hnext : (q.findAll s P n).next P with
  | found m rest =>
    rw [hnext] at hfirst
    cases ns with
    | nil => cases hfirst
    | cons k ns =>
      cases hfirst
      rfl
  | failed e =>
    rw [hnext] at hfirst
    cases ns <;> cases hfirst
  | finished =>
    rw [hnext] at hfirst
    cases ns with
    | nil => rfl
    | cons k ns => cases hfirst

end Query

end ControlQuery

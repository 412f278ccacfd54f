import ControlQuery.Proofs.Search.DocumentOrder
import ControlQuery.Proofs.Query.Plain
import ControlQuery.Tree.Fault

/-!
# Searches ask for nothing before it is needed

A lazy walk asks for the links of a control only when the control has been yielded, or is the one
that it started from. The walks up and down are lazy whatever they are told. A walk down never asks
for a parent, and by the time that it comes to a control it has asked for the children of controls
before it only. So what a provider would answer about later controls makes no difference to the
first match of a search: it may as well fail there.
-/

namespace ControlQuery

variable {ν α : Type}

/-! ### Conditions that only read properties -/

section Engine

variable [Regex.Engine]

/-- A plain condition comes to the same where the properties of the control are the same. -/
lemma Condition.run_evaluate_of_plain [DecidableEq ν] {P P' : Provider ν} {n : ν}
    (h : ∀ id, P'.property n id = P.property n id) (s : Setting) {c : Condition}
    (hplain : c.isPlain = true) : (c.evaluate s n).run P' = (c.evaluate s n).run P := by
  refine plain_induction
    (motive := fun c => (c.evaluate s n).run P' = (c.evaluate s n).run P) (fun c => ?_) ?_ hplain
  · rw [evaluate, PropertyCondition.evaluate, Inquiry.run, Inquiry.run]
    simp only [Provider.reply, h]
    split <;> rfl
  · intro op left right hleft hright
    rw [evaluate, Connective.evaluate, Inquiry.run_bind_eq, Inquiry.run_bind_eq, hleft]
    congr 1
    funext b
    cases op with
    | and =>
      cases b with
      | true => exact hright
      | false => rfl
    | or =>
      cases b with
      | true => rfl
      | false => exact hright

lemma Condition.run_evaluateTarget_of_plain [DecidableEq ν] {P P' : Provider ν} {n : ν}
    (h : ∀ id, P'.property n id = P.property n id) (s : Setting) {c : Option Condition}
    (hplain : c.all Condition.isPlain = true) :
    (evaluateTarget s c n).run P' = (evaluateTarget s c n).run P := by
  cases c with
  | none =>
    rw [evaluateTarget]
    rfl
  | some c =>
    rw [evaluateTarget]
    exact run_evaluate_of_plain h s hplain

end Engine

/-! ### Providers that differ in places -/

/-- The providers give the same answers, except perhaps about the parents, children and properties
of other controls than these. -/
structure Provider.AgreesOn (P P' : Provider ν) (parents children properties : ν → Prop) :
    Prop where
  isValid : ∀ n, P'.isValid n = P.isValid n
  parent : ∀ n, parents n → P'.parent n = P.parent n
  children : ∀ n, children n → P'.children n = P.children n
  property : ∀ n id, properties n → P'.property n id = P.property n id

/-- A fault in such a question about a control is about nothing that these controls stand for. -/
def FaultyCall.Spares (parents children properties : ν → Prop) (n : ν) : FaultyCall → Prop
  | .parent => ¬parents n
  | .children => ¬children n
  | .property _ => ¬properties n
  | .isValid => False

/-- Faults elsewhere leave the answers about these controls as they are. -/
lemma Provider.agreesOn_withFaults [DecidableEq ν] (P : Provider ν) (faults : List (Fault ν))
    {parents children properties : ν → Prop}
    (h : ∀ f ∈ faults, f.call.Spares parents children properties f.node) :
    P.AgreesOn (P.withFaults faults) parents children properties := by
  have hnone : ∀ n (covers : FaultyCall → Bool),
      (∀ call : FaultyCall, call.Spares parents children properties n → covers call = false) →
      faultFor faults n covers = none := by
    intro n covers hcovers
    rw [faultFor, Option.map_eq_none_iff, List.find?_eq_none]
    intro f hf
    simp only [Bool.and_eq_true, beq_iff_eq, not_and, Bool.not_eq_true]
    rintro rfl
    exact hcovers f.call (h f hf)
  constructor
  · intro n
    have hfault := hnone n (· == .isValid) fun call hspares => by
      cases call <;> first | rfl | exact hspares.elim
    simp [withFaults, hfault]
  · intro n hn
    have hfault := hnone n (· == .parent) fun call hspares => by
      cases call <;> first | rfl | exact absurd hn hspares
    simp [withFaults, hfault, answerUnless]
  · intro n hn
    have hfault := hnone n (· == .children) fun call hspares => by
      cases call <;> first | rfl | exact absurd hn hspares
    simp [withFaults, hfault, answerUnless]
  · intro n id hn
    simp only [withFaults]
    rw [hnone n, answerUnless]
    intro call hspares
    cases call <;> first | rfl | exact absurd hn hspares

namespace Search

/-! ### Up to the next match -/

section Next

variable {P : Provider ν} {s rest : Search ν} {n : ν}

lemma drain_of_next (h : s.next P = .found n rest) :
    (s.drain P).1 = n :: (rest.drain P).1 := by
  induction s with
  | finish => cases h
  | fail e => cases h
  | yield m rest' =>
    cases h
    rfl
  | ask r next ih => exact ih _ h

end Next

/-- While this provider replies, the search asks only whether controls are valid, and what `asks`
allows for controls that are known or have been yielded. -/
def Lazy (P : Provider ν) (asks : ν → Request ν → Prop) : Search ν → List ν → Prop
  | finish, _ => True
  | fail _, _ => True
  | yield n rest, known => rest.Lazy P asks (n :: known)
  | ask r next, known => r.Allowed asks known ∧ (next (P.reply r)).Lazy P asks known

section Lazy

variable {P : Provider ν} {asks : ν → Request ν → Prop} {s : Search ν} {known : List ν}

lemma Lazy.mono (h : s.Lazy P asks known) {known' : List ν} (hsub : ∀ n ∈ known, n ∈ known') :
    s.Lazy P asks known' := by
  induction s generalizing known known' with
  | finish => trivial
  | fail e => trivial
  | yield n rest ih =>
    refine ih h fun m hm => ?_
    rcases List.mem_cons.1 hm with rfl | hm
    · exact List.mem_cons_self
    · exact List.mem_cons_of_mem n (hsub m hm)
  | ask r next ih => exact ⟨h.1.mono hsub, ih _ h.2 hsub⟩

/-- Leaving out what is known already keeps a search lazy. -/
lemma Lazy.distinct [DecidableEq ν] (h : s.Lazy P asks known) {seen : List ν}
    (hseen : ∀ n ∈ seen, n ∈ known) : (s.distinct seen).Lazy P asks known := by
  induction s generalizing known seen with
  | finish => trivial
  | fail e => trivial
  | yield n rest ih =>
    rw [Search.distinct]
    split
    · next hn =>
      have hknown : rest.Lazy P asks known := by
        refine mono (s := rest) h fun m hm => ?_
        rcases List.mem_cons.1 hm with rfl | hm
        · exact hseen m hn
        · exact hm
      exact ih hknown hseen
    · refine ih h fun m hm => ?_
      rcases List.mem_cons.1 hm with rfl | hm
      · exact List.mem_cons_self
      · exact List.mem_cons_of_mem n (hseen m hm)
  | ask r next ih => exact ⟨h.1, ih _ h.2 hseen⟩

/-- A lazy search that comes to a control has only asked about controls before it. -/
theorem Lazy.leads (h : s.Lazy P asks known) {before after : List ν} {w : ν}
    (hdrain : (s.drain P).1 = before ++ w :: after) :
    ∃ rest, s.Leads P (Request.Allowed asks (known ++ before)) before (yield w rest) := by
  induction s generalizing known before with
  | finish => simp [drain] at hdrain
  | fail e => simp [drain] at hdrain
  | yield n rest ih =>
    cases before with
    | nil =>
      obtain ⟨rfl, -⟩ := List.cons.inj hdrain
      exact ⟨rest, .here _⟩
    | cons m before =>
      obtain ⟨rfl, hrest⟩ := List.cons.inj hdrain
      obtain ⟨rest', hleads⟩ := ih h hrest
      refine ⟨rest', .yield (hleads.mono fun r hr => hr.mono fun a ha => ?_)⟩
      rw [List.mem_append, List.mem_cons] at ha ⊢
      tauto
  | ask r next ih =>
    obtain ⟨rest', hleads⟩ := ih _ h.2 hdrain
    exact ⟨rest', .ask (h.1.mono fun a ha => List.mem_append_left before ha) hleads⟩

end Lazy

/-! ### Walks are lazy -/

section Walks

variable {P : Provider ν} {asks : ν → Request ν → Prop} {known : List ν}

lemma lazy_finish : (finish : Search ν).Lazy P asks known := trivial

lemma lazy_isValid {n : ν} {next : Bool → Search ν}
    (h : (next (P.isValid n)).Lazy P asks known) : (ask (.isValid n) next).Lazy P asks known :=
  ⟨.inl ⟨n, rfl⟩, h⟩

lemma lazy_climb (levels : Nat) {n : ν} (hn : n ∈ known) :
    (climb levels n).Lazy P (fun n r => r = .parent n) known := by
  induction levels generalizing n known with
  | zero => trivial
  | succ levels ih =>
    refine ⟨.inr ⟨n, hn, rfl⟩, ?_⟩
    simp only [Provider.reply]
    split
    · refine lazy_isValid ?_
      split
      · exact ih List.mem_cons_self
      · trivial
    · trivial
    · trivial
    · trivial

lemma lazy_keepValid (ns : List ν) {k : List ν → Search ν}
    (hk : ∀ kept, (k kept).Lazy P asks known) :
    (keepValid ns k).Lazy P asks known := by
  induction ns generalizing k with
  | nil => exact hk []
  | cons n ns ih => exact lazy_isValid (ih fun kept => hk _)

lemma lazy_descend (levels : Nat) {n : ν} {rest : Search ν} (hn : n ∈ known)
    (hrest : ∀ known', (∀ m ∈ known, m ∈ known') →
      rest.Lazy P (fun n r => r = .children n) known') :
    (descend levels n rest).Lazy P (fun n r => r = .children n) known := by
  induction levels generalizing n rest known with
  | zero => exact hrest known fun m hm => hm
  | succ levels ih =>
    have hrow : ∀ (kept known' : List ν), (∀ m ∈ known, m ∈ known') →
        (kept.foldr (fun c rest => descend.visit (descend levels) c rest) rest).Lazy P
          (fun n r => r = .children n) known' := by
      intro kept
      induction kept with
      | nil => exact hrest
      | cons c kept ihkept =>
        intro known' hsub
        refine lazy_isValid ?_
        split
        · exact ih List.mem_cons_self fun known'' hsub' =>
            ihkept known'' fun m hm => hsub' m (List.mem_cons_of_mem c (hsub m hm))
        · exact ihkept known' hsub
    refine ⟨.inr ⟨n, hn, rfl⟩, ?_⟩
    simp only [Provider.reply]
    split
    · exact lazy_keepValid _ fun kept => hrow kept known fun m hm => hm
    · exact hrest known fun m hm => hm
    · trivial

lemma lazy_descendants (levels : Nat) (includeSelf : Bool) (n : ν) :
    (descendants levels includeSelf n).Lazy P (fun n r => r = .children n)
      (if includeSelf then [] else [n]) := by
  cases includeSelf with
  | false => exact lazy_descend levels (List.mem_singleton_self n) fun _ _ => lazy_finish
  | true =>
    refine lazy_isValid ?_
    split
    · exact lazy_descend levels List.mem_cons_self fun _ _ => lazy_finish
    · exact lazy_finish

end Walks

end Search

namespace Query

open SnapshotTree (withSelf)

section Engine

variable [Regex.Engine]

lemma select_eq_filter [DecidableEq ν] (s : Setting) (c : Option Condition) (found : Search ν) :
    Condition.select s c found = found.filter (Condition.evaluateTarget s c) := by
  cases c with
  | none =>
    rw [Condition.select]
    induction found with
    | finish => rfl
    | fail e => rfl
    | yield n rest ih =>
      rw [Search.filter, Condition.evaluateTarget, ← ih]
      rfl
    | ask r next ih =>
      rw [Search.filter]
      congr 1
      exact funext ih
  | some c =>
    rw [Condition.select]
    congr 1

lemma findFirst_eq_some_iff [DecidableEq ν] {s : Setting} {P : Provider ν} {q : Query} {n m : ν} :
    q.findFirst s P n = .ok (some m) ↔ ∃ rest, (q.findAll s P n).next P = .found m rest := by
  rw [findFirst]
  cases (q.findAll s P n).next P with
  | found a rest => simp
  | failed e => simp
  | finished => simp

lemma findAll_descendants {s : Setting} {condition : Option Condition} {maxDepth : Option Count}
    {includeSelf : Bool} {P : Provider NodeId} {n : NodeId} (hn : P.isValid n = true) :
    let q : Query :=
      { path := [], element := { condition, scope := [.descendants maxDepth includeSelf] } }
    q.depth ≤ s.maxNesting.toNat →
    q.findAll s P n =
      ((Search.descendants (s.levels maxDepth) includeSelf n).distinct []).filter
        (Condition.evaluateTarget s condition) := by
  intro q hdepth
  rw [findAll, nestingError?_eq_none hdepth]
  simp only [hn, if_true]
  rw [Element.pursue, ← select_eq_filter]
  simp [q, Part.pursueAll, Part.pursue, Search.one, Search.flatMap, Search.append_finish]

/-- The first match splits the walk into controls that do not fulfil the condition, and what is
behind it. -/
lemma exists_split_of_findFirst {t : SnapshotTree} {s : Setting} {condition : Option Condition}
    {maxDepth : Option Count} {includeSelf : Bool} {n m : NodeId} :
    let q : Query :=
      { path := [], element := { condition, scope := [.descendants maxDepth includeSelf] } }
    q.findFirst s t.provider n = .ok (some m) →
    q.depth ≤ s.maxNesting.toNat ∧ t.alive n = true ∧ ∃ before after,
      (withSelf includeSelf n (t.preorder (s.levels maxDepth) n)).eraseDups =
        before ++ m :: after ∧
      (∀ a ∈ before, Condition.targetHolds t s condition a = false) ∧
      Condition.targetHolds t s condition m = true := by
  intro q hfound
  obtain ⟨rest, hnext⟩ := findFirst_eq_some_iff.1 hfound
  have hdepth : q.depth ≤ s.maxNesting.toNat := by
    by_contra hdepth
    rw [findAll_of_not_le hdepth] at hnext
    cases hnext
  have hn : t.provider.isValid n = true := by
    by_contra hn
    rw [findAll, nestingError?_eq_none hdepth] at hnext
    dsimp only at hnext
    rw [if_neg hn] at hnext
    cases hnext
  have hwalk : ((Search.descendants (s.levels maxDepth) includeSelf n).distinct []).Yields
      t.provider (withSelf includeSelf n (t.preorder (s.levels maxDepth) n)).eraseDups :=
    (Search.yields_descendants t _ includeSelf fun _ => hn).distinct_nil
  rw [findAll_descendants hn hdepth] at hnext
  have hcons := Search.drain_of_next hnext
  rw [hwalk.filter fun a _ =>
    Condition.run_evaluateTarget (SnapshotTree.Agree.refl t s) condition a] at hcons
  obtain ⟨before, after, hsplit, hbefore, hm, -⟩ := List.filter_eq_cons_iff.1 hcons
  exact ⟨hdepth, hn, before, after, hsplit, fun a ha => by simpa using hbefore a ha, hm⟩

omit [Regex.Engine] in
/-- A walk down that comes to `m` has asked for the children of controls before `m` only. -/
lemma leads_descendants {t : SnapshotTree} (h : t.Recorded) {levels : Nat} {includeSelf : Bool}
    {n m : NodeId} (hn : t.alive n = true) {before after : List NodeId}
    (hsplit : (withSelf includeSelf n (t.preorder levels n)).eraseDups = before ++ m :: after) :
    (∀ a ∈ before, a < m) ∧ ∃ known rest, (∀ a ∈ known, a < m) ∧
      ((Search.descendants levels includeSelf n).distinct []).Leads t.provider
        (Request.Allowed (fun a r => r = .children a) known) before (.yield m rest) := by
  have horder : (before ++ m :: after).Pairwise (· < ·) :=
    hsplit ▸ (h.pairwise_withSelf includeSelf levels n).sublist (eraseDups_sublist _)
  have hless : ∀ a ∈ before, a < m := fun a ha =>
    (List.pairwise_append.1 horder).2.2 a ha m List.mem_cons_self
  have hstart : ∀ a ∈ (if includeSelf then [] else [n]), a < m := by
    intro a ha
    cases includeSelf with
    | true => cases ha
    | false =>
      obtain rfl := List.mem_singleton.1 ha
      have hmem : m ∈ (withSelf false a (t.preorder levels a)).eraseDups := by simp [hsplit]
      exact (h.of_mem_preorder (List.mem_eraseDups.1 hmem)).1
  have hlazy : ((Search.descendants levels includeSelf n).distinct []).Lazy t.provider
      (fun a r => r = .children a) (if includeSelf then [] else [n]) :=
    (Search.lazy_descendants levels includeSelf n).distinct (by simp)
  have hyields := (Search.yields_descendants t levels includeSelf fun _ => hn).distinct_nil
  obtain ⟨rest, hleads⟩ := hlazy.leads ((congrArg Prod.fst hyields).trans hsplit)
  exact ⟨hless, _, rest, fun a ha => (List.mem_append.1 ha).elim (hstart a) (hless a), hleads⟩

/-- The first match of a walk down depends only on the tree before it: no parent is asked for, no
children of the match or of later controls, and no property of later controls. -/
theorem findFirst_of_agreesOn (root : SnapshotNode) (removed : List NodeId) (s : Setting)
    (condition : Option Condition) (hplain : condition.all Condition.isPlain = true)
    (maxDepth : Option Count) (includeSelf : Bool) (n m : NodeId) (P : Provider NodeId)
    (hagree : ((SnapshotTree.ofNode root).removeAll removed).provider.AgreesOn P
      (fun _ => False) (· < m) (· ≤ m)) :
    let t := (SnapshotTree.ofNode root).removeAll removed
    let q : Query :=
      { path := [], element := { condition, scope := [.descendants maxDepth includeSelf] } }
    q.findFirst s t.provider n = .ok (some m) → q.findFirst s P n = .ok (some m) := by
  intro t q hfound
  have hrecorded := (SnapshotTree.recorded_ofNode root).removeAll removed
  obtain ⟨hdepth, hn, before, after, hsplit, hbefore, hm⟩ := exists_split_of_findFirst hfound
  obtain ⟨hless, known, rest, hknown, hleads⟩ := leads_descendants hrecorded hn hsplit
  have hreply : ∀ r, r.Allowed (fun a r => r = .children a) known →
      P.reply r = t.provider.reply r := by
    rintro r (⟨a, rfl⟩ | ⟨a, ha, rfl⟩)
    · exact hagree.isValid a
    · exact hagree.children a (hknown a ha)
  have hrun : ∀ a, a ≤ m → (Condition.evaluateTarget s condition a).run P =
      .ok (Condition.targetHolds t s condition a) := by
    intro a ha
    rw [Condition.run_evaluateTarget_of_plain (fun id => hagree.property a id ha) s hplain]
    exact Condition.run_evaluateTarget (SnapshotTree.Agree.refl t s) condition a
  have hpass : ∀ a ∈ before, (Condition.evaluateTarget s condition a).run P = .ok false := by
    intro a ha
    rw [hrun a (Nat.le_of_lt (hless a ha)), hbefore a ha]
  have hkeep : (Condition.evaluateTarget s condition m).run P = .ok true := by
    rw [hrun m (Nat.le_refl m), hm]
  have hvalid : P.isValid n = true := (hagree.isValid n).trans hn
  rw [findFirst_eq_some_iff, findAll_descendants hvalid hdepth]
  rw [(hleads.congr hreply).next_filter hpass]
  exact ⟨_, Search.next_filter rfl hkeep⟩

end Engine

/-- The first button of a window, with another one behind it. Whatever fails there, and the question
for any parent, makes no difference. -/
theorem findFirst_of_agreesOn_first_button :
    let button : SnapshotNode := .node (PropertyMap.empty.insert .controlType (.str "Button")) []
    let root : SnapshotNode := .node ∅ [.node ∅ [], button, .node ∅ [button]]
    let t := (SnapshotTree.ofNode root).removeAll []
    let isButton : Condition := .property (.equals .controlType (.str "Button"))
    let q : Query :=
      { path := [], element := { condition := some isButton, scope := [.descendants none false] } }
    let P := t.provider.withFaults
      [⟨.children, 2, .failure "lost"⟩, ⟨.property none, 3, .failure "lost"⟩,
        ⟨.children, 3, .stale⟩, ⟨.parent, 1, .failure "lost"⟩]
    (t.provider.AgreesOn P (fun _ => False) (· < 2) (· ≤ 2) ∧
      q.findFirst { reach := 5 } t.provider 0 = .ok (some 2)) ∧
      q.findFirst { reach := 5 } P 0 = .ok (some 2) := by
  intro button root t isButton q P
  have hagree : t.provider.AgreesOn P (fun _ => False) (· < 2) (· ≤ 2) :=
    t.provider.agreesOn_withFaults _ (by simp [FaultyCall.Spares])
  have hfound : q.findFirst { reach := 5 } t.provider 0 = .ok (some 2) := by decide +kernel
  exact ⟨⟨hagree, hfound⟩,
    findFirst_of_agreesOn root [] { reach := 5 } (some isButton) rfl none false 0 2 P hagree hfound⟩

end Query

end ControlQuery

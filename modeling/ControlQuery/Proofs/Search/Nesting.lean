import ControlQuery.Proofs.Search.Failure
import ControlQuery.Proofs.Search.Repetition

/-!
# Sub-queries inside sub-queries

A search says when it is about to evaluate a sub-query and when it has come to the end of it. In
between it may come to other sub-queries. How many can be in progress at a time is read off the
query before the search begins: a condition of depth `k` has at most `k` of them in progress, where
a sub-query counts one more than what is inside of it. A query of greater depth than allowed is not
searched for, and no other query runs into the limit.
-/

namespace ControlQuery

variable {ν α β : Type}

/-! ### What may be in progress -/

/-- The request leads from `d` sub-queries in progress to `d'`, and to no more than `k` of them. -/
def Request.Shifts (k d d' : Nat) : Request ν → Prop
  | enter => d < k ∧ d' = d + 1
  | leave => d = d' + 1
  | _ => d' = d

lemma Request.Shifts.add {k d d' : Nat} {r : Request ν} (h : r.Shifts k d d') (j : Nat) :
    r.Shifts (k + j) (d + j) (d' + j) := by
  cases r <;> simp only [Shifts] at h ⊢ <;> omega

lemma Request.Shifts.count_cons [DecidableEq ν] {k d d' : Nat} {r : Request ν}
    (h : r.Shifts k d d') (hd : d ≤ k) (history : List (Request ν)) :
    d' ≤ k ∧ d + (r :: history).count .enter + history.count .leave =
      d' + (r :: history).count .leave + history.count .enter := by
  cases r <;> simp only [Shifts] at h <;> simp <;> omega

/-- The request keeps to `k` sub-queries in progress, and so many are in progress afterwards that
whatever is replied satisfies `after`. -/
def Request.Keeps (k d : Nat) (r : Request ν) (after : r.Reply → Nat → Prop) : Prop :=
  ∃ d', r.Shifts k d d' ∧ ∀ reply, after reply d'

lemma Request.Keeps.imp {k d : Nat} {r : Request ν} {after after' : r.Reply → Nat → Prop}
    (h : r.Keeps k d after) (himp : ∀ reply d', after reply d' → after' reply d') :
    r.Keeps k d after' := by
  obtain ⟨d', hr, hafter⟩ := h
  exact ⟨d', hr, fun reply => himp reply d' (hafter reply)⟩

/-- With `d` sub-queries in progress, no more than `k` will ever be, and none when the inquiry is
done. -/
def Inquiry.Within (k : Nat) : Inquiry ν α → Nat → Prop
  | done _, d => d = 0
  | fail _, _ => True
  | ask r next, d => r.Keeps k d fun reply d' => (next reply).Within k d'

/-- With `d` sub-queries in progress, no more than `k` will ever be, and none when a control is
yielded and in the end. -/
def Search.Within (k : Nat) : Search ν → Nat → Prop
  | finish, d => d = 0
  | fail _, _ => True
  | yield _ rest, d => d = 0 ∧ rest.Within k 0
  | ask r next, d => r.Keeps k d fun reply d' => (next reply).Within k d'

section Building

variable {k d : Nat} {i : Inquiry ν α} {s t : Search ν}

/-- What follows begins with the `j` sub-queries that are in progress around the inquiry. -/
lemma Inquiry.Within.bind (h : i.Within k d) {j : Nat} {f : α → Inquiry ν β}
    (hf : ∀ a, (f a).Within (k + j) j) : (i.bind f).Within (k + j) (d + j) := by
  induction i generalizing d with
  | done a =>
    obtain rfl : d = 0 := h
    rw [Nat.zero_add]
    exact hf a
  | fail e => trivial
  | ask r next ih =>
    obtain ⟨d', hr, hnext⟩ := h
    exact ⟨d' + j, hr.add j, fun reply => ih reply (hnext reply)⟩

lemma Inquiry.Within.search (h : i.Within k d) {f : α → Search ν} (hf : ∀ a, (f a).Within k 0) :
    (i.search f).Within k d := by
  induction i generalizing d with
  | done a =>
    obtain rfl : d = 0 := h
    exact hf a
  | fail e => trivial
  | ask r next ih => exact Request.Keeps.imp h fun reply d' => ih reply

namespace Search

lemma Within.append (hs : s.Within k d) (ht : t.Within k 0) : (s.append t).Within k d := by
  induction s generalizing d with
  | finish =>
    obtain rfl : d = 0 := hs
    exact ht
  | fail e => trivial
  | yield n rest ih => exact ⟨hs.1, ih hs.2⟩
  | ask r next ih => exact Request.Keeps.imp hs fun reply d' => ih reply

lemma Within.flatMap (hs : s.Within k d) {f : ν → Search ν} (hf : ∀ n, (f n).Within k 0) :
    (s.flatMap f).Within k d := by
  induction s generalizing d with
  | finish => exact hs
  | fail e => trivial
  | yield n rest ih =>
    obtain ⟨rfl, hrest⟩ := hs
    exact (hf n).append (ih hrest)
  | ask r next ih => exact Request.Keeps.imp hs fun reply d' => ih reply

lemma Within.distinct [DecidableEq ν] (hs : s.Within k d) (seen : List ν) :
    (s.distinct seen).Within k d := by
  induction s generalizing d seen with
  | finish => exact hs
  | fail e => trivial
  | yield n rest ih =>
    obtain ⟨rfl, hrest⟩ := hs
    rw [Search.distinct]
    split
    · exact ih hrest seen
    · exact ⟨rfl, ih hrest (n :: seen)⟩
  | ask r next ih => exact Request.Keeps.imp hs fun reply d' h => ih reply h seen

lemma Within.filter (hs : s.Within k d) {p : ν → Inquiry ν Bool} (hp : ∀ n, (p n).Within k 0) :
    (s.filter p).Within k d := by
  induction s generalizing d with
  | finish => exact hs
  | fail e => trivial
  | yield n rest ih =>
    obtain ⟨rfl, hrest⟩ := hs
    apply (hp n).search
    intro keep
    cases keep with
    | true => exact ⟨rfl, ih hrest⟩
    | false => exact ih hrest
  | ask r next ih => exact Request.Keeps.imp hs fun reply d' => ih reply

/-- A page is full only before it begins or when it has yielded something, and then no sub-query is
in progress. -/
lemma Within.page (hs : s.Within k d) (skip : Nat) {take : Option Nat} (h : take = some 0 → d = 0) :
    (s.page skip take).Within k d := by
  by_cases htake : take = some 0
  · rw [htake, page_full]
    exact h htake
  induction s generalizing d skip take with
  | finish => exact hs
  | fail e =>
    rw [Search.page, if_neg htake]
    trivial
  | yield n rest ih =>
    obtain ⟨rfl, hrest⟩ := hs
    cases skip with
    | succ skip =>
      rw [page_yield_skip htake]
      exact ih hrest skip h htake
    | zero =>
      rw [page_yield_take htake]
      refine ⟨rfl, ?_⟩
      by_cases hlast : take.map (· - 1) = some 0
      · rw [hlast, page_full]
        rfl
      · exact ih hrest 0 (fun _ => rfl) hlast
  | ask r next ih =>
    rw [page_ask htake]
    refine Request.Keeps.imp hs fun reply d' hnext => ?_
    exact ih reply hnext skip (fun hfull => absurd hfull htake) htake

lemma Within.nonempty (hs : s.Within k d) : s.nonempty.Within k d := by
  induction s generalizing d with
  | finish => exact hs
  | fail e => trivial
  | yield n rest ih => exact hs.1
  | ask r next ih => exact Request.Keeps.imp hs fun reply d' => ih reply

lemma Within.any (hs : s.Within k d) {p : ν → Inquiry ν Bool} (hp : ∀ n, (p n).Within k 0) :
    (s.any p).Within k d := by
  induction s generalizing d with
  | finish => exact hs
  | fail e => trivial
  | yield n rest ih =>
    obtain ⟨rfl, hrest⟩ := hs
    refine Inquiry.Within.bind (j := 0) (hp n) fun found => ?_
    cases found with
    | true => rfl
    | false => exact ih hrest
  | ask r next ih => exact Request.Keeps.imp hs fun reply d' => ih reply

/-- A walk evaluates no sub-queries. -/
theorem within_walkInvariant (k : Nat) : WalkInvariant fun s : Search ν => s.Within k 0 where
  finish := rfl
  yield := fun h => ⟨rfl, h⟩
  isValid := fun h => ⟨0, rfl, h⟩
  parent := by
    intro n next hok hstale hfailure
    refine ⟨0, rfl, fun reply => ?_⟩
    cases reply with
    | ok parent => exact hok parent
    | error e =>
      cases e with
      | stale => exact hstale
      | failure reason =>
        rw [hfailure]
        trivial
  children := by
    intro n next hok hstale hfailure
    refine ⟨0, rfl, fun reply => ?_⟩
    cases reply with
    | ok children => exact hok children
    | error e =>
      cases e with
      | stale => exact hstale
      | failure reason =>
        rw [hfailure]
        trivial

end Search

end Building

/-! ### The depth of a query bounds what is in progress -/

section Pursue

lemma Predicate.within_evaluate (p : Predicate) (n : ν) (failure : Option String) (k : Nat) :
    (p.evaluate n failure).Within k 0 := by
  induction p generalizing failure with
  | answer b =>
    cases failure with
    | none => rfl
    | some reason => trivial
  | read id next ih =>
    rw [Predicate.evaluate]
    refine ⟨0, rfl, fun reply => ?_⟩
    cases reply with
    | ok value => exact ih value failure
    | error e =>
      cases e with
      | stale => exact ih none failure
      | failure reason => exact ih none _

lemma Connective.within_evaluate (op : Connective) {first second : Inquiry ν Bool} {k : Nat}
    (hfirst : first.Within k 0) (hsecond : second.Within k 0) :
    (op.evaluate first second).Within k 0 := by
  refine Inquiry.Within.bind (j := 0) hfirst fun b => ?_
  cases op with
  | and =>
    cases b with
    | true => exact hsecond
    | false => rfl
  | or =>
    cases b with
    | true => rfl
    | false => exact hsecond

lemma Distance.within_walk [DecidableEq ν] (d : Distance) (n : ν) (k : Nat) :
    (d.walk n).Within k 0 := by
  cases d with
  | up steps => exact (Search.within_walkInvariant k).ancestors _ _ n
  | down steps => exact (Search.within_walkInvariant k).descendants _ _ n
  | any steps => exact (Search.within_walkInvariant k).around _ _ _ _

variable [Regex.Engine]

lemma PropertyCondition.within_evaluate (c : PropertyCondition) (n : ν) (k : Nat) :
    (c.evaluate n).Within k 0 := by
  refine ⟨0, rfl, fun reply => ?_⟩
  cases reply with
  | ok value => rfl
  | error e =>
    cases e with
    | stale => rfl
    | failure reason => trivial

variable [DecidableEq ν]

lemma Query.depth_pos (q : Query) : 0 < q.depth := by
  obtain ⟨path, element⟩ := q
  rw [Query.depth]
  omega

mutual

theorem Condition.within_evaluate (s : Setting) : ∀ (c : Condition) {k : Nat} (n : ν), c.depth ≤ k →
    (c.evaluate s n).Within k 0
  | .property c, k, n, _ => by
    rw [Condition.evaluate]
    exact c.within_evaluate n k
  | .function f, k, n, _ => by
    rw [Condition.evaluate]
    exact Predicate.within_evaluate _ n none k
  | .logical op left right, k, n, h => by
    rw [Condition.depth] at h
    rw [Condition.evaluate]
    exact op.within_evaluate (Condition.within_evaluate s left n (by omega))
      (Condition.within_evaluate s right n (by omega))
  | .hasElement q, k, n, h => by
    rw [Condition.depth] at h
    rw [Condition.evaluate]
    cases k with
    | zero =>
      have hpos := q.depth_pos
      omega
    | succ k =>
      -- one level less is left to what is inside of the sub-query
      refine ⟨1, ⟨Nat.succ_pos k, rfl⟩, fun _ => ?_⟩
      have hsub := (Query.within_search s q n h).nonempty
      exact hsub.bind (j := 1) fun b => ⟨0, rfl, fun _ => rfl⟩
  | .relative d c, k, n, h => by
    rw [Condition.depth] at h
    rw [Condition.evaluate]
    exact (d.within_walk n k).any fun m => Condition.within_evaluateTarget s c m h

theorem Condition.within_evaluateTarget (s : Setting) : ∀ (c : Option Condition) {k : Nat} (n : ν),
    Condition.depthOfOption c ≤ k → (Condition.evaluateTarget s c n).Within k 0
  | none, k, n, _ => by
    rw [Condition.evaluateTarget]
    rfl
  | some c, k, n, h => by
    rw [Condition.depthOfOption] at h
    rw [Condition.evaluateTarget]
    exact Condition.within_evaluate s c n h

theorem Part.within_pursue (s : Setting) : ∀ (p : Part) {k : Nat} {contexts : Search ν},
    p.depth ≤ k → contexts.Within k 0 → (p.pursue s contexts).Within k 0
  | .identity, k, contexts, _, hc => by
    rw [Part.pursue]
    exact hc
  | .ancestors _ includeSelf, k, contexts, _, hc => by
    rw [Part.pursue]
    exact (hc.flatMap ((Search.within_walkInvariant k).ancestors _ includeSelf)).distinct []
  | .descendants _ includeSelf, k, contexts, _, hc => by
    rw [Part.pursue]
    exact (hc.flatMap ((Search.within_walkInvariant k).descendants _ includeSelf)).distinct []
  | .composite e, k, contexts, h, hc => by
    rw [Part.depth] at h
    rw [Part.pursue]
    exact Element.within_pursue s e h hc

theorem Part.within_pursueAll (s : Setting) : ∀ (ps : List Part) {k : Nat} {contexts : Search ν},
    Part.depthOfList ps ≤ k → contexts.Within k 0 → (Part.pursueAll s ps contexts).Within k 0
  | [], k, contexts, _, hc => by
    rw [Part.pursueAll]
    exact hc
  | p :: ps, k, contexts, h, hc => by
    rw [Part.depthOfList] at h
    rw [Part.pursueAll]
    exact Part.within_pursueAll s ps (by omega) (Part.within_pursue s p (by omega) hc)

theorem Element.within_pursue (s : Setting) : ∀ (e : Element) {k : Nat} {contexts : Search ν},
    e.depth ≤ k → contexts.Within k 0 → (e.pursue s contexts).Within k 0
  | ⟨condition, scope, skip, take⟩, k, contexts, h, hc => by
    rw [Element.depth] at h
    rw [Element.pursue]
    have hscope := Part.within_pursueAll s scope (k := k) (by omega) hc
    have hselect : (Condition.select s condition (Part.pursueAll s scope contexts)).Within k 0 := by
      cases condition with
      | none =>
        rw [Condition.select]
        exact hscope
      | some c =>
        rw [Condition.depthOfOption] at h
        rw [Condition.select]
        exact hscope.filter fun n => Condition.within_evaluate s c n (by omega)
    split
    · exact hselect
    · exact hselect.page _ fun _ => rfl

theorem Query.within_search (s : Setting) : ∀ (q : Query) {k : Nat} (n : ν), q.depth ≤ k + 1 →
    (q.search s n).Within k 0
  | ⟨path, element⟩, k, n, h => by
    rw [Query.depth] at h
    rw [Query.search]
    refine (Search.within_walkInvariant k).isValid fun valid => ?_
    cases valid with
    | true =>
      have hstart : (Search.one n).Within k 0 := ⟨rfl, rfl⟩
      have hpath := Part.within_pursueAll s path (by omega) hstart
      exact Element.within_pursue s element (by omega) hpath
    | false => rfl

end

lemma Query.within_findAll {s : Setting} {q : Query} {k : Nat} (h : q.depth ≤ k + 1)
    (hdepth : q.depth ≤ s.maxNesting.toNat) (P : Provider ν) (n : ν) :
    (q.findAll s P n).Within k 0 := by
  obtain ⟨path, element⟩ := q
  have hsearch := Query.within_search s ⟨path, element⟩ n h
  rw [Query.search] at hsearch
  obtain ⟨_, rfl, hnext⟩ := hsearch
  rw [findAll, nestingError?_eq_none hdepth]
  exact hnext (P.isValid n)

end Pursue

/-! ### The moments of a search -/

namespace Search

/-- With these requests put, in order, the search has come to another one, whatever the replies
were and whatever it has yielded. -/
inductive Reaches : Search ν → List (Request ν) → Search ν → Prop
  | here (s : Search ν) : s.Reaches [] s
  | yield {n : ν} {rest t : Search ν} {history : List (Request ν)}
    (later : rest.Reaches history t) : (yield n rest).Reaches history t
  | ask {r : Request ν} {next : r.Reply → Search ν} {t : Search ν} {history : List (Request ν)}
    (reply : r.Reply) (later : (next reply).Reaches history t) :
    (ask r next).Reaches (r :: history) t

variable {s t : Search ν} {history : List (Request ν)} {k d : Nat}

/-- Wherever a provider that stays as it is leads, the search reaches. -/
lemma exists_reaches_of_isPrefix_requests {P : Provider ν} (h : history <+: s.requests P) :
    ∃ t, s.Reaches history t := by
  induction s generalizing history with
  | finish =>
    obtain rfl := List.prefix_nil.1 h
    exact ⟨_, .here _⟩
  | fail e =>
    obtain rfl := List.prefix_nil.1 h
    exact ⟨_, .here _⟩
  | yield n rest ih =>
    obtain ⟨t, ht⟩ := ih h
    exact ⟨t, .yield ht⟩
  | ask r next ih =>
    cases history with
    | nil => exact ⟨_, .here _⟩
    | cons r' history =>
      obtain ⟨rfl, h⟩ := List.cons_prefix_cons.1 h
      obtain ⟨t, ht⟩ := ih _ h
      exact ⟨t, .ask _ ht⟩

lemma exists_reaches_of_next_failed {P : Provider ν} {e : SearchError}
    (h : s.next P = .failed e) : ∃ history, s.Reaches history (.fail e) := by
  induction s with
  | finish => cases h
  | fail e' =>
    cases h
    exact ⟨[], .here _⟩
  | yield n rest ih => cases h
  | ask r next ih =>
    obtain ⟨history, hr⟩ := ih _ h
    exact ⟨r :: history, .ask _ hr⟩

lemma Reaches.eq_nil_of_fail {e : SearchError} (h : (fail e : Search ν).Reaches history t) :
    history = [] := by
  cases h
  rfl

lemma Doomed.reaches {reason : String} (hs : s.Doomed reason) (h : s.Reaches history t) :
    t.Doomed reason := by
  induction h with
  | here s => exact hs
  | yield later ih => exact hs.elim
  | ask reply later ih => exact ih (hs reply)

/-- A candid search fails with nothing but what the provider failed with. -/
lemma Candid.ne_nestedTooDeep (hs : s.Candid) (h : s.Reaches history t) (depth : Nat)
    (limit : Count) : t ≠ .fail (.nestedTooDeep depth limit) := by
  rintro rfl
  generalize ht : (fail (.nestedTooDeep depth limit) : Search ν) = t at h
  induction h with
  | here s =>
    rw [← ht] at hs
    exact hs
  | yield later ih => exact ih hs ht
  | @ask r next t history reply later ih =>
    have hreply := hs reply
    cases hfailure : r.failure? reply with
    | none =>
      rw [hfailure] at hreply
      exact ih hreply ht
    | some reason =>
      rw [hfailure] at hreply
      have hdoomed := Doomed.reaches hreply later
      rw [← ht] at hdoomed
      cases hdoomed

/-- What has been entered and not been left is in progress, and that is never too much. -/
lemma Within.reaches [DecidableEq ν] (hs : s.Within k d) (hd : d ≤ k) (h : s.Reaches history t) :
    ∃ d', t.Within k d' ∧ d' ≤ k ∧ d + history.count .enter = d' + history.count .leave := by
  induction h generalizing d with
  | here s => exact ⟨d, hs, hd, rfl⟩
  | yield later ih =>
    obtain ⟨rfl, hrest⟩ := hs
    exact ih hrest hd
  | @ask r next t history reply later ih =>
    obtain ⟨d₁, hr, hnext⟩ := hs
    obtain ⟨hd₁, hcount⟩ := hr.count_cons hd history
    obtain ⟨d', ht, hd', hlater⟩ := ih (hnext reply) hd₁
    exact ⟨d', ht, hd', by omega⟩

lemma answersAmid_finish (P : Nat → Nat → Provider ν) (count : Nat) :
    (finish : Search ν).answersAmid P count = List.replicate count none := by
  induction count generalizing P with
  | zero => rfl
  | succ count ih =>
    rw [answersAmid, List.replicate_succ]
    exact congrArg _ (ih _)

lemma answersAmid_fail (P : Nat → Nat → Provider ν) (e : SearchError) (count : Nat) :
    (fail e : Search ν).answersAmid P (count + 1) =
      some (.error e) :: List.replicate count none := by
  rw [answersAmid]
  exact congrArg _ (answersAmid_finish _ count)

end Search

section Engine

variable [Regex.Engine]

namespace Query

variable [DecidableEq ν] {s : Setting} {q : Query}

lemma findFirst_ne_nestedTooDeep (h : q.depth ≤ s.maxNesting.toNat) (P : Provider ν) (n : ν)
    (depth : Nat) (limit : Count) : q.findFirst s P n ≠ .error (.nestedTooDeep depth limit) := by
  intro hfirst
  rw [findFirst] at hfirst
  cases hnext : (q.findAll s P n).next P with
  | found m rest =>
    rw [hnext] at hfirst
    cases hfirst
  | finished =>
    rw [hnext] at hfirst
    cases hfirst
  | failed e =>
    rw [hnext] at hfirst
    obtain rfl := Except.error.inj hfirst
    obtain ⟨history, hr⟩ := Search.exists_reaches_of_next_failed hnext
    exact (q.candid_findAll s P n h).ne_nestedTooDeep hr depth limit rfl

end Query

/-- The limit on nesting. A query beyond it gives one failure and then nothing, and is not looked
into: no request is put to any provider. With a query within the limit `m` no search fails for this
reason, and at every moment, whatever the replies have been, at most `m - 1` sub-queries are in
progress. -/
theorem Query.nesting_within_limit [DecidableEq ν] (s : Setting) (q : Query) (n : ν) :
    (s.maxNesting.toNat < q.depth → ∀ P₀ : Provider ν,
      q.findFirst s P₀ n = .error (.nestedTooDeep q.depth s.maxNesting) ∧
      q.findAll s P₀ n = .fail (.nestedTooDeep q.depth s.maxNesting) ∧
      (∀ P count, (q.findAll s P₀ n).answersAmid P (count + 1) =
        some (.error (.nestedTooDeep q.depth s.maxNesting)) :: List.replicate count none) ∧
      ∀ history t, (q.findAll s P₀ n).Reaches history t → history = []) ∧
    (q.depth ≤ s.maxNesting.toNat → ∀ P₀ : Provider ν,
      (∀ depth limit, q.findFirst s P₀ n ≠ .error (.nestedTooDeep depth limit)) ∧
      ∀ history t, (q.findAll s P₀ n).Reaches history t →
        (∀ depth limit, t ≠ .fail (.nestedTooDeep depth limit)) ∧
        history.count .leave ≤ history.count .enter ∧
        history.count .enter ≤ history.count .leave + (s.maxNesting.toNat - 1)) := by
  constructor
  · intro h P₀
    have hfail := findAll_of_not_le (Nat.not_le.2 h) P₀ n
    refine ⟨?_, hfail, fun P count => ?_, fun history t hr => ?_⟩
    · rw [findFirst, hfail]
      rfl
    · rw [hfail]
      exact Search.answersAmid_fail P _ count
    · rw [hfail] at hr
      exact hr.eq_nil_of_fail
  · intro h P₀
    refine ⟨findFirst_ne_nestedTooDeep h P₀ n, fun history t hr => ?_⟩
    have hpos := q.depth_pos
    have hwithin := Query.within_findAll (k := s.maxNesting.toNat - 1) (by omega) h P₀ n
    obtain ⟨d, -, hd, hcount⟩ := hwithin.reaches (Nat.zero_le _) hr
    exact ⟨(q.candid_findAll s P₀ n h).ne_nestedTooDeep hr, by omega, by omega⟩

end Engine

/-- The limit is reached: a sub-query of a sub-query is in progress when the grandchild is looked
at. With a limit of one less nothing happens at all. -/
theorem Query.nesting_within_limit_three :
    let P := (SnapshotTree.ofNode (.node ∅ [.node ∅ [.node ∅ []]])).provider
    let q := everything.hasChild (everything.hasChild everything)
    let s : Setting := { reach := 3, maxNesting := 3 }
    let s' : Setting := { reach := 3, maxNesting := 2 }
    (q.depth ≤ s.maxNesting.toNat ∧ ∃ history t, (q.findAll s P 0).Reaches history t ∧
      history.count .enter = 2 ∧ history.count .leave = 0 ∧
      history.count .enter ≤ history.count .leave + (s.maxNesting.toNat - 1)) ∧
      s'.maxNesting.toNat < q.depth ∧ q.findAll s' P 0 = .fail (.nestedTooDeep 3 2) := by
  intro P q s s'
  have hdepth : q.depth ≤ s.maxNesting.toNat := by decide
  have hdepth' : s'.maxNesting.toNat < q.depth := by decide
  have hrequests : (((q.findAll s P 0).requests P).take 9).count .enter = 2 ∧
      (((q.findAll s P 0).requests P).take 9).count .leave = 0 := by decide +kernel
  obtain ⟨t, ht⟩ := Search.exists_reaches_of_isPrefix_requests
    (List.take_prefix 9 ((q.findAll s P 0).requests P))
  obtain ⟨-, hwithin⟩ := (nesting_within_limit s q 0).2 hdepth P
  obtain ⟨-, -, hle⟩ := hwithin _ t ht
  obtain ⟨-, hfail, -⟩ := (nesting_within_limit s' q 0).1 hdepth' P
  exact ⟨⟨hdepth, _, t, ht, hrequests.1, hrequests.2, hle⟩, hdepth', hfail⟩

end ControlQuery

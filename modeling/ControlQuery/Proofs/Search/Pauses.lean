import ControlQuery.Proofs.Search.Eager

/-!
# Paused searches

Between two requests for a next control a search is at rest, and the tree may lose controls
meanwhile. Whatever is removed and when, a search yields a control only right after it has seen that
the control is there. The one exception is the start. It is looked at when the search is opened, and
a query that does nothing but stay at its start or go up from it, the start included, does not look
again: if the start has gone by the first request, such a query still yields it.
-/

namespace ControlQuery

/-- What can happen to an open search: the next control is asked for, or a control is removed. -/
inductive Move where
  | next
  | remove (n : NodeId)
deriving DecidableEq, Repr

/-- An answer of a search, and the tree at that moment. -/
structure Moment where
  tree : SnapshotTree
  answer : Option (Except SearchError NodeId)

/-- The answers of an open search during some moves. -/
def Search.replay : SnapshotTree → Search NodeId → List Move → List Moment
  | _, _, [] => []
  | t, s, .next :: moves =>
    let outcome := s.next t.provider
    ⟨t, outcome.answer⟩ :: replay t outcome.rest moves
  | t, s, .remove n :: moves => replay (t.remove n) s moves

section Engine

variable [Regex.Engine]

mutual

/-- Whether a part hands on a context without a look at whether it is valid. A walk down looks at
it, and a walk up does not come by it unless it is told to include it. -/
def Part.trusts (t : SnapshotTree) (s : Setting) (n : NodeId) : Part → Bool
  | .identity => true
  | .ancestors _ includeSelf => includeSelf
  | .descendants _ _ => false
  | .composite element => element.trusts t s n

/-- Whether all parts do so. -/
def Part.allTrust (t : SnapshotTree) (s : Setting) (n : NodeId) : List Part → Bool
  | [] => true
  | part :: parts => part.trusts t s n && Part.allTrust t s n parts

/-- Whether an element does so: every part of its scope does, the condition holds of the context,
whether it is valid or not, and the first match is on the page. -/
def Element.trusts (t : SnapshotTree) (s : Setting) (n : NodeId) : Element → Bool
  | { condition, scope, skip, take } =>
    Part.allTrust t s n scope && Condition.targetHolds t s condition n &&
      ((skip.map UInt64.toNat).getD 0 == 0 && take.map UInt64.toNat != some 0)

end

/-- Whether a query hands on its start without a look at whether it is still valid. -/
def Query.trusts (t : SnapshotTree) (s : Setting) (n : NodeId) (q : Query) : Bool :=
  Part.allTrust t s n q.path && q.element.trusts t s n

end Engine

namespace Search

/-- Whatever is removed later, the next control is valid or excused, and every control after it is
valid at its own time. -/
def Vouched : Search NodeId → (NodeId → Prop) → SnapshotTree → Prop
  | finish, _, _ => True
  | fail _, _, _ => True
  | yield n rest, excused, t =>
    (t.alive n = true ∨ excused n) ∧ ∀ t', rest.Vouched (fun _ => False) t'
  | ask r next, excused, t => (next (t.provider.reply r)).Vouched excused t

variable {α : Type} {s u : Search NodeId} {excused : NodeId → Prop} {t : SnapshotTree}

/-! ### Stages pass on what is vouched for -/

lemma Vouched.mono (h : s.Vouched excused t) {excused' : NodeId → Prop}
    (himp : ∀ m, excused m → excused' m) : s.Vouched excused' t := by
  induction s with
  | finish => trivial
  | fail e => trivial
  | yield n rest ih => exact ⟨h.1.imp_right (himp n), h.2⟩
  | ask r next ih => exact ih _ h

lemma Vouched.excuse (h : s.Vouched (fun _ => False) t) (excused : NodeId → Prop) :
    s.Vouched excused t :=
  h.mono fun _ => False.elim

lemma Vouched.append (hs : s.Vouched excused t) (hu : ∀ t, u.Vouched (fun _ => False) t) :
    (s.append u).Vouched excused t := by
  induction s generalizing excused t with
  | finish => exact (hu t).excuse excused
  | fail e => trivial
  | yield n rest ih => exact ⟨hs.1, fun t' => ih (hs.2 t')⟩
  | ask r next ih => exact ih _ hs

/-- Walks excuse no more than their contexts are excused, and nothing at all if not `selfKept`. -/
lemma Vouched.flatMap (hs : s.Vouched excused t) {f : NodeId → Search NodeId} {selfKept : Prop}
    (hf : ∀ n (excused : NodeId → Prop) t, t.alive n = true ∨ excused n →
      (f n).Vouched (fun m => excused m ∧ selfKept) t) :
    (s.flatMap f).Vouched (fun m => excused m ∧ selfKept) t := by
  induction s generalizing excused t with
  | finish => trivial
  | fail e => trivial
  | yield n rest ih =>
    have hfirst := hf n excused t hs.1
    exact hfirst.append fun t' => (ih (hs.2 t')).mono fun _ => And.left
  | ask r next ih => exact ih _ hs

lemma Vouched.distinct (hs : s.Vouched excused t) (seen : List NodeId) :
    (s.distinct seen).Vouched excused t := by
  induction s generalizing excused t seen with
  | finish => trivial
  | fail e => trivial
  | yield n rest ih =>
    rw [Search.distinct]
    split
    · exact (ih (hs.2 t) seen).excuse excused
    · exact ⟨hs.1, fun t' => ih (hs.2 t') (n :: seen)⟩
  | ask r next ih => exact ih _ hs seen

/-- An inquiry is no pause: it is over before anything else can happen. -/
lemma vouched_search {i : Inquiry NodeId α} {k : α → Search NodeId}
    (h : ∀ a, i.run t.provider = .ok a → (k a).Vouched excused t) :
    (i.search k).Vouched excused t := by
  induction i with
  | done a => exact h a rfl
  | fail e => trivial
  | ask r next ih => exact ih _ h

/-- A filter excuses a control only if it keeps it although it has gone. -/
lemma Vouched.filter (hs : s.Vouched excused t) {p : NodeId → Inquiry NodeId Bool}
    {b : SnapshotTree → NodeId → Bool} (hp : ∀ t n, (p n).run t.provider = .ok (b t n)) :
    (s.filter p).Vouched (fun m => excused m ∧ b t m = true) t := by
  induction s generalizing excused t with
  | finish => trivial
  | fail e => trivial
  | yield n rest ih =>
    have hrest : ∀ t', (rest.filter p).Vouched (fun _ => False) t' := fun t' =>
      (ih (hs.2 t')).mono fun _ => And.left
    refine vouched_search fun keep hkeep => ?_
    rw [hp t n] at hkeep
    cases hkeep
    cases hb : b t n with
    | true => exact ⟨hs.1.imp_right fun hex => ⟨hex, hb⟩, hrest⟩
    | false => exact (hrest t).excuse _
  | ask r next ih => exact ih _ hs

/-- A page excuses a control only if the first match is on it. -/
lemma Vouched.page (hs : s.Vouched excused t) (skip : Nat) (take : Option Nat) :
    (s.page skip take).Vouched (fun m => excused m ∧ skip = 0 ∧ take ≠ some 0) t := by
  induction s generalizing excused t skip take with
  | finish => trivial
  | fail e =>
    rw [Search.page]
    split <;> trivial
  | yield n rest ih =>
    by_cases htake : take = some 0
    · rw [htake, page_full]
      trivial
    cases skip with
    | succ skip =>
      rw [page_yield_skip htake]
      exact (ih (hs.2 t) skip take).mono fun _ h => h.1.elim
    | zero =>
      rw [page_yield_take htake]
      exact ⟨hs.1.imp_right fun hex => ⟨hex, rfl, htake⟩,
        fun t' => (ih (hs.2 t') 0 _).mono fun _ => And.left⟩
  | ask r next ih =>
    by_cases htake : take = some 0
    · rw [htake, page_full]
      trivial
    · rw [page_ask htake]
      exact ih _ hs skip take

/-! ### Walks look before they yield -/

lemma vouched_keepValid (ns : List NodeId) {next : List NodeId → Search NodeId}
    (h : ∀ kept, (next kept).Vouched excused t) : (keepValid ns next).Vouched excused t := by
  induction ns generalizing next with
  | nil => exact h []
  | cons n ns ih => exact ih fun kept => h _

lemma vouched_isValid {n : NodeId} {here gone : Search NodeId}
    (hhere : t.alive n = true → here.Vouched excused t)
    (hgone : t.alive n = false → gone.Vouched excused t) :
    (ask (.isValid n) fun valid => if valid then here else gone).Vouched excused t := by
  change (if t.alive n = true then here else gone).Vouched excused t
  cases hn : t.alive n with
  | true => exact hhere hn
  | false => exact hgone hn

lemma vouched_climb (levels : Nat) (n : NodeId) (t : SnapshotTree) :
    (climb levels n).Vouched (fun _ => False) t := by
  induction levels generalizing n t with
  | zero => trivial
  | succ levels ih =>
    rw [climb, Vouched]
    cases t.provider.reply (.parent n) with
    | error e => cases e <;> trivial
    | ok parent =>
      cases parent with
      | none => trivial
      | some p =>
        refine vouched_isValid (fun hp => ?_) fun _ => trivial
        exact ⟨.inl hp, fun t' => ih p t'⟩

lemma vouched_visit {below : NodeId → Search NodeId → Search NodeId} {c : NodeId}
    {rest : Search NodeId} (hbelow : ∀ t, (below c rest).Vouched (fun _ => False) t)
    (hrest : ∀ t, rest.Vouched (fun _ => False) t) (t : SnapshotTree) :
    (descend.visit below c rest).Vouched (fun _ => False) t := by
  refine vouched_isValid (fun hc => ?_) fun _ => hrest t
  exact ⟨.inl hc, hbelow⟩

lemma vouched_descend (levels : Nat) (n : NodeId) {rest : Search NodeId}
    (hrest : ∀ t, rest.Vouched (fun _ => False) t) (t : SnapshotTree) :
    (descend levels n rest).Vouched (fun _ => False) t := by
  induction levels generalizing n rest t with
  | zero => exact hrest t
  | succ levels ih =>
    rw [descend, Vouched]
    cases t.provider.reply (.children n) with
    | error e =>
      cases e with
      | stale => exact hrest t
      | failure reason => trivial
    | ok children =>
      refine vouched_keepValid children fun kept => ?_
      induction kept generalizing t with
      | nil => exact hrest t
      | cons c kept ihk => exact vouched_visit (fun t' => ih c ihk t') ihk t

/-- A walk up takes its start on trust, but only if it includes it. -/
lemma vouched_ancestors (levels : Nat) (includeSelf : Bool) {n : NodeId}
    (hn : t.alive n = true ∨ excused n) :
    (ancestors levels includeSelf n).Vouched (fun m => excused m ∧ includeSelf = true) t := by
  cases includeSelf with
  | true => exact ⟨hn.imp_right fun hex => ⟨hex, rfl⟩, vouched_climb levels n⟩
  | false => exact (vouched_climb levels n t).excuse _

/-- A walk down takes nothing on trust. -/
lemma vouched_descendants (levels : Nat) (includeSelf : Bool) (n : NodeId) (t : SnapshotTree) :
    (descendants levels includeSelf n).Vouched (fun _ => False) t := by
  have hfinish : ∀ t, (finish : Search NodeId).Vouched (fun _ => False) t := fun _ => trivial
  have hbelow := vouched_descend levels n hfinish
  cases includeSelf with
  | true => exact vouched_visit hbelow hfinish t
  | false => exact hbelow t

lemma vouched_flatMap_descendants (levels : Nat) (includeSelf : Bool) (s : Search NodeId)
    (t : SnapshotTree) :
    (s.flatMap (descendants levels includeSelf)).Vouched (fun _ => False) t := by
  induction s generalizing t with
  | finish => trivial
  | fail e => trivial
  | yield n rest ih => exact (vouched_descendants levels includeSelf n t).append ih
  | ask r next ih => exact ih _ t

/-! ### What comes first in a stage -/

variable {P : Provider NodeId} {n : NodeId} {rest : Search NodeId}

lemma next_append (h : s.next P = .found n rest) (u : Search NodeId) :
    (s.append u).next P = .found n (rest.append u) := by
  induction s with
  | finish => cases h
  | fail e => cases h
  | yield m rest' =>
    cases h
    rfl
  | ask r next ih => exact ih _ h

lemma next_flatMap (h : s.next P = .found n rest) {f : NodeId → Search NodeId}
    {rest' : Search NodeId} (hf : (f n).next P = .found n rest') :
    (s.flatMap f).next P = .found n (rest'.append (rest.flatMap f)) := by
  induction s with
  | finish => cases h
  | fail e => cases h
  | yield m rest =>
    cases h
    exact next_append hf _
  | ask r next ih => exact ih _ h

lemma next_distinct (h : s.next P = .found n rest) :
    (s.distinct []).next P = .found n (rest.distinct [n]) := by
  induction s with
  | finish => cases h
  | fail e => cases h
  | yield m rest' =>
    cases h
    rfl
  | ask r next ih => exact ih _ h

lemma next_page (h : s.next P = .found n rest) {take : Option Nat} (htake : take ≠ some 0) :
    (s.page 0 take).next P = .found n (rest.page 0 (take.map (· - 1))) := by
  induction s with
  | finish => cases h
  | fail e => cases h
  | yield m rest' =>
    cases h
    rw [page_yield_take htake]
    rfl
  | ask r next ih =>
    rw [page_ask htake]
    exact ih _ h

end Search

/-! ### The start on its way through a query -/

section Engine

variable [Regex.Engine]

section Pursue

variable {t : SnapshotTree}

mutual

theorem Part.vouched_pursue (s : Setting) : ∀ (p : Part) {excused : NodeId → Prop}
    {contexts : Search NodeId}, contexts.Vouched excused t →
      (p.pursue s contexts).Vouched (fun m => excused m ∧ p.trusts t s m = true) t
  | .identity, _, _, h => by
    rw [Part.pursue]
    exact h.mono fun m hex => ⟨hex, by rw [Part.trusts]⟩
  | .ancestors maxDepth includeSelf, _, _, h => by
    rw [Part.pursue]
    have hwalks := h.flatMap fun n excused t hn =>
      Search.vouched_ancestors (s.levels maxDepth) includeSelf hn
    refine (hwalks.distinct []).mono fun m hex => ⟨hex.1, ?_⟩
    rw [Part.trusts]
    exact hex.2
  | .descendants maxDepth includeSelf, _, contexts, _ => by
    rw [Part.pursue]
    have hwalks := Search.vouched_flatMap_descendants (s.levels maxDepth) includeSelf contexts t
    exact (hwalks.distinct []).excuse _
  | .composite e, _, _, h => by
    rw [Part.pursue]
    refine (Element.vouched_pursue s e h).mono fun m hex => ⟨hex.1, ?_⟩
    rw [Part.trusts]
    exact hex.2

theorem Part.vouched_pursueAll (s : Setting) : ∀ (ps : List Part)
    {excused : NodeId → Prop} {contexts : Search NodeId}, contexts.Vouched excused t →
      (Part.pursueAll s ps contexts).Vouched (fun m => excused m ∧ Part.allTrust t s m ps = true) t
  | [], _, _, h => by
    rw [Part.pursueAll]
    exact h.mono fun m hex => ⟨hex, by rw [Part.allTrust]⟩
  | p :: ps, _, _, h => by
    rw [Part.pursueAll]
    have hrest := Part.vouched_pursueAll s ps (Part.vouched_pursue s p h)
    refine hrest.mono fun m hex => ⟨hex.1.1, ?_⟩
    rw [Part.allTrust, Bool.and_eq_true]
    exact ⟨hex.1.2, hex.2⟩

theorem Element.vouched_pursue (s : Setting) : ∀ (e : Element)
    {excused : NodeId → Prop} {contexts : Search NodeId}, contexts.Vouched excused t →
      (e.pursue s contexts).Vouched (fun m => excused m ∧ e.trusts t s m = true) t
  | ⟨condition, scope, skip, take⟩, excused, contexts, h => by
    rw [Element.pursue]
    have hscope := Part.vouched_pursueAll s scope h
    have hselect : (Condition.select s condition (Part.pursueAll s scope contexts)).Vouched
        (fun m => (excused m ∧ Part.allTrust t s m scope = true) ∧
          Condition.targetHolds t s condition m = true) t := by
      cases condition with
      | none =>
        rw [Condition.select]
        exact hscope.mono fun m hex => ⟨hex, by rw [Condition.targetHolds]⟩
      | some c =>
        rw [Condition.select]
        have hfilter := hscope.filter fun t n => c.run_evaluate (.refl t s) n
        refine hfilter.mono fun m hex => ⟨hex.1, ?_⟩
        rw [Condition.targetHolds]
        exact hex.2
    split
    · next hwhole =>
      rw [Bool.and_eq_true, Option.isNone_iff_eq_none, Option.isNone_iff_eq_none] at hwhole
      obtain ⟨rfl, rfl⟩ := hwhole
      refine hselect.mono fun m hex => ⟨hex.1.1, ?_⟩
      simp [Element.trusts, hex.1.2, hex.2]
    · refine (hselect.page _ _).mono fun m hex => ⟨hex.1.1.1, ?_⟩
      simp [Element.trusts, hex.1.1.2, hex.1.2, hex.2]

end

mutual

theorem Part.next_pursue (s : Setting) {n : NodeId} : ∀ (p : Part) {contexts rest : Search NodeId},
    p.trusts t s n = true → contexts.next t.provider = .found n rest →
      ∃ rest', (p.pursue s contexts).next t.provider = .found n rest'
  | .identity, _, rest, _, h => by
    rw [Part.pursue]
    exact ⟨rest, h⟩
  | .ancestors maxDepth includeSelf, _, _, htrust, h => by
    rw [Part.trusts] at htrust
    rw [Part.pursue, htrust]
    exact ⟨_, Search.next_distinct (Search.next_flatMap h rfl)⟩
  | .descendants _ _, _, _, htrust, _ => by
    rw [Part.trusts] at htrust
    cases htrust
  | .composite e, _, _, htrust, h => by
    rw [Part.trusts] at htrust
    rw [Part.pursue]
    exact Element.next_pursue s e htrust h

theorem Part.next_pursueAll (s : Setting) {n : NodeId} :
    ∀ (ps : List Part) {contexts rest : Search NodeId},
    Part.allTrust t s n ps = true → contexts.next t.provider = .found n rest →
      ∃ rest', (Part.pursueAll s ps contexts).next t.provider = .found n rest'
  | [], _, rest, _, h => by
    rw [Part.pursueAll]
    exact ⟨rest, h⟩
  | p :: ps, _, _, htrust, h => by
    rw [Part.allTrust, Bool.and_eq_true] at htrust
    rw [Part.pursueAll]
    obtain ⟨rest', hfirst⟩ := Part.next_pursue s p htrust.1 h
    exact Part.next_pursueAll s ps htrust.2 hfirst

theorem Element.next_pursue (s : Setting) {n : NodeId} :
    ∀ (e : Element) {contexts rest : Search NodeId},
    e.trusts t s n = true → contexts.next t.provider = .found n rest →
      ∃ rest', (e.pursue s contexts).next t.provider = .found n rest'
  | ⟨condition, scope, skip, take⟩, contexts, _, htrust, h => by
    rw [Element.trusts, Bool.and_eq_true, Bool.and_eq_true, Bool.and_eq_true, beq_iff_eq,
      bne_iff_ne] at htrust
    obtain ⟨⟨hscope, hholds⟩, hskip, htake⟩ := htrust
    obtain ⟨_, hfound⟩ := Part.next_pursueAll s scope hscope h
    have hselect : ∃ rest', (Condition.select s condition
        (Part.pursueAll s scope contexts)).next t.provider = .found n rest' := by
      cases condition with
      | none =>
        rw [Condition.select]
        exact ⟨_, hfound⟩
      | some c =>
        rw [Condition.targetHolds] at hholds
        rw [Condition.select]
        have hkeep : (c.evaluate s n).run t.provider = .ok true := by
          rw [c.run_evaluate (.refl t s), hholds]
        exact ⟨_, Search.next_filter hfound hkeep⟩
    obtain ⟨_, hmatch⟩ := hselect
    rw [Element.pursue]
    split
    · exact ⟨_, hmatch⟩
    · rw [hskip]
      exact ⟨_, Search.next_page hmatch htake⟩

end

namespace Query

/-- When a search is opened nothing but the start is taken on trust, and only if the query trusts
it. -/
lemma vouched_findAll (s : Setting) (P : Provider NodeId) (q : Query) (n : NodeId)
    (t : SnapshotTree) :
    (q.findAll s P n).Vouched (fun m => m = n ∧ q.trusts t s n = true) t := by
  unfold findAll
  cases q.nestingError? s with
  | some e => trivial
  | none =>
    dsimp only
    split
    · have hstart : (Search.one n).Vouched (· = n) t := ⟨.inr rfl, fun _ => trivial⟩
      have hpath := Part.vouched_pursueAll s q.path hstart
      refine (q.element.vouched_pursue s hpath).mono fun m hex => ?_
      obtain ⟨⟨rfl, htrust⟩, helement⟩ := hex
      rw [trusts, Bool.and_eq_true]
      exact ⟨rfl, htrust, helement⟩
    · trivial

/-- A start that was valid when the search was opened comes first if the query trusts it. -/
lemma next_findAll_of_trusts {s : Setting} {P : Provider NodeId} {q : Query} {n : NodeId}
    (hdepth : q.depth ≤ s.maxNesting.toNat) (hn : P.isValid n = true)
    (htrust : q.trusts t s n = true) :
    ∃ rest, (q.findAll s P n).next t.provider = .found n rest := by
  rw [trusts, Bool.and_eq_true] at htrust
  unfold findAll
  rw [nestingError?_eq_none hdepth]
  dsimp only
  rw [if_pos hn]
  have hstart : (Search.one n).next t.provider = .found n .finish := rfl
  obtain ⟨_, hpath⟩ := Part.next_pursueAll s q.path htrust.1 hstart
  exact q.element.next_pursue s htrust.2 hpath

end Query

end Pursue

end Engine

/-! ### Answers during any moves -/

namespace Search

variable {s : Search NodeId} {t : SnapshotTree} {m : NodeId} {moves : List Move} {k : Nat}
  {t' : SnapshotTree}

/-- One request: the control found is valid or excused, and the rest is vouched for. -/
lemma Vouched.next {excused : NodeId → Prop} (h : s.Vouched excused t) :
    (∀ m, (s.next t.provider).answer = some (.ok m) → t.alive m = true ∨ excused m) ∧
      ∀ t', (s.next t.provider).rest.Vouched (fun _ => False) t' := by
  induction s with
  | finish => exact ⟨fun m hm => by simp [Search.next, Outcome.answer] at hm, fun _ => trivial⟩
  | fail e => exact ⟨fun m hm => by simp [Search.next, Outcome.answer] at hm, fun _ => trivial⟩
  | yield n rest ih =>
    refine ⟨fun m hm => ?_, h.2⟩
    have hnm : n = m := by simpa [Search.next, Outcome.answer] using hm
    exact hnm ▸ h.1
  | ask r next ih => exact ih _ h

/-- All requests: each control is valid when it is yielded, the first one unless it is excused. -/
lemma Vouched.replay {excused : SnapshotTree → NodeId → Prop} (h : ∀ t, s.Vouched (excused t) t)
    (hk : (s.replay t moves)[k]? = some ⟨t', some (.ok m)⟩) :
    t'.alive m = true ∨ k = 0 ∧ excused t' m := by
  induction moves generalizing s t excused k with
  | nil => simp [Search.replay] at hk
  | cons move moves ih =>
    cases move with
    | remove n => exact ih h hk
    | next =>
      obtain ⟨hfirst, hrest⟩ := (h t).next
      rw [Search.replay] at hk
      cases k with
      | zero =>
        obtain ⟨rfl, hm⟩ := Moment.mk.inj (Option.some.inj hk)
        exact (hfirst m hm).imp_right fun hex => ⟨rfl, hex⟩
      | succ k =>
        rcases ih hrest hk with hal | ⟨-, hno⟩
        · exact .inl hal
        · exact hno.elim

lemma replay_remove (removed : List NodeId) :
    s.replay t (removed.map .remove ++ moves) = s.replay (t.removeAll removed) moves := by
  induction removed generalizing t with
  | nil => rfl
  | cons n removed ih => exact ih

end Search

namespace Query

/-- A search yields only what is there at that moment, whatever was removed since it was opened,
except that the first answer may be a start that has gone; and that is what it is if the query
trusts its start. -/
theorem alive_of_replay_findAll [Regex.Engine] (t : SnapshotTree) (s : Setting) (q : Query)
    (n : NodeId) :
    (∀ (moves : List Move) (k : Nat) (t' : SnapshotTree) (m : NodeId),
      ((q.findAll s t.provider n).replay t moves)[k]? = some ⟨t', some (.ok m)⟩ →
        t'.alive m = true ∨ k = 0 ∧ m = n ∧ q.trusts t' s n = true) ∧
      ∀ removed : List NodeId, q.depth ≤ s.maxNesting.toNat → t.alive n = true →
        q.trusts (t.removeAll removed) s n = true →
          (q.findAll s t.provider n).replay t (removed.map .remove ++ [.next]) =
            [⟨t.removeAll removed, some (.ok n)⟩] := by
  refine ⟨fun moves k t' m h => ?_, fun removed hdepth hn htrust => ?_⟩
  · exact Search.Vouched.replay (q.vouched_findAll s t.provider n) h
  · obtain ⟨rest, hfirst⟩ := next_findAll_of_trusts (P := t.provider) hdepth hn htrust
    rw [Search.replay_remove, Search.replay, hfirst]
    rfl

/-- Of three controls the second is removed before its turn, and before a walk up from it. -/
theorem alive_of_replay_findAll_past_removed :
    let t := SnapshotTree.ofNode (.node ∅ [.node ∅ [], .node ∅ []])
    let s : Setting := { reach := 3 }
    let down : Query := { path := [], element := .ofScope [.descendants none true] }
    let up : Query := { path := [], element := .ofScope [.ancestors none true] }
    (((down.findAll s t.provider 0).replay t [.next, .remove 1, .next])[1]? =
        some ⟨t.remove 1, some (.ok 2)⟩ ∧
      ((t.remove 1).alive 2 = true ∨ 1 = 0 ∧ 2 = 0 ∧ down.trusts (t.remove 1) s 0 = true)) ∧
      (up.depth ≤ s.maxNesting.toNat ∧ t.alive 1 = true ∧ up.trusts (t.removeAll [1]) s 1 = true) ∧
        (up.findAll s t.provider 1).replay t [.remove 1, .next] =
          [⟨t.removeAll [1], some (.ok 1)⟩] := by
  intro t s down up
  have hsecond : ((down.findAll s t.provider 0).replay t
      [.next, .remove 1, .next])[1]? = some ⟨t.remove 1, some (.ok 2)⟩ := rfl
  have hdepth : up.depth ≤ s.maxNesting.toNat := by decide
  have htrust : up.trusts (t.removeAll [1]) s 1 = true := rfl
  exact ⟨⟨hsecond, (alive_of_replay_findAll t s down 0).1 _ 1 _ 2 hsecond⟩, ⟨hdepth, rfl, htrust⟩,
    (alive_of_replay_findAll t s up 1).2 [1] hdepth rfl htrust⟩

/-- A walk up takes its start on trust, so a start that has gone since the search was opened is
still yielded. -/
theorem replay_findAll_yields_removed_start :
    let t := SnapshotTree.ofNode (.node ∅ [.node ∅ []])
    let q : Query := { path := [], element := .ofScope [.ancestors none true] }
    ∃ t', (q.findAll { reach := 2 } t.provider 1).replay t [.remove 1, .next] =
        [⟨t', some (.ok 1)⟩] ∧ t'.alive 1 = false :=
  ⟨_, rfl, rfl⟩

end Query

end ControlQuery

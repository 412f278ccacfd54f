import ControlQuery.Proofs.Search.Drain
import Mathlib.Data.List.Basic
import Mathlib.Tactic.Common

/-!
# Searches repeat nothing

A search yields no control twice, whatever it is told. Nothing about a tree is used: each question
may be put to another provider, so controls may go, come back, move or fail to answer between any
two questions. A stage that walks keeps a list of what it has yielded, and all other stages only
leave things out.
-/

namespace ControlQuery

variable {ν α : Type}

namespace Search

/-! ### Searches amid changes -/

/-- What comes next if the `i`-th question from now on is put to the provider `P i`. -/
def nextAmid (P : Nat → Provider ν) : Search ν → Outcome ν
  | finish => .finished
  | fail e => .failed e
  | yield n rest => .found n rest
  | ask r next => (next ((P 0).reply r)).nextAmid fun i => P (i + 1)

/-- The answers to so many requests for a next control, where the `i`-th question during the `k`-th
request is put to the provider `P k i`. -/
def answersAmid (P : Nat → Nat → Provider ν) :
    Search ν → Nat → List (Option (Except SearchError ν))
  | _, 0 => []
  | s, count + 1 =>
    let outcome := s.nextAmid (P 0)
    outcome.answer :: outcome.rest.answersAmid (fun k => P (k + 1)) count

/-- The controls among some answers. -/
def found (answers : List (Option (Except SearchError ν))) : List ν :=
  answers.filterMap fun answer => answer.bind Except.toOption

/-! ### Stages keep searches fresh -/

/-- Whatever is replied, nothing is yielded twice, and nothing that is listed in `seen`. -/
def Fresh : Search ν → List ν → Prop
  | finish, _ => True
  | fail _, _ => True
  | yield n rest, seen => n ∉ seen ∧ rest.Fresh (n :: seen)
  | ask _ next, seen => ∀ reply, (next reply).Fresh seen

variable {s : Search ν} {seen seen' : List ν}

lemma Fresh.anti (h : s.Fresh seen) (hsub : seen' ⊆ seen) : s.Fresh seen' := by
  induction s generalizing seen seen' with
  | finish => trivial
  | fail e => trivial
  | yield n rest ih => exact ⟨fun hn => h.1 (hsub hn), ih h.2 (List.cons_subset_cons n hsub)⟩
  | ask r next ih => exact fun reply => ih reply (h reply) hsub

/-- What is left out need not be remembered. -/
lemma Fresh.of_cons {n : ν} (h : s.Fresh (n :: seen)) : s.Fresh seen :=
  h.anti (List.subset_cons_self n seen)

lemma fresh_one (n : ν) : (one n).Fresh [] :=
  ⟨List.not_mem_nil, trivial⟩

lemma fresh_distinct [DecidableEq ν] (s : Search ν) (seen : List ν) :
    (s.distinct seen).Fresh seen := by
  induction s generalizing seen with
  | finish => trivial
  | fail e => trivial
  | yield n rest ih =>
    rw [Search.distinct]
    split
    · exact ih seen
    · next hn => exact ⟨hn, ih (n :: seen)⟩
  | ask r next ih => exact fun reply => ih reply seen

/-- An inquiry yields nothing, whatever comes of it. -/
lemma fresh_search {i : Inquiry ν α} {k : α → Search ν} (h : ∀ a, (k a).Fresh seen) :
    (i.search k).Fresh seen := by
  induction i with
  | done a => exact h a
  | fail e => trivial
  | ask r next ih => exact fun reply => ih reply

lemma Fresh.filter (h : s.Fresh seen) (p : ν → Inquiry ν Bool) : (s.filter p).Fresh seen := by
  induction s generalizing seen with
  | finish => trivial
  | fail e => trivial
  | yield n rest ih =>
    have hrest := ih h.2
    refine fresh_search fun keep => ?_
    cases keep with
    | true => exact ⟨h.1, hrest⟩
    | false => exact hrest.of_cons
  | ask r next ih => exact fun reply => ih reply (h reply)

lemma Fresh.page (h : s.Fresh seen) (skip : Nat) (take : Option Nat) :
    (s.page skip take).Fresh seen := by
  induction s generalizing seen skip take with
  | finish => trivial
  | fail e =>
    rw [Search.page]
    split <;> trivial
  | yield n rest ih =>
    by_cases htake : take = some 0
    · rw [htake, page_full]
      trivial
    cases skip with
    | succ skip =>
      rw [page_yield_skip htake]
      exact (ih h.2 skip take).of_cons
    | zero =>
      rw [page_yield_take htake]
      exact ⟨h.1, ih h.2 0 _⟩
  | ask r next ih =>
    by_cases htake : take = some 0
    · rw [htake, page_full]
      trivial
    · rw [page_ask htake]
      exact fun reply => ih reply (h reply) skip take

end Search

section Engine

variable [Regex.Engine]

section Pursue

variable [DecidableEq ν]

mutual

theorem Part.fresh_pursue (s : Setting) : ∀ (p : Part) {contexts : Search ν},
    contexts.Fresh [] → (p.pursue s contexts).Fresh []
  | .identity, _, h => by
    rw [Part.pursue]
    exact h
  | .ancestors _ _, _, _ => by
    rw [Part.pursue]
    exact Search.fresh_distinct _ []
  | .descendants _ _, _, _ => by
    rw [Part.pursue]
    exact Search.fresh_distinct _ []
  | .composite e, _, h => by
    rw [Part.pursue]
    exact Element.fresh_pursue s e h

theorem Part.fresh_pursueAll (s : Setting) : ∀ (ps : List Part) {contexts : Search ν},
    contexts.Fresh [] → (Part.pursueAll s ps contexts).Fresh []
  | [], _, h => by
    rw [Part.pursueAll]
    exact h
  | p :: ps, _, h => by
    rw [Part.pursueAll]
    exact Part.fresh_pursueAll s ps (Part.fresh_pursue s p h)

theorem Element.fresh_pursue (s : Setting) : ∀ (e : Element) {contexts : Search ν},
    contexts.Fresh [] → (e.pursue s contexts).Fresh []
  | ⟨condition, scope, skip, take⟩, contexts, h => by
    rw [Element.pursue]
    have hscope := Part.fresh_pursueAll s scope h
    have hselect : (Condition.select s condition (Part.pursueAll s scope contexts)).Fresh [] := by
      cases condition with
      | none =>
        rw [Condition.select]
        exact hscope
      | some c =>
        rw [Condition.select]
        exact hscope.filter _
    split
    · exact hselect
    · exact hselect.page _ _

end

lemma Query.fresh_findAll (s : Setting) (P : Provider ν) (q : Query) (n : ν) :
    (q.findAll s P n).Fresh [] := by
  unfold findAll
  cases q.nestingError? s with
  | some e => trivial
  | none =>
    dsimp only
    split
    · exact q.element.fresh_pursue s (Part.fresh_pursueAll s q.path (Search.fresh_one n))
    · trivial

end Pursue

end Engine

/-! ### Answers amid changes -/

namespace Search

variable {s : Search ν} {seen : List ν}

/-- One request: the control found is new, and stays known to the rest of the search. -/
lemma Fresh.nextAmid (h : s.Fresh seen) (P : Nat → Provider ν) {n : ν} {rest : Search ν}
    (hn : s.nextAmid P = .found n rest) : n ∉ seen ∧ rest.Fresh (n :: seen) := by
  induction s generalizing P with
  | finish => cases hn
  | fail e => cases hn
  | yield m rest' ih =>
    obtain ⟨rfl, rfl⟩ := Outcome.found.inj hn
    exact h
  | ask r next ih => exact ih _ (h _) _ hn

/-- All requests: the controls found are new, each to those before it. -/
lemma Fresh.answersAmid (h : s.Fresh seen) (P : Nat → Nat → Provider ν) (count : Nat) :
    (found (s.answersAmid P count)).Nodup ∧ ∀ n ∈ found (s.answersAmid P count), n ∉ seen := by
  induction count generalizing s seen P with
  | zero => exact ⟨List.nodup_nil, fun n hn => by cases hn⟩
  | succ count ih =>
    have hover : (finish : Search ν).Fresh seen := trivial
    rw [Search.answersAmid]
    cases hs : s.nextAmid (P 0) with
    | finished => exact ih hover _
    | failed e => exact ih hover _
    | found n rest =>
      obtain ⟨hn, hfresh⟩ := h.nextAmid (P 0) hs
      obtain ⟨hnodup, hnew⟩ := ih hfresh fun k => P (k + 1)
      constructor
      · exact List.nodup_cons.mpr ⟨fun hmem => hnew n hmem List.mem_cons_self, hnodup⟩
      · intro m hm
        rcases List.mem_cons.mp hm with rfl | hm
        · exact hn
        · exact fun hseen => hnew m hm (List.mem_cons_of_mem n hseen)

end Search

variable [Regex.Engine]

/-- No search reports a control twice, for any query from any start, even if every single question
is put to another provider. The number of links that a walk without a limit may follow is
arbitrary, so it is no restriction on what happens during any given number of questions. -/
theorem Query.nodup_found_answersAmid_findAll [DecidableEq ν] (s : Setting) (q : Query) (n : ν)
    (P₀ : Provider ν) (P : Nat → Nat → Provider ν) (count : Nat) :
    (Search.found ((q.findAll s P₀ n).answersAmid P count)).Nodup :=
  ((q.fresh_findAll s P₀ n).answersAmid P count).1

end ControlQuery

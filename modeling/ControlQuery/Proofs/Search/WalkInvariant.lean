import ControlQuery.Search.Walk
import Mathlib.Tactic.Lemma

/-!
# What holds of every walk

All walks are made alike. They ask for links and whether controls are valid, they yield controls,
and when the provider fails they fail with its reason. A property of searches that each of these
steps preserves holds of every walk.
-/

namespace ControlQuery

namespace Search

variable {ν : Type}

/-- A property that the steps of walks preserve. -/
structure WalkInvariant (C : Search ν → Prop) : Prop where
  finish : C finish
  yield : ∀ {n rest}, C rest → C (yield n rest)
  isValid : ∀ {n next}, (∀ valid, C (next valid)) → C (ask (.isValid n) next)
  parent : ∀ {n next}, (∀ parent, C (next (.ok parent))) → C (next (.error .stale)) →
    (∀ reason, next (.error (.failure reason)) = fail (.providerFailure reason)) →
    C (ask (.parent n) next)
  children : ∀ {n next}, (∀ children, C (next (.ok children))) → C (next (.error .stale)) →
    (∀ reason, next (.error (.failure reason)) = fail (.providerFailure reason)) →
    C (ask (.children n) next)

namespace WalkInvariant

variable {C : Search ν → Prop} (h : WalkInvariant C)
include h

lemma keepValid (ns : List ν) {next : List ν → Search ν} (hnext : ∀ kept, C (next kept)) :
    C (keepValid ns next) := by
  induction ns generalizing next with
  | nil => exact hnext []
  | cons n ns ih =>
    apply h.isValid
    intro valid
    exact ih fun kept => hnext _

lemma climb (levels : Nat) (n : ν) : C (climb levels n) := by
  induction levels generalizing n with
  | zero => exact h.finish
  | succ levels ih =>
    refine h.parent (fun parent => ?_) h.finish fun _ => rfl
    cases parent with
    | none => exact h.finish
    | some p =>
      apply h.isValid
      intro valid
      cases valid with
      | true => exact h.yield (ih p)
      | false => exact h.finish

lemma visit {below : ν → Search ν → Search ν} {c : ν} {rest : Search ν}
    (hbelow : C (below c rest)) (hrest : C rest) : C (descend.visit below c rest) := by
  apply h.isValid
  intro valid
  cases valid with
  | true => exact h.yield hbelow
  | false => exact hrest

lemma descend (levels : Nat) (n : ν) {rest : Search ν} (hrest : C rest) :
    C (descend levels n rest) := by
  induction levels generalizing n rest with
  | zero => exact hrest
  | succ levels ih =>
    refine h.children (fun children => ?_) hrest fun _ => rfl
    apply h.keepValid
    intro kept
    induction kept with
    | nil => exact hrest
    | cons c kept ihk => exact h.visit (ih c ihk) ihk

theorem ancestors (levels : Nat) (includeSelf : Bool) (n : ν) :
    C (ancestors levels includeSelf n) := by
  cases includeSelf with
  | true => exact h.yield (h.climb levels n)
  | false => exact h.climb levels n

theorem descendants (levels : Nat) (includeSelf : Bool) (n : ν) :
    C (descendants levels includeSelf n) := by
  cases includeSelf with
  | true => exact h.visit (h.descend levels n h.finish) h.finish
  | false => exact h.descend levels n h.finish

lemma neighbours (n : ν) {k : List ν → Search ν} (hk : ∀ found, C (k found)) :
    C (neighbours n k) := by
  refine h.parent (fun parent => ?_) (hk []) fun _ => rfl
  exact h.children (fun children => hk _) (hk []) fun _ => rfl

variable [DecidableEq ν]

lemma discover (ns next seen : List ν) {k : List ν → List ν → Search ν}
    (hk : ∀ next seen, C (k next seen)) : C (discover ns next seen k) := by
  induction ns generalizing next seen with
  | nil => exact hk next seen
  | cons n ns ih =>
    apply h.isValid
    intro valid
    split
    · exact ih _ _
    · exact ih _ _

lemma serve (spread shown : Bool) {k : List ν → List ν → Search ν}
    (hk : ∀ next seen, C (k next seen)) (queue next seen : List ν) :
    C (serve spread shown k queue next seen) := by
  induction queue generalizing next seen with
  | nil => exact hk next seen
  | cons n queue ih =>
    have hgo : ∀ next seen, C (if shown then .yield n (Search.serve spread shown k queue next seen)
        else Search.serve spread shown k queue next seen) := by
      intro next seen
      cases shown with
      | true => exact h.yield (ih next seen)
      | false => exact ih next seen
    apply h.isValid
    intro valid
    cases valid with
    | false => exact ih next seen
    | true =>
      cases spread with
      | false => exact hgo next seen
      | true => exact h.neighbours n fun found => h.discover found next seen hgo

theorem around (steps : Nat) (shown : Bool) (queue seen : List ν) :
    C (around steps shown queue seen) := by
  induction steps generalizing shown queue seen with
  | zero =>
    apply h.serve
    intro next seen
    exact h.finish
  | succ steps ih =>
    apply h.serve
    intro next seen
    split
    · exact h.finish
    · exact ih true next seen

end WalkInvariant

end Search

end ControlQuery

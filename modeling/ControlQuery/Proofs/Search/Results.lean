import ControlQuery.Proofs.Search.Neighbourhood

/-!
# The results of a query

What a query means on a snapshot tree, said eagerly: a list of contexts is turned into the list of
the controls that a part leads to, each where it is first reached, an element keeps those that
fulfil its condition and then its page, and a condition looks at recorded values and at the results
of its sub-queries. Between two parts stand valid controls without repetition.
-/

namespace ControlQuery

/-- Whether a predicate holds of a control whose properties are read by `value`. -/
def Predicate.holds (value : PropertyId → Option PropertyValue) : Predicate → Bool
  | answer holds => holds
  | read id next => (next (value id)).holds value

namespace SnapshotTree

/-- The recorded value of a property. A stale control has none. -/
def value (t : SnapshotTree) (n : NodeId) (id : PropertyId) : Option PropertyValue :=
  (t.properties? n).bind fun properties => properties.get? id

/-- What walks from several contexts lead to, each control where it is first reached. -/
def union (walk : NodeId → List NodeId) (contexts : List NodeId) : List NodeId :=
  (contexts.flatMap walk).eraseDups

end SnapshotTree

section Engine

variable [Regex.Engine]

mutual

/-- Whether a condition holds of a control of the tree. -/
def Condition.holds (t : SnapshotTree) (s : Setting) : Condition → NodeId → Bool
  | .property condition, n => condition.holds (t.value n condition.property)
  | .function condition, n => (s.predicates condition.predicate).holds (t.value n)
  | .logical .and left right, n => left.holds t s n && right.holds t s n
  | .logical .or left right, n => left.holds t s n || right.holds t s n
  | .hasElement query, n => !(query.results t s n).isEmpty
  | .relative distance condition, n =>
    (t.nearby n distance).any (Condition.targetHolds t s condition)

/-- Whether a control at a distance will do. -/
def Condition.targetHolds (t : SnapshotTree) (s : Setting) : Option Condition → NodeId → Bool
  | none, _ => true
  | some condition, n => condition.holds t s n

/-- What a part leads to from some contexts. -/
def Part.follow (t : SnapshotTree) (s : Setting) : Part → List NodeId → List NodeId
  | .identity, contexts => contexts
  | .ancestors maxDepth includeSelf, contexts =>
    SnapshotTree.union
      (fun n => SnapshotTree.withSelf includeSelf n (t.chain (s.levels maxDepth) n)) contexts
  | .descendants maxDepth includeSelf, contexts =>
    SnapshotTree.union
      (fun n => SnapshotTree.withSelf includeSelf n (t.preorder (s.levels maxDepth) n)) contexts
  | .composite element, contexts => element.follow t s contexts

/-- What parts lead to, one after the other. -/
def Part.followAll (t : SnapshotTree) (s : Setting) : List Part → List NodeId → List NodeId
  | [], contexts => contexts
  | part :: parts, contexts => Part.followAll t s parts (part.follow t s contexts)

/-- The page of those controls in the scope that fulfil the condition. -/
def Element.follow (t : SnapshotTree) (s : Setting) : Element → List NodeId → List NodeId
  | { condition, scope, skip, take }, contexts =>
    Search.pageOf ((skip.map UInt64.toNat).getD 0) (take.map UInt64.toNat)
      ((Part.followAll t s scope contexts).filter (Condition.targetHolds t s condition))

/-- What a query finds from a control. -/
def Query.results (t : SnapshotTree) (s : Setting) : Query → NodeId → List NodeId
  | { path, element }, n =>
    if t.alive n then element.follow t s (Part.followAll t s path [n]) else []

end

section Follow

variable {t : SnapshotTree} {s : Setting}

lemma Part.followAll_append (ps qs : List Part) (ns : List NodeId) :
    Part.followAll t s (ps ++ qs) ns = Part.followAll t s qs (Part.followAll t s ps ns) := by
  induction ps generalizing ns with
  | nil => simp [Part.followAll]
  | cons p ps ih => simp [Part.followAll, ih]

lemma Part.followAll_composite (e : Element) (ns : List NodeId) :
    Part.followAll t s [.composite e] ns = e.follow t s ns := by
  simp [Part.followAll, Part.follow]

end Follow

end Engine

/-! ### Contexts -/

lemma nodup_eraseDups (ns : List NodeId) : ns.eraseDups.Nodup := by
  match ns with
  | [] => exact List.nodup_nil
  | n :: ns =>
    rw [List.eraseDups_cons, List.nodup_cons, List.mem_eraseDups]
    exact ⟨by simp, nodup_eraseDups _⟩
termination_by ns.length
decreasing_by exact Nat.lt_succ_of_le (List.length_filter_le _ _)

namespace SnapshotTree

/-- Valid controls without repetition, as they stand between two parts. -/
structure Contexts (t : SnapshotTree) (ns : List NodeId) : Prop where
  alive : ∀ n ∈ ns, t.alive n = true
  nodup : ns.Nodup

variable {t : SnapshotTree} {ns ms : List NodeId} {n m : NodeId}

lemma Contexts.singleton (h : t.alive n = true) : t.Contexts [n] where
  alive := by
    intro m hm
    rwa [List.mem_singleton.1 hm]
  nodup := by simp

lemma Contexts.sublist (h : t.Contexts ns) (hs : ms.Sublist ns) : t.Contexts ms where
  alive := fun n hn => h.alive n (hs.subset hn)
  nodup := h.nodup.sublist hs

lemma mem_union {walk : NodeId → List NodeId} : m ∈ union walk ns ↔ ∃ n ∈ ns, m ∈ walk n := by
  rw [union, List.mem_eraseDups, List.mem_flatMap]

lemma Contexts.union (h : t.Contexts ns) {walk : NodeId → List NodeId} (includeSelf : Bool)
    (hw : ∀ n, ∀ m ∈ walk n, t.alive m = true) :
    t.Contexts (union (fun n => withSelf includeSelf n (walk n)) ns) where
  alive := by
    intro m hm
    obtain ⟨n, hn, hm⟩ := mem_union.1 hm
    cases includeSelf with
    | false => exact hw n m hm
    | true =>
      rcases List.mem_cons.1 hm with rfl | hm
      · exact h.alive m hn
      · exact hw n m hm
  nodup := nodup_eraseDups _

lemma alive_of_mem_chain {levels : Nat} (h : m ∈ t.chain levels n) : t.alive m = true := by
  induction levels generalizing n with
  | zero => simp [chain] at h
  | succ levels ih =>
    rw [chain] at h
    split at h
    · next p hp =>
      rcases List.mem_cons.1 h with rfl | h
      · exact alive_of_parent? hp
      · exact ih h
    · simp at h

lemma alive_of_mem_preorder {levels : Nat} (h : m ∈ t.preorder levels n) : t.alive m = true := by
  induction levels generalizing n with
  | zero => simp [preorder] at h
  | succ levels ih =>
    rw [preorder, List.mem_flatMap] at h
    obtain ⟨c, hc, h⟩ := h
    rcases List.mem_cons.1 h with rfl | h
    · exact alive_of_mem_kids hc
    · exact ih h

end SnapshotTree

lemma Search.pageOf_sublist {α : Type} (skip : Nat) (take : Option Nat) (ns : List α) :
    (pageOf skip take ns).Sublist ns := by
  cases take with
  | none => exact List.drop_sublist skip ns
  | some count => exact (List.take_sublist count _).trans (List.drop_sublist skip ns)

variable [Regex.Engine]

section Contexts

variable {t : SnapshotTree} {s : Setting}

mutual

theorem Part.contexts_follow : ∀ (p : Part) {ns : List NodeId}, t.Contexts ns →
    t.Contexts (p.follow t s ns)
  | .identity, _, h => by
    rw [Part.follow]
    exact h
  | .ancestors maxDepth includeSelf, _, h => by
    rw [Part.follow]
    exact h.union includeSelf fun n m hm => SnapshotTree.alive_of_mem_chain hm
  | .descendants maxDepth includeSelf, _, h => by
    rw [Part.follow]
    exact h.union includeSelf fun n m hm => SnapshotTree.alive_of_mem_preorder hm
  | .composite e, _, h => by
    rw [Part.follow]
    exact Element.contexts_follow e h

theorem Part.contexts_followAll : ∀ (ps : List Part) {ns : List NodeId}, t.Contexts ns →
    t.Contexts (Part.followAll t s ps ns)
  | [], _, h => by
    rw [Part.followAll]
    exact h
  | p :: ps, _, h => by
    rw [Part.followAll]
    exact Part.contexts_followAll ps (Part.contexts_follow p h)

theorem Element.contexts_follow : ∀ (e : Element) {ns : List NodeId}, t.Contexts ns →
    t.Contexts (e.follow t s ns)
  | ⟨condition, scope, skip, take⟩, _, h => by
    rw [Element.follow]
    exact ((Part.contexts_followAll scope h).sublist List.filter_sublist).sublist
      (Search.pageOf_sublist _ _ _)

end

end Contexts

end ControlQuery

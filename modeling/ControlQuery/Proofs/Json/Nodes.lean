import ControlQuery.Proofs.Json.Containers
import ControlQuery.Snapshot.Format
import Mathlib.Data.List.Forall2

/-!
# Written snapshots

A written node is read as one table with an entry for each property and, behind them, one for its
children. What such a table stands for is the node itself.
-/

namespace ControlQuery

/-! ## Properties -/

namespace PropertyMap

/-- The entries that are read where the properties are written. -/
def documents (m : PropertyMap) : List (String × Document) :=
  m.entries.map fun e => (e.1.text, e.2.document)

lemma forall₂_members (m : PropertyMap) (nesting : Nat) :
    List.Forall₂ (Json.MemberReadsAs (Json.value nesting)) m.members m.documents := by
  rw [members, documents, List.forall₂_map_left_iff, List.forall₂_map_right_iff,
    List.forall₂_same]
  exact fun e _ => ⟨_, e.2.toJson, Json.skipBlanks_quote _, rfl, fun rest hrest =>
    e.2.value_toJson nesting hrest⟩

lemma insertEntry_perm {id : PropertyId} {es : List (PropertyId × PropertyValue)}
    (h : ∀ e ∈ es, e.1 ≠ id) (v : PropertyValue) : (insertEntry id v es).Perm ((id, v) :: es) := by
  induction es with
  | nil => exact .refl _
  | cons e es ih =>
    rw [List.forall_mem_cons] at h
    rw [insertEntry]
    split_ifs with hlt heq
    · exact .refl _
    · exact absurd heq.symm h.1
    · exact ((ih h.2).cons e).trans (.swap _ _ es)

lemma pairwise_ne (m : PropertyMap) : m.entries.Pairwise fun a b => a.1 ≠ b.1 := by
  refine m.ordered.imp fun {a b} hlt heq => ?_
  rw [heq] at hlt
  exact Nat.lt_irrefl _ hlt

lemma ext_entries {m m' : PropertyMap} (h : m.entries.Perm m'.entries) : m = m' := by
  have hantisymm : ∀ a b : PropertyId × PropertyValue, a ∈ m.entries → b ∈ m'.entries →
      a.1 < b.1 → b.1 < a.1 → a = b := fun a b _ _ hab hba => absurd hab (Nat.lt_asymm hba)
  have hentries := h.eq_of_pairwise hantisymm m.ordered m'.ordered
  cases m
  cases m'
  congr

/-- Properties that differ from those there are and from one another are all put among them. -/
lemma exists_properties_map {es : List (PropertyId × PropertyValue)} {m : PropertyMap}
    (h : (m.entries ++ es).Pairwise fun a b => a.1 ≠ b.1) :
    ∃ m', Document.properties m (es.map fun e => (e.1.text, e.2.document)) = .ok m' ∧
      m'.entries.Perm (m.entries ++ es) := by
  induction es generalizing m with
  | nil => exact ⟨m, rfl, by rw [List.append_nil]⟩
  | cons e es ih =>
    have hnew : ∀ a ∈ m.entries, a.1 ≠ e.1 := fun a ha =>
      (List.pairwise_append.mp h).2.2 a ha e List.mem_cons_self
    have hinsert : (m.insert e.1 e.2).entries.Perm (e :: m.entries) := insertEntry_perm hnew e.2
    have hperm : ((m.insert e.1 e.2).entries ++ es).Perm (m.entries ++ e :: es) :=
      (hinsert.append_right es).trans List.perm_middle.symm
    have hapart := (hperm.pairwise_iff Ne.symm).mpr h
    obtain ⟨m', hm', hentries⟩ := ih hapart
    refine ⟨m', ?_, hentries.trans hperm⟩
    rw [List.map_cons, Document.properties, PropertyId.ofName?_text]
    dsimp only
    rw [PropertyValue.propertyValue?_document]
    exact hm'

/-- The properties are read in whatever order they stand, each with its value. -/
lemma properties_of_perm {es : List (PropertyId × PropertyValue)} {m : PropertyMap}
    (h : es.Perm m.entries) :
    Document.properties ∅ (es.map fun e => (e.1.text, e.2.document)) = .ok m := by
  have hapart := (h.pairwise_iff Ne.symm).mpr m.pairwise_ne
  obtain ⟨m', hread, hentries⟩ := exists_properties_map (m := ∅) hapart
  rw [hread, ext_entries (hentries.trans h)]

lemma properties_documents (m : PropertyMap) : Document.properties ∅ m.documents = .ok m :=
  properties_of_perm (.refl _)

end PropertyMap

lemma PropertyId.text_injective : Function.Injective PropertyId.text := by
  intro p q h
  have hname := ofName?_text p
  rw [h, ofName?_text] at hname
  exact (Option.some.inj hname).symm

lemma PropertyId.text_ne_childrenKey (p : PropertyId) : p.text ≠ Document.childrenKey := by
  have hall : ∀ p ∈ all, p.text ≠ Document.childrenKey := by decide +kernel
  exact hall p (mem_all p)

/-! ## Nodes -/

namespace SnapshotNode

mutual

/-- The number of JSON containers that stand inside one another where the node is written. -/
def nesting : SnapshotNode → Nat
  | node _ cs => if cs.isEmpty then 1 else nestingAll cs + 2

/-- The greatest of such numbers in a row of nodes. -/
def nestingAll : List SnapshotNode → Nat
  | [] => 0
  | c :: cs => max c.nesting (nestingAll cs)

end

mutual

/-- What is read where a node is written. -/
def document : SnapshotNode → Document
  | node properties cs =>
    let children := if cs.isEmpty then [] else [(Document.childrenKey, .list (documents cs) true)]
    .table (properties.documents ++ children) true

/-- What is read where nodes in a row are written. -/
def documents : List SnapshotNode → List Document
  | [] => []
  | c :: cs => c.document :: documents cs

end

lemma nestingAll_le_iff {cs : List SnapshotNode} {k : Nat} :
    nestingAll cs ≤ k ↔ ∀ c ∈ cs, c.nesting ≤ k := by
  induction cs with
  | nil => simp [nestingAll]
  | cons c cs ih => rw [nestingAll, Nat.max_le, ih, List.forall_mem_cons]

lemma nesting_of_no_children {n : SnapshotNode} (h : n.children = []) : n.nesting = 1 := by
  obtain ⟨properties, cs⟩ := n
  obtain rfl : cs = [] := h
  rfl

lemma nesting_le_of_children {n : SnapshotNode} {k : Nat} (h : ∀ c ∈ n.children, c.nesting ≤ k) :
    n.nesting ≤ k + 2 := by
  obtain ⟨properties, cs⟩ := n
  rw [nesting]
  split
  · exact Nat.le_add_left 1 (k + 1)
  · exact Nat.add_le_add_right (nestingAll_le_iff.mpr h) 2

lemma children_eq (text : String) :
    "\"children\":[" ++ text ++ "]" =
      Json.quote Document.childrenKey ++ ":" ++ ("[" ++ text ++ "]") := by
  have hkey : "\"children\":[" = Json.quote Document.childrenKey ++ ":" ++ "[" := by decide +kernel
  rw [hkey]
  simp only [String.append_assoc]

open Json (ReadsAs MemberReadsAs)

mutual

/-- A written node is read as what it writes if containers are not nested too deep. -/
lemma readsAs_toJson : ∀ (n : SnapshotNode) {k : Nat}, n.nesting ≤ k →
    ReadsAs (Json.value k) n.toJson n.document
  | node properties [], 0, h => absurd h (Nat.not_succ_le_zero 0)
  | node properties [], k + 1, h => by
    rw [toJson, document]
    exact Json.readsAs_object (List.rel_append (properties.forall₂_members k) .nil) rfl
  | node properties (c :: cs), 0, h => absurd h (Nat.not_succ_le_zero _)
  | node properties (c :: cs), 1, h => absurd h (by simp [nesting])
  | node properties (c :: cs), k + 2, h => by
    have hcs := forall₂_toJsonAll (c :: cs) (Nat.le_of_add_le_add_right (b := 2) h)
    have hclosing : Json.Closes ']' "]" := rfl
    have harray := Json.readsAs_array hcs hclosing
    rw [toJson, document]
    refine Json.readsAs_object ?_ rfl
    refine List.rel_append (properties.forall₂_members (k + 1)) (.cons ?_ .nil)
    exact ⟨_, _, Json.skipBlanks_quote _, children_eq _, harray⟩

lemma forall₂_toJsonAll : ∀ (cs : List SnapshotNode) {k : Nat}, nestingAll cs ≤ k →
    List.Forall₂ (ReadsAs (Json.value k)) (toJsonAll cs) (documents cs)
  | [], k, h => .nil
  | c :: cs, k, h => by
    rw [nestingAll, Nat.max_le] at h
    exact .cons (readsAs_toJson c h.1) (forall₂_toJsonAll cs h.2)

end

/-- Properties are kept, and they come back in the opposite order. -/
lemma nodeEntries_map (entries : List (PropertyId × PropertyValue))
    (es kept : List (String × Document)) :
    Document.nodeEntries (entries.map (fun e => (e.1.text, e.2.document)) ++ es) kept none =
      Document.nodeEntries es ((entries.map fun e => (e.1.text, e.2.document)).reverse ++ kept)
        none := by
  induction entries generalizing kept with
  | nil => rfl
  | cons e entries ih =>
    rw [List.map_cons, List.cons_append, Document.nodeEntries,
      if_neg e.1.text_ne_childrenKey, if_pos e.2.isComplete_document, ih, List.reverse_cons,
      List.append_assoc, List.singleton_append]

lemma nodeEntries_documents (m : PropertyMap) (es : List (String × Document)) :
    Document.nodeEntries (m.documents ++ es) [] none =
      Document.nodeEntries es m.documents.reverse none := by
  rw [PropertyMap.documents, nodeEntries_map, List.append_nil]

lemma nodes_list {ds : List Document} {cs : List SnapshotNode}
    (h : Document.nodeList ds = .ok cs) : (Document.list ds true).nodes = .ok cs := by
  rw [Document.nodes, h]
  rfl

/-- The table of a node that has children. -/
lemma nodeEntries_children {d : Document} {cs : List SnapshotNode} (h : d.nodes = .ok cs)
    (kept : List (String × Document)) :
    Document.nodeEntries [(Document.childrenKey, d)] kept none = .ok (kept.reverse, cs) := by
  rw [Document.nodeEntries, if_pos rfl, h]
  rfl

lemma node_table {es kept : List (String × Document)} {m : PropertyMap} {cs : List SnapshotNode}
    (hm : Document.properties ∅ kept = .ok m)
    (h : Document.nodeEntries es [] none = .ok (kept, cs)) :
    (Document.table es true).node = .ok (node m cs) := by
  rw [Document.node, h]
  change (Document.properties ∅ kept >>= _) = _
  rw [hm]
  rfl

mutual

/-- What is read where a node is written stands for the node. -/
lemma node_document : ∀ n : SnapshotNode, n.document.node = .ok n
  | node properties [] => by
    apply node_table properties.properties_documents
    rw [nodeEntries_documents, if_pos List.isEmpty_nil, Document.nodeEntries, List.reverse_reverse]
    rfl
  | node properties (c :: cs) => by
    have hcs := nodes_list (nodeList_documents (c :: cs))
    have hfull : ¬(c :: cs).isEmpty = true := Bool.false_ne_true
    apply node_table properties.properties_documents
    rw [nodeEntries_documents, if_neg hfull, nodeEntries_children hcs, List.reverse_reverse]

lemma nodeList_documents : ∀ cs : List SnapshotNode, Document.nodeList (documents cs) = .ok cs
  | [] => rfl
  | c :: cs => by
    rw [documents, Document.nodeList, node_document c, nodeList_documents cs]
    rfl

end

/-- A written node is read back as long as its containers are not nested too deep. -/
theorem parse_toJson_of_nesting_le [SnapshotFormat.Readers] {n : SnapshotNode}
    (h : n.nesting ≤ Json.nestingLimit) : parse .json n.toJson = .ok n := by
  have hread : Json.read n.toJson = (n.document, true) := by
    have hvalue := readsAs_toJson n h [] nofun
    rw [List.append_nil] at hvalue
    rw [Json.read, hvalue]
    rfl
  have hformat : SnapshotFormat.read .json n.toJson = (n.document, true) := hread
  rw [parse, hformat]
  dsimp only
  rw [n.node_document]
  rfl

end SnapshotNode

end ControlQuery

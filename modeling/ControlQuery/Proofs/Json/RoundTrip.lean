import ControlQuery.Proofs.Json.Nodes
import ControlQuery.Snapshot.Standard

/-!
# Snapshots in JSON round-trip

A snapshot that is read has its containers nested no deeper than they may be, so writing it and
reading it again gives it back. A snapshot with deeper ones can be written but not read back.
-/

namespace ControlQuery

/-! ## Depth -/

/-- At most so many containers stand inside one another, and a value stands everywhere. -/
inductive Document.Within : Nat → Document → Prop
  | null {k : Nat} : Within k null
  | bool {k : Nat} {b : Bool} : Within k (bool b)
  | integer {k : Nat} {n : Int} : Within k (integer n)
  | real {k : Nat} : Within k real
  | text {k : Nat} {s : String} : Within k (text s)
  | list {k : Nat} {items : List Document} {complete : Bool} (h : ∀ d ∈ items, Within k d) :
      Within (k + 1) (list items complete)
  | table {k : Nat} {entries : List (String × Document)} {complete : Bool}
      (h : ∀ e ∈ entries, Within k e.2) : Within (k + 1) (table entries complete)
  | unreadable {k : Nat} : Within k unreadable

namespace Json

variable {read : List Char → Reading} {P : Document → Prop}

lemma forall_items (h : ∀ cs, P (read cs).1) (fuel : Nat) (cs : List Char) :
    ∀ d ∈ (items read fuel cs).1, P d := by
  induction fuel generalizing cs with
  | zero => exact fun d hd => absurd hd List.not_mem_nil
  | succ fuel ih =>
    have hfirst := h cs
    rw [items]
    split
    · next d hread =>
      rw [hread] at hfirst
      exact List.forall_mem_singleton.mpr hfirst
    · next d rest hread =>
      rw [hread] at hfirst
      split
      · exact List.forall_mem_cons.mpr ⟨hfirst, ih _⟩
      · exact List.forall_mem_singleton.mpr hfirst
      · exact List.forall_mem_singleton.mpr hfirst

lemma forall_members (h : ∀ cs, P (read cs).1) (fuel : Nat) (cs : List Char) :
    ∀ e ∈ (members read fuel cs).1, P e.2 := by
  induction fuel generalizing cs with
  | zero => exact fun e he => absurd he List.not_mem_nil
  | succ fuel ih =>
    rw [members]
    split
    · exact fun e he => absurd he List.not_mem_nil
    · next name cs _ =>
      have hfirst := h cs
      split
      · next d hread =>
        rw [hread] at hfirst
        exact List.forall_mem_singleton.mpr hfirst
      · next d rest hread =>
        rw [hread] at hfirst
        split
        · exact List.forall_mem_cons.mpr ⟨hfirst, ih _⟩
        · exact List.forall_mem_singleton.mpr hfirst
        · exact List.forall_mem_singleton.mpr hfirst

lemma forall_bind {α β : Type} {x : Option α} {f : α → Option β} {P : β → Prop}
    (h : ∀ a, ∀ b ∈ f a, P b) : ∀ b ∈ x >>= f, P b := by
  intro b hb
  obtain ⟨a, -, ha⟩ := Option.bind_eq_some_iff.mp hb
  exact h a b ha

/-- A number is an integer or not, and nothing else. -/
lemma forall_number (hreal : P .real) (hint : ∀ n, P (.integer n)) (cs : List Char) :
    ∀ r ∈ number cs, P r.1 := by
  unfold number
  split
  next negative cs _ =>
    dsimp only
    split
    · exact fun r hr => absurd hr nofun
    · refine forall_bind fun fraction => forall_bind fun exponent => ?_
      split
      · split
        · exact fun r hr => absurd hr nofun
        · split
          · rintro r ⟨⟩
            dsimp only
            split
            · exact hreal
            · exact hint _
          · rintro r ⟨⟩
            exact hint _
      · generalize Digits.overflows _ _ = overflows
        cases overflows with
        | true => exact fun r hr => absurd hr nofun
        | false =>
          rintro r ⟨⟩
          exact hreal

lemma forall_scalar {x : Option (Document × List Char)} (h : ∀ r ∈ x, P r.1)
    (hbroken : P .unreadable) : P (scalar x).1 := by
  cases x with
  | none => exact hbroken
  | some r => exact h r rfl

/-- What is read has no containers nested deeper than they may be. -/
lemma value_within (k : Nat) (cs : List Char) : (value k cs).1.Within k := by
  induction k using Nat.strong_induction_on generalizing cs with
  | _ k ih =>
    rw [value]
    split
    · exact .null
    · exact .bool
    · exact .bool
    · next rest _ =>
      cases stringBody rest with
      | none => exact .unreadable
      | some read => exact .text
    · cases k with
      | zero => exact .unreadable
      | succ k =>
        dsimp only
        split
        · exact .list fun d hd => absurd hd List.not_mem_nil
        · exact .list (forall_items (ih k (Nat.lt_succ_self k)) _ _)
    · cases k with
      | zero => exact .unreadable
      | succ k =>
        dsimp only
        split
        · exact .table fun e he => absurd he List.not_mem_nil
        · exact .table (forall_members (ih k (Nat.lt_succ_self k)) _ _)
    · exact forall_scalar (forall_number .real (fun _ => .integer) _) .unreadable

end Json

namespace Document

lemma exists_of_bind {ε α β : Type} {x : Except ε α} {f : α → Except ε β} {b : β}
    (h : x >>= f = .ok b) : ∃ a, x = .ok a ∧ f a = .ok b := by
  cases x with
  | error fault => cases h
  | ok a => exact ⟨a, rfl, h⟩

variable {d : Document} {es kept kept' : List (String × Document)} {items : List Document}
  {children : Option (List SnapshotNode)} {cs : List SnapshotNode} {n : SnapshotNode} {k : Nat}

lemma exists_entries_of_node {complete : Bool} (h : (table es complete).node = .ok n) :
    ∃ kept, nodeEntries es [] none = .ok (kept, n.children) := by
  rw [node] at h
  obtain ⟨⟨kept, cs⟩, hentries, h⟩ := exists_of_bind h
  cases complete with
  | false => cases h
  | true =>
    obtain ⟨m, -, h⟩ := exists_of_bind (x := properties ∅ kept) h
    cases h
    exact ⟨kept, hentries⟩

lemma nodeList_of_nodes {complete : Bool} (h : (list items complete).nodes = .ok cs) :
    nodeList items = .ok cs := by
  rw [nodes] at h
  obtain ⟨ns, hitems, h⟩ := exists_of_bind h
  cases complete with
  | false => cases h
  | true =>
    cases h
    exact hitems

/-- The children of a node are given before its entries are looked at, or by one of them. -/
lemma children_of_nodeEntries (h : nodeEntries es kept children = .ok (kept', cs)) :
    cs = children.getD [] ∨ ∃ e ∈ es, e.2.nodes = .ok cs := by
  induction es generalizing kept children with
  | nil =>
    cases h
    exact .inl rfl
  | cons e es ih =>
    obtain ⟨key, d⟩ := e
    have hmore : ∀ {kept children}, nodeEntries es kept children = .ok (kept', cs) →
        cs = children.getD [] ∨ ∃ e ∈ (key, d) :: es, e.2.nodes = .ok cs := fun h =>
      (ih h).imp_right fun ⟨e, he, hcs⟩ => ⟨e, List.mem_cons_of_mem _ he, hcs⟩
    cases children with
    | some given =>
      rw [nodeEntries] at h
      split_ifs at h with hkey hcomplete
      exact hmore h
    | none =>
      rw [nodeEntries] at h
      split_ifs at h with hkey hcomplete
      · obtain ⟨ns, hns, h⟩ := exists_of_bind h
        rcases hmore h with rfl | hcs
        · exact .inr ⟨(key, d), List.mem_cons_self, hns⟩
        · exact .inr hcs
      · exact hmore h

lemma exists_item_of_nodeList (h : nodeList items = .ok cs) :
    ∀ c ∈ cs, ∃ d ∈ items, d.node = .ok c := by
  induction items generalizing cs with
  | nil =>
    cases h
    exact nofun
  | cons d ds ih =>
    rw [nodeList] at h
    obtain ⟨n, hn, h⟩ := exists_of_bind h
    obtain ⟨ns, hns, h⟩ := exists_of_bind h
    cases h
    rw [List.forall_mem_cons]
    refine ⟨⟨d, List.mem_cons_self, hn⟩, fun c hc => ?_⟩
    obtain ⟨d', hd', hc⟩ := ih hns c hc
    exact ⟨d', List.mem_cons_of_mem d hd', hc⟩

/-- A node has no more containers inside one another than what it is read from. -/
lemma Within.nesting_le (hd : d.Within k) (h : d.node = .ok n) : n.nesting ≤ k := by
  -- a child is two containers further in, below the table and the list, so the induction is strong
  induction k using Nat.strong_induction_on generalizing d n with
  | _ k ih =>
    cases hd with
    | @table k entries complete hentries =>
      obtain ⟨kept, hkept⟩ := exists_entries_of_node h
      rcases children_of_nodeEntries hkept with hnone | ⟨e, he, hcs⟩
      · rw [SnapshotNode.nesting_of_no_children hnone]
        exact Nat.le_add_left 1 k
      · have he := hentries e he
        generalize e.2 = d at he hcs
        cases he with
        | @list k items complete hitems =>
          apply SnapshotNode.nesting_le_of_children
          intro c hc
          obtain ⟨d, hd, hc⟩ := exists_item_of_nodeList (nodeList_of_nodes hcs) c hc
          exact ih k (by omega) (hitems d hd) hc
        | _ => cases hcs
    | _ => cases h

end Document

namespace SnapshotNode

section Readers

variable [SnapshotFormat.Readers]

/-- Whatever snapshot is read, its containers are not nested too deep. -/
lemma nesting_le_of_parse {text : String} {n : SnapshotNode} (h : parse .json text = .ok n) :
    n.nesting ≤ Json.nestingLimit := by
  have hread : (Json.read text).1 = (Json.value Json.nestingLimit text.toList).1 := by
    rw [Json.read]
    split
    · next heq => rw [heq]
    · next heq => rw [heq]
  have hnode : (Json.read text).1.node = .ok n := by
    rw [parse] at h
    dsimp only [SnapshotFormat.read] at h
    split at h
    · cases h
    · next root hroot =>
      split_ifs at h
      cases h
      exact hroot
  rw [hread] at hnode
  exact (Json.value_within _ _).nesting_le hnode

/-- A snapshot that is written is read back, just as long as its containers are not nested deeper
than they may be. Whatever text is read as a snapshot, writing the snapshot and reading it again
gives the same snapshot, which is written the same way and has the same tree. -/
theorem parse_toJson :
    (∀ n : SnapshotNode, parse .json n.toJson = .ok n ↔ n.nesting ≤ Json.nestingLimit) ∧
      ∀ text n, parse .json text = .ok n →
        ∃ m, parse .json n.toJson = .ok m ∧ m = n ∧ m.toJson = n.toJson ∧
          let t := SnapshotTree.ofNode n
          let u := SnapshotTree.ofNode m
          u.size = t.size ∧ ∀ i, u.provider.parent i = t.provider.parent i ∧
            u.provider.children i = t.provider.children i ∧ u.properties? i = t.properties? i := by
  refine ⟨fun n => ⟨nesting_le_of_parse, parse_toJson_of_nesting_le⟩, fun text n h => ?_⟩
  have hagain := parse_toJson_of_nesting_le (nesting_le_of_parse h)
  exact ⟨n, hagain, rfl, rfl, rfl, fun i => ⟨rfl, rfl, rfl⟩⟩

end Readers

/-- Blanks, an escape, the order of the keys and a value that another one replaces are not kept. -/
theorem parse_toJson_reordered :
    let text := "\x7b \"Name\": \"b\", \"children\": [\x7b\x7d], " ++
      "\"AutomationId\": \"7\", \"Name\": \"\\u0061\" \x7d"
    let properties := (PropertyMap.empty.insert .name (.str "a")).insert .automationId (.str "7")
    let n : SnapshotNode := .node properties [.node ∅ []]
    parse .json text = .ok n ∧ n.nesting = 3 ∧ n.nesting ≤ Json.nestingLimit ∧
      n.toJson = "\x7b\"AutomationId\":\"7\",\"Name\":\"a\",\"children\":[\x7b\x7d]\x7d" ∧
      parse .json n.toJson = .ok n := by
  intro text properties n
  have hread : parse .json text = .ok n := by decide +kernel
  obtain ⟨m, hm, rfl, -⟩ := parse_toJson.2 text n hread
  have hdepth : n.nesting ≤ Json.nestingLimit := (parse_toJson.1 n).mp hm
  exact ⟨hread, by decide +kernel, hdepth, by decide +kernel, hm⟩

end SnapshotNode

end ControlQuery

import ControlQuery.Proofs.Json.Nodes
import ControlQuery.Proofs.Report.Colours
import ControlQuery.Proofs.Report.Layout
import ControlQuery.Snapshot.Standard

/-!
# Reported properties are read back

The properties of a control are reported as a JSON object from which they can be read back, each
with its value. Spreading the object over lines changes no value, and without its colours it is what
is reported without colours.
-/

namespace ControlQuery

namespace PropertyMap

/-- The order of the alphabet only moves properties. -/
lemma exists_alphabetical (m : PropertyMap) :
    ∃ es : List (PropertyId × PropertyValue), es.Perm m.entries ∧
      m.alphabetical = es.map fun e => (e.1.text, e.2) := by
  let before (a b : PropertyId × PropertyValue) : Bool := decide (a.1.text ≤ b.1.text)
  refine ⟨m.entries.mergeSort before, List.mergeSort_perm _ before, ?_⟩
  rw [alphabetical, List.map_mergeSort]
  exact fun a _ b _ => rfl

end PropertyMap

namespace JsonValue

lemma document_json (v : PropertyValue) : v.json.document = v.document := by
  cases v <;> rw [PropertyValue.json, document] <;> rfl

lemma memberDocuments_map (es : List (PropertyId × PropertyValue)) :
    memberDocuments (es.map fun e => (e.1.text, e.2.json)) =
      es.map fun e => (e.1.text, e.2.document) := by
  induction es with
  | nil => rfl
  | cons e es ih => rw [List.map_cons, memberDocuments, document_json, ih, List.map_cons]

/-- Property values are no containers. -/
lemma nestingOfMembers_map (es : List (PropertyId × PropertyValue)) :
    nestingOfMembers (es.map fun e => (e.1.text, e.2.json)) = 0 := by
  induction es with
  | nil => rfl
  | cons e es ih =>
    have hscalar : e.2.json.nesting = 0 := by cases e.2 <;> rfl
    rw [List.map_cons, nestingOfMembers, hscalar, ih]
    rfl

end JsonValue

namespace Report

/-- Properties are written in the order of the alphabet. -/
lemma exists_properties_eq (m : PropertyMap) :
    ∃ es : List (PropertyId × PropertyValue), es.Perm m.entries ∧
      ∀ pretty, properties pretty (some m) =
        valuePieces pretty 0 (.object (es.map fun e => (e.1.text, e.2.json))) := by
  obtain ⟨es, hperm, halphabetical⟩ := m.exists_alphabetical
  refine ⟨es, hperm, fun pretty => ?_⟩
  rw [properties, halphabetical, List.map_map]
  rfl

/-- Reported properties are read as a table of them. -/
lemma read_object (pretty : Bool) (es : List (PropertyId × PropertyValue)) :
    Json.read (render false
        (valuePieces pretty 0 (.object (es.map fun e => (e.1.text, e.2.json))))) =
      (.table (es.map fun e => (e.1.text, e.2.document)) true, true) := by
  have hnesting : (JsonValue.object (es.map fun e => (e.1.text, e.2.json))).nesting ≤
      Json.nestingLimit := by
    rw [JsonValue.nesting, JsonValue.nestingOfMembers_map]
    decide
  have hvalue := readsAs_value pretty _ 0 Json.nestingLimit hnesting [] nofun
  rw [List.append_nil, JsonValue.document, JsonValue.memberDocuments_map] at hvalue
  rw [Json.read, hvalue]
  rfl

/-- A table of properties stands for a control that has them, whatever their order. -/
lemma node_table_of_perm {es : List (PropertyId × PropertyValue)} {m : PropertyMap}
    (h : es.Perm m.entries) :
    (Document.table (es.map fun e => (e.1.text, e.2.document)) true).node = .ok (.node m []) := by
  have hentries := SnapshotNode.nodeEntries_map es [] []
  rw [List.append_nil, List.append_nil, Document.nodeEntries, List.reverse_reverse] at hentries
  exact SnapshotNode.node_table (PropertyMap.properties_of_perm h) hentries

/-- Each property is named once. -/
lemma nodup_names {es : List (PropertyId × PropertyValue)} {m : PropertyMap}
    (h : es.Perm m.entries) : ((es.map fun e => (e.1.text, e.2.document)).map Prod.fst).Nodup := by
  have hne := (h.pairwise_iff Ne.symm).mpr m.pairwise_ne
  rw [List.map_map, List.Nodup, List.pairwise_map]
  exact hne.imp fun h heq => h (PropertyId.text_injective heq)

/-- What is reported of a control that is not stale is a JSON object, perhaps behind the way to the
control. Without colours, the object is read as the names and values of the control's properties,
each name once, and as a snapshot of the control alone. Colours only add control sequences to it.
All of this holds whether or not the object is spread over lines. -/
theorem properties_read_back [SnapshotFormat.Readers] (t : SnapshotTree) (n : NodeId)
    (h : t.provider.isValid n = true) :
    ∃ m, t.properties? n = some m ∧ ∀ pretty : Bool,
      let json (inColour : Bool) := render inColour (properties pretty (t.properties? n))
      (∀ path inColour : Bool, render inColour (t.report ⟨pretty, path⟩ n) =
        (if path then render inColour [⟨.path, t.ancestryPath n⟩] ++ ":\n" else "") ++
          json inColour ++ "\n") ∧
      (∃ es, Json.read (json false) = (.table es true, true) ∧ es.Perm m.documents ∧
        (es.map Prod.fst).Nodup) ∧
      SnapshotNode.parse .json (json false) = .ok (.node m []) ∧
      withoutColours (json true).toList = (json false).toList := by
  obtain ⟨entry, hentry⟩ : ∃ entry, t.entry n = .ok entry := by
    cases hentry : t.entry n with
    | error fault =>
      change (t.entry n).isOk = true at h
      rw [hentry] at h
      cases h
    | ok entry => exact ⟨entry, rfl⟩
  have hproperties : t.properties? n = some entry.properties := by
    rw [SnapshotTree.properties?, hentry]
    rfl
  obtain ⟨es, hperm, hobject⟩ := exists_properties_eq entry.properties
  refine ⟨entry.properties, hproperties, fun pretty => ?_⟩
  rw [hproperties]
  intro json
  have hread : Json.read (json false) =
      (.table (es.map fun e => (e.1.text, e.2.document)) true, true) := by
    rw [← read_object pretty es, ← hobject]
  refine ⟨fun path inColour => ?_, ⟨_, hread, hperm.map _, ?_⟩, ?_, ?_⟩
  · rw [SnapshotTree.report, hproperties, render_append, render_append, render_plain]
    cases path with
    | false => rfl
    | true =>
      have hpath : render inColour ([⟨.path, t.ancestryPath n⟩] ++ [.plain ":\n"]) =
          render inColour [⟨.path, t.ancestryPath n⟩] ++ ":\n" := by
        rw [render_append, render_plain]
      exact congrArg (· ++ json inColour ++ "\n") hpath
  · exact nodup_names hperm
  · have hread : SnapshotFormat.read .json (json false) = _ := hread
    rw [SnapshotNode.parse, hread]
    dsimp only
    rw [node_table_of_perm hperm]
    rfl
  · have hvalue := uncontrolled_value pretty 0 (.object (es.map fun e => (e.1.text, e.2.json)))
    rw [← hobject] at hvalue
    exact hvalue.withoutColours_render

/-- A name that would reset colours, and the least number. -/
theorem properties_read_back_reset :
    let m := (PropertyMap.empty.insert (.basic .processId) (.int Int64.minValue)).insert .name
      (.str "\x1b[0m\"")
    let t := SnapshotTree.ofNode (.node m [])
    let json (pretty inColour : Bool) := render inColour (properties pretty (t.properties? 0))
    t.provider.isValid 0 = true ∧
      json true false = "\x7b\n  \"Name\": \"\\u001b[0m\\\"\",\n" ++
        "  \"ProcessId\": -9223372036854775808\n\x7d" ∧
      json false true = "\x7b\x1b[36m\"Name\"\x1b[0m:\x1b[32m\"\\u001b[0m\\\"\"\x1b[0m," ++
        "\x1b[36m\"ProcessId\"\x1b[0m:\x1b[33m-9223372036854775808\x1b[0m\x7d" ∧
      ∀ pretty, SnapshotNode.parse .json (json pretty false) = .ok (.node m []) ∧
        withoutColours (json pretty true).toList = (json pretty false).toList := by
  intro m t json
  have hvalid : t.provider.isValid 0 = true := rfl
  obtain ⟨m', hproperties, hread⟩ := properties_read_back t 0 hvalid
  obtain rfl : m = m' := by cases hproperties; rfl
  let es : List (String × PropertyValue) :=
    [("Name", .str "\x1b[0m\""), ("ProcessId", .int Int64.minValue)]
  have hsorted : m.alphabetical = es := by
    have hmerge : es.mergeSort (fun a b => decide (a.1 ≤ b.1)) = es :=
      List.mergeSort_of_pairwise (by decide +kernel)
    exact hmerge
  have hjson : ∀ pretty, properties pretty (t.properties? 0) = valuePieces pretty 0
      (.object [("Name", .text "\x1b[0m\""), ("ProcessId", .integer Int64.minValue)]) := by
    intro pretty
    rw [hproperties, properties, hsorted]
    rfl
  refine ⟨hvalid, ?_, ?_, fun pretty => (hread pretty).2.2⟩
  · change render false (properties true _) = _
    rw [hjson]
    decide +kernel
  · change render true (properties false _) = _
    rw [hjson]
    decide +kernel

end Report

end ControlQuery

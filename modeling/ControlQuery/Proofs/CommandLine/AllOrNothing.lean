import ControlQuery.CommandLine.Standard
import ControlQuery.Proofs.CommandLine.Sessions
import ControlQuery.Proofs.Search.Eager
import ControlQuery.Regex.Standard
import ControlQuery.Snapshot.Standard

/-!
# All of the output or none

A search goes through stages that can fail: the query is read, the snapshot is found and read, and
the query is run to its end. Nothing is printed before all of them have succeeded. What is printed
then is put together from blocks, one for each match, in the order in which the matches are found.
The search for the first match alone and the search for all matches go different ways through the
program, and agree because both read off the same conversation.
-/

namespace ControlQuery

namespace CommandLine

/-- The texts that a program finds on its standard input and in the files around it. -/
def contents (input : String) (files : FileTree) : Source → Option String
  | .standardInput => some input
  | .file path => files.read? path

lemma mapError_eq_ok_iff {ε ε' α : Type} {f : ε → ε'} {x : Except ε α} {a : α} :
    x.mapError f = .ok a ↔ x = .ok a := by
  cases x <;> simp [Except.mapError]

namespace Session

/-- The search fails and has written nothing. -/
def Fails (s : Session Unit) : Prop :=
  s.code = 1 ∧ s.output = ""

/-- The search succeeds and has written just the text. -/
def Prints (s : Session Unit) (text : String) : Prop :=
  s.code = 0 ∧ s.output = text

end Session

section Parameters

variable [Regex.Engine]

namespace SearchOptions

variable {o : SearchOptions} {content? : Source → Option String} {inColour : Bool} {q : Query}
  {root : SnapshotNode}

lemma parsedQuery_eq_ok_iff :
    o.parsedQuery = .ok q ↔ ∃ text, o.query = some text ∧ CPath.parse text = .ok q := by
  rw [parsedQuery]
  cases o.query with
  | none => simp
  | some text => simp [mapError_eq_ok_iff]

/-! ## From the matches to the report -/

/-- The search for all matches. -/
def search (o : SearchOptions) (t : SnapshotTree) (q : Query) : Search NodeId :=
  q.findAll { reach := t.size, maxNesting := o.maxNesting } t.provider SnapshotTree.root

/-- The matches that are shown out of all matches. -/
def shown (o : SearchOptions) (ns : List NodeId) : List NodeId :=
  if o.first then ns.take 1 else ns

lemma found_of_not_le {t : SnapshotTree} (h : ¬q.depth ≤ o.maxNesting.toNat) :
    ∃ f, o.found t q = .error f := by
  have hopen := Query.findAll_of_not_le (s := { reach := t.size, maxNesting := o.maxNesting })
    h t.provider SnapshotTree.root
  rw [found]
  cases o.first with
  | true => exact ⟨_, by simp only [Query.findRequired, Query.findFirst, hopen]; rfl⟩
  | false => exact ⟨_, by simp only [hopen]; rfl⟩

/-- The first match is the first of all matches, if there are any. -/
lemma found_of_yields {t : SnapshotTree} {ns : List NodeId}
    (h : (o.search t q).Yields t.provider ns) :
    o.found t q =
      if o.first ∧ ns = [] then .error (.noFirst (.notFound q.render)) else .ok (o.shown ns) := by
  have hfirst := Query.findFirst_of_yields h
  have hall : (q.findAll { reach := t.size, maxNesting := o.maxNesting } t.provider
      SnapshotTree.root).drain t.provider = (ns, none) := h
  rw [found, shown]
  cases o.first with
  | true => cases ns <;> simp [Query.findRequired, hfirst]
  | false => simp [hall]

/-! ## What a search needs -/

variable [SnapshotFormat.Readers]

/-- What a search for a query in a snapshot needs before it can be run. -/
structure Ready (o : SearchOptions) (content? : Source → Option String) (q : Query)
    (root : SnapshotNode) : Prop where
  query : ∃ text, o.query = some text ∧ CPath.parse text = .ok q
  snapshot : ∃ format text, o.knownFormat? = some format ∧ content? o.place = some text ∧
    SnapshotNode.parse format text = .ok root
  nesting : q.depth ≤ o.maxNesting.toNat

omit [Regex.Engine] in
lemma snapshot_eq_ok_iff :
    o.snapshot content? = .ok root ↔
      ∃ format text, o.knownFormat? = some format ∧ content? o.place = some text ∧
        SnapshotNode.parse format text = .ok root := by
  rw [snapshot, knownFormat?, place]
  cases o.input with
  | none => cases content? .standardInput <;> simp [mapError_eq_ok_iff]
  | some path =>
    simp only [mapError_eq_ok_iff, SnapshotNode.load]
    cases o.format.or (SnapshotFormat.ofPath? path) with
    | none => simp
    | some format => cases content? (.file path) <;> simp

/-! ## Runs -/

lemma run_eq_ok_iff_of_explain {out : String} (h : o.explain = true) :
    o.run content? inColour = .ok out ↔
      ∃ text q, (o.query = some text ∧ CPath.parse text = .ok q) ∧ q.render ++ "\n" = out := by
  rw [run_of_explain h, exists_comm]
  simp only [exists_and_right, ← parsedQuery_eq_ok_iff]
  cases o.parsedQuery <;> simp [Except.map]

/-- Only a search that has all it needs prints anything. -/
lemma exists_ready_of_run {out : String} (hexplain : o.explain = false)
    (h : o.run content? inColour = .ok out) : ∃ q root, o.Ready content? q root := by
  cases hquery : o.parsedQuery with
  | error f =>
    rw [run, hquery] at h
    cases h
  | ok q =>
    cases hsnapshot : o.snapshot content? with
    | error f =>
      rw [run, hquery, hexplain, hsnapshot] at h
      cases h
    | ok root =>
      rw [run_of_snapshot hquery hexplain hsnapshot] at h
      refine ⟨q, root, parsedQuery_eq_ok_iff.mp hquery, snapshot_eq_ok_iff.mp hsnapshot, ?_⟩
      by_contra hdepth
      obtain ⟨f, hf⟩ := found_of_not_le (t := .ofNode root) hdepth
      rw [hf] at h
      cases h

/-- A search that has all it needs fails just if it is for the first match and there is none. -/
lemma run_of_ready (hexplain : o.explain = false) (h : o.Ready content? q root)
    {ns : List NodeId}
    (hns : (o.search (.ofNode root) q).Yields (SnapshotTree.ofNode root).provider ns) :
    o.run content? inColour =
      if o.first ∧ ns = [] then .error (.noFirst (.notFound q.render))
      else .ok (Report.render inColour (o.report (.ofNode root) (o.shown ns))) := by
  rw [run_of_snapshot (parsedQuery_eq_ok_iff.mpr h.query) hexplain
    (snapshot_eq_ok_iff.mpr h.snapshot), found_of_yields hns]
  split_ifs <;> rfl

lemma fails_session (h : ∀ text, o.run content? inColour ≠ .ok text) :
    (o.session content? inColour).Fails := by
  rw [Session.Fails, Session.code, Session.output, does_session.result]
  cases hrun : o.run content? inColour with
  | error f => exact ⟨rfl, rfl⟩
  | ok text => exact absurd hrun (h text)

lemma prints_session {text : String} (h : o.run content? inColour = .ok text) :
    (o.session content? inColour).Prints text := by
  rw [Session.Prints, Session.code, Session.output, does_session.result, h]
  exact ⟨rfl, rfl⟩

end SearchOptions

open SearchOptions

/-- A search prints all of its output or none. It fails and prints nothing if there is no query that
can be read, if the snapshot cannot be found, told from its path or read, or if sub-queries nest too
deep, and also if the first match is asked for and there is none. In all other cases it succeeds and
prints the number of matches and a block for each match, in the order in which the search finds
them, as far as the options want these. The first match is the first one of the same search. To
explain a query nothing is looked at, and only the canonical text is printed. -/
theorem run_all_or_nothing [SnapshotFormat.Readers] [Interface] (arguments : List String)
    (o : SearchOptions) (hargs : Interface.read arguments = .ok (.search o)) (inColour : Bool) :
    (∀ input files,
      let session := o.session (contents input files) inColour
      (run arguments input files inColour).code = session.code ∧
        (run arguments input files inColour).output = session.output) ∧
    ∀ content? : Source → Option String,
      let session := o.session content? inColour
      (o.explain = false →
        ((¬∃ q root, o.Ready content? q root) → session.Fails) ∧
        ∀ q root, o.Ready content? q root →
          let t := SnapshotTree.ofNode root
          let s : Setting := { reach := t.size, maxNesting := o.maxNesting }
          let found := (q.findAll s t.provider SnapshotTree.root).drain t.provider
          let shown := if o.first then found.1.take 1 else found.1
          found.2 = none ∧
            (o.first = true ∧ found.1 = [] → session.Fails) ∧
            (¬(o.first = true ∧ found.1 = []) → session.Prints
              ((if o.count then s!"Found matches: {shown.length}\n" else "") ++
                if o.noDisplay then ""
                else String.join (shown.map fun n =>
                  Report.render inColour
                    (t.report { pretty := !o.compact, path := !o.noPath } n))))) ∧
      (o.explain = true →
        session.result.2.looked = [] ∧
        ((¬∃ text q, o.query = some text ∧ CPath.parse text = .ok q) → session.Fails) ∧
        ∀ text q, o.query = some text → CPath.parse text = .ok q →
          session.Prints (q.render ++ "\n")) := by
  refine ⟨fun input files => ?_, fun content? => ⟨fun hexplain => ⟨fun hready => ?_, ?_⟩,
    fun hexplain => ⟨?_, fun hquery => ?_, ?_⟩⟩⟩
  · intro session
    have hrun : run arguments input files inColour =
        .ofExcept (o.run (contents input files) inColour) := by
      rw [run, hargs]
      rfl
    rw [hrun, Session.code, Session.output, does_session.result]
    cases o.run (contents input files) inColour <;> exact ⟨rfl, rfl⟩
  · exact fails_session fun out hrun => hready (exists_ready_of_run hexplain hrun)
  · intro q root hready t s found shown
    have hyields : (o.search t q).Yields t.provider found.1 := by
      have h := q.yields_findAll (.refl t s) SnapshotTree.root hready.nesting
      have hfound : found = (q.results t s SnapshotTree.root, none) := h
      rw [hfound]
      exact h
    have hrun : o.run content? inColour = _ := run_of_ready hexplain hready hyields
    refine ⟨congrArg Prod.snd hyields, fun hnone => ?_, fun hsome => ?_⟩
    · rw [if_pos hnone] at hrun
      refine fails_session fun out hout => ?_
      rw [hrun] at hout
      cases hout
    · rw [if_neg hsome, render_report] at hrun
      exact prints_session hrun
  · rw [does_session.result, source?, hexplain]
    cases o.parsedQuery <;> rfl
  · refine fails_session fun out hrun => ?_
    obtain ⟨text, q, hparse, -⟩ := (run_eq_ok_iff_of_explain hexplain).mp hrun
    exact hquery ⟨text, q, hparse⟩
  · intro text q htext hparse
    exact prints_session ((run_eq_ok_iff_of_explain hexplain).mpr ⟨text, q, ⟨htext, hparse⟩, rfl⟩)

end Parameters

/-- The first of two buttons in a snapshot, and in what is not the whole of one. -/
theorem run_all_or_nothing_first_button :
    let text := "\x7b\"ControlType\":\"Window\",\"children\":[" ++
      "\x7b\"ControlType\":\"Button\"\x7d,\x7b\"ControlType\":\"Button\"\x7d]\x7d"
    let arguments := ["--first", "--count", "--compact", "//Button"]
    let o : SearchOptions :=
      { query := some "//Button", first := true, count := true, compact := true }
    (Interface.read arguments = .ok (.search o) ∧ o.explain = false ∧
        (∃ q root, o.Ready (contents text {}) q root) ∧
        ¬∃ q root, o.Ready (contents "\x7b" {}) q root) ∧
      ((run arguments text {} false).code = 0 ∧ (run arguments text {} false).output =
        "Found matches: 1\nWindow > Button:\n\x7b\"ControlType\":\"Button\"\x7d\n") ∧
      (run arguments "\x7b" {} false).code = 1 ∧ (run arguments "\x7b" {} false).output = "" := by
  intro text arguments o
  let control (type : String) : PropertyMap := PropertyMap.empty.insert .controlType (.str type)
  let root : SnapshotNode :=
    .node (control "Window") [.node (control "Button") [], .node (control "Button") []]
  let q : Query :=
    { path := []
      element :=
        { condition := some (.property (.equals .controlType (.str "Button")))
          scope := [.descendants none false] } }
  have hargs : Interface.read arguments = .ok (.search o) := rfl
  have hready : o.Ready (contents text {}) q root := by
    refine ⟨⟨"//Button", rfl, ?_⟩, ⟨.json, text, rfl, rfl, ?_⟩, ?_⟩
    all_goals decide +kernel
  have hcut : ¬∃ q root, o.Ready (contents "\x7b" {}) q root := by
    rintro ⟨q, root, hready⟩
    obtain ⟨format, text, hformat, htext, hparse⟩ := hready.snapshot
    cases hformat
    cases htext
    have hfail : SnapshotNode.parse .json "\x7b" = .error (.invalid .json .malformed) := by
      decide +kernel
    cases hfail.symm.trans hparse
  obtain ⟨hrun, hall⟩ := run_all_or_nothing arguments o hargs false
  rw [(hrun text {}).1, (hrun text {}).2, (hrun "\x7b" {}).1, (hrun "\x7b" {}).2]
  refine ⟨⟨hargs, rfl, ⟨q, root, hready⟩, hcut⟩, ?_, ((hall (contents "\x7b" {})).1 rfl).1 hcut⟩
  obtain ⟨-, -, hprints⟩ := ((hall (contents text {})).1 rfl).2 q root hready
  let t := SnapshotTree.ofNode root
  let style : Report.Style := { pretty := false, path := true }
  have hfound : ((q.findAll { reach := t.size, maxNesting := o.maxNesting } t.provider
      SnapshotTree.root).drain t.provider).1 = [1, 2] := by decide +kernel
  have hcount : s!"Found matches: {List.length [1]}\n" = "Found matches: 1\n" := by decide +kernel
  have hblock : Report.render false (t.report style 1) =
      "Window > Button:\n\x7b\"ControlType\":\"Button\"\x7d\n" := by
    have hproperties : t.properties? 1 = some (control "Button") := by decide +kernel
    have hsorted : (control "Button").alphabetical = [("ControlType", .str "Button")] :=
      List.mergeSort_singleton _
    rw [SnapshotTree.report, hproperties, Report.properties, hsorted]
    decide +kernel
  have hprinted := hprints (by rw [hfound]; decide)
  rw [hfound] at hprinted
  change Session.Prints _ (s!"Found matches: {List.length [1]}\n" ++
    String.join ([1].map fun n => Report.render false (t.report style n))) at hprinted
  rw [hcount, List.map_singleton, hblock] at hprinted
  exact hprinted

end CommandLine

end ControlQuery

import ControlQuery.CommandLine.Session
import ControlQuery.Proofs.Report.Pieces

/-!
# What the steps of a search do

The steps of a search add to a journal, whether or not they succeed, and do nothing else: they do not
depend on what has been done before. Put together step by step, this gives what a whole session does.
It comes to the same as the search that gives its output at the end: it looks where that one has to
look, and it has written something only if all of its steps have succeeded.
-/

namespace ControlQuery

namespace CommandLine

/-! ## Journals -/

namespace Journal

/-- One journal after the other. -/
instance : Append Journal where
  append j k := { looked := j.looked ++ k.looked, written := j.written ++ k.written }

lemma append_empty (j : Journal) : j ++ ({} : Journal) = j := by
  change Journal.mk (j.looked ++ []) (j.written ++ "") = j
  rw [List.append_nil, String.append_empty]

lemma empty_append (j : Journal) : ({} : Journal) ++ j = j := by
  change Journal.mk ([] ++ j.looked) ("" ++ j.written) = j
  rw [List.nil_append, String.empty_append]

lemma append_assoc (j k l : Journal) : j ++ k ++ l = j ++ (k ++ l) := by
  change Journal.mk (j.looked ++ k.looked ++ l.looked) (j.written ++ k.written ++ l.written) =
    Journal.mk (j.looked ++ (k.looked ++ l.looked)) (j.written ++ (k.written ++ l.written))
  rw [List.append_assoc, String.append_assoc]

end Journal

/-! ## Steps -/

namespace Session

variable {α β : Type} {j k : Journal} {f : Failure}

/-- What steps come to, and what they do: the same whatever has been done before. -/
def Does (s : Session α) (r : Except Failure α) (k : Journal) : Prop :=
  ∀ j : Journal, s.run.run j = (r, j ++ k)

/-- A step that only succeeds or fails leaves the journal as it is. -/
lemma does_lift {r r' : Except Failure α} (h : r = r') : (liftM r : Session α).Does r' {} := by
  intro j
  rw [h, Journal.append_empty]
  cases r' <;> rfl

lemma does_look (content? : Source → Option String) (source : Source) :
    (look content? source).Does (.ok (content? source)) { looked := [source] } := by
  intro j
  change (_, Journal.mk (j.looked ++ [source]) j.written) = (_, Journal.mk _ (j.written ++ ""))
  rw [String.append_empty]

lemma does_write (text : String) : (write text).Does (.ok ()) { written := text } := by
  intro j
  change (_, Journal.mk j.looked _) = (_, Journal.mk (j.looked ++ []) _)
  rw [List.append_nil]

namespace Does

variable {s : Session α} {g : α → Session β}

lemma bind {a : α} {r : Except Failure β} {l : Journal} (h : s.Does (.ok a) j)
    (hg : (g a).Does r k) (hl : j ++ k = l) : (s >>= g).Does r l := by
  intro i
  rw [ExceptT.run_bind, StateT.run_bind, h, ← hl, ← Journal.append_assoc]
  exact hg (i ++ j)

lemma bind_error (h : s.Does (.error f) j) : (s >>= g).Does (.error f) j := by
  intro i
  rw [ExceptT.run_bind, StateT.run_bind, h]
  rfl

lemma result {s : Session Unit} {r : Except Failure Unit} (h : s.Does r k) : s.result = (r, k) := by
  have hempty := h {}
  rw [Journal.empty_append] at hempty
  exact hempty

end Does

lemma does_forM_write (text : α → String) (as : List α) :
    (as.forM fun a => write (text a)).Does (.ok ()) { written := String.join (as.map text) } := by
  induction as with
  | nil => exact does_lift (r := .ok ()) rfl
  | cons a as ih =>
    rw [List.map_cons, String.join_cons]
    exact (does_write (text a)).bind ih rfl

end Session

namespace SearchOptions

open Session

variable {o : SearchOptions} {content? : Source → Option String} {inColour : Bool}

/-! ## The report -/

lemma render_report (t : SnapshotTree) (ns : List NodeId) :
    Report.render inColour (o.report t ns) =
      (if o.count then s!"Found matches: {ns.length}\n" else "") ++
        if o.noDisplay then ""
        else String.join (ns.map fun n => Report.render inColour (t.report o.style n)) := by
  have hnone : Report.render inColour [] = "" := rfl
  rw [report, Report.render_append, apply_ite (Report.render inColour),
    apply_ite (Report.render inColour), Report.render_plain, Report.render_flatMap, hnone]

/-- The report is written piece by piece as it is put together. -/
lemma does_print (t : SnapshotTree) (ns : List NodeId) :
    (o.print t ns inColour).Does (.ok ())
      { written := Report.render inColour (o.report t ns) } := by
  have hnothing : (pure () : Session Unit).Does (.ok ()) { written := "" } :=
    does_lift (r := .ok ()) rfl
  have hmatches : (unless o.noDisplay do
      ns.forM fun n => write (Report.render inColour (t.report o.style n)) : Session Unit).Does
        (.ok ())
        { written := if o.noDisplay then ""
            else String.join (ns.map fun n => Report.render inColour (t.report o.style n)) } := by
    cases o.noDisplay with
    | false => exact does_forM_write _ ns
    | true => exact hnothing
  rw [render_report, print]
  cases o.count with
  | false => exact Does.bind (g := fun _ => _) hnothing hmatches rfl
  | true => exact (does_write _).bind hmatches rfl

/-! ## The snapshot -/

/-- Where the snapshot is. -/
def place (o : SearchOptions) : Source :=
  match o.input with
  | none => .standardInput
  | some path => .file path

/-- The format of the snapshot, if it is known. -/
def knownFormat? (o : SearchOptions) : Option SnapshotFormat :=
  match o.input with
  | none => some (o.format.getD .json)
  | some path => o.format.or (SnapshotFormat.ofPath? path)

variable [SnapshotFormat.Readers]

lemma does_read (format : SnapshotFormat) (unreadable : Failure) (source : Source) :
    (do snapshotOfText format unreadable (← look content? source) : Session SnapshotNode).Does
      (snapshotOfText format unreadable (content? source)) { looked := [source] } :=
  (does_look content? source).bind (does_lift rfl) rfl

lemma snapshot_of_input_none (h : o.input = none) :
    o.snapshot content? =
      snapshotOfText (o.format.getD .json) .unreadableInput (content? .standardInput) := by
  rw [snapshot, h]
  cases content? .standardInput <;> rfl

lemma snapshot_of_input_some {path : String} {format : SnapshotFormat} (h : o.input = some path)
    (hformat : o.knownFormat? = some format) :
    o.snapshot content? =
      snapshotOfText format (.badSnapshot (.unreadableFile path)) (content? (.file path)) := by
  rw [knownFormat?, h] at hformat
  dsimp only at hformat
  rw [snapshot, h]
  dsimp only
  rw [SnapshotNode.load, hformat]
  cases content? (.file path) <;> rfl

lemma does_load :
    (o.load content?).Does (o.snapshot content?)
      { looked := (o.knownFormat?.map fun _ => o.place).toList } := by
  cases hinput : o.input with
  | none =>
    rw [snapshot_of_input_none hinput, load, knownFormat?, place, hinput]
    exact does_read _ _ _
  | some path =>
    cases hformat : o.knownFormat? with
    | none =>
      rw [load, snapshot, hinput]
      rw [knownFormat?, hinput] at hformat
      dsimp only at hformat ⊢
      rw [SnapshotNode.load, hformat]
      exact does_lift (r := .error _) rfl
    | some format =>
      rw [snapshot_of_input_some hinput hformat, load, place, hinput]
      rw [knownFormat?, hinput] at hformat
      dsimp only at hformat ⊢
      rw [hformat]
      exact does_read _ _ _

/-! ## The search -/

variable [Regex.Engine] {q : Query} {root : SnapshotNode}

omit [SnapshotFormat.Readers] in
/-- A search for matches looks at the snapshot if its format is known. -/
lemma source?_of_parsedQuery (hquery : o.parsedQuery = .ok q) (hexplain : o.explain = false) :
    o.source? = o.knownFormat?.map fun _ => o.place := by
  rw [source?, hquery, knownFormat?, place, hexplain]
  cases o.input with
  | none => rfl
  | some path =>
    dsimp only
    cases o.format.or (SnapshotFormat.ofPath? path) <;> rfl

/-- To explain a query its text is all that is needed. -/
lemma run_of_explain (h : o.explain = true) :
    o.run content? inColour = o.parsedQuery.map fun q => q.render ++ "\n" := by
  rw [run, h]
  cases o.parsedQuery <;> rfl

/-- A search with a query and a snapshot is left to the matches. -/
lemma run_of_snapshot (hquery : o.parsedQuery = .ok q) (hexplain : o.explain = false)
    (hsnapshot : o.snapshot content? = .ok root) :
    o.run content? inColour = (o.found (.ofNode root) q).map fun ns =>
      Report.render inColour (o.report (.ofNode root) ns) := by
  rw [run, hquery, hexplain, hsnapshot]
  change (do
    let ns ← o.found (.ofNode root) q
    return Report.render inColour (o.report (.ofNode root) ns)) = _
  cases o.found (.ofNode root) q <;> rfl

/-- A session looks where the search has to look, and has written something only if all of its steps
have succeeded. -/
theorem does_session :
    (o.session content? inColour).Does ((o.run content? inColour).map fun _ => ())
      { looked := o.source?.toList
        written := ((o.run content? inColour).toOption).getD "" } := by
  rw [session]
  -- one case for each step that may fail, in the order of the steps
  cases hparsed : o.parsedQuery with
  | error f =>
    rw [run, source?, hparsed]
    exact (does_lift rfl).bind_error
  | ok q =>
    cases hexplain : o.explain with
    | true =>
      rw [run_of_explain hexplain, source?, hparsed, hexplain]
      exact (does_lift rfl).bind (does_write _) (Journal.empty_append _)
    | false =>
      have hload : (o.load content?).Does (o.snapshot content?) _ := does_load
      rw [source?_of_parsedQuery hparsed hexplain]
      refine (does_lift rfl).bind ?_ (Journal.empty_append _)
      cases hsnapshot : o.snapshot content? with
      | error f =>
        rw [hsnapshot] at hload
        rw [run, hparsed, hexplain, hsnapshot]
        exact hload.bind_error
      | ok root =>
        rw [hsnapshot] at hload
        rw [run_of_snapshot hparsed hexplain hsnapshot]
        cases hfound : o.found (.ofNode root) q with
        | error f => exact hload.bind (does_lift hfound).bind_error (Journal.append_empty _)
        | ok ns =>
          refine hload.bind ((does_lift hfound).bind (does_print _ ns) (Journal.empty_append _)) ?_
          change Journal.mk (_ ++ []) ("" ++ _) = Journal.mk _ _
          rw [List.append_nil, String.empty_append]
          rfl

end SearchOptions

end CommandLine

end ControlQuery

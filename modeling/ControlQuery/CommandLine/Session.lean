import ControlQuery.CommandLine.Run

/-!
# A search step by step

A search looks at its input and writes its output while it goes on. What has been written stays
written if a later step fails, so where the steps that write stand among those that may fail decides
what a failed search leaves behind.
-/

namespace ControlQuery.CommandLine

/-- What a search has done to the world around it. -/
structure Journal where
  /-- Where it has looked for a snapshot. -/
  looked : List Source := []
  /-- What it has written to standard output. -/
  written : String := ""
deriving DecidableEq, Repr

/-- Steps of a search. Those before a failure are not undone. -/
abbrev Session := ExceptT Failure (StateM Journal)

namespace Session

/-- Looks for the text of a snapshot. -/
def look (content? : Source → Option String) (source : Source) : Session (Option String) := do
  modify fun j => { j with looked := j.looked ++ [source] }
  return content? source

/-- Writes a text. -/
def write (text : String) : Session Unit :=
  modify fun j => { j with written := j.written ++ text }

/-- What a session comes to, and what it has done. -/
def result (s : Session Unit) : Except Failure Unit × Journal :=
  s.run.run {}

/-- The exit code. -/
def code (s : Session Unit) : Nat :=
  match s.result.1 with
  | .ok () => 0
  | .error _ => 1

/-- What has been written in the end. -/
def output (s : Session Unit) : String :=
  s.result.2.written

end Session

variable [SnapshotFormat.Readers]

/-- The snapshot in a text, if the text could be read. -/
def snapshotOfText (format : SnapshotFormat) (unreadable : Failure) :
    Option String → Except Failure SnapshotNode
  | none => .error unreadable
  | some text => (SnapshotNode.parse format text).mapError .badSnapshot

variable [Regex.Engine]

namespace SearchOptions

open Session

/-- Loads the snapshot to search. -/
def load (o : SearchOptions) (content? : Source → Option String) : Session SnapshotNode := do
  match o.input with
  | some path =>
    match o.format.or (SnapshotFormat.ofPath? path) with
    | none => throw (.badSnapshot (.unknownFormat path))
    | some format =>
      snapshotOfText format (.badSnapshot (.unreadableFile path)) (← look content? (.file path))
  | none => snapshotOfText (o.format.getD .json) .unreadableInput (← look content? .standardInput)

/-- Writes the report of some matches, one after the other. -/
def print (o : SearchOptions) (t : SnapshotTree) (ns : List NodeId) (inColour : Bool) :
    Session Unit := do
  if o.count then
    write s!"Found matches: {ns.length}\n"
  unless o.noDisplay do
    ns.forM fun n => write (Report.render inColour (t.report o.style n))

/-- The search. -/
def session (o : SearchOptions) (content? : Source → Option String) (inColour : Bool) :
    Session Unit := do
  let q ← o.parsedQuery
  if o.explain then
    write (q.render ++ "\n")
  else
    let t := SnapshotTree.ofNode (← o.load content?)
    let ns ← o.found t q
    o.print t ns inColour

end SearchOptions

end ControlQuery.CommandLine

import ControlQuery.CPath.Parse
import ControlQuery.CommandLine.Options
import ControlQuery.Report.Match
import ControlQuery.Search.Engine

/-!
# Running the program

A search prints all of its output or none: it fails before anything is printed, or not at all. The
snapshot is read only once the query is known to make sense.
-/

namespace ControlQuery.CommandLine

/-- Where the text of a snapshot comes from. -/
inductive Source where
  | standardInput
  | file (path : String)
deriving DecidableEq, Repr

/-- Why the program fails. -/
inductive Failure where
  | noQuery
  | badQuery (error : CPath.ParseError)
  | badSnapshot (error : SnapshotError)
  | unreadableInput
  | failedSearch (error : SearchError)
  /-- A search for the first match failed or found none. -/
  | noFirst (error : SearchError)
  | failedManual (fault : Manual.Fault)
deriving DecidableEq, Repr

/-- The first line of a text. -/
def firstLine (text : String) : String :=
  String.ofList (text.toList.takeWhile (· != '\n'))

namespace Failure

/-- The failure in words. -/
def message : Failure → String
  | noQuery => "Query string required unless using subcommand"
  | badQuery _ => "Failed to parse query"
  | badSnapshot error => error.message
  | unreadableInput => "Failed to read STDIN"
  | failedSearch _ => "Search failed"
  | noFirst error => error.message
  | failedManual fault => fault.message

/-- What is behind the failure, on one line. -/
def cause? : Failure → Option String
  | badQuery error => some (firstLine error.message)
  | badSnapshot error => error.cause?
  | failedSearch error => some (firstLine error.message)
  | _ => none

end Failure

variable [Regex.Engine] [SnapshotFormat.Readers]

namespace SearchOptions

/-- The query to search for. -/
def parsedQuery (o : SearchOptions) : Except Failure Query :=
  match o.query with
  | none => .error .noQuery
  | some text => (CPath.parse text).mapError .badQuery

/-- The text that the search needs, if its answer depends on any. -/
def source? (o : SearchOptions) : Option Source :=
  match o.parsedQuery with
  | .error _ => none
  | .ok _ =>
    if o.explain then none
    else
      match o.input with
      | none => some .standardInput
      | some path =>
        if (o.format.or (SnapshotFormat.ofPath? path)).isSome then some (.file path) else none

/-- The snapshot to search. Standard input is JSON unless another format is given. -/
def snapshot (o : SearchOptions) (content? : Source → Option String) :
    Except Failure SnapshotNode :=
  match o.input with
  | some path =>
    (SnapshotNode.load (fun path => content? (.file path)) path o.format).mapError .badSnapshot
  | none =>
    match content? .standardInput with
    | none => .error .unreadableInput
    | some text => (SnapshotNode.parse (o.format.getD .json) text).mapError .badSnapshot

/-- The matches to report. -/
def found (o : SearchOptions) (t : SnapshotTree) (q : Query) : Except Failure (List NodeId) :=
  let setting : Setting := { reach := t.size, maxNesting := o.maxNesting }
  if o.first then
    match q.findRequired setting t.provider SnapshotTree.root with
    | .ok n => .ok [n]
    | .error e => .error (.noFirst e)
  else
    match (q.findAll setting t.provider SnapshotTree.root).drain t.provider with
    | (ns, none) => .ok ns
    | (_, some e) => .error (.failedSearch e)

/-- How the matches are reported. -/
def style (o : SearchOptions) : Report.Style where
  pretty := !o.compact
  path := !o.noPath

/-- The report of some matches. -/
def report (o : SearchOptions) (t : SnapshotTree) (ns : List NodeId) : List Report.Piece :=
  (if o.count then [.plain s!"Found matches: {ns.length}\n"] else []) ++
    if o.noDisplay then [] else ns.flatMap (t.report o.style)

/-- What the search prints. -/
def run (o : SearchOptions) (content? : Source → Option String) (inColour : Bool) :
    Except Failure String := do
  let q ← o.parsedQuery
  if o.explain then return q.render ++ "\n"
  let t := SnapshotTree.ofNode (← o.snapshot content?)
  return Report.render inColour (o.report t (← o.found t q))

end SearchOptions

/-- The commands of the program, each with what it is for. -/
def program : Command String :=
  .command "cpath" "Search a saved accessibility-tree snapshot with a CPath query"
    [.command "generate" "Generate shell completions and man page"
      [.command "shell" "Generate shell completions for the given shell to stdout" [],
        .command "man" ("Generate a man page for cpath to output directory if specified, " ++
          "else the current directory") []]]

/-- The version of the program. -/
def version : String := "0.3.0"

/-- How the program is called. -/
def usage : String :=
  "Usage: cpath [OPTIONS] [QUERY] [FILE]\n       cpath generate shell SHELL\n" ++
    "       cpath generate man [--output-dir DIR]\n"

/-- What the program prints about the manual pages that it has written. -/
def writtenPages (paths : List String) : String :=
  String.join (paths.map fun path => s!"Generated: {path}\n")

/-- How a run of the program ends. -/
inductive Outcome where
  /-- The arguments make no sense. -/
  | misused
  | printed (text : String)
  | failed (failure : Failure)
deriving DecidableEq, Repr

namespace Outcome

/-- The exit code. -/
def code : Outcome → Nat
  | misused => 2
  | printed _ => 0
  | failed _ => 1

/-- What is printed. -/
def output : Outcome → String
  | printed text => text
  | _ => ""

/-- The outcome of a run that prints a text or fails. -/
def ofExcept : Except Failure String → Outcome
  | .ok text => printed text
  | .error failure => failed failure

/-- The outcome of arguments whose reading ended early. -/
def ofHalt : Halt → Outcome
  | .usage => misused
  | .help => printed usage
  | .version => printed s!"cpath {CommandLine.version}\n"

end Outcome

/-- Whether a variable of the environment is set to something other than zero, if it is set. -/
def isOn? (setting : Option String) : Option Bool :=
  setting.map (· != "0")

/-- Whether output is in colour. The variables `CLICOLOR_FORCE`, `NO_COLOR` and `CLICOLOR` are looked
at in this order, and without the first two only a terminal gets colours. -/
def wantsColour (force refuse allow : Option String) (isTerminal : Bool) : Bool :=
  isOn? force == some true || (refuse.isNone && (isOn? allow).getD true && isTerminal)

/-- Runs the program in a directory that holds the given files. -/
def run [Interface] (arguments : List String) (input : String) (files : FileTree)
    (inColour : Bool) : Outcome :=
  match Interface.read arguments with
  | .error halt => .ofHalt halt
  | .ok (.completions shell) => .printed (Interface.completions shell)
  | .ok (.manual directory) =>
    match Manual.write Interface.manualPage files program directory with
    | .ok (paths, _) => .printed (writtenPages paths)
    | .error fault => .failed (.failedManual fault)
  | .ok (.search options) =>
    let content? : Source → Option String
      | .standardInput => some input
      | .file path => files.read? path
    .ofExcept (options.run content? inColour)

end ControlQuery.CommandLine

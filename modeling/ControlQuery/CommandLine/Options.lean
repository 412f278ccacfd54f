import ControlQuery.Manual.Pages
import ControlQuery.Query.Basic
import ControlQuery.Snapshot.Format

/-!
# What the program is asked to do

The arguments of the command line ask for a search with some options, or for what goes with the
program. How they are written is for the interface of the program to say, and so is what completes
them in a shell and how a manual page shows them.
-/

namespace ControlQuery.CommandLine

/-- The shells that completions can be written for. -/
inductive Shell where
  | bash
  | elvish
  | fish
  | powershell
  | zsh
deriving DecidableEq, Repr

/-- The shell of a given name. -/
def Shell.ofName? : String → Option Shell
  | "bash" => some bash
  | "elvish" => some elvish
  | "fish" => some fish
  | "powershell" => some powershell
  | "zsh" => some zsh
  | _ => none

/-- Why the reading of arguments ends early. -/
inductive Halt where
  /-- An argument makes no sense, or one is missing. -/
  | usage
  | help
  | version
deriving DecidableEq, Repr

/-- The options of a search. -/
structure SearchOptions where
  query : Option String := none
  /-- The file with the snapshot; standard input if there is none. -/
  input : Option String := none
  format : Option SnapshotFormat := none
  /-- Whether the first match is enough, and has to exist. -/
  first : Bool := false
  /-- Whether the number of matches is printed. -/
  count : Bool := false
  compact : Bool := false
  /-- Whether the matches themselves are left out. -/
  noDisplay : Bool := false
  noPath : Bool := false
  /-- Whether only the canonical text of the query is printed. -/
  explain : Bool := false
  maxNesting : Count := 32
deriving Repr

/-- What the program is asked to do. -/
inductive Invocation where
  | search (options : SearchOptions)
  | manual (outputDirectory : Option String)
  | completions (shell : Shell)
deriving Repr

/-- An interface of the program. -/
class Interface where
  /-- What arguments ask for. -/
  read : (arguments : List String) → Except Halt Invocation
  /-- A text with a slash in front is neither an option nor a subcommand but a query. -/
  read_explain (text : String) (h : text.toList.head? = some '/') :
    read ["--explain", text] = .ok (.search { query := some text, explain := true })
  /-- What completes arguments in a shell. -/
  completions : Shell → String
  /-- The manual page that shows a command. -/
  manualPage : Command String → String

end ControlQuery.CommandLine

import ControlQuery.Files.Tree

/-!
# Manual pages

Every command of a command line has a manual page of its own, named by the commands that lead to it
with dashes between them.
-/

namespace ControlQuery

/-- A command: its name, whatever else there is to say of it, and the commands below it. -/
inductive Command (δ : Type) where
  | command (name : String) (details : δ) (subcommands : List (Command δ))
deriving Inhabited

variable {δ : Type}

namespace Command

/-- The name of the command. -/
def name : Command δ → String
  | command name _ _ => name

/-- What else there is to say of the command. -/
def details : Command δ → δ
  | command _ details _ => details

/-- The same command under another name. -/
def renamed (name : String) : Command δ → Command δ
  | command _ details subcommands => command name details subcommands

mutual

/-- The pages of a command and of all below it, each command before those below it: the name of the
page and the command that it shows, which goes by that name there. -/
def pagesFrom (page : String) : Command δ → List (String × Command δ)
  | command _ details subcommands =>
    (page, command page details subcommands) :: pagesBelow page subcommands

/-- The pages of commands that a page leads to. -/
def pagesBelow (page : String) : List (Command δ) → List (String × Command δ)
  | [] => []
  | c :: cs => pagesFrom (page ++ "-" ++ c.name) c ++ pagesBelow page cs

end

/-- The pages of a command and of all below it. -/
def pages (c : Command δ) : List (String × Command δ) :=
  c.pagesFrom c.name

end Command

namespace Manual

/-- Why the pages cannot be written. -/
inductive Fault where
  | current
  | directory (path : String)
  | page (path : String)
deriving DecidableEq, Repr

/-- The failure in words. -/
def Fault.message : Fault → String
  | current => "Opening current directory"
  | directory path => s!"create {path}"
  | page path => s!"failed to create {path}"

/-- The path that leads on from a directory by another one, unless that one leads from the topmost
directory itself. -/
def join (directory path : String) : String :=
  if FileTree.isAbsolute path then path
  else if directory.isEmpty || directory.toList.getLast? == some '/' then directory ++ path
  else directory ++ "/" ++ path

/-- The path of a page in a directory. -/
def path (directory page : String) : String :=
  join directory (page ++ ".1")

/-- The paths of the pages of a command in a directory. -/
def paths (c : Command δ) (directory : String) : List String :=
  c.pages.map fun page => path directory page.1

/-- The directory for the pages: the one that is asked for, or else the one that the program runs
in. -/
def target (t : FileTree) : Option String → Except Fault String
  | some directory => .ok directory
  | none => if t.isDirectory t.here then .ok t.herePath else .error .current

/-- Writes a page, which shows a command as `render` says. -/
def writePage (render : Command δ → String) (directory : String) (t : FileTree)
    (page : String × Command δ) : Except Fault FileTree :=
  match t.write (path directory page.1) (render page.2) with
  | some t => .ok t
  | none => .error (.page (path directory page.1))

/-- Writes the pages of a command to a directory, which is made if it is not there. The paths of the
pages and the tree with the pages in it. -/
def write (render : Command δ → String) (t : FileTree) (c : Command δ)
    (outputDirectory : Option String) : Except Fault (List String × FileTree) := do
  let directory ← target t outputDirectory
  match t.makeDirectories directory with
  | none => .error (.directory directory)
  | some t => return (paths c directory, ← c.pages.foldlM (writePage render directory) t)

end Manual

end ControlQuery

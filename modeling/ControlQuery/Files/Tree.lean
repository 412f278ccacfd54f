/-!
# File trees

The files and directories that a program sees, as far as reading and writing files by their paths
can tell, and the directory that it runs in.
-/

namespace ControlQuery

/-- A place in a tree: the names that lead to it from the topmost directory. -/
abbrev Place := List String

/-- What stands at a place. -/
inductive FileEntry where
  | file (text : String)
  | directory
deriving DecidableEq, Repr

/-- The entries below the topmost directory, the first one for a place being the valid one. -/
structure FileTree where
  /-- The directory that the program runs in. -/
  here : Place := []
  entries : List (Place × FileEntry) := []

namespace FileTree

/-- The name of the directory above. -/
def aboveName : String := ".."

/-- The greatest number of bytes in a name. -/
def nameLimit : Nat := 255

/-- Whether something in a directory can have that name. -/
def isName (name : String) : Bool :=
  name.utf8ByteSize ≤ nameLimit && !name.toList.contains '\x00'

/-- What stands at a place, if anything does. The topmost directory is always there. -/
def get? (t : FileTree) (p : Place) : Option FileEntry :=
  if p.isEmpty then some .directory
  else (t.entries.find? fun e => e.1 == p).map Prod.snd

/-- Whether a place is a directory. -/
def isDirectory (t : FileTree) (p : Place) : Bool :=
  t.get? p == some .directory

/-- Puts an entry at a place. -/
def set (t : FileTree) (p : Place) (e : FileEntry) : FileTree :=
  { t with entries := (p, e) :: t.entries.filter fun old => old.1 != p }

/-- The place that a name leads to from another one, if that is a directory. The topmost directory
is its own directory above. -/
def enter (t : FileTree) (p : Place) (name : String) : Option Place :=
  if !t.isDirectory p then none
  else if name.isEmpty || name == "." then some p
  else if name == aboveName then some p.dropLast
  else if isName name then some (p ++ [name])
  else none

/-- The names that a path is made of, some of which may be empty. -/
def names (path : String) : List String :=
  (path.toList.splitOn '/').map String.ofList

/-- Whether a path leads from the topmost directory. -/
def isAbsolute (path : String) : Bool :=
  path.toList.head? == some '/'

/-- The place that a path leads from. -/
def start (t : FileTree) (path : String) : Place :=
  if isAbsolute path then [] else t.here

/-- The place that a path leads to, whether or not anything stands there. -/
def resolve (t : FileTree) (path : String) : Option Place :=
  if path.isEmpty then none else (names path).foldlM t.enter (t.start path)

/-- The path to the directory that the program runs in, from the topmost one. -/
def herePath (t : FileTree) : String :=
  "/" ++ "/".intercalate t.here

/-- The text of the file at a path. -/
def read? (t : FileTree) (path : String) : Option String := do
  match t.get? (← t.resolve path) with
  | some (.file text) => some text
  | _ => none

/-- Makes the directory that a name leads to, unless it is there, and goes to it. -/
def makeEnter (t : FileTree) (p : Place) (name : String) : Option (FileTree × Place) := do
  let p ← t.enter p name
  match t.get? p with
  | some .directory => return (t, p)
  | some (.file _) => none
  | none => return (t.set p .directory, p)

/-- Makes the directory at a path with all directories on the way. -/
def makeDirectories (t : FileTree) (path : String) : Option FileTree :=
  if path.isEmpty then some t
  else
    ((names path).foldlM (fun (t, p) name => makeEnter t p name) (t, t.start path)).map Prod.fst

/-- Writes a file, in place of the one that is there. -/
def write (t : FileTree) (path text : String) : Option FileTree := do
  let p ← t.resolve path
  match t.get? p with
  | some .directory => none
  | _ => return t.set p (.file text)

/-- The tree with files of given paths and texts in it and with the directories that they need. -/
def withFiles (t : FileTree) (files : List (String × String)) : FileTree :=
  files.foldl (fun t (path, text) =>
    let directory := "/".intercalate (names path).dropLast
    (((t.makeDirectories directory).getD t).write path text).getD t) t

end FileTree

end ControlQuery

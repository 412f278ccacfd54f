import ControlQuery.Snapshot.Document

/-!
# Tables of a TOML text

A TOML text is a list of sections, each with a header that says which table it fills, and with
values under keys of one or more names. A table may be made by its own header, by the header of a
table inside it, or by a key of several names, and how it was made decides what may still be added
to it: no table is filled twice, and only keys of several names go on with a table that such keys
made.
-/

namespace ControlQuery.Toml

/-- How a table was made. -/
inductive TableKind where
  /-- By a header of its own. -/
  | filled
  /-- By the header of a table inside it. -/
  | implied
  /-- By a key of several names. -/
  | dotted
deriving DecidableEq

/-- What stands under a name. -/
inductive Item where
  | value (d : Document)
  | table (kind : TableKind) (entries : List (String × Item))
  /-- The tables with one header in double brackets. -/
  | tables (elements : List (List (String × Item)))

/-- The entries of a table in the order in which they were made. -/
abbrev Entries := List (String × Item)

namespace Item

mutual

/-- The document that an item stands for. -/
def document : Item → Document
  | value d => d
  | table _ entries => .table (entriesDocument entries) true
  | tables elements => .list (elementDocuments elements) true

/-- The entries of a table as a document. -/
def entriesDocument : List (String × Item) → List (String × Document)
  | [] => []
  | (name, item) :: es => (name, item.document) :: entriesDocument es

/-- The tables of a list as documents. -/
def elementDocuments : List (List (String × Item)) → List Document
  | [] => []
  | es :: ess => .table (entriesDocument es) true :: elementDocuments ess

end

end Item

namespace Entries

/-- The item under a name. -/
def get? (es : Entries) (name : String) : Option Item :=
  (es.find? fun e => e.1 == name).map Prod.snd

/-- Changes the item under a name in its place, or adds one at the end. -/
def update (name : String) (f : Option Item → Option Item) : Entries → Option Entries
  | [] => do return [(name, ← f none)]
  | (key, item) :: es =>
    if key = name then do return (key, ← f (some item)) :: es
    else do return (key, item) :: (← update name f es)

/-- Changes the table at the end of a path of names, and makes the tables on the way that are not
there yet. Of a list of tables the last one is meant. -/
def descend (made : TableKind) (f : TableKind → Entries → Option Entries) :
    List String → TableKind → Entries → Option Entries
  | [], kind, es => f kind es
  | name :: path, _, es => es.update name fun
    | none => do return .table made (← descend made f path made [])
    | some (.value _) => none
    | some (.table kind inner) =>
      if made = .dotted ∧ kind = .filled then none
      else do return .table kind (← descend made f path kind inner)
    | some (.tables elements) =>
      match elements.getLast? with
      | none => none
      | some last => do
        return .tables (elements.dropLast ++ [← descend made f path .filled last])

/-- Adds a value under a key of one or more names. -/
def insert (es : Entries) (key : List String) (d : Document) : Option Entries :=
  match key.getLast? with
  | none => none
  | some name =>
    let path := key.dropLast
    let add (kind : TableKind) (inner : Entries) : Option Entries :=
      if (kind == .dotted) == path.isEmpty then none
      else inner.update name fun
        | none => some (.value d)
        | some _ => none
    es.descend .dotted add path .filled

/-- Adds values under their keys. -/
def insertAll (es : Entries) (values : List (List String × Document)) : Option Entries :=
  values.foldlM (fun es (key, d) => es.insert key d) es

/-- The entries as a table of a document. -/
def document (es : Entries) : Document :=
  .table (Item.entriesDocument es) true

end Entries

/-- The header of a section. -/
structure Header where
  path : List String
  /-- Whether the header stands in double brackets and starts a new table each time. -/
  isElement : Bool

/-- A header and the values behind it. -/
structure Section where
  header : Header
  values : List (List String × Document)

/-- Fills the table of a section. A table that was only implied so far moves to the end. -/
def Section.fill (s : Section) (es : Entries) : Option Entries :=
  match s.header.path.getLast? with
  | none => none
  | some name =>
    let place (_ : TableKind) (parent : Entries) : Option Entries :=
      if s.header.isElement then do
        let filled ← Entries.insertAll [] s.values
        parent.update name fun
          | none => some (.tables [filled])
          | some (.tables elements) => some (.tables (elements ++ [filled]))
          | some _ => none
      else do
        let start ← match parent.get? name with
          | none => some []
          | some (.table .implied inner) => some inner
          | some _ => none
        let filled ← Entries.insertAll start s.values
        return (parent.filter fun e => e.1 != name) ++ [(name, .table .filled filled)]
    es.descend .implied place s.header.path.dropLast .filled

/-- The table of a whole text: its values without a header, and its sections. -/
def tableOf? (values : List (List String × Document)) (sections : List Section) :
    Option Document := do
  let es ← Entries.insertAll [] values
  return (← sections.foldlM (fun es s => s.fill es) es).document

end ControlQuery.Toml

import ControlQuery.Yaml.Plain
import ControlQuery.Yaml.Token

/-!
# Reading YAML

Puts the tokens of a YAML text together to a document. Anchors, aliases, tags and directives are not
read. Keys are the texts of scalars, and a text holds one document at most.
-/

namespace ControlQuery.Yaml

/-- The number of lists and tables that may stand inside one another. -/
def nestingLimit : Nat := 128

/-- A value as far as it could be read, and the tokens that are left if nothing went wrong. -/
abbrev Reading := Document × Option (List Token)

/-- A value that nothing could be read of. -/
def broken : Reading :=
  (.unreadable, none)

/-- Reads a value, or nothing if one of the given tokens comes first. -/
def valueBefore (stops : List Token) (value : List Token → Reading) : List Token → Reading
  | [] => broken
  | t :: ts => if stops.contains t then (.nothing, some (t :: ts)) else value (t :: ts)

/-- Reads a key, which is empty if one of the given tokens comes first. -/
def keyBefore (stops : List Token) : List Token → Option (String × List Token)
  | [] => none
  | .scalar text _ :: ts => some (text, ts)
  | t :: ts => if stops.contains t then some ("", t :: ts) else none

/-- Reads the value of a key, which has none if no sign of a value comes first. -/
def valueOfKey (stops : List Token) (value : List Token → Reading) : List Token → Reading
  | [] => broken
  | .value :: ts => valueBefore stops value ts
  | ts => (.nothing, some ts)

/-- A list of items that were read one by one. -/
abbrev Items := List Document × Option (List Token)

/-- The entries of a table that were read one by one. -/
abbrev Entries := List (String × Document) × Option (List Token)

/-- Puts a value in front of the items that are read behind it. -/
def itemThen (r : Reading) (more : List Token → Items) : Items :=
  match r with
  | (d, none) => ([d], none)
  | (d, some ts) =>
    let (ds, rest) := more ts
    (d :: ds, rest)

/-- Puts an entry in front of the entries that are read behind it. -/
def entryThen (name : String) (r : Reading) (more : List Token → Entries) : Entries :=
  match r with
  | (d, none) => ([(name, d)], none)
  | (d, some ts) =>
    let (es, rest) := more ts
    ((name, d) :: es, rest)

/-- The tokens that end a value in a block. -/
def blockStops : List Token := [.key, .value, .blockEnd]

/-- The tokens that end a value in a table between braces. -/
def flowTableStops : List Token := [.comma, .flowTableEnd]

/-- The tokens that end a value in a list between brackets. -/
def flowListStops : List Token := [.comma, .flowListEnd]

/-- Reads the items of a list in a block of its own. -/
def blockItems (value : List Token → Reading) : Nat → List Token → Items
  | 0, _ => ([], none)
  | _ + 1, .blockEnd :: ts => ([], some ts)
  | fuel + 1, .item :: ts =>
    itemThen (valueBefore [.item, .blockEnd] value ts) (blockItems value fuel)
  | _, _ => ([], none)

/-- Reads the items of a list that is indented like the key it belongs to. -/
def flushItems (value : List Token → Reading) : Nat → List Token → Items
  | 0, _ => ([], none)
  | _, [] => ([], none)
  | fuel + 1, .item :: ts =>
    itemThen (valueBefore (.item :: blockStops) value ts) (flushItems value fuel)
  | _, ts => ([], some ts)

/-- Reads the entries of a table in a block. -/
def blockEntries (value : List Token → Reading) : Nat → List Token → Entries
  | 0, _ => ([], none)
  | _ + 1, .blockEnd :: ts => ([], some ts)
  | fuel + 1, .key :: ts =>
    match keyBefore blockStops ts with
    | none => ([], none)
    | some (name, ts) =>
      entryThen name (valueOfKey blockStops value ts) (blockEntries value fuel)
  | _, _ => ([], none)

/-- Reads an entry of a table between braces. A key without a colon before it stands alone. -/
def flowEntry (value : List Token → Reading) : List Token → Option (String × Reading)
  | .key :: ts => do
    let (name, ts) ← keyBefore (.value :: flowTableStops) ts
    return (name, valueOfKey flowTableStops value ts)
  | .scalar text _ :: ts => some (text, .nothing, some ts)
  | _ => none

/-- Reads the entries of a table between braces, the first one or those behind it. -/
def flowEntries (value : List Token → Reading) : Nat → Bool → List Token → Entries
  | 0, _, _ => ([], none)
  | _ + 1, _, .flowTableEnd :: ts => ([], some ts)
  | fuel + 1, isFirst, ts =>
    let ts? := match isFirst, ts with
      | true, ts => some ts
      | false, .comma :: ts => some ts
      | false, _ => none
    match ts? with
    | some (.flowTableEnd :: ts) => ([], some ts)
    | some ts =>
      match flowEntry value ts with
      | none => ([], none)
      | some (name, r) => entryThen name r (flowEntries value fuel false)
    | none => ([], none)

/-- Reads a table of one entry that stands in a list without braces. If the entry has no key, the
token behind it is lost. -/
def flowPair (value : List Token → Reading) (ts : List Token) : Reading :=
  let key? := match keyBefore (.value :: flowListStops) ts with
    | some (name, rest) => some (name, if rest.length = ts.length then rest.tail else rest)
    | none => none
  match key? with
  | none => broken
  | some (name, ts) =>
    let (d, rest) := valueOfKey flowListStops value ts
    (.table [(name, d)] rest.isSome, rest)

/-- Reads the items of a list between brackets, the first one or those behind it. -/
def flowItems (value pair : List Token → Reading) : Nat → Bool → List Token → Items
  | 0, _, _ => ([], none)
  | _ + 1, _, .flowListEnd :: ts => ([], some ts)
  | fuel + 1, isFirst, ts =>
    let ts? := match isFirst, ts with
      | true, ts => some ts
      | false, .comma :: ts => some ts
      | false, _ => none
    match ts? with
    | some (.flowListEnd :: ts) => ([], some ts)
    | some (.key :: ts) => itemThen (pair ts) (flowItems value pair fuel false)
    | some ts => itemThen (value ts) (flowItems value pair fuel false)
    | none => ([], none)

/-- A list as far as its items could be read. -/
def listOf (items : Items) : Reading :=
  (.list items.1 items.2.isSome, items.2)

/-- A table as far as its entries could be read. -/
def tableOf (entries : Entries) : Reading :=
  (.table entries.1 entries.2.isSome, entries.2)

/-- Where a value stands: what may come there besides scalars and brackets. -/
inductive Position where
  | block
  /-- The value of a key in a block, where a list need not be indented. -/
  | blockValue
  | flow
deriving DecidableEq

/-- Reads a value in which at most so many lists and tables stand inside one another. -/
def value : Nat → Position → List Token → Reading
  | _, _, .scalar text isPlain :: ts => (if isPlain then plainValue text else .text text, some ts)
  | 0, _, _ => broken
  | nesting + 1, position, t :: ts =>
    match t, position with
    | .flowListStart, _ =>
      let pair := match nesting with
        | 0 => fun _ => broken
        | nesting + 1 => flowPair (value nesting .flow)
      listOf (flowItems (value nesting .flow) pair (ts.length + 1) true ts)
    | .flowTableStart, _ => tableOf (flowEntries (value nesting .flow) (ts.length + 1) true ts)
    | .blockListStart, .block | .blockListStart, .blockValue =>
      listOf (blockItems (value nesting .block) (ts.length + 1) ts)
    | .blockTableStart, .block | .blockTableStart, .blockValue =>
      tableOf (blockEntries (value nesting .blockValue) (ts.length + 1) ts)
    | .item, .blockValue =>
      listOf (flushItems (value nesting .block) (ts.length + 2) (.item :: ts))
    | _, _ => broken
  | _, _, [] => broken

/-- Reads the value of the first document. -/
def firstDocument : List Token → Reading
  | .textStart :: .textEnd :: _ => (.nothing, some [.textEnd])
  | .textStart :: .documentStart :: ts =>
    valueBefore [.documentStart, .documentEnd, .textEnd] (value nestingLimit .block) ts
  | .textStart :: ts => value nestingLimit .block ts
  | _ => broken

/-- Reads a whole text; the flag says whether nothing follows the first document. -/
def read (text : String) : Document × Bool :=
  match firstDocument (Token.ofText text) with
  | (d, some ts) => (d, ts.dropWhile (· == .documentEnd) == [.textEnd])
  | (d, none) => (d, false)

end ControlQuery.Yaml

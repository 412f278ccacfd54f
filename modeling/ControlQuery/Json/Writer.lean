import ControlQuery.Snapshot.Node

/-!
# Writing JSON

Texts are quoted with as few escapes as JSON allows, and a snapshot node is written without blanks,
its properties in their order and its children last.
-/

namespace ControlQuery.Json

/-- The digit of a value below sixteen. -/
def hexDigit (n : Nat) : Char :=
  if n < 10 then Char.ofNat ('0'.toNat + n) else Char.ofNat ('a'.toNat + (n - 10))

/-- A character as it is written in a string. -/
def escape (c : Char) : List Char :=
  if c = '"' then ['\\', '"']
  else if c = '\\' then ['\\', '\\']
  else if c = '\x08' then ['\\', 'b']
  else if c = '\x0c' then ['\\', 'f']
  else if c = '\n' then ['\\', 'n']
  else if c = '\r' then ['\\', 'r']
  else if c = '\t' then ['\\', 't']
  else if c.toNat < 32 then ['\\', 'u', '0', '0', hexDigit (c.toNat / 16), hexDigit (c.toNat % 16)]
  else [c]

/-- A text in quotes. -/
def quote (s : String) : String :=
  "\"" ++ String.ofList (s.toList.flatMap escape) ++ "\""

/-- Texts with commas between them. -/
def commas : List String → String
  | [] => ""
  | [s] => s
  | s :: ss => s ++ "," ++ commas ss

end ControlQuery.Json

namespace ControlQuery

/-- The value in JSON. -/
def PropertyValue.toJson : PropertyValue → String
  | bool b => toString b
  | int n => toString n.toInt
  | str s => Json.quote s

namespace PropertyMap

/-- The members of a JSON object for the properties, in their order. -/
def members (m : PropertyMap) : List String :=
  m.entries.map fun (id, v) => Json.quote id.text ++ ":" ++ v.toJson

end PropertyMap

namespace SnapshotNode

mutual

/-- The node in JSON. -/
def toJson : SnapshotNode → String
  | node properties cs =>
    let children := if cs.isEmpty then [] else ["\"children\":[" ++ Json.commas (toJsonAll cs) ++ "]"]
    "\x7b" ++ Json.commas (properties.members ++ children) ++ "\x7d"

/-- The nodes in JSON. -/
def toJsonAll : List SnapshotNode → List String
  | [] => []
  | c :: cs => c.toJson :: toJsonAll cs

end

end SnapshotNode

end ControlQuery

import ControlQuery.Property.Value

/-!
# JSON values

The values that are written in JSON. Numbers are those that a property can hold.
-/

namespace ControlQuery

/-- A value that is written in JSON. -/
inductive JsonValue where
  | null
  | bool (b : Bool)
  | integer (n : Int64)
  | text (s : String)
  | array (items : List JsonValue)
  /-- The members are written in the order of the list. -/
  | object (members : List (String × JsonValue))

/-- The JSON value of a property. -/
def PropertyValue.json : PropertyValue → JsonValue
  | bool b => .bool b
  | int n => .integer n
  | str s => .text s

end ControlQuery

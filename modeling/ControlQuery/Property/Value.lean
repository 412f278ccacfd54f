import ControlQuery.Text.Quoted

/-!
# Property values

A property is a truth value, a 64-bit integer or a text. A value has two written forms: its plain
text, which substring and pattern comparisons look at, and its literal in a query, in which a text
is quoted.
-/

namespace ControlQuery

/-- The value of a property of a control. -/
inductive PropertyValue where
  | bool (b : Bool)
  | int (n : Int64)
  | str (s : String)
deriving DecidableEq, Repr, Inhabited

namespace PropertyValue

/-- The text of a value that is a text. -/
def string? : PropertyValue → Option String
  | str s => some s
  | _ => none

/-- The plain form: a text stands for itself. -/
def plain : PropertyValue → String
  | bool b => toString b
  | int n => toString n.toInt
  | str s => s

/-- The literal in a query: as the plain form, but a text is put in single quotes. -/
def literal : PropertyValue → String
  | bool b => toString b
  | int n => toString n.toInt
  | str s => Quoted.quote '\'' s

@[simp] theorem plain_str (s : String) : (str s).plain = s := rfl

end PropertyValue

/-- The least integer that a property can hold. -/
def leastInteger : Int := -0x8000000000000000

/-- The greatest integer that a property can hold. -/
def greatestInteger : Int := 0x7FFFFFFFFFFFFFFF

/-- An integer as a property value, if it is in range. -/
def PropertyValue.ofInt? (n : Int) : Option PropertyValue :=
  if leastInteger ≤ n ∧ n ≤ greatestInteger then some (.int (Int64.ofInt n)) else none

end ControlQuery

/-!
# Ranges of code points

Tables of character properties are lists of ranges. Where only every second code point of a range
belongs to the property the table holds a span, and where a range is mapped as a whole it holds the
distance by which its code points move.
-/

namespace ControlQuery.Unicode

/-- The code points from `first` to `last`. -/
structure CodeRange where
  first : Nat
  last : Nat

namespace CodeRange

/-- Whether a code point lies in the range. -/
def contains (r : CodeRange) (c : Char) : Bool :=
  r.first ≤ c.toNat && c.toNat ≤ r.last

/-- Whether a code point lies in one of the ranges. -/
def anyContains (rs : List CodeRange) (c : Char) : Bool :=
  rs.any fun r => r.contains c

end CodeRange

/-- Every `step`-th code point from `first` to `last`. -/
structure CodeSpan where
  first : Nat
  last : Nat
  step : Nat

namespace CodeSpan

/-- Whether a code point belongs to the span. -/
def contains (s : CodeSpan) (c : Char) : Bool :=
  s.first ≤ c.toNat && c.toNat ≤ s.last && (c.toNat - s.first) % s.step == 0

end CodeSpan

/-- A span whose code points are all mapped to the code point `shift` further on. -/
structure CodeShift extends CodeSpan where
  shift : Int

namespace CodeShift

/-- The image of a code point of the span. -/
def image (s : CodeShift) (c : Char) : Char :=
  Char.ofNat ((c.toNat : Int) + s.shift).toNat

/-- The image of a character under the first span that holds it, or the character itself. -/
def apply (shifts : List CodeShift) (c : Char) : Char :=
  match shifts.find? fun s => s.contains c with
  | some s => s.image c
  | none => c

/-- The characters that the spans map to `c`. -/
def preimage (shifts : List CodeShift) (c : Char) : List Char :=
  shifts.filterMap fun s =>
    let d := Char.ofNat ((c.toNat : Int) - s.shift).toNat
    if s.contains d && s.image d == c then some d else none

end CodeShift

end ControlQuery.Unicode

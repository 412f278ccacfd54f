import ControlQuery.Snapshot.Document
import ControlQuery.Text.Digits

/-!
# What plain scalars stand for

A plain scalar is read as null, a truth value, an integer or a floating-point number if it has the
form of one, and stands for itself otherwise. Digits behind a leading zero are no number.
-/

namespace ControlQuery.Yaml

/-- A scalar without a sign in front, and whether there was a minus. -/
def splitSign : List Char → Bool × List Char
  | '-' :: cs => (true, cs)
  | '+' :: cs => (false, cs)
  | cs => (false, cs)

/-- The number that digits write: in base 16, 8 or 2 behind a mark for the base, in base ten
otherwise. -/
def magnitude? (cs : List Char) : Option Nat :=
  let based := match cs with
    | '0' :: 'x' :: digits => Digits.inBase? 16 digits
    | '0' :: 'o' :: digits => Digits.inBase? 8 digits
    | '0' :: 'b' :: digits => Digits.inBase? 2 digits
    | _ => none
  let isPadded := cs.length > 1 && cs.head? == some '0' && cs.all Char.isDigit
  based.or (if isPadded then none else Digits.inBase? 10 cs)

/-- The value of an integer of at most 64 bits. One of at most 128 bits is read, but goes wrong; a
longer one is no integer. -/
def integer? (cs : List Char) : Option Document := do
  let (negative, digits) := splitSign cs
  let n ← magnitude? digits
  let fits (bits : Nat) : Bool := if negative then n ≤ 1 <<< (bits - 1) else n < 1 <<< bits
  if fits 64 then return .integer (if negative then -(n : Int) else n)
  if fits 128 then return .unreadable
  none

/-- Whether a scalar writes a finite number with a fraction or an exponent, or of a great size. -/
def isDecimal (cs : List Char) : Bool :=
  let digits := (splitSign cs).2
  let whole := digits.takeWhile Char.isDigit
  let rest := digits.dropWhile Char.isDigit
  let (places, rest) := match rest with
    | '.' :: rest => (rest.takeWhile Char.isDigit, rest.dropWhile Char.isDigit)
    | _ => ([], rest)
  let exponent? : Option Int := match rest with
    | [] => some 0
    | e :: rest =>
      let (negative, power) := splitSign rest
      if (e == 'e' || e == 'E') && !power.isEmpty && power.all Char.isDigit then
        let n : Int := Digits.value power
        some (if negative then -n else n)
      else none
  match exponent? with
  | none => false
  | some exponent =>
    !(whole.isEmpty && places.isEmpty) &&
      !Digits.overflows (Digits.value (whole ++ places)) (exponent - places.length)

/-- Whether a scalar writes a floating-point number. -/
def isReal (s : String) : Bool :=
  let cs := s.toList
  let isPadded :=
    let digits := (splitSign cs).2
    digits.length > 1 && digits.head? == some '0' && digits.all Char.isDigit
  !isPadded &&
    ([".inf", ".Inf", ".INF", "+.inf", "+.Inf", "+.INF", "-.inf", "-.Inf", "-.INF", ".nan", ".NaN",
      ".NAN"].contains s || isDecimal cs)

/-- The value that a plain scalar stands for. -/
def plainValue (s : String) : Document :=
  if s.isEmpty then .nothing
  else if ["null", "Null", "NULL", "~"].contains s then .null
  else if ["true", "True", "TRUE"].contains s then .bool true
  else if ["false", "False", "FALSE"].contains s then .bool false
  else
    match integer? s.toList with
    | some d => d
    | none => if isReal s then .real else .text s

end ControlQuery.Yaml

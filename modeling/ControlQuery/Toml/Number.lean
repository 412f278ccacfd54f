import ControlQuery.Snapshot.Document
import ControlQuery.Text.Digits

/-!
# Numbers in TOML

Integers of 64 bits, in base ten with an optional sign or in base 16, 8 or 2 without one, and
floating-point numbers. Single underscores may stand between two digits.
-/

namespace ControlQuery.Toml

/-- Reads digits of a class with single underscores between them, and drops the underscores. -/
def digits? (isDigit : Char → Bool) : List Char → Option (List Char × List Char)
  | [] => none
  | c :: cs =>
    if isDigit c then
      match cs with
      | '_' :: rest => do
        let (ds, rest) ← digits? isDigit rest
        return (c :: ds, rest)
      | d :: rest =>
        if isDigit d then do
          let (ds, rest) ← digits? isDigit (d :: rest)
          return (c :: ds, rest)
        else some ([c], d :: rest)
      | [] => some ([c], [])
    else none

/-- Reads an optional sign. -/
def sign : List Char → Bool × List Char
  | '-' :: cs => (true, cs)
  | '+' :: cs => (false, cs)
  | cs => (false, cs)

/-- Reads digits of which a zero stands alone. -/
def wholeDigits? : List Char → Option (List Char × List Char)
  | '0' :: cs => some (['0'], cs)
  | cs => digits? Char.isDigit cs

/-- Reads an exponent if there is one. -/
def exponent? : List Char → Option (Option Int × List Char)
  | [] => some (none, [])
  | c :: cs =>
    if c = 'e' ∨ c = 'E' then do
      let (negative, cs) := sign cs
      let (ds, rest) ← digits? Char.isDigit cs
      let n : Int := Digits.value ds
      return (some (if negative then -n else n), rest)
    else some (none, c :: cs)

/-- Reads a fraction if there is one. -/
def fraction? : List Char → Option (Option (List Char) × List Char)
  | '.' :: cs => do
    let (ds, rest) ← digits? Char.isDigit cs
    return (some ds, rest)
  | cs => some (none, cs)

/-- An integer that is in range. -/
def inRange? (n : Int) : Option Document :=
  if leastInteger ≤ n ∧ n ≤ greatestInteger then some (.integer n) else none

/-- Reads a number in another base. -/
def based? (base : Nat) (cs : List Char) : Option (Document × List Char) := do
  let isDigit (c : Char) : Bool := (Digits.hexDigit? c).any (· < base)
  let (ds, rest) ← digits? isDigit cs
  return (← inRange? (← Digits.inBase? base ds), rest)

/-- Reads a number in base ten. One that is too great for a floating-point number is refused, but
not one that is too small. -/
def decimal? (cs : List Char) : Option (Document × List Char) := do
  let (negative, cs) := sign cs
  let (whole, cs) ← wholeDigits? cs
  let (fraction, cs) ← fraction? cs
  let (exponent, rest) ← exponent? cs
  if fraction.isNone && exponent.isNone then
    let n : Int := Digits.value whole
    return (← inRange? (if negative then -n else n), rest)
  let places := fraction.getD []
  let significand := Digits.value (whole ++ places)
  if !negative && Digits.overflows significand (exponent.getD 0 - places.length) then none
  return (.real, rest)

/-- Reads a number. -/
def number? : List Char → Option (Document × List Char)
  | '0' :: 'x' :: cs => based? 16 cs
  | '0' :: 'o' :: cs => based? 8 cs
  | '0' :: 'b' :: cs => based? 2 cs
  | cs =>
    match (sign cs).2 with
    | 'i' :: 'n' :: 'f' :: rest => some (.real, rest)
    | 'n' :: 'a' :: 'n' :: rest => some (.real, rest)
    | _ => decimal? cs

end ControlQuery.Toml

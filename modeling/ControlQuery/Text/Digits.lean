/-!
# Numbers in digits

The value of a run of digits in base ten or another base, and whether a decimal number is too large
for a double-precision floating-point number.
-/

namespace ControlQuery.Digits

/-- The value of a run of decimal digits. -/
def value (digits : List Char) : Nat :=
  digits.foldl (fun n c => 10 * n + (c.toNat - '0'.toNat)) 0

/-- The least number that is rounded to infinity: half a unit above the greatest finite number. -/
def infinityThreshold : Nat := (1 <<< 1024) - (1 <<< 970)

/-- Whether `significand * 10 ^ exponent` is rounded to infinity. -/
def overflows (significand : Nat) (exponent : Int) : Bool :=
  significand != 0 && 0 ≤ exponent + Nat.log2 significand &&
    (exponent > 308 ||
      match exponent with
      | .ofNat e => significand * Nat.pow 10 e ≥ infinityThreshold
      | .negSucc e => significand ≥ infinityThreshold * Nat.pow 10 (e + 1))

/-- The value of a hexadecimal digit. -/
def hexDigit? (c : Char) : Option Nat :=
  if c.isDigit then some (c.toNat - '0'.toNat)
  else if 'a' ≤ c ∧ c ≤ 'f' then some (c.toNat - 'a'.toNat + 10)
  else if 'A' ≤ c ∧ c ≤ 'F' then some (c.toNat - 'A'.toNat + 10)
  else none

/-- The value of digits in a base of at most sixteen, if they are digits of it and there is one. -/
def inBase? (base : Nat) : List Char → Option Nat
  | [] => none
  | cs => cs.foldlM (fun n c => do
      let d ← hexDigit? c
      if d < base then some (base * n + d) else none) 0

/-- The character of a code point, if it is one. -/
def ofCodePoint? (n : Nat) : Option Char :=
  if n.isValidChar then some (Char.ofNat n) else none

end ControlQuery.Digits

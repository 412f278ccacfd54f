import ControlQuery.Snapshot.Document
import ControlQuery.Text.Digits

/-!
# Reading JSON

Reads a JSON text as a document. Numbers with a fraction or an exponent, a negative zero and
integers of any size are told apart from other values only as far as a snapshot needs. A text that
is not JSON is read up to the place where it goes wrong.
-/

namespace ControlQuery.Json

/-- The number of containers that may stand inside one another. -/
def nestingLimit : Nat := 127

/-- Passes over blanks. -/
def skipBlanks (cs : List Char) : List Char :=
  cs.dropWhile fun c => c == ' ' || c == '\n' || c == '\t' || c == '\r'

/-- The code unit that four hexadecimal digits write. -/
def codeUnit? (a b c d : Char) : Option Nat := do
  return ((16 * (← Digits.hexDigit? a) + (← Digits.hexDigit? b)) * 16 + (← Digits.hexDigit? c)) * 16 + (← Digits.hexDigit? d)

/-- Whether a code unit is the first half of a pair. -/
def isHighSurrogate (n : Nat) : Bool :=
  0xd800 ≤ n && n ≤ 0xdbff

/-- Whether a code unit is the second half of a pair. -/
def isLowSurrogate (n : Nat) : Bool :=
  0xdc00 ≤ n && n ≤ 0xdfff

/-- The character that a backslash and this character stand for. -/
def shortEscape? : Char → Option Char
  | '"' => some '"'
  | '\\' => some '\\'
  | '/' => some '/'
  | 'b' => some '\x08'
  | 'f' => some '\x0c'
  | 'n' => some '\n'
  | 'r' => some '\r'
  | 't' => some '\t'
  | _ => none

/-- Reads a string behind its opening quote. -/
def stringBody : List Char → Option (List Char × List Char)
  | [] => none
  | '"' :: rest => some ([], rest)
  | '\\' :: 'u' :: a :: b :: c :: d :: rest => do
    let n ← codeUnit? a b c d
    if isHighSurrogate n then
      match rest with
      | '\\' :: 'u' :: e :: f :: g :: h :: rest =>
        let m ← codeUnit? e f g h
        if isLowSurrogate m then
          let (text, rest) ← stringBody rest
          return (Char.ofNat (0x10000 + (n - 0xd800) * 0x400 + (m - 0xdc00)) :: text, rest)
        else none
      | _ => none
    else if isLowSurrogate n then none
    else
      let (text, rest) ← stringBody rest
      return (Char.ofNat n :: text, rest)
  | '\\' :: c :: rest => do
    let c ← shortEscape? c
    let (text, rest) ← stringBody rest
    return (c :: text, rest)
  | c :: rest =>
    if c.toNat < 32 ∨ c = '\\' then none
    else do
      let (text, rest) ← stringBody rest
      return (c :: text, rest)

theorem stringBody_quote (rest : List Char) : stringBody ('"' :: rest) = some ([], rest) := by
  rw [stringBody]

/-- The greatest significand that is kept exactly; further digits only move the exponent. -/
def significandLimit : Nat := 0x10000000000000000

/-- The leading digits that fit into a significand, and the number of digits left over. -/
def significand (value : Nat) : List Char → Nat × Nat
  | [] => (value, 0)
  | c :: cs =>
    let next := 10 * value + (c.toNat - '0'.toNat)
    if next < significandLimit then significand next cs else (value, (c :: cs).length)

/-- Reads the exponent of a number, if it has one. -/
def exponent : List Char → Option (Option Int × List Char)
  | c :: rest =>
    if c = 'e' ∨ c = 'E' then
      let (sign, rest) := match rest with
        | '+' :: rest => ((1 : Int), rest)
        | '-' :: rest => (-1, rest)
        | _ => (1, rest)
      let digits := rest.takeWhile Char.isDigit
      if digits.isEmpty then none
      else some (some (sign * Digits.value digits), rest.dropWhile Char.isDigit)
    else some (none, c :: rest)
  | [] => some (none, [])

/-- Reads the fraction of a number, if it has one. -/
def fraction : List Char → Option (Option (List Char) × List Char)
  | '.' :: rest =>
    let digits := rest.takeWhile Char.isDigit
    if digits.isEmpty then none else some (some digits, rest.dropWhile Char.isDigit)
  | cs => some (none, cs)

/-- Reads a number. An integer is one without a fraction, an exponent or a sign in front of zero. -/
def number (cs : List Char) : Option (Document × List Char) := do
  let (negative, cs) := match cs with
    | '-' :: cs => (true, cs)
    | _ => (false, cs)
  let digits := cs.takeWhile Char.isDigit
  if digits.isEmpty || (digits.head? == some '0' && digits.length > 1) then none
  let (fraction, rest) ← fraction (cs.dropWhile Char.isDigit)
  let (exponent, rest) ← exponent rest
  let value := Digits.value digits
  match fraction, exponent with
  | none, none =>
    if Digits.overflows (significand 0 digits).1 (significand 0 digits).2 then none
    else if negative then
      return (if value = 0 then .real else .integer (-(value : Int)), rest)
    else return (.integer value, rest)
  | _, _ =>
    let (whole, dropped) := significand 0 digits
    let places := fraction.getD []
    let (kept, shift) :=
      if dropped = 0 then
        let (kept, left) := significand whole places
        (kept, (places.length - left : Int))
      else (whole, -(dropped : Int))
    if Digits.overflows kept (exponent.getD 0 - shift) then none else return (.real, rest)

/-- A value as far as it could be read, and what is left of the text if nothing went wrong. -/
abbrev Reading := Document × Option (List Char)

/-- A value that nothing could be read of. -/
def broken : Reading :=
  (.unreadable, none)

/-- A scalar that could be read, or not. -/
def scalar : Option (Document × List Char) → Reading
  | some (d, rest) => (d, some rest)
  | none => broken

/-- Reads the items of an array behind its opening bracket or a comma. -/
def items (value : List Char → Reading) : Nat → List Char → List Document × Option (List Char)
  | 0, _ => ([], none)
  | fuel + 1, cs =>
    match value cs with
    | (d, none) => ([d], none)
    | (d, some rest) =>
      match skipBlanks rest with
      | ',' :: rest =>
        let (ds, rest) := items value fuel rest
        (d :: ds, rest)
      | ']' :: rest => ([d], some rest)
      | _ => ([d], none)

/-- Reads a key and its colon. -/
def key (cs : List Char) : Option (String × List Char) := do
  let '"' :: rest := skipBlanks cs | none
  let (name, rest) ← stringBody rest
  let ':' :: rest := skipBlanks rest | none
  return (String.ofList name, rest)

/-- Reads the members of an object behind its opening brace or a comma. -/
def members (value : List Char → Reading) : Nat → List Char →
    List (String × Document) × Option (List Char)
  | 0, _ => ([], none)
  | fuel + 1, cs =>
    match key cs with
    | none => ([], none)
    | some (name, rest) =>
      match value rest with
      | (d, none) => ([(name, d)], none)
      | (d, some rest) =>
        match skipBlanks rest with
        | ',' :: rest =>
          let (es, rest) := members value fuel rest
          ((name, d) :: es, rest)
        | '}' :: rest => ([(name, d)], some rest)
        | _ => ([(name, d)], none)

/-- Reads a value in which at most so many containers stand inside one another. -/
def value (nesting : Nat) (cs : List Char) : Reading :=
  match skipBlanks cs with
  | 'n' :: 'u' :: 'l' :: 'l' :: rest => (.null, some rest)
  | 't' :: 'r' :: 'u' :: 'e' :: rest => (.bool true, some rest)
  | 'f' :: 'a' :: 'l' :: 's' :: 'e' :: rest => (.bool false, some rest)
  | '"' :: rest =>
    scalar ((stringBody rest).map fun (text, rest) => (.text (String.ofList text), rest))
  | '[' :: rest =>
    match nesting with
    | 0 => broken
    | nesting + 1 =>
      match skipBlanks rest with
      | ']' :: rest => (.list [] true, some rest)
      | rest =>
        let (ds, rest) := items (value nesting) (rest.length + 1) rest
        (.list ds rest.isSome, rest)
  | '{' :: rest =>
    match nesting with
    | 0 => broken
    | nesting + 1 =>
      match skipBlanks rest with
      | '}' :: rest => (.table [] true, some rest)
      | rest =>
        let (es, rest) := members (value nesting) (rest.length + 1) rest
        (.table es rest.isSome, rest)
  | cs => scalar (number cs)

/-- Reads a whole text; the flag says whether nothing but blanks follows the value. -/
def read (text : String) : Document × Bool :=
  match value nestingLimit text.toList with
  | (d, none) => (d, false)
  | (d, some rest) => (d, (skipBlanks rest).isEmpty)

end ControlQuery.Json

namespace ControlQuery

/-- The property value that a JSON text writes, if it writes one. -/
def PropertyValue.ofJson? (text : String) : Option PropertyValue :=
  match Json.read text with
  | (d, true) => d.propertyValue?
  | (_, false) => none

end ControlQuery

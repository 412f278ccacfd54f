import ControlQuery.CPath.Syntax
import ControlQuery.Unicode.WhiteSpace

/-!
# What can be wrong with a path expression

Each error points at a place of the text by the number of bytes in front of it, and quotes what
stands there.
-/

namespace ControlQuery.CPath

/-- Why a number cannot stand where it does. -/
inductive NumberFault where
  | outOfRange
  | positionZero
  | sliceReversed
  | selfDepth
deriving DecidableEq, Repr

/-- What is wrong with the number, in words. -/
def NumberFault.message : NumberFault → String
  | outOfRange => "out of range"
  | positionZero => "positions start at 1"
  | sliceReversed => "slice end precedes its start"
  | selfDepth => "the self axis takes no depth"

/-- What is wrong with a text that is no query. -/
inductive ParseError where
  /-- The text does not follow the grammar; one of the rules would have had to go on here. -/
  | unexpected (place : Lexeme) (expected : List Rule)
  | unknownProperty (name : Lexeme)
  | unknownAxis (name : Lexeme)
  | invalidNumber (number : Lexeme) (fault : NumberFault)
  | invalidRegex (offset : Nat) (pattern : String)
  /-- A second position or slice on one step. -/
  | duplicatePosition (predicate : Lexeme)
deriving DecidableEq, Repr

namespace ParseError

/-- The number of bytes in front of the place that the error points at. -/
def offset : ParseError → Nat
  | unexpected place _ => place.offset
  | unknownProperty name => name.offset
  | unknownAxis name => name.offset
  | invalidNumber number _ => number.offset
  | invalidRegex offset _ => offset
  | duplicatePosition predicate => predicate.offset

/-- What was expected, in words. -/
def expectedText (expected : List Rule) : String :=
  "expected " ++ Rule.listText expected

/-- The first line of the message. -/
def message : ParseError → String
  | unexpected place expected =>
    s!"Syntax error at offset {place.offset} near `{place.text}`: {expectedText expected}"
  | unknownProperty name => s!"Unknown property `{name.text}` at offset {name.offset}"
  | unknownAxis name => s!"Unknown axis `{name.text}` at offset {name.offset}"
  | invalidNumber number fault =>
    s!"Invalid number `{number.text}` at offset {number.offset}: {fault.message}"
  | invalidRegex offset pattern =>
    s!"Invalid pattern `{pattern}` at offset {offset}: regex parse error:"
  | duplicatePosition predicate =>
    s!"Second positional predicate `{predicate.text}` at offset {predicate.offset}"

end ParseError

/-- The greatest number of characters that a message quotes of a text that went wrong. -/
def quoteLimit : Nat := 24

/-- What is left of a text behind a number of bytes. -/
def dropBytes : Nat → List Char → List Char
  | 0, cs => cs
  | _ + 1, [] => []
  | n + 1, c :: cs => dropBytes (n + 1 - c.utf8Size) cs

/-- The error of a text on which the grammar failed: the place of the furthest attempts, and what
stands there up to the next white space. -/
def Attempts.error (σ : Attempts) (text : String) : ParseError :=
  let word := (dropBytes σ.offset text.toList).takeWhile fun c => !Unicode.isWhiteSpace c
  .unexpected ⟨σ.offset, String.ofList (word.take quoteLimit)⟩
    (Rule.all.filter fun r => σ.rules.contains r)

end ControlQuery.CPath

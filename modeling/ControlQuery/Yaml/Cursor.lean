/-!
# Places in a YAML text

What is left of a text from some place on, and where the place is: how many characters stand in
front of it, on which line, and how many of them on the same line.
-/

namespace ControlQuery.Yaml

/-- Whether a character ends a line. -/
def isBreak (c : Char) : Bool :=
  c == '\n' || c == '\r' || c == '\u0085' || c == '\u2028' || c == '\u2029'

/-- Whether a character is a space or a tab. -/
def isBlank (c : Char) : Bool :=
  c == ' ' || c == '\t'

/-- Whether a character may stand in a text at all. -/
def isPrintable (c : Char) : Bool :=
  c == '\t' || c == '\n' || c == '\r' || c == '\u0085' || (' ' ≤ c && c ≤ '~') ||
    ('\u00a0' ≤ c && c ≤ '\ufffd') || '\uffff' < c

/-- A place in a text. -/
structure Cursor where
  rest : List Char
  index : Nat := 0
  line : Nat := 0
  column : Nat := 0

namespace Cursor

/-- The next character but `n`. -/
def peek? (k : Cursor) (n : Nat := 0) : Option Char :=
  k.rest[n]?

/-- Whether the next character but `n` is this one. -/
def sees (k : Cursor) (c : Char) (n : Nat := 0) : Bool :=
  k.peek? n == some c

/-- Whether the text ends here. -/
def atEnd (k : Cursor) : Bool :=
  k.rest.isEmpty

/-- Whether a line ends here, but not the text. -/
def atBreak (k : Cursor) : Bool :=
  k.peek?.any isBreak

/-- Whether a space or a tab comes next. -/
def atBlank (k : Cursor) : Bool :=
  k.peek?.any isBlank

/-- Whether no word goes on at the next character but `n`. -/
def atGap (k : Cursor) (n : Nat := 0) : Bool :=
  (k.peek? n).all fun c => isBlank c || isBreak c

/-- The place behind the next character, which ends no line. -/
def advance (k : Cursor) : Cursor :=
  { k with rest := k.rest.tail, index := k.index + 1, column := k.column + 1 }

/-- The place behind the next `n` characters, none of which ends a line. -/
def skip (k : Cursor) (n : Nat) : Cursor :=
  { k with rest := k.rest.drop n, index := k.index + n, column := k.column + n }

/-- The place behind the next characters of a class, none of which ends a line, and these. -/
def takeWhile (k : Cursor) (p : Char → Bool) : String × Cursor :=
  let taken := k.rest.takeWhile p
  (String.ofList taken, k.skip taken.length)

/-- The place behind the next characters of a class, none of which ends a line. -/
def skipWhile (k : Cursor) (p : Char → Bool) : Cursor :=
  (k.takeWhile p).2

/-- The start of the next line if a line ends here, and what the end of the line stands for. -/
def takeBreak (k : Cursor) : String × Cursor :=
  let next (text : String) (n : Nat) (rest : List Char) :=
    (text, { rest, index := k.index + n, line := k.line + 1, column := 0 : Cursor })
  match k.rest with
  | '\r' :: '\n' :: rest => next "\n" 2 rest
  | c :: rest =>
    if c == '\u2028' || c == '\u2029' then next (String.singleton c) 1 rest
    else if isBreak c then next "\n" 1 rest
    else ("", k)
  | [] => ("", k)

/-- Whether this is the start of a line that separates documents with the given sign. -/
def atMarker (k : Cursor) (sign : Char) : Bool :=
  k.column == 0 && k.sees sign && k.sees sign 1 && k.sees sign 2 && k.atGap 3

/-- Whether this is the start of a line that separates documents. -/
def atAnyMarker (k : Cursor) : Bool :=
  k.atMarker '-' || k.atMarker '.'

end Cursor

end ControlQuery.Yaml

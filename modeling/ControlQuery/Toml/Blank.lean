/-!
# Blanks and comments in TOML

What may stand between the tokens of a TOML text, and which characters may stand in it at all.
-/

namespace ControlQuery.Toml

/-- Whether a character may stand in a comment or a text as it is. Of the control characters only
the tab may. -/
def isPlain (c : Char) : Bool :=
  c == '\t' || (' ' ≤ c && c != '\x7f')

/-- Passes over spaces and tabs. -/
def skipBlanks (cs : List Char) : List Char :=
  cs.dropWhile fun c => c == ' ' || c == '\t'

/-- Reads the end of a line. A carriage return does not stand alone. -/
def lineBreak? : List Char → Option (List Char)
  | '\n' :: cs => some cs
  | '\r' :: '\n' :: cs => some cs
  | _ => none

/-- Passes over a comment. -/
def skipComment : List Char → List Char
  | '#' :: cs => cs.dropWhile isPlain
  | cs => cs

/-- Reads the rest of a line, on which nothing but a comment may stand. -/
def lineEnd? (cs : List Char) : Option (List Char) :=
  match skipComment (skipBlanks cs) with
  | [] => some []
  | cs => lineBreak? cs

/-- Passes over blanks, comments and line ends. -/
def skipLayout : Nat → List Char → List Char
  | 0, cs => cs
  | fuel + 1, cs =>
    let next := skipComment (skipBlanks cs)
    match lineBreak? next with
    | some rest => skipLayout fuel rest
    | none => next

/-- Passes over blanks and line ends. -/
def skipLines : Nat → List Char → List Char
  | 0, cs => cs
  | fuel + 1, cs =>
    let next := skipBlanks cs
    match lineBreak? next with
    | some rest => skipLines fuel rest
    | none => next

end ControlQuery.Toml

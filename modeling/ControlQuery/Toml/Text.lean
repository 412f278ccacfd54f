import ControlQuery.Text.Digits
import ControlQuery.Toml.Blank

/-!
# Texts in TOML

A text stands in double quotes with escapes or in single quotes as it is, on one line or, between
three quotes, on several ones.
-/

namespace ControlQuery.Toml

/-- Whether a text has escapes or stands for itself. -/
inductive TextKind where
  | basic
  | verbatim
deriving DecidableEq

/-- The quote of a text. -/
def TextKind.quote : TextKind → Char
  | basic => '"'
  | verbatim => '\''

/-- The character that a backslash and this character stand for. -/
def shortEscape? : Char → Option Char
  | 'b' => some '\x08'
  | 't' => some '\t'
  | 'n' => some '\n'
  | 'f' => some '\x0c'
  | 'r' => some '\r'
  | '"' => some '"'
  | '\\' => some '\\'
  | _ => none

/-- Reads the code point behind a backslash and a letter that gives the number of its digits. -/
def codePoint? (digits : Nat) (cs : List Char) : Option (Char × List Char) := do
  let code := cs.take digits
  if code.length < digits then none
  return (← Digits.ofCodePoint? (← Digits.inBase? 16 code), cs.drop digits)

/-- Reads what a backslash stands for. -/
def escape? : List Char → Option (Char × List Char)
  | 'u' :: cs => codePoint? 4 cs
  | 'U' :: cs => codePoint? 8 cs
  | c :: cs => do return (← shortEscape? c, cs)
  | [] => none

/-- Reads a text on one line behind its opening quote. -/
def lineText (kind : TextKind) : Nat → String → List Char → Option (String × List Char)
  | 0, _, _ => none
  | _, _, [] => none
  | fuel + 1, text, c :: cs =>
    if c = kind.quote then some (text, cs)
    else if kind = .basic ∧ c = '\\' then
      match escape? cs with
      | none => none
      | some (d, cs) => lineText kind fuel (text.push d) cs
    else if isPlain c then lineText kind fuel (text.push c) cs
    else none

/-- The characters behind a backslash that hides the end of a line: all blanks up to the next word
are hidden with it. -/
def hiddenLines? (cs : List Char) : Option (List Char) :=
  (lineBreak? (skipBlanks cs)).map fun rest => skipLines (rest.length + 1) rest

/-- Reads a text on several lines behind its opening quotes. The text ends at three quotes, and up
to two more in front of them belong to it. -/
def linesText (kind : TextKind) : Nat → String → List Char → Option (String × List Char)
  | 0, _, _ => none
  | _, _, [] => none
  | fuel + 1, text, c :: cs =>
    if c = kind.quote then
      let quotes := ((c :: cs).takeWhile (· == c)).length
      if quotes < 3 then linesText kind fuel (text.push c) cs
      else
        let more := min (quotes - 3) 2
        some (text ++ String.ofList (List.replicate more c), (c :: cs).drop (more + 3))
    else if kind = .basic ∧ c = '\\' then
      match hiddenLines? cs with
      | some cs => linesText kind fuel text cs
      | none =>
        match escape? cs with
        | none => none
        | some (d, cs) => linesText kind fuel (text.push d) cs
    else
      match lineBreak? (c :: cs) with
      | some cs => linesText kind fuel (text.push '\n') cs
      | none => if isPlain c then linesText kind fuel (text.push c) cs else none

/-- Reads a text of a kind, on one line or on several ones. A line end right behind three opening
quotes does not count. -/
def text? (kind : TextKind) (cs : List Char) : Option (String × List Char) :=
  let q := kind.quote
  if [q, q, q].isPrefixOf cs then
    let body := cs.drop 3
    linesText kind (cs.length + 1) "" ((lineBreak? body).getD body)
  else lineText kind (cs.length + 1) "" cs.tail

end ControlQuery.Toml

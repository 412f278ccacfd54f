import ControlQuery.Text.Digits
import ControlQuery.Yaml.Cursor

/-!
# Scalars in YAML

The four ways to write a text in YAML: plain, in single or double quotes, and as a block of lines.
In all but the last, what stands between two words on different lines is folded: a single line break
counts as a space, and of several ones the first is dropped.
-/

namespace ControlQuery.Yaml

/-- What stands between two words of a scalar. -/
structure Gap where
  /-- The spaces and tabs, if no line ends in the gap. -/
  blanks : String := ""
  /-- Whether a line ends in the gap. -/
  broken : Bool := false
  /-- The first line break; empty if it does not count. -/
  first : String := ""
  /-- The other line breaks. -/
  more : String := ""

namespace Gap

/-- What the gap stands for. -/
def text (g : Gap) : String :=
  if !g.broken then g.blanks
  else if g.first = "\n" then (if g.more = "" then " " else g.more)
  else g.first ++ g.more

/-- Reads on through a gap. A tab may not stand in front of the column `indent` of a new line. -/
def read (indent : Nat) : Nat → Gap → Cursor → Option (Gap × Cursor)
  | 0, _, _ => none
  | fuel + 1, g, k =>
    match k.peek? with
    | none => some (g, k)
    | some c =>
      if isBlank c then
        if g.broken then
          if c = '\t' ∧ k.column < indent then none else read indent fuel g k.advance
        else read indent fuel { g with blanks := g.blanks.push c } k.advance
      else if isBreak c then
        let (text, next) := k.takeBreak
        if g.broken then read indent fuel { g with more := g.more ++ text } next
        else read indent fuel { g with blanks := "", broken := true, first := text } next
      else some (g, k)

end Gap

/-- Reads a gap from its start. -/
def Cursor.gap (k : Cursor) (indent : Nat) (start : Gap := {}) : Option (Gap × Cursor) :=
  Gap.read indent (k.rest.length + 1) start k

/-- The characters that end a plain scalar between brackets. -/
def isFlowSign (c : Char) : Bool :=
  c == ',' || c == '[' || c == ']' || c == '{' || c == '}'

/-- Reads a word of a plain scalar, up to a blank or a sign that ends the scalar. -/
def plainWord (flow : Bool) : Nat → String → Cursor → Option (String × Cursor)
  | 0, _, _ => none
  | fuel + 1, word, k =>
    match k.peek? with
    | none => some (word, k)
    | some c =>
      if isBlank c || isBreak c then some (word, k)
      else if flow && c == ':' && (k.peek? 1).any (fun d => isFlowSign d || d == '?') then none
      else if (c == ':' && k.atGap 1) || (flow && isFlowSign c) then some (word, k)
      else plainWord flow fuel (word.push c) k.advance

/-- A plain scalar, and whether a line ended behind it. -/
structure PlainScalar where
  text : String
  broken : Bool

/-- Reads a plain scalar on from a gap. In a block each line of it stands at the column `indent` at
least. -/
def plainScalar (flow : Bool) (indent : Nat) :
    Nat → String → Gap → Cursor → Option (PlainScalar × Cursor)
  | 0, _, _, _ => none
  | fuel + 1, text, gap, k =>
    if k.atAnyMarker || k.sees '#' then some (⟨text, gap.broken⟩, k)
    else
      match plainWord flow (k.rest.length + 1) "" k with
      | none => none
      | some (word, k) =>
        if word.isEmpty then some (⟨text, gap.broken⟩, k)
        else
          let text := text ++ gap.text ++ word
          if !(k.atBlank || k.atBreak) then some (⟨text, false⟩, k)
          else
            match k.gap indent with
            | none => none
            | some (gap, k) =>
              if !flow && k.column < indent then some (⟨text, gap.broken⟩, k)
              else plainScalar flow indent fuel text gap k

/-- Reads a plain scalar. -/
def Cursor.plain (k : Cursor) (flow : Bool) (indent : Nat) : Option (PlainScalar × Cursor) :=
  plainScalar flow indent (k.rest.length + 1) "" {} k

/-- What a backslash and this character stand for. -/
def escaped? : Char → Option Char
  | '0' => some '\x00'
  | 'a' => some '\x07'
  | 'b' => some '\x08'
  | 't' => some '\t'
  | '\t' => some '\t'
  | 'n' => some '\n'
  | 'v' => some '\x0b'
  | 'f' => some '\x0c'
  | 'r' => some '\r'
  | 'e' => some '\x1b'
  | ' ' => some ' '
  | '"' => some '"'
  | '/' => some '/'
  | '\\' => some '\\'
  | 'N' => some '\u0085'
  | '_' => some '\u00a0'
  | 'L' => some '\u2028'
  | 'P' => some '\u2029'
  | _ => none

/-- The number of digits of a code point behind a backslash and this character. -/
def codeLength? : Char → Option Nat
  | 'x' => some 2
  | 'u' => some 4
  | 'U' => some 8
  | _ => none

/-- Reads what a backslash stands for, from the character behind it. -/
def escapeSequence (k : Cursor) : Option (Char × Cursor) := do
  let c ← k.peek?
  match escaped? c with
  | some d => return (d, k.advance)
  | none =>
    let n ← codeLength? c
    let digits := (k.rest.drop 1).take n
    if digits.length < n then none
    let code ← Digits.inBase? 16 digits
    return (← Digits.ofCodePoint? code, k.skip (n + 1))

/-- How a word in quotes ends. -/
inductive WordEnd where
  | atQuote
  | atGap
  /-- At the end of a line that a backslash hides. -/
  | atHiddenBreak
deriving DecidableEq

/-- Reads a word in quotes. -/
def quotedWord (quote : Char) : Nat → String → Cursor → Option (String × WordEnd × Cursor)
  | 0, _, _ => none
  | fuel + 1, word, k =>
    match k.peek? with
    | none => none
    | some c =>
      if isBlank c || isBreak c then some (word, .atGap, k)
      else if c = quote then
        if quote == '\'' && k.sees '\'' 1 then quotedWord quote fuel (word.push c) (k.skip 2)
        else some (word, .atQuote, k.advance)
      else if quote == '"' && c == '\\' then
        if k.advance.atBreak then some (word, .atHiddenBreak, k.advance.takeBreak.2)
        else
          match escapeSequence k.advance with
          | none => none
          | some (d, k) => quotedWord quote fuel (word.push d) k
      else quotedWord quote fuel (word.push c) k.advance

/-- Reads words in quotes up to the closing quote. -/
def quotedWords (quote : Char) : Nat → String → Cursor → Option (String × Cursor)
  | 0, _, _ => none
  | fuel + 1, text, k =>
    if k.atAnyMarker then none
    else
      match quotedWord quote (k.rest.length + 1) "" k with
      | none => none
      | some (word, .atQuote, k) => some (text ++ word, k)
      | some (word, ending, k) =>
        if k.sees quote then some (text ++ word, k.advance)
        else
          match k.gap 0 { broken := ending = .atHiddenBreak } with
          | none => none
          | some (gap, k) => quotedWords quote fuel (text ++ word ++ gap.text) k

/-- Reads a scalar in quotes from the opening quote on. -/
def Cursor.quoted (k : Cursor) (quote : Char) : Option (String × Cursor) :=
  quotedWords quote (k.rest.length + 1) "" k.advance

/-- Which line breaks at the end of a block count. -/
inductive Chomping where
  | strip
  | clip
  | keep
deriving DecidableEq

/-- The header of a block: which line breaks count, and the extra indentation if it is given. -/
structure BlockHeader where
  chomping : Chomping := .clip
  increment : Option Nat := none

/-- The chomping that a sign stands for. -/
def chomping? : Char → Option Chomping
  | '+' => some .keep
  | '-' => some .strip
  | _ => none

/-- The extra indentation that a digit stands for. -/
def increment? (c : Char) : Option Nat :=
  if c.isDigit then some (c.toNat - '0'.toNat) else none

/-- Reads the header of a block up to the next line. -/
def blockHeader (k : Cursor) : Option (BlockHeader × Cursor) := do
  let (header, k) :=
    match k.peek?.bind chomping? with
    | some chomping =>
      match (k.peek? 1).bind increment? with
      | some n => ({ chomping, increment := some n : BlockHeader }, k.skip 2)
      | none => ({ chomping }, k.advance)
    | none =>
      match k.peek?.bind increment? with
      | some n =>
        match (k.peek? 1).bind chomping? with
        | some chomping => ({ chomping, increment := some n }, k.skip 2)
        | none => ({ increment := some n }, k.advance)
      | none => ({}, k)
  if header.increment = some 0 then none
  let k := k.skipWhile isBlank
  let k := if k.sees '#' then k.skipWhile (!isBreak ·) else k
  if k.atEnd || k.atBreak then return (header, k.takeBreak.2) else none

/-- Passes over empty lines of a block, whose indentation may not be known yet: the line breaks and
the widest indentation met. A tab may not stand in the indentation. -/
def emptyLines (indent : Option Nat) :
    Nat → String → Nat → Cursor → Option (String × Nat × Cursor)
  | 0, _, _, _ => none
  | fuel + 1, breaks, widest, k =>
    let room := match indent with
      | some n => n - k.column
      | none => k.rest.length
    let k := k.skip ((k.rest.take room).takeWhile (· == ' ')).length
    let widest := max widest k.column
    if indent.all (k.column < ·) && k.sees '\t' then none
    else if k.atBreak then
      let (text, k) := k.takeBreak
      emptyLines indent fuel (breaks ++ text) widest k
    else some (breaks, widest, k)

/-- The lines of a block that are read so far. -/
structure BlockLines where
  text : String := ""
  /-- The line break of the last line. -/
  leading : String := ""
  /-- The line breaks of the empty lines behind it. -/
  trailing : String := ""
  /-- Whether the last line starts with a blank. -/
  indented : Bool := false

/-- What stands between the last line and the next one. -/
def BlockLines.joint (b : BlockLines) (folded nextIndented : Bool) : String :=
  if folded && b.leading == "\n" && !b.indented && !nextIndented then
    (if b.trailing.isEmpty then " " else b.trailing)
  else b.leading ++ b.trailing

/-- Reads the lines of a block. -/
def blockLines (folded : Bool) (indent : Nat) :
    Nat → BlockLines → Cursor → Option (BlockLines × Cursor)
  | 0, _, _ => none
  | fuel + 1, b, k =>
    if k.column != indent || k.atEnd then some (b, k)
    else
      let indented := k.atBlank
      let (line, k) := k.takeWhile (!isBreak ·)
      let text := b.text ++ b.joint folded indented ++ line
      let (leading, k) := k.takeBreak
      match emptyLines (some indent) (k.rest.length + 1) "" 0 k with
      | none => none
      | some (trailing, _, k) =>
        blockLines folded indent fuel { text, leading, trailing, indented } k

/-- Reads a block from its sign on, where `outer` is the column of the block around it, if any. -/
def Cursor.block (k : Cursor) (folded : Bool) (outer : Option Nat) : Option (String × Cursor) := do
  let (header, k) ← blockHeader k.advance
  let given := header.increment.map fun n => outer.getD 0 + n
  let (trailing, widest, k) ← emptyLines given (k.rest.length + 1) "" 0 k
  let least := match outer with
    | some n => n + 1
    | none => 1
  let indent := given.getD (max widest least)
  let (b, k) ← blockLines folded indent (k.rest.length + 1) { trailing } k
  let ending := match header.chomping with
    | .strip => ""
    | .clip => b.leading
    | .keep => b.leading ++ b.trailing
  return (b.text ++ ending, k)

end ControlQuery.Yaml

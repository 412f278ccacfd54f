import ControlQuery.Yaml.Scalar

/-!
# Tokens of YAML

A YAML text falls into scalars, signs, and the starts and ends of blocks, which the indentation of
lines stands for. Only a colon shows that what stands before it on the line is a key, so the places
of possible keys are kept until it is clear that none follows, and tokens in front of such a place
are all that is known of the text for sure. Tokens are given out as soon as they are sure, so a text
that goes wrong at some place still has the tokens before it.
-/

namespace ControlQuery.Yaml

/-- A piece of a YAML text. -/
inductive Token where
  | textStart
  | textEnd
  | documentStart
  | documentEnd
  | blockListStart
  | blockTableStart
  | blockEnd
  | flowListStart
  | flowListEnd
  | flowTableStart
  | flowTableEnd
  | item
  | comma
  | key
  | value
  | scalar (text : String) (isPlain : Bool)
deriving DecidableEq, Repr

/-- A place where a key may have started. -/
structure PossibleKey where
  /-- The number of tokens in front of it. -/
  position : Nat
  place : Cursor
  /-- Whether the indentation leaves nothing but a key there. -/
  required : Bool

/-- How many characters a key may take. -/
def keyLimit : Nat := 1024

/-- What is known at a place in the text. -/
structure Scanner where
  cursor : Cursor
  /-- The tokens that are not given out yet. -/
  pending : List Token := []
  /-- The number of tokens given out. -/
  given : Nat := 0
  /-- Whether a key may start here. -/
  keyAllowed : Bool := true
  /-- The columns of the open blocks, innermost first. -/
  indents : List Nat := []
  /-- The last possible key inside each open bracket, innermost first. -/
  bracketKeys : List (Option PossibleKey) := []
  /-- The last possible key outside of brackets. -/
  blockKey : Option PossibleKey := none

namespace Scanner

/-- Whether the place is between brackets. -/
def inFlow (s : Scanner) : Bool :=
  !s.bracketKeys.isEmpty

/-- The last possible key at the current level. -/
def possibleKey (s : Scanner) : Option PossibleKey :=
  s.bracketKeys.head?.getD s.blockKey

/-- Replaces the possible key at the current level. -/
def withKey (s : Scanner) (key : Option PossibleKey) : Scanner :=
  match s.bracketKeys with
  | [] => { s with blockKey := key }
  | _ :: outer => { s with bracketKeys := key :: outer }

/-- Adds a token. -/
def push (s : Scanner) (t : Token) : Scanner :=
  { s with pending := s.pending ++ [t] }

/-- Adds a token in front of the token with the given number. -/
def insertAt (s : Scanner) (position : Nat) (t : Token) : Scanner :=
  { s with pending := s.pending.insertIdx (position - s.given) t }

/-- Adds a sign of so many characters and goes on behind it. -/
def take (s : Scanner) (n : Nat) (t : Token) : Scanner :=
  { s.push t with cursor := s.cursor.skip n }

/-- Closes the blocks that are indented deeper than a column, or all of them. -/
def closeBlocks (s : Scanner) (column : Option Nat) : Scanner :=
  if s.inFlow then s
  else
    let deeper (indent : Nat) : Bool := column.all (· < indent)
    let closed := s.indents.takeWhile deeper
    { s with
      indents := s.indents.dropWhile deeper
      pending := s.pending ++ closed.map fun _ => .blockEnd }

/-- Opens a block at a column unless one is open there; its start goes to the given position. -/
def openBlock (s : Scanner) (column position : Nat) (t : Token) : Scanner :=
  if s.inFlow || !s.indents.head?.all (· < column) then s
  else { s.insertAt position t with indents := column :: s.indents }

/-- The position of the next token. -/
def nextPosition (s : Scanner) : Nat :=
  s.given + s.pending.length

/-- Gives up the possible key at the current level, unless it had to be one. -/
def dropKey (s : Scanner) : Option Scanner :=
  if s.possibleKey.any PossibleKey.required then none else some (s.withKey none)

/-- Notes that a key may start here. -/
def noteKey (s : Scanner) : Option Scanner :=
  if s.keyAllowed then do
    let required := !s.inFlow && s.indents.head? == some s.cursor.column
    let s ← s.dropKey
    return s.withKey (some ⟨s.nextPosition, s.cursor, required⟩)
  else some s

/-- Whether a possible key can no longer be one: a key keeps to one line and is not too long. -/
def isStale (k : Cursor) (key : PossibleKey) : Bool :=
  key.place.line < k.line || key.place.index + keyLimit < k.index

/-- Gives up the possible keys that are none by now, unless one had to be a key. -/
def dropStaleKeys (s : Scanner) : Option Scanner :=
  let stale (key : Option PossibleKey) : Bool := key.any (isStale s.cursor)
  let lost (key : Option PossibleKey) : Bool := stale key && key.any PossibleKey.required
  let kept (key : Option PossibleKey) := if stale key then none else key
  if lost s.blockKey || s.bracketKeys.any lost then none
  else some { s with blockKey := kept s.blockKey, bracketKeys := s.bracketKeys.map kept }

/-- Passes over blanks, comments and line ends up to the next token. -/
def skipToToken : Nat → Scanner → Scanner
  | 0, s => s
  | fuel + 1, s =>
    let tabs := s.inFlow || !s.keyAllowed
    let k := s.cursor.skipWhile fun c => c == ' ' || (tabs && c == '\t')
    let k := if k.sees '#' then k.skipWhile (!isBreak ·) else k
    if k.atBreak then
      skipToToken fuel
        { s with cursor := k.takeBreak.2, keyAllowed := s.keyAllowed || !s.inFlow }
    else { s with cursor := k }

/-- Passes over a byte order mark at the very start. -/
def skipMark (s : Scanner) : Scanner :=
  if s.cursor.index == 0 && s.cursor.sees '\ufeff' then { s with cursor := s.cursor.advance } else s

/-- Ends the text: all blocks are closed. -/
def scanEnd (s : Scanner) : Option Scanner := do
  let s ← (s.closeBlocks none).dropKey
  return { s with keyAllowed := false }.push .textEnd

/-- Reads a line that separates documents. -/
def scanMarker (s : Scanner) (t : Token) : Option Scanner := do
  let s ← (s.closeBlocks none).dropKey
  return { s with keyAllowed := false }.take 3 t

/-- Reads an opening bracket. -/
def scanOpening (s : Scanner) (t : Token) : Option Scanner := do
  let s ← s.noteKey
  return { s with keyAllowed := true, bracketKeys := none :: s.bracketKeys }.take 1 t

/-- Reads a closing bracket. -/
def scanClosing (s : Scanner) (t : Token) : Option Scanner := do
  let s ← s.dropKey
  return { s with keyAllowed := false, bracketKeys := s.bracketKeys.tail }.take 1 t

/-- Reads a comma. -/
def scanComma (s : Scanner) : Option Scanner := do
  let s ← s.dropKey
  return { s with keyAllowed := true }.take 1 .comma

/-- Reads the sign of an item. -/
def scanItem (s : Scanner) : Option Scanner := do
  if !s.inFlow && !s.keyAllowed then none
  let s ← (s.openBlock s.cursor.column s.nextPosition .blockListStart).dropKey
  return { s with keyAllowed := true }.take 1 .item

/-- Reads the sign of a key. -/
def scanKey (s : Scanner) : Option Scanner := do
  if !s.inFlow && !s.keyAllowed then none
  let s ← (s.openBlock s.cursor.column s.nextPosition .blockTableStart).dropKey
  return { s with keyAllowed := !s.inFlow }.take 1 .key

/-- Reads the sign of a value. If a key may have started before it, that is one now. -/
def scanValue (s : Scanner) : Option Scanner :=
  match s.possibleKey with
  | some key =>
    let s := (s.insertAt key.position .key).openBlock key.place.column key.position .blockTableStart
    some ({ s.withKey none with keyAllowed := false }.take 1 .value)
  | none => do
    if !s.inFlow && !s.keyAllowed then none
    let s := s.openBlock s.cursor.column s.nextPosition .blockTableStart
    return { s with keyAllowed := !s.inFlow }.take 1 .value

/-- Reads a block of lines. -/
def scanBlock (s : Scanner) (folded : Bool) : Option Scanner := do
  let s ← s.dropKey
  let (text, cursor) ← s.cursor.block folded s.indents.head?
  return { s with keyAllowed := true, cursor }.push (.scalar text false)

/-- Reads a scalar in quotes. -/
def scanQuoted (s : Scanner) (quote : Char) : Option Scanner := do
  let s ← s.noteKey
  let (text, cursor) ← s.cursor.quoted quote
  return { s with keyAllowed := false, cursor }.push (.scalar text false)

/-- Reads a plain scalar. -/
def scanPlain (s : Scanner) : Option Scanner := do
  let s ← s.noteKey
  let indent := match s.indents.head? with
    | some n => n + 1
    | none => 0
  let (scalar, cursor) ← s.cursor.plain s.inFlow indent
  return { s with keyAllowed := scalar.broken, cursor }.push (.scalar scalar.text true)

/-- The characters that start no plain scalar. -/
def isSign (c : Char) : Bool :=
  "-?:,[]\x7b\x7d#&*!|>'\"%@`".toList.contains c

/-- Whether a plain scalar starts at the next character. -/
def startsPlain (s : Scanner) : Bool :=
  match s.cursor.peek? with
  | none => false
  | some c =>
    (!isBlank c && !isBreak c && !isSign c) ||
      (c == '-' && !(s.cursor.peek? 1).any isBlank) ||
      (!s.inFlow && (c == '?' || c == ':') && !s.cursor.atGap 1)

/-- Reads the next token from its first character on. -/
def scanToken (s : Scanner) : Option Scanner :=
  let k := s.cursor
  match k.peek? with
  | none => s.scanEnd
  | some c =>
    if k.column == 0 && c == '%' then none
    else if k.atMarker '-' then s.scanMarker .documentStart
    else if k.atMarker '.' then s.scanMarker .documentEnd
    else if c == '[' then s.scanOpening .flowListStart
    else if c == '{' then s.scanOpening .flowTableStart
    else if c == ']' then s.scanClosing .flowListEnd
    else if c == '}' then s.scanClosing .flowTableEnd
    else if c == ',' then s.scanComma
    else if c == '-' && k.atGap 1 then s.scanItem
    else if c == '?' && (s.inFlow || k.atGap 1) then s.scanKey
    else if c == ':' && (s.inFlow || k.atGap 1) then s.scanValue
    else if (c == '|' || c == '>') && !s.inFlow then s.scanBlock (c == '>')
    else if c == '\'' || c == '"' then s.scanQuoted c
    else if s.startsPlain then s.scanPlain
    else none

/-- Reads on to the end of the next token. -/
def scan (s : Scanner) : Option Scanner := do
  let s := s.skipMark
  let s ← (s.skipToToken (s.cursor.rest.length + 1)).dropStaleKeys
  (s.closeBlocks (some s.cursor.column)).scanToken

/-- The number of pending tokens that are sure: those in front of all possible keys. -/
def sureCount (s : Scanner) : Nat :=
  ((s.blockKey :: s.bracketKeys).reduceOption.map fun key => key.position - s.given).foldl min
    s.pending.length

/-- All tokens up to the end of the text, or up to where it goes wrong. Reading stops once the end of
the text is given out, and each token takes a character at least. -/
def tokens : Nat → Scanner → List Token
  | 0, _ => []
  | fuel + 1, s =>
    match s.dropStaleKeys with
    | none => []
    | some s =>
      let (sure, pending) := s.pending.splitAt s.sureCount
      if sure.contains .textEnd then sure
      else
        sure ++
          match { s with pending, given := s.given + sure.length }.scan with
          | none => []
          | some s => tokens fuel s

end Scanner

/-- The tokens of a text up to its end, or up to where it goes wrong. -/
def Token.ofText (text : String) : List Token :=
  let cs := text.toList
  if cs.all isPrintable then
    let start : Scanner := { cursor := { rest := cs } }
    (start.push .textStart).tokens (cs.length + 3)
  else []

end ControlQuery.Yaml

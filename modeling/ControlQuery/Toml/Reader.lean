import ControlQuery.Toml.Number
import ControlQuery.Toml.Table
import ControlQuery.Toml.Text

/-!
# Reading TOML

Reads a TOML text as a document. Unlike in other notations nothing is known of a text that goes
wrong at some place. Dates and times are not read.
-/

namespace ControlQuery.Toml

/-- The number of lists and tables that may stand inside one another in a value, and the number of
names in a key. -/
def nestingLimit : Nat := 79

/-- Whether a character may stand in a name without quotes. -/
def isBareChar (c : Char) : Bool :=
  c.isAlphanum || c == '-' || c == '_'

/-- Reads one name of a key. -/
def name? (cs : List Char) : Option (String × List Char) :=
  match cs with
  | '"' :: rest => lineText .basic cs.length "" rest
  | '\'' :: rest => lineText .verbatim cs.length "" rest
  | _ =>
    let name := cs.takeWhile isBareChar
    if name.isEmpty then none else some (String.ofList name, cs.dropWhile isBareChar)

/-- Reads the names of a key with dots between them. -/
def names? : Nat → List Char → Option (List String × List Char)
  | 0, _ => none
  | fuel + 1, cs => do
    let (name, rest) ← name? (skipBlanks cs)
    match skipBlanks rest with
    | '.' :: rest => do
      let (names, rest) ← names? fuel rest
      return (name :: names, rest)
    | rest => return ([name], rest)

/-- Reads a key of one or more names. -/
def key? (cs : List Char) : Option (List String × List Char) :=
  names? nestingLimit cs

/-- Reads a key, an equals sign and a value. -/
def assignment? (value : List Char → Option (Document × List Char)) (cs : List Char) :
    Option ((List String × Document) × List Char) := do
  let (key, rest) ← key? cs
  let '=' :: rest := rest | none
  let (d, rest) ← value (skipBlanks rest)
  return ((key, d), rest)

/-- Reads the items of a list behind its opening bracket or a comma, on any number of lines. A comma
may follow the last item. -/
def items? (value : List Char → Option (Document × List Char)) :
    Nat → List Char → Option (List Document × List Char)
  | 0, _ => none
  | fuel + 1, cs =>
    match skipLayout (cs.length + 1) cs with
    | ']' :: rest => some ([], rest)
    | cs => do
      let (d, rest) ← value cs
      match skipLayout (rest.length + 1) rest with
      | ',' :: rest => do
        let (ds, rest) ← items? value fuel rest
        return (d :: ds, rest)
      | ']' :: rest => return ([d], rest)
      | _ => none

/-- Reads the entries of a table in braces, at least one of them. -/
def entries? (value : List Char → Option (Document × List Char)) :
    Nat → List Char → Option (List (List String × Document) × List Char)
  | 0, _ => none
  | fuel + 1, cs => do
    let (e, rest) ← assignment? value cs
    match skipBlanks rest with
    | ',' :: rest => do
      let (es, rest) ← entries? value fuel rest
      return (e :: es, rest)
    | '}' :: rest => return ([e], rest)
    | _ => none

/-- Reads a value in which at most so many lists and tables stand inside one another. -/
def value? : Nat → List Char → Option (Document × List Char)
  | nesting, cs =>
    match cs with
    | '"' :: _ => (text? .basic cs).map fun (s, rest) => (.text s, rest)
    | '\'' :: _ => (text? .verbatim cs).map fun (s, rest) => (.text s, rest)
    | 't' :: 'r' :: 'u' :: 'e' :: rest => some (.bool true, rest)
    | 'f' :: 'a' :: 'l' :: 's' :: 'e' :: rest => some (.bool false, rest)
    | '[' :: rest =>
      match nesting with
      | 0 => none
      | nesting + 1 => do
        let (ds, rest) ← items? (value? nesting) (rest.length + 1) rest
        return (.list ds true, rest)
    | '{' :: rest =>
      match nesting with
      | 0 => none
      | nesting + 1 => do
        match skipBlanks rest with
        | '}' :: rest => return (.table [] true, rest)
        | rest =>
          let (es, rest) ← entries? (value? nesting) (rest.length + 1) rest
          return ((← Entries.insertAll [] es).document, rest)
    | _ => number? cs

/-- Reads the header of a section. -/
def header? : List Char → Option (Header × List Char)
  | '[' :: '[' :: cs => do
    let (path, rest) ← key? cs
    let ']' :: ']' :: rest := rest | none
    return ({ path, isElement := true }, rest)
  | '[' :: cs => do
    let (path, rest) ← key? cs
    let ']' :: rest := rest | none
    return ({ path, isElement := false }, rest)
  | _ => none

/-- A line of a text that is not empty. -/
inductive Line where
  | header (h : Header)
  | entry (key : List String) (d : Document)

/-- Reads lines. -/
def lines? : Nat → List Char → Option (List Line)
  | 0, _ => none
  | fuel + 1, cs =>
    match skipLayout (cs.length + 1) cs with
    | [] => some []
    | cs => do
      let (line, rest) ← match cs with
        | '[' :: _ => (header? cs).map fun (h, rest) => (Line.header h, rest)
        | _ => (assignment? (value? nestingLimit) cs).map fun ((key, d), rest) =>
            (Line.entry key d, rest)
      return line :: (← lines? fuel (← lineEnd? rest))

/-- The values in front of the first header, and the sections. -/
def sectionsOf : List Line → List (List String × Document) × List Section
  | [] => ([], [])
  | .entry key d :: lines =>
    let (values, sections) := sectionsOf lines
    ((key, d) :: values, sections)
  | .header header :: lines =>
    let (values, sections) := sectionsOf lines
    ([], { header, values } :: sections)

/-- Passes over a byte order mark. -/
def skipMark : List Char → List Char
  | '\ufeff' :: cs => cs
  | cs => cs

/-- Reads a whole text. -/
def read (text : String) : Option Document := do
  let cs := skipMark text.toList
  let (values, sections) := sectionsOf (← lines? (cs.length + 1) cs)
  tableOf? values sections

end ControlQuery.Toml

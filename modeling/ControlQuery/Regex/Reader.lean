import ControlQuery.Regex.Expr
import ControlQuery.Text.Digits

/-!
# Reading regular expressions

Reads the written form of a regular expression. A text that is no expression has no reading: an
unclosed group or class, a repetition of nothing, a range that runs backwards, a look-around, a
back-reference, an unknown escape, flag or category.
-/

namespace ControlQuery.Regex

/-- The flags in force at a place of the expression. -/
structure Flags where
  /-- Whether case is ignored, if the expression says so itself. -/
  ignoreCase : Option Bool := none
  /-- Whether `^` and `$` also match at line breaks. -/
  multiLine : Bool := false
  /-- Whether `.` also matches a line break. -/
  dotAll : Bool := false
  /-- Whether white space and comments between the items are skipped. -/
  spaced : Bool := false

/-- The greatest repetition count. -/
def greatestCount : Nat := 0xFFFFFFFF

/-- The text behind the next line break. -/
def dropLine : List Char → List Char
  | [] => []
  | '\n' :: cs => cs
  | _ :: cs => dropLine cs

theorem length_dropLine_le (cs : List Char) : (dropLine cs).length ≤ cs.length := by
  fun_induction dropLine cs with
  | case1 => exact Nat.le_refl 0
  | case2 cs => exact Nat.le_succ cs.length
  | case3 c cs _ ih => exact Nat.le_succ_of_le ih

/-- Passes over white space and comments if the flags say that they do not count. -/
def skipBlank (spaced : Bool) (cs : List Char) : List Char :=
  if spaced then go cs else cs
where
  go : List Char → List Char
    | [] => []
    | c :: rest =>
      if Unicode.isWhiteSpace c then go rest
      else if c = '#' then go (dropLine rest)
      else c :: rest
  termination_by cs => cs.length
  decreasing_by
    · simp
    · have := length_dropLine_le rest
      simp only [List.length_cons]; omega

/-- The characters with a meaning of their own, which a backslash turns into plain ones. -/
def isEscapable (c : Char) : Bool :=
  c.toNat < 128 && !c.isAlphanum && c != '<' && c != '>'

/-- What a backslash and the characters after it stand for. -/
inductive Escape where
  | literal (c : Char)
  | set (s : CharSet)
  | assertion (a : Assertion)

/-- Reads the given number of hexadecimal digits. -/
def hexDigits (spaced : Bool) : Nat → Nat → List Char → Option (Nat × List Char)
  | 0, value, cs => some (value, cs)
  | n + 1, value, cs =>
    match cs with
    | c :: rest => do
      hexDigits spaced n (16 * value + (← Digits.hexDigit? c)) (skipBlank spaced rest)
    | [] => none

/-- Reads hexadecimal digits up to a closing brace; there must be one at least. -/
def hexBraced (spaced : Bool) : Nat → Nat → Bool → List Char → Option (Nat × List Char)
  | 0, _, _, _ => none
  | fuel + 1, value, some?, cs =>
    match cs with
    | '}' :: rest => if some? then some (value, skipBlank spaced rest) else none
    | c :: rest => do
      hexBraced spaced fuel (16 * value + (← Digits.hexDigit? c)) true (skipBlank spaced rest)
    | [] => none

/-- Reads the code point of a hexadecimal escape of a given width. -/
def hexEscape (spaced : Bool) (width : Nat) (cs : List Char) : Option (Escape × List Char) := do
  let (value, rest) ← match skipBlank spaced cs with
    | '{' :: rest => hexBraced spaced (cs.length + 1) 0 false (skipBlank spaced rest)
    | cs => hexDigits spaced width 0 cs
  return (.literal (← Digits.ofCodePoint? value), rest)

/-- Reads the name of a category, in braces or as a single letter. -/
def categoryName (spaced : Bool) (cs : List Char) : Option (String × List Char) :=
  match skipBlank spaced cs with
  | '{' :: rest =>
    let name := (rest.takeWhile (· != '}')).filter fun c => !spaced || !Unicode.isWhiteSpace c
    match rest.dropWhile (· != '}') with
    | '}' :: rest => some (String.ofList name, rest)
    | _ => none
  | '\\' :: _ => none
  | c :: rest => some (String.singleton c, rest)
  | [] => none

/-- The word boundary that a name in braces stands for. -/
def boundary? : String → Option Assertion
  | "start" => some .wordStart
  | "end" => some .wordEnd
  | "start-half" => some .wordStartHalf
  | "end-half" => some .wordEndHalf
  | _ => none

/-- Reads a word boundary: a name in braces says which. Braces that hold no name are left alone,
since they may be a repetition. -/
def wordBoundary (spaced : Bool) (cs : List Char) : Option (Escape × List Char) :=
  let isNameChar (c : Char) := c == '-' || c.isAlpha
  match cs with
  | '{' :: rest =>
    match skipBlank spaced rest with
    | [] => none
    | c :: rest' =>
      if isNameChar c then
        let inner := (c :: rest').takeWhile (· != '}')
        let name := inner.filter fun c => !spaced || !Unicode.isWhiteSpace c
        match (c :: rest').dropWhile (· != '}') with
        | '}' :: after => (boundary? (String.ofList name)).map fun a => (.assertion a, after)
        | _ => none
      else some (.assertion .wordBoundary, cs)
  | _ => some (.assertion .wordBoundary, cs)

/-- Reads what follows a backslash. -/
def escape (flags : Flags) : List Char → Option (Escape × List Char)
  | [] => none
  | c :: rest =>
    let category (negated : Bool) := do
      let (name, rest) ← categoryName flags.spaced rest
      let set := CharSet.fold flags.ignoreCase (.named (← NamedSet.ofCategoryName? name))
      return (Escape.set (if negated then .compl set else set), rest)
    match c with
    | 'x' => hexEscape flags.spaced 2 rest
    | 'u' => hexEscape flags.spaced 4 rest
    | 'U' => hexEscape flags.spaced 8 rest
    | 'p' => category false
    | 'P' => category true
    | 'd' => some (.set (.named .digit), rest)
    | 'D' => some (.set (.compl (.named .digit)), rest)
    | 's' => some (.set (.named .space), rest)
    | 'S' => some (.set (.compl (.named .space)), rest)
    | 'w' => some (.set (.named .word), rest)
    | 'W' => some (.set (.compl (.named .word)), rest)
    | 'a' => some (.literal '\x07', rest)
    | 'f' => some (.literal '\x0c', rest)
    | 't' => some (.literal '\t', rest)
    | 'n' => some (.literal '\n', rest)
    | 'r' => some (.literal '\r', rest)
    | 'v' => some (.literal '\x0b', rest)
    | 'A' => some (.assertion .textStart, rest)
    | 'z' => some (.assertion .textEnd, rest)
    | 'b' => wordBoundary flags.spaced rest
    | 'B' => some (.assertion .notWordBoundary, rest)
    | '<' => some (.assertion .wordStart, rest)
    | '>' => some (.assertion .wordEnd, rest)
    | c => if isEscapable c then some (.literal c, rest) else none

/-- The operations between the parts of a bracketed class. -/
inductive SetOp where
  | inter
  | diff
  | symmDiff

/-- Joins the part on the left, if any, with the part just read. Case is widened on both sides
first. -/
def joinSets (flags : Flags) (left : Option (SetOp × CharSet)) (right : CharSet) : CharSet :=
  match left with
  | none => right
  | some (op, left) =>
    let l := CharSet.fold flags.ignoreCase left
    let r := CharSet.fold flags.ignoreCase right
    match op with
    | .inter => .inter l r
    | .diff => .diff l r
    | .symmDiff => .symmDiff l r

/-- Reads one character or escape inside brackets. -/
def setAtom (flags : Flags) : List Char → Option (Escape × List Char)
  | [] => none
  | '\\' :: rest => escape flags rest
  | c :: rest => some (.literal c, rest)

/-- Reads a range, a character or a named set inside brackets. -/
def setRange (flags : Flags) (cs : List Char) : Option (CharSet × List Char) := do
  let (first, rest) ← setAtom flags cs
  let rest := skipBlank flags.spaced rest
  let alone := match first with
    | .literal c => some (.single c, rest)
    | .set s => some (s, rest)
    | .assertion _ => none
  match rest with
  | [] => none
  | '-' :: afterDash =>
    match skipBlank flags.spaced afterDash with
    | [] => none
    | ']' :: _ => alone
    | '-' :: _ => alone
    | second =>
      let (last, rest) ← setAtom flags second
      match first, last with
      | .literal a, .literal b => if a ≤ b then some (.range a b, rest) else none
      | _, _ => none
  | _ => alone

/-- Reads a named set such as `[:alpha:]`, if there is one behind the opening bracket. -/
def bracketName? (flags : Flags) (cs : List Char) : Option (CharSet × List Char) := do
  let ':' :: rest := cs | none
  let (negated, rest) := match rest with
    | '^' :: rest => (true, rest)
    | _ => (false, rest)
  let name := rest.takeWhile (· != ':')
  match rest.dropWhile (· != ':') with
  | ':' :: ']' :: rest =>
    let set := CharSet.fold flags.ignoreCase (.named (← NamedSet.ofBracketName? (String.ofList name)))
    return (if negated then .compl set else set, rest)
  | _ => none

/-- Reads the hyphens that stand for themselves at the start of a class. -/
def leadingHyphens (spaced : Bool) : Nat → CharSet → Bool → List Char →
    CharSet × Bool × List Char
  | 0, set, found, cs => (set, found, cs)
  | fuel + 1, set, found, cs =>
    match cs with
    | '-' :: rest =>
      leadingHyphens spaced fuel (.union set (.single '-')) true (skipBlank spaced rest)
    | _ => (set, found, cs)

/-- Reads the parts of a class up to its closing bracket. -/
def setParts (flags : Flags) : Nat → Bool → Option (SetOp × CharSet) → CharSet → List Char →
    Option (CharSet × List Char)
  | 0, _, _, _, _ => none
  | fuel + 1, negated, left, set, cs =>
    match skipBlank flags.spaced cs with
    | [] => none
    | ']' :: rest =>
      let whole := CharSet.fold flags.ignoreCase (joinSets flags left set)
      some (if negated then .compl whole else whole, rest)
    | '&' :: '&' :: rest =>
      setParts flags fuel negated (some (.inter, joinSets flags left set)) .empty rest
    | '-' :: '-' :: rest =>
      setParts flags fuel negated (some (.diff, joinSets flags left set)) .empty rest
    | '~' :: '~' :: rest =>
      setParts flags fuel negated (some (.symmDiff, joinSets flags left set)) .empty rest
    | '[' :: rest =>
      match bracketName? flags rest with
      | some (named, rest) => setParts flags fuel negated left (.union set named) rest
      | none => do
        let (negated', start, rest) ← classStart flags rest
        let (inner, rest) ← setParts flags fuel negated' none start rest
        setParts flags fuel negated left (.union set inner) rest
    | cs => do
      let (part, rest) ← setRange flags cs
      setParts flags fuel negated left (.union set part) rest
where
  /-- Reads what may stand at the start of a class only: a caret that negates it, hyphens, and a
  closing bracket that stands for itself. -/
  classStart (flags : Flags) (cs : List Char) : Option (Bool × CharSet × List Char) :=
    let cs := skipBlank flags.spaced cs
    let (negated, cs) := match cs with
      | '^' :: rest => (true, skipBlank flags.spaced rest)
      | _ => (false, cs)
    let (set, hyphens, cs) := leadingHyphens flags.spaced cs.length .empty false cs
    match cs with
    | [] => none
    | ']' :: rest =>
      if hyphens then some (negated, set, cs)
      else some (negated, .single ']', skipBlank flags.spaced rest)
    | _ => some (negated, set, cs)

/-- Reads a class behind its opening bracket. -/
def bracketClass (flags : Flags) (cs : List Char) : Option (CharSet × List Char) := do
  let (negated, start, rest) ← setParts.classStart flags cs
  setParts flags (cs.length + 1) negated none start rest

/-- Reads the flags of a group, up to a colon or a closing parenthesis. -/
def groupFlags : Bool → Bool → List Char → Flags → List Char → Option (Flags × List Char)
  | _, _, _, _, [] => none
  | negated, dangling, seen, flags, c :: rest =>
    if c = ':' || c = ')' then
      if dangling then none else some (flags, c :: rest)
    else if c = '-' then
      if negated then none else groupFlags true true seen flags rest
    else if seen.contains c then none
    else
      let on := !negated
      match c with
      | 'i' => groupFlags negated false (c :: seen) { flags with ignoreCase := some on } rest
      | 'm' => groupFlags negated false (c :: seen) { flags with multiLine := on } rest
      | 's' => groupFlags negated false (c :: seen) { flags with dotAll := on } rest
      | 'x' => groupFlags negated false (c :: seen) { flags with spaced := on } rest
      | 'U' | 'u' | 'R' => groupFlags negated false (c :: seen) flags rest
      | _ => none

/-- Whether a group may have this name. -/
def isGroupName : List Char → Bool
  | [] => false
  | c :: cs =>
    let isStart (c : Char) := c == '_' || Unicode.GeneralCategory.letters.any fun g => g.contains c
    isStart c && cs.all fun c =>
      isStart c || c == '.' || c == '[' || c == ']' ||
        Unicode.GeneralCategory.numbers.any fun g => g.contains c

/-- Reads a decimal count, with blanks around it. -/
def count (cs : List Char) : Option Nat × List Char :=
  let cs := cs.dropWhile Unicode.isWhiteSpace
  let digits := cs.takeWhile Char.isDigit
  let rest := (cs.dropWhile Char.isDigit).dropWhile Unicode.isWhiteSpace
  let value := digits.foldl (fun n c => 10 * n + (c.toNat - '0'.toNat)) 0
  (if digits.isEmpty || value > greatestCount then none else some value, rest)

/-- Reads the bounds of a counted repetition behind its opening brace. -/
def bounds (spaced : Bool) (cs : List Char) : Option (Nat × Option Nat × List Char) := do
  let (least, rest) := count (skipBlank spaced cs)
  let least ← least
  match rest with
  | '}' :: rest => some (least, some least, rest)
  | ',' :: rest =>
    match skipBlank spaced rest with
    | '}' :: rest => some (least, none, rest)
    | rest =>
      match count rest with
      | (some most, '}' :: rest) => if least ≤ most then some (least, some most, rest) else none
      | _ => none
  | _ => none

/-- What has been read of a group. -/
structure Progress where
  flags : Flags
  /-- The names of the groups so far. -/
  names : List String
  /-- The finished alternatives, last first. -/
  done : List Expr := []
  /-- The items of the current alternative, last first; a change of flags is an item that cannot be
  repeated. -/
  items : List (Option Expr) := []

namespace Progress

/-- Adds an item. -/
def push (p : Progress) (e : Expr) : Progress :=
  { p with items := some e :: p.items }

/-- Adds an item that matches one character. -/
def pushSet (p : Progress) (s : CharSet) : Progress :=
  p.push (.char s)

/-- The current alternative. -/
def current (p : Progress) : Expr :=
  Expr.seqAll (p.items.reverse.filterMap id)

/-- The expression read so far. -/
def expr (p : Progress) : Expr :=
  Expr.altAll (p.current :: p.done).reverse

/-- Repeats the last item, which must not be a change of flags. -/
def repeatLast (p : Progress) (least : Nat) (most : Option Nat) : Option Progress :=
  match p.items with
  | some e :: items => some { p with items := some (.repeated least most e) :: items }
  | _ => none

end Progress

/-- Passes over the mark of a lazy repetition. -/
def skipLazy : List Char → List Char
  | '?' :: rest => rest
  | cs => cs

/-- Reads alternatives up to a closing parenthesis or the end. -/
def group : Nat → Progress → List Char → Option (Progress × List Char)
  | 0, _, _ => none
  | fuel + 1, p, cs =>
    let spaced := p.flags.spaced
    match skipBlank spaced cs with
    | [] => some (p, [])
    | ')' :: rest => some (p, ')' :: rest)
    | '|' :: rest => group fuel { p with done := p.current :: p.done, items := [] } rest
    | '(' :: rest => do
      let rest := skipBlank spaced rest
      let inner (flags : Flags) (names : List String) (rest : List Char) := do
        let (q, rest) ← group fuel { flags, names } rest
        let ')' :: rest := rest | none
        group fuel ({ p with names := q.names }.push q.expr) rest
      let named (rest : List Char) := do
        let name := rest.takeWhile (· != '>')
        let '>' :: rest := rest.dropWhile (· != '>') | none
        let text := String.ofList name
        if isGroupName name && !p.names.contains text then inner p.flags (text :: p.names) rest
        else none
      match rest with
      | '?' :: '=' :: _ | '?' :: '!' :: _ => none
      | '?' :: '<' :: '=' :: _ | '?' :: '<' :: '!' :: _ => none
      | '?' :: 'P' :: '<' :: rest => named rest
      | '?' :: '<' :: rest => named rest
      | '?' :: rest => do
        let (flags, after) ← groupFlags false false [] p.flags rest
        match after with
        | ':' :: after => inner flags p.names after
        | ')' :: after =>
          if rest.head? == some ')' then none
          else group fuel { p with flags, items := none :: p.items } after
        | _ => none
      | rest => inner p.flags p.names rest
    | '[' :: rest => do
      let (set, rest) ← bracketClass p.flags rest
      group fuel (p.pushSet set) rest
    | '?' :: rest => do group fuel (← p.repeatLast 0 (some 1)) (skipLazy rest)
    | '*' :: rest => do group fuel (← p.repeatLast 0 none) (skipLazy rest)
    | '+' :: rest => do group fuel (← p.repeatLast 1 none) (skipLazy rest)
    | '{' :: rest => do
      let (least, most, rest) ← bounds spaced rest
      group fuel (← p.repeatLast least most) (skipLazy (skipBlank spaced rest))
    | '.' :: rest =>
      let all := CharSet.compl .empty
      group fuel (p.pushSet (if p.flags.dotAll then all else .compl (.single '\n'))) rest
    | '^' :: rest =>
      group fuel (p.push (.assertion (if p.flags.multiLine then .lineStart else .textStart))) rest
    | '$' :: rest =>
      group fuel (p.push (.assertion (if p.flags.multiLine then .lineEnd else .textEnd))) rest
    | '\\' :: rest => do
      let (e, rest) ← escape p.flags rest
      match e with
      | .literal c => group fuel (p.pushSet (.fold p.flags.ignoreCase (.single c))) rest
      | .set s => group fuel (p.pushSet s) rest
      | .assertion a => group fuel (p.push (.assertion a)) rest
    | c :: rest => group fuel (p.pushSet (.fold p.flags.ignoreCase (.single c))) rest

/-- Reads a whole regular expression. -/
def Expr.parse? (text : String) : Option Expr := do
  let cs := text.toList
  let (p, []) ← group (cs.length + 1) { flags := {}, names := [] } cs | none
  return p.expr

end ControlQuery.Regex

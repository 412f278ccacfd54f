import ControlQuery.CPath.Syntax

/-!
# The grammar of path expressions

    path       := separator? step (separator step)*
    separator  := "//" | "/"
    step       := ".." | "." | (axis "::")? node_test predicate*
    axis       := axis_name ("\x7b" depth "\x7d")?
    node_test  := "*" | identifier
    predicate  := "[" (slice | position | or_expr) "]"
    or_expr    := and_expr ("or" and_expr)*
    and_expr   := unary ("and" unary)*
    unary      := "(" or_expr ")" | "@" property operator literal "i"?
                | "relative" "(" distance "," ("*" | or_expr) ")"
                | ("." | "..") (separator step)*

Each rule is a reader, and of several alternatives the first one that can be read is taken. Blanks
may stand between the tokens, but not inside an axis, a property with its sign, a literal or a
distance. Conditions nest, so their reader is built up from a reader of the conditions inside.
-/

namespace ControlQuery.CPath

open Reader

/-- Whether a character may go on an identifier. -/
def isIdentChar (c : Char) : Bool :=
  c.isAlphanum || c == '_'

/-- Reads a run of digits. -/
def digits : Reader Unit := do
  let _ ← satisfy Char.isDigit
  let _ ← many (satisfy Char.isDigit)

/-- Reads a name of a control type or a property. -/
def identifier : Reader Lexeme :=
  rule .identifier <| lexeme do
    let _ ← satisfy fun c => c.isAlpha || c == '_'
    let _ ← many (satisfy isIdentChar)

/-- Reads a keyword that no character of an identifier follows. -/
def keyword (r : Rule) (s : String) : Reader Unit :=
  rule r do
    token s
    notBefore isIdentChar

/-- Reads the slashes between two steps. -/
def separator : Reader Separator :=
  rule .separator <| firstOf
    [do token "//"; return .descendant,
     do token "/"; return .child]

/-- Reads two dots. -/
def parentStep : Reader Unit :=
  rule .parentStep (token "..")

/-- Reads a dot. -/
def selfStep : Reader Unit :=
  rule .selfStep (token ".")

/-- Reads an axis with its depth limit. -/
def axis : Reader AxisSyntax :=
  rule .axis do
    let name ← rule .axisName <| lexeme do
      let _ ← satisfy Char.isAlpha
      let _ ← many (satisfy fun c => c.isAlphanum || c == '-')
    let depth ← optional <| rule .depth do
      token "\x7b"
      let depth ← rule .integer (lexeme digits)
      token "\x7d"
      return depth
    return { name, depth }

/-- Reads a star or the name of a control type. -/
def nodeTest : Reader NodeTest :=
  firstOf
    [do rule .wildcard (token "*"); return .any,
     do return .controlType (← identifier).text]

/-- Reads a page with a colon between its bounds. -/
def slice : Reader (Option Lexeme × Option Lexeme) :=
  rule .slice do
    let start ← optional (rule .sliceStart (lexeme digits))
    blanks
    token ":"
    blanks
    let stop ← optional (rule .sliceEnd (lexeme digits))
    return (start, stop)

/-- Reads one predicate with its brackets. -/
def predicate (expr : Reader Expr) : Reader Predicate :=
  rule .predicate do
    let (make, whole) ← withLexeme do
      token "["
      blanks
      let make ← firstOf
        [do let ((start, stop), bounds) ← withLexeme slice
            return fun whole => Predicate.slice whole bounds start stop,
         do let number ← rule .position (lexeme digits)
            return fun whole => Predicate.position whole number,
         do let e ← expr
            return fun _ => Predicate.condition e]
      blanks
      token "]"
      return make
    return make whole

/-- Reads a step behind its separator. -/
def step (expr : Reader Expr) (sep : Separator) : Reader Step :=
  rule .step <| firstOf
    [do parentStep; return .parent sep,
     do selfStep; return .self sep,
     rule .axisStep do
      let axis ← optional do
        let a ← axis
        blanks
        token "::"
        return a
      blanks
      let test ← nodeTest
      let predicates ← manySpaced (predicate expr)
      return .axis sep axis test predicates]

/-- Reads steps, each behind a separator. -/
def moreSteps (expr : Reader Expr) : Reader (List Step) :=
  manySpaced do
    let sep ← separator
    blanks
    step expr sep

/-- Reads the sign of a comparison. -/
def operator : Reader Operator :=
  rule .operator <| firstOf
    [do token "!*="; return ⟨true, .contains⟩,
     do token "!~="; return ⟨true, .matches⟩,
     do token "!="; return ⟨true, .equals⟩,
     do token "*="; return ⟨false, .contains⟩,
     do token "~="; return ⟨false, .matches⟩,
     do token "="; return ⟨false, .equals⟩]

/-- Reads what stands between two quotes: a backslash goes with the character after it. -/
def quoted (inner : Rule) (quote : Char) : Reader String := do
  let _ ← satisfy (· == quote)
  let body ← rule inner <| lexeme <| many <| firstOf
    [do let _ ← satisfy (· == '\\')
        let _ ← satisfy fun _ => true,
     do let _ ← satisfy fun c => c != quote && c != '\\']
  let _ ← satisfy (· == quote)
  return body.text

/-- Reads the value of a comparison. -/
def literal : Reader Literal :=
  firstOf
    [do let (body, whole) ← rule .string <| withLexeme <|
          firstOf [quoted .singleInner '\'', quoted .doubleInner '"']
        return .string whole.offset body,
     do let (value, whole) ← rule .boolean <| withLexeme do
          let value ← firstOf
            [do token "true"; return true,
             do token "false"; return false]
          notBefore isIdentChar
          return value
        return .boolean whole.offset value,
     do let number ← rule .number <| lexeme do
          let _ ← optional (token "-")
          digits
        return .number number]

/-- Reads a comparison of a property with a value. -/
def comparison : Reader Expr :=
  rule .comparison do
    let property ← rule .property do
      token "@"
      identifier
    blanks
    let operator ← operator
    blanks
    let literal ← literal
    blanks
    let flag ← optional (keyword .caseFlag "i")
    return .comparison property operator literal flag.isSome

/-- Reads the distance of a relative condition. -/
def distance : Reader DistanceSyntax :=
  rule .distance do
    let ((direction, digits), whole) ← withLexeme do
      let sign ← optional <| firstOf
        [do token "~"; return Direction.any,
         do token "-"; return Direction.up,
         do token "+"; return Direction.down]
      let digits ← lexeme digits
      return (sign.getD .down, digits.text)
    return { whole, direction, digits }

/-- Reads a condition on a control at a distance. -/
def relative (expr : Reader Expr) : Reader Expr :=
  rule .relative do
    token "relative"
    blanks
    token "("
    blanks
    let distance ← distance
    blanks
    token ","
    blanks
    let target ← firstOf
      [do rule .anyNode (token "*"); return none,
       do return some (← expr)]
    blanks
    token ")"
    return .relative distance target

/-- Reads a path from the control itself. -/
def subPath (expr : Reader Expr) : Reader Expr :=
  rule .subPath do
    let start ← firstOf
      [do parentStep; return [Step.parent .child],
       do selfStep; return []]
    let steps ← moreSteps expr
    return .subPath (start ++ steps)

/-- Reads a condition that is no chain. -/
def unary (expr : Reader Expr) : Reader Expr :=
  firstOf
    [rule .group do
      token "("
      blanks
      let e ← expr
      blanks
      token ")"
      return e,
     comparison,
     relative expr,
     subPath expr]

/-- Reads a chain of `and`s. -/
def andExpr (expr : Reader Expr) : Reader Expr :=
  rule .andExpr do
    let first ← unary expr
    let more ← manySpaced do
      keyword .andKeyword "and"
      blanks
      unary expr
    return more.foldl .both first

/-- Reads a chain of `or`s, whose operands are chains of `and`s. -/
def orExpr (expr : Reader Expr) : Reader Expr :=
  rule .orExpr do
    let first ← andExpr expr
    let more ← manySpaced do
      keyword .orKeyword "or"
      blanks
      andExpr expr
    return more.foldl .either first

/-- Reads a condition in which conditions nest less than `n` deep. -/
def exprWithin : Nat → Reader Expr
  | 0 => fail
  | n + 1 => orExpr (exprWithin n)

/-- Reads a path. -/
def path (expr : Reader Expr) : Reader (List Step) :=
  rule .path do
    let first ← rule .leadingStep do
      let sep ← optional separator
      blanks
      step expr (sep.getD .child)
    let more ← moreSteps expr
    return first :: more

/-- Reads a whole text as a path. Each nested condition takes a character at least, so conditions
nest less deep than the text is long. -/
def wholePath (text : String) : Reader (List Step) :=
  rule .cpath do
    blanks
    let steps ← path (exprWithin (text.length + 1))
    blanks
    rule .endOfInput atEnd
    return steps

end ControlQuery.CPath

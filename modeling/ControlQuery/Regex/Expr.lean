import ControlQuery.Regex.CharSet

/-!
# Regular expressions

An expression moves marks over the gaps of a text. The marks on the left of an expression are where
it may start, those on the right where it may then stop, and the text holds a match if marks on all
gaps leave any mark at all. Which of two matches is preferred never matters here, so a greedy and a
lazy repetition are the same.
-/

namespace ControlQuery.Regex

/-- A condition on the characters around a gap of the text. -/
inductive Assertion where
  | textStart
  | textEnd
  | lineStart
  | lineEnd
  | wordBoundary
  | notWordBoundary
  | wordStart
  | wordEnd
  | wordStartHalf
  | wordEndHalf
deriving DecidableEq, Repr

/-- A gap of the text: the characters before and after it, if any. -/
structure Gap where
  before : Option Char
  after : Option Char

namespace Gap

/-- Whether a word character stands before the gap. -/
def wordBefore (g : Gap) : Bool :=
  g.before.any Unicode.isWordChar

/-- Whether a word character stands after the gap. -/
def wordAfter (g : Gap) : Bool :=
  g.after.any Unicode.isWordChar

/-- The gaps of a text, from the one in front of it to the one behind it. -/
def ofText (before : Option Char) : List Char → List Gap
  | [] => [⟨before, none⟩]
  | c :: cs => ⟨before, some c⟩ :: ofText (some c) cs

end Gap

/-- Whether an assertion holds at a gap. -/
def Assertion.holds (a : Assertion) (g : Gap) : Bool :=
  match a with
  | textStart => g.before.isNone
  | textEnd => g.after.isNone
  | lineStart => g.before.all (· == '\n')
  | lineEnd => g.after.all (· == '\n')
  | wordBoundary => g.wordBefore != g.wordAfter
  | notWordBoundary => g.wordBefore == g.wordAfter
  | wordStart => !g.wordBefore && g.wordAfter
  | wordEnd => g.wordBefore && !g.wordAfter
  | wordStartHalf => !g.wordBefore
  | wordEndHalf => !g.wordAfter

/-- A regular expression. -/
inductive Expr where
  | empty
  | char (s : CharSet)
  | assertion (a : Assertion)
  | seq (e f : Expr)
  | alt (e f : Expr)
  /-- At least `least` copies of `e`, and at most `most` if that is given. -/
  | repeated (least : Nat) (most : Option Nat) (e : Expr)

/-- Marks on the gaps of a text, in order. -/
abbrev Marks := List Bool

namespace Marks

/-- The gaps marked by either. -/
def union (m n : Marks) : Marks :=
  List.zipWith (· || ·) m n

/-- Moves each mark over the character behind its gap where `hits` allows it. -/
def advance (hits : List Bool) (m : Marks) : Marks :=
  false :: List.zipWith (· && ·) m hits

/-- Applies `step` `n` times, and stops early once it changes nothing. -/
def iterate (step : Marks → Marks) : Nat → Marks → Marks
  | 0, m => m
  | n + 1, m =>
    let next := step m
    if next == m then m else iterate step n next

end Marks

namespace Expr

/-- Where the expression may stop if it may start at the marks. -/
def move (ignoreCase : Bool) (text : List Char) (gaps : List Gap) : Expr → Marks → Marks
  | empty, m => m
  | char s, m => m.advance (text.map (s.contains ignoreCase))
  | assertion a, m => List.zipWith (fun mark gap => mark && a.holds gap) m gaps
  | seq e f, m => f.move ignoreCase text gaps (e.move ignoreCase text gaps m)
  | alt e f, m => (e.move ignoreCase text gaps m).union (f.move ignoreCase text gaps m)
  | repeated least most e, m =>
    let step := e.move ignoreCase text gaps
    let more := match most with
      | some most => most - least
      | none => text.length + 1
    Marks.iterate (fun m => m.union (step m)) more (Marks.iterate step least m)

/-- Whether the text holds a match anywhere. -/
def isMatch (ignoreCase : Bool) (e : Expr) (text : List Char) : Bool :=
  let gaps := Gap.ofText none text
  (e.move ignoreCase text gaps (gaps.map fun _ => true)).any id

/-- One expression after the other. -/
def seqAll : List Expr → Expr
  | [] => empty
  | [e] => e
  | e :: es => seq e (seqAll es)

/-- Any one of several expressions. -/
def altAll : List Expr → Expr
  | [] => empty
  | [e] => e
  | e :: es => alt e (altAll es)

end Expr

end ControlQuery.Regex

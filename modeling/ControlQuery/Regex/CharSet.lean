import ControlQuery.Unicode.Folding
import ControlQuery.Unicode.GeneralCategory
import ControlQuery.Unicode.WhiteSpace
import ControlQuery.Unicode.Word

/-!
# Sets of characters

The sets that a regular expression can name, with the operations of a bracketed class. Whether case
counts is left open in a set: a part of an expression either fixes it or goes by the whole.
-/

namespace ControlQuery.Regex

/-- The sets of characters that have a name. -/
inductive NamedSet where
  | digit
  | space
  | word
  /-- The characters of any of these general categories. -/
  | categories (gs : List Unicode.GeneralCategory)
  | asciiAlnum
  | asciiAlpha
  | ascii
  | asciiBlank
  | asciiCntrl
  | asciiDigit
  | asciiGraph
  | asciiLower
  | asciiPrint
  | asciiPunct
  | asciiSpace
  | asciiUpper
  | asciiWord
  | asciiXdigit
deriving DecidableEq, Repr

namespace NamedSet

/-- Whether a character belongs to the set. -/
def contains (s : NamedSet) (c : Char) : Bool :=
  let graph := '!' ≤ c && c ≤ '~'
  match s with
  | digit => Unicode.GeneralCategory.decimalNumber.contains c
  | space => Unicode.isWhiteSpace c
  | word => Unicode.isWordChar c
  | categories gs => gs.any fun g => g.contains c
  | asciiAlnum => c.isAlphanum
  | asciiAlpha => c.isAlpha
  | ascii => c.toNat < 128
  | asciiBlank => c == ' ' || c == '\t'
  | asciiCntrl => c.toNat < 32 || c.toNat == 127
  | asciiDigit => c.isDigit
  | asciiGraph => graph
  | asciiLower => c.isLower
  | asciiPrint => graph || c == ' '
  | asciiPunct => graph && !c.isAlphanum
  | asciiSpace => c == ' ' || (9 ≤ c.toNat && c.toNat ≤ 13)
  | asciiUpper => c.isUpper
  | asciiWord => c.isAlphanum || c == '_'
  | asciiXdigit => c.isDigit || ('a' ≤ c && c ≤ 'f') || ('A' ≤ c && c ≤ 'F')

/-- The set that `[:name:]` stands for inside brackets. -/
def ofBracketName? : String → Option NamedSet
  | "alnum" => some asciiAlnum
  | "alpha" => some asciiAlpha
  | "ascii" => some ascii
  | "blank" => some asciiBlank
  | "cntrl" => some asciiCntrl
  | "digit" => some asciiDigit
  | "graph" => some asciiGraph
  | "lower" => some asciiLower
  | "print" => some asciiPrint
  | "punct" => some asciiPunct
  | "space" => some asciiSpace
  | "upper" => some asciiUpper
  | "word" => some asciiWord
  | "xdigit" => some asciiXdigit
  | _ => none

/-- The set that `\p{name}` stands for. Case, blanks, hyphens and underscores do not matter. -/
def ofCategoryName? (name : String) : Option NamedSet :=
  let plain := (name.toList.filter fun c => c != ' ' && c != '-' && c != '_').map Char.toLower
  (Unicode.GeneralCategory.ofName? (String.ofList plain)).map categories

end NamedSet

/-- A set of characters. -/
inductive CharSet where
  | empty
  /-- The characters from `first` to `last`. -/
  | range (first last : Char)
  | named (s : NamedSet)
  | union (s t : CharSet)
  | inter (s t : CharSet)
  | diff (s t : CharSet)
  | symmDiff (s t : CharSet)
  | compl (s : CharSet)
  /-- The set `s`, widened to all characters that agree with a member up to case if `ignoreCase`
  says so; with no word on it, the expression as a whole decides. -/
  | fold (ignoreCase : Option Bool) (s : CharSet)

namespace CharSet

/-- The set of one character. -/
def single (c : Char) : CharSet :=
  range c c

/-- Membership, where `ignoreCase` is the choice of the expression as a whole. -/
def contains (ignoreCase : Bool) : CharSet → Char → Bool
  | empty, _ => false
  | range first last, c => first ≤ c && c ≤ last
  | named s, c => s.contains c
  | union s t, c => s.contains ignoreCase c || t.contains ignoreCase c
  | inter s t, c => s.contains ignoreCase c && t.contains ignoreCase c
  | diff s t, c => s.contains ignoreCase c && !t.contains ignoreCase c
  | symmDiff s t, c => s.contains ignoreCase c != t.contains ignoreCase c
  | compl s, c => !s.contains ignoreCase c
  | fold choice s, c =>
    if choice.getD ignoreCase then (Unicode.caseVariants c).any fun d => s.contains ignoreCase d
    else s.contains ignoreCase c

end CharSet

end ControlQuery.Regex

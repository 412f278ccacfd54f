import ControlQuery.Unicode.Letters
import ControlQuery.Unicode.Marks
import ControlQuery.Unicode.Numbers
import ControlQuery.Unicode.Punctuation
import ControlQuery.Unicode.Separators
import ControlQuery.Unicode.Symbols

/-!
# General categories

Every character has one general category. A table lists the code points of each category but the
last, which takes what no table holds. A name stands for one category or for a group of them.
-/

namespace ControlQuery.Unicode

/-- The general categories of characters. -/
inductive GeneralCategory where
  | uppercaseLetter
  | lowercaseLetter
  | titlecaseLetter
  | modifierLetter
  | otherLetter
  | nonspacingMark
  | spacingMark
  | enclosingMark
  | decimalNumber
  | letterNumber
  | otherNumber
  | connectorPunctuation
  | dashPunctuation
  | openPunctuation
  | closePunctuation
  | initialPunctuation
  | finalPunctuation
  | otherPunctuation
  | mathSymbol
  | currencySymbol
  | modifierSymbol
  | otherSymbol
  | spaceSeparator
  | lineSeparator
  | paragraphSeparator
  | control
  | format
  | privateUse
  | unassigned
deriving DecidableEq, Repr

namespace GeneralCategory

/-- Whether a table lists the character under the category. -/
def lists (g : GeneralCategory) (c : Char) : Bool :=
  match g with
  | uppercaseLetter => uppercaseLetterSpans.any fun s => s.contains c
  | lowercaseLetter => lowercaseLetterSpans.any fun s => s.contains c
  | titlecaseLetter => CodeRange.anyContains titlecaseLetterRanges c
  | modifierLetter => CodeRange.anyContains modifierLetterRanges c
  | otherLetter => CodeRange.anyContains otherLetterRanges c
  | nonspacingMark => CodeRange.anyContains nonspacingMarkRanges c
  | spacingMark => CodeRange.anyContains spacingMarkRanges c
  | enclosingMark => CodeRange.anyContains enclosingMarkRanges c
  | decimalNumber => CodeRange.anyContains decimalNumberRanges c
  | letterNumber => CodeRange.anyContains letterNumberRanges c
  | otherNumber => CodeRange.anyContains otherNumberRanges c
  | connectorPunctuation => CodeRange.anyContains connectorPunctuationRanges c
  | dashPunctuation => CodeRange.anyContains dashPunctuationRanges c
  | openPunctuation => CodeRange.anyContains openPunctuationRanges c
  | closePunctuation => CodeRange.anyContains closePunctuationRanges c
  | initialPunctuation => CodeRange.anyContains initialPunctuationRanges c
  | finalPunctuation => CodeRange.anyContains finalPunctuationRanges c
  | otherPunctuation => CodeRange.anyContains otherPunctuationRanges c
  | mathSymbol => CodeRange.anyContains mathSymbolRanges c
  | currencySymbol => CodeRange.anyContains currencySymbolRanges c
  | modifierSymbol => CodeRange.anyContains modifierSymbolRanges c
  | otherSymbol => CodeRange.anyContains otherSymbolRanges c
  | spaceSeparator => CodeRange.anyContains spaceSeparatorRanges c
  | lineSeparator => CodeRange.anyContains lineSeparatorRanges c
  | paragraphSeparator => CodeRange.anyContains paragraphSeparatorRanges c
  | control => CodeRange.anyContains controlRanges c
  | format => CodeRange.anyContains formatRanges c
  | privateUse => CodeRange.anyContains privateUseRanges c
  | unassigned => false

/-- The categories that have a table. -/
def tabulated : List GeneralCategory :=
  [
    uppercaseLetter, lowercaseLetter, titlecaseLetter, modifierLetter, otherLetter, nonspacingMark,
    spacingMark, enclosingMark, decimalNumber, letterNumber, otherNumber, connectorPunctuation,
    dashPunctuation, openPunctuation, closePunctuation, initialPunctuation, finalPunctuation,
    otherPunctuation, mathSymbol, currencySymbol, modifierSymbol, otherSymbol, spaceSeparator,
    lineSeparator, paragraphSeparator, control, format, privateUse
  ]

/-- Whether a character is of the category. -/
def contains (g : GeneralCategory) (c : Char) : Bool :=
  if g = unassigned then tabulated.all fun h => !h.lists c else g.lists c

/-- The categories of letters that come in two cases. -/
def casedLetters : List GeneralCategory :=
  [uppercaseLetter, lowercaseLetter, titlecaseLetter]

/-- The categories of letters. -/
def letters : List GeneralCategory :=
  [uppercaseLetter, lowercaseLetter, titlecaseLetter, modifierLetter, otherLetter]

/-- The categories of marks. -/
def marks : List GeneralCategory :=
  [nonspacingMark, spacingMark, enclosingMark]

/-- The categories of numbers. -/
def numbers : List GeneralCategory :=
  [decimalNumber, letterNumber, otherNumber]

/-- The categories of punctuation. -/
def punctuation : List GeneralCategory :=
  [
    connectorPunctuation, dashPunctuation, openPunctuation, closePunctuation, initialPunctuation,
    finalPunctuation, otherPunctuation
  ]

/-- The categories of symbols. -/
def symbols : List GeneralCategory :=
  [mathSymbol, currencySymbol, modifierSymbol, otherSymbol]

/-- The categories of separators. -/
def separators : List GeneralCategory :=
  [spaceSeparator, lineSeparator, paragraphSeparator]

/-- The categories of control characters and characters without a use. -/
def others : List GeneralCategory :=
  [control, format, privateUse, unassigned]

/-- The categories that a name stands for: one category or a group of them. The name is in lower
case and holds no blank, hyphen or underscore. -/
def ofName? : String → Option (List GeneralCategory)
  | "l" | "letter" => some letters
  | "lc" | "casedletter" => some casedLetters
  | "m" | "mark" | "combiningmark" => some marks
  | "n" | "number" => some numbers
  | "p" | "punctuation" | "punct" => some punctuation
  | "s" | "symbol" => some symbols
  | "z" | "separator" => some separators
  | "c" | "other" => some others
  | "lu" | "uppercaseletter" => some [uppercaseLetter]
  | "ll" | "lowercaseletter" => some [lowercaseLetter]
  | "lt" | "titlecaseletter" => some [titlecaseLetter]
  | "lm" | "modifierletter" => some [modifierLetter]
  | "lo" | "otherletter" => some [otherLetter]
  | "mn" | "nonspacingmark" => some [nonspacingMark]
  | "mc" | "spacingmark" => some [spacingMark]
  | "me" | "enclosingmark" => some [enclosingMark]
  | "nd" | "decimalnumber" | "digit" => some [decimalNumber]
  | "nl" | "letternumber" => some [letterNumber]
  | "no" | "othernumber" => some [otherNumber]
  | "pc" | "connectorpunctuation" => some [connectorPunctuation]
  | "pd" | "dashpunctuation" => some [dashPunctuation]
  | "ps" | "openpunctuation" => some [openPunctuation]
  | "pe" | "closepunctuation" => some [closePunctuation]
  | "pi" | "initialpunctuation" => some [initialPunctuation]
  | "pf" | "finalpunctuation" => some [finalPunctuation]
  | "po" | "otherpunctuation" => some [otherPunctuation]
  | "sm" | "mathsymbol" => some [mathSymbol]
  | "sc" | "currencysymbol" => some [currencySymbol]
  | "sk" | "modifiersymbol" => some [modifierSymbol]
  | "so" | "othersymbol" => some [otherSymbol]
  | "zs" | "spaceseparator" => some [spaceSeparator]
  | "zl" | "lineseparator" => some [lineSeparator]
  | "zp" | "paragraphseparator" => some [paragraphSeparator]
  | "cc" | "control" | "cntrl" => some [control]
  | "cf" | "format" => some [format]
  | "co" | "privateuse" => some [privateUse]
  | "cn" | "unassigned" => some [unassigned]
  | _ => none

end GeneralCategory

end ControlQuery.Unicode

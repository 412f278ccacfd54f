/-!
# Coloured output

Output is a row of pieces, each of which plays a part that decides its colour. Without colours a
piece is just its text; with colours the text stands between two control sequences.
-/

namespace ControlQuery.Report

/-- The part that a piece of output plays. -/
inductive Part where
  | layout
  | path
  | key
  | text
  | truthValue
  | number
  | null
deriving DecidableEq, Repr

/-- The colour of a part as the parameters of a control sequence. -/
def Part.colour? : Part → Option String
  | layout => none
  | path => some "1;35"
  | key => some "36"
  | text => some "32"
  | truthValue => some "1;33"
  | number => some "33"
  | null => some "2;31"

/-- A piece of output. -/
structure Piece where
  part : Part
  text : String
deriving DecidableEq, Repr

/-- The control sequence with some parameters. -/
def control (parameters : String) : List Char :=
  ['\x1b', '['] ++ parameters.toList ++ ['m']

/-- Writes `start` again behind each sequence in a text that resets colours. -/
def restart (start : List Char) : List Char → List Char
  | '\x1b' :: '[' :: '0' :: 'm' :: cs => '\x1b' :: '[' :: '0' :: 'm' :: (start ++ restart start cs)
  | c :: cs => c :: restart start cs
  | [] => []

namespace Piece

/-- A piece that only lays out other ones. -/
def plain (text : String) : Piece :=
  ⟨.layout, text⟩

/-- The piece in its colour. -/
def coloured (p : Piece) : List Char :=
  match p.part.colour? with
  | none => p.text.toList
  | some colour =>
    let start := control colour
    start ++ restart start p.text.toList ++ control "0"

/-- The piece as it is written, with or without colours. -/
def render (inColour : Bool) (p : Piece) : List Char :=
  if inColour then p.coloured else p.text.toList

end Piece

/-- Pieces as they are written, with or without colours. -/
def render (inColour : Bool) (ps : List Piece) : String :=
  String.ofList (ps.flatMap (Piece.render inColour))

end ControlQuery.Report

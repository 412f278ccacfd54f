import ControlQuery.Report.Match
import Mathlib.Tactic.Common

/-!
# Writing pieces of output

Pieces are written one after the other, each of them in its colour or without.
-/

namespace ControlQuery.Report

variable {inColour : Bool}

lemma render_append (ps qs : List Piece) :
    render inColour (ps ++ qs) = render inColour ps ++ render inColour qs := by
  rw [render, List.flatMap_append, String.ofList_append]
  rfl

lemma render_plain (text : String) : render inColour [.plain text] = text := by
  have hpiece : (Piece.plain text).render inColour = text.toList := by cases inColour <;> rfl
  rw [render, List.flatMap_singleton, hpiece, String.ofList_toList]

/-- Reports that are put together are written one after the other. -/
lemma render_flatMap {α : Type} (report : α → List Piece) (as : List α) :
    render inColour (as.flatMap report) =
      String.join (as.map fun a => render inColour (report a)) := by
  induction as with
  | nil => rfl
  | cons a as ih => rw [List.flatMap_cons, render_append, ih, List.map_cons, String.join_cons]

/-- Without colours a piece is its text. -/
lemma render_false (p : Piece) (ps : List Piece) :
    render false (p :: ps) = p.text ++ render false ps := by
  rw [render, List.flatMap_cons, String.ofList_append]
  exact congrArg (· ++ render false ps) String.ofList_toList

end ControlQuery.Report

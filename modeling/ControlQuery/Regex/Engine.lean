/-!
# Regular expressions

Which texts write a regular expression, and which texts hold a match of one, is for an engine to
say. All that is relied upon is that the engine takes truth values and numbers for expressions.
-/

namespace ControlQuery

/-- An engine for regular expressions. -/
class Regex.Engine where
  /-- What an expression is compiled to. -/
  Program : Type
  /-- The program of the expression that a text writes, if it writes one. -/
  compile? : (pattern : String) → Option Program
  /-- Whether a text holds a match anywhere, with or without regard to case. -/
  isMatch : Program → (ignoreCase : Bool) → (text : String) → Bool
  isSome_compile?_bool (b : Bool) : (compile? (toString b)).isSome = true
  isSome_compile?_int (n : Int64) : (compile? (toString n.toInt)).isSome = true

/-- A written regular expression together with its program. -/
structure Regex [Regex.Engine] where
  source : String
  program : Regex.Engine.Program
  compile?_eq : Regex.Engine.compile? source = some program

namespace Regex

variable [Engine]

/-- The regular expression that a text writes, if it writes one. -/
def ofText? (source : String) : Option Regex :=
  match h : Engine.compile? source with
  | some program => some ⟨source, program, h⟩
  | none => none

theorem isSome_ofText? {text : String} (h : (Engine.compile? text).isSome = true) :
    (ofText? text).isSome = true := by
  unfold ofText?
  split
  · rfl
  · next hnone =>
    rw [hnone] at h
    cases h

theorem ext_source {r s : Regex} (h : r.source = s.source) : r = s := by
  obtain ⟨source, e, he⟩ := r
  obtain ⟨source', f, hf⟩ := s
  obtain rfl : source = source' := h
  obtain rfl : e = f := Option.some.inj (he.symm.trans hf)
  rfl

theorem source_of_ofText?_eq_some {text : String} {r : Regex} (h : ofText? text = some r) :
    r.source = text := by
  unfold ofText? at h
  split at h
  · cases h; rfl
  · contradiction

theorem ofText?_source (r : Regex) : ofText? r.source = some r := by
  unfold ofText?
  split
  · exact congrArg some (ext_source rfl)
  · next hnone =>
    rw [r.compile?_eq] at hnone
    cases hnone

/-- Expressions are equal if they are written alike. -/
instance : DecidableEq Regex := fun r s =>
  if h : r.source = s.source then isTrue (ext_source h) else isFalse fun e => h (e ▸ rfl)

/-- Whether the text holds a match anywhere. -/
def isMatch (r : Regex) (ignoreCase : Bool) (text : String) : Bool :=
  Engine.isMatch r.program ignoreCase text

end Regex

end ControlQuery

import ControlQuery.Regex.Engine
import ControlQuery.Regex.Reader

/-!
# The standard engine

The engine that the program runs with: expressions are read and matched as described in this
library.
-/

namespace ControlQuery.Regex

/-- Whether a character stands for itself wherever a pattern may begin or go on. -/
def isPlainChar (c : Char) : Bool :=
  c.isAlphanum || c == '-'

theorem group_cons {n : Nat} {p : Progress} {c : Char} {cs : List Char} (hc : isPlainChar c = true)
    (hp : p.flags.spaced = false) :
    group (n + 1) p (c :: cs) = group n (p.pushSet (.fold p.flags.ignoreCase (.single c))) cs := by
  rw [group]
  simp only [hp, skipBlank]
  split
  case h_14 heq =>
    cases heq
    rfl
  -- The other branches are for characters that mean something else, and for the end.
  all_goals
    next heq =>
      cases heq
      try cases hc

theorem exists_group {n : Nat} {p : Progress} {cs : List Char}
    (hcs : ∀ c ∈ cs, isPlainChar c = true) (hp : p.flags.spaced = false) (hn : cs.length < n) :
    ∃ q, group n p cs = some (q, []) := by
  induction cs generalizing n p with
  | nil =>
    obtain ⟨n, rfl⟩ := Nat.exists_eq_add_one.mpr hn
    refine ⟨p, ?_⟩
    rw [group]
    simp [hp, skipBlank]
  | cons c cs ih =>
    obtain ⟨n, rfl⟩ := Nat.exists_eq_add_one.mpr (Nat.zero_lt_of_lt hn)
    rw [group_cons (hcs c (by simp)) hp]
    exact ih (fun d hd => hcs d (List.mem_cons_of_mem c hd)) hp (Nat.lt_of_succ_lt_succ hn)

theorem isSome_parse? {text : String} (h : ∀ c ∈ text.toList, isPlainChar c = true) :
    (Expr.parse? text).isSome = true := by
  obtain ⟨q, hq⟩ := exists_group (p := { flags := {}, names := [] }) h rfl (Nat.lt_succ_self _)
  unfold Expr.parse?
  dsimp only
  rw [hq]
  rfl

theorem isPlainChar_of_mem_toString (n : Int) {c : Char} (hc : c ∈ (toString n).toList) :
    isPlainChar c = true := by
  have hdigits : ∀ m : Nat, c ∈ m.repr.toList → isPlainChar c = true := by
    intro m hm
    rw [Nat.toList_repr] at hm
    have hdigit := Nat.isDigit_of_mem_toDigits (by omega) (by omega) hm
    simp [isPlainChar, Char.isAlphanum, hdigit]
  rw [Int.toString_eq_repr, Int.repr_eq_if] at hc
  split at hc
  · exact hdigits _ hc
  · rw [String.toList_append, List.mem_append] at hc
    rcases hc with hc | hc
    · rw [List.mem_singleton.mp hc]
      rfl
    · exact hdigits _ hc

/-- The engine that reads expressions with `Expr.parse?`. -/
instance standard : Engine where
  Program := Expr
  compile? := Expr.parse?
  isMatch e ignoreCase text := e.isMatch ignoreCase text.toList
  isSome_compile?_bool b := isSome_parse? fun c hc => by
    have hall : (toString b).toList.all isPlainChar = true := by
      cases b <;> rfl
    exact List.all_eq_true.mp hall c hc
  isSome_compile?_int n := isSome_parse? fun c hc => isPlainChar_of_mem_toString n.toInt hc

end ControlQuery.Regex

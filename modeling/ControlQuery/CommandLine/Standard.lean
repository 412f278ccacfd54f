import ControlQuery.CommandLine.Arguments

/-!
# The standard interface

The interface that the program runs with: arguments are read as described in this library.
-/

namespace ControlQuery.CommandLine

/-- An argument that begins with a slash is no option and no subcommand. -/
theorem take_slash {text : String} (h : text.toList.head? = some '/') :
    Seen.take { flags := [.explain] } .search text =
      .ok { flags := [.explain], words := [text] } := by
  obtain ⟨cs, hcs⟩ := List.head?_eq_some_iff.mp h
  unfold Seen.take
  rw [hcs]
  rfl

theorem ofArguments_explain {text : String} (h : text.toList.head? = some '/') :
    Invocation.ofArguments ["--explain", text] =
      .ok (.search { query := some text, explain := true }) := by
  have hgenerate : Level.search.subcommands.contains text = false := by
    rw [Bool.eq_false_iff, Ne, List.contains_iff_mem]
    intro hmem
    rw [List.mem_singleton.mp hmem] at h
    exact absurd h (by decide)
  have hread : Level.search.read {} ["--explain", text] =
      .ok ({ flags := [.explain], words := [text] }, none) := by
    have hflag : Seen.take {} .search "--explain" = .ok { flags := [.explain] } := rfl
    have hno : (Level.search.subcommands.contains "--explain") = false := by decide
    rw [Level.read, hno, if_neg (by decide), hflag]
    change Level.search.read { flags := [.explain] } [text] = _
    rw [Level.read, hgenerate, if_neg (by decide), take_slash h]
    rfl
  rw [Invocation.ofArguments, hread]
  rfl

/-- The words that complete a command line, one on each line. -/
def completionWords : String :=
  String.join ((Level.search.keys.map fun key => "--" ++ key.long ++ "\n") ++ ["generate\n"])

/-- A short manual page: what a command is called and what it is for. -/
def shortPage (c : Command String) : String :=
  s!".TH {c.name} 1\n.SH NAME\n{c.name} - {c.details}\n"

/-- Arguments are read with `Invocation.ofArguments`, and the same words do for all shells. -/
instance standardInterface : Interface where
  read := Invocation.ofArguments
  read_explain _ h := ofArguments_explain h
  completions _ := completionWords
  manualPage := shortPage

end ControlQuery.CommandLine

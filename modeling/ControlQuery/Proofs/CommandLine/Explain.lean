import ControlQuery.CommandLine.Standard
import ControlQuery.Proofs.CPath.Pages
import ControlQuery.Proofs.CommandLine.Sessions
import ControlQuery.Proofs.Rendering.Fixpoint
import ControlQuery.Regex.Standard
import ControlQuery.Snapshot.Standard

/-!
# Canonical texts explain themselves

The program can print the canonical text of a query. What it prints can be given to it again as an
argument, since it begins with a slash and so is no option, and is then printed again.
-/

namespace ControlQuery

open CommandLine
open CPath (isBlank)

/-! ## How canonical texts begin -/

lemma head?_append {s : String} {c : Char} (h : s.toList.head? = some c) (s' : String) :
    (s ++ s').toList.head? = some c := by
  rw [String.toList_append, List.head?_append, h, Option.some_or]

lemma head?_ancestorsStep (maxDepth : Option Count) (includeSelf : Bool) (test : String) :
    (ancestorsStep maxDepth includeSelf test).toList.head? = some '/' := by
  unfold ancestorsStep
  split_ifs
  · exact head?_append (head?_append (head?_append rfl _) _) test
  · exact head?_append rfl test
  · exact head?_append (head?_append (head?_append rfl _) _) test

lemma head?_descendantsStep (maxDepth : Option Count) (includeSelf : Bool) (test : String) :
    (descendantsStep maxDepth includeSelf test).toList.head? = some '/' := by
  unfold descendantsStep
  split_ifs
  · exact head?_append (head?_append (head?_append rfl _) _) test
  · exact head?_append rfl test
  · exact head?_append rfl test
  · exact head?_append (head?_append (head?_append rfl _) _) test

section Engine

variable [Regex.Engine]

mutual

theorem Part.head?_render : ∀ (p : Part) (test : Option String),
    (p.render test).toList.head? = some '/'
  | .identity, test => by
    rw [Part.render]
    exact head?_append rfl _
  | .ancestors maxDepth includeSelf, test => by
    rw [Part.render]
    exact head?_ancestorsStep maxDepth includeSelf _
  | .descendants maxDepth includeSelf, test => by
    rw [Part.render]
    exact head?_descendantsStep maxDepth includeSelf _
  | .composite e, none => by
    rw [Part.render]
    exact Element.head?_render e
  | .composite e, some test => by
    rw [Part.render]
    exact head?_append (head?_append (Element.head?_render e) _) test

theorem Part.head?_renderScope (test : String) : ∀ ps : List Part,
    (Part.renderScope test ps).toList.head? = some '/'
  | [] => by
    rw [Part.renderScope]
    exact head?_append rfl test
  | [p] => by
    rw [Part.renderScope]
    exact Part.head?_render p (some test)
  | p :: p' :: ps => by
    rw [Part.renderScope]
    · exact head?_append (Part.head?_render p none) _
    · exact List.cons_ne_nil p' ps

theorem Element.head?_render : ∀ e : Element, e.render.toList.head? = some '/'
  | ⟨condition, scope, skip, take⟩ => by
    rw [Element.render_eq]
    exact head?_append (Part.head?_renderScope _ scope) _

end

theorem Query.head?_render (q : Query) : q.render.toList.head? = some '/' := by
  obtain ⟨path, element⟩ := q
  rw [Query.render]
  cases path with
  | nil =>
    rw [Part.renderPath, String.empty_append]
    exact element.head?_render
  | cons p ps =>
    rw [Part.renderPath, String.append_assoc]
    exact head?_append (p.head?_render none) _

namespace CommandLine

/-! ## Runs -/

variable [SnapshotFormat.Readers] [Interface] {arguments : List String} {o : SearchOptions}
  {text input out : String} {files : FileTree} {inColour : Bool} {q : Query}

lemma run_search (hargs : Interface.read arguments = .ok (.search o))
    (hexplain : o.explain = true) :
    run arguments input files inColour =
      .ofExcept (o.parsedQuery.map fun q => q.render ++ "\n") := by
  rw [run, hargs]
  exact congrArg Outcome.ofExcept (SearchOptions.run_of_explain hexplain)

lemma run_explain (h : text.toList.head? = some '/') (hparse : CPath.parse text = .ok q) :
    run ["--explain", text] input files inColour = .printed (q.render ++ "\n") := by
  rw [run_search (Interface.read_explain text h) rfl, SearchOptions.parsedQuery]
  dsimp only
  rw [hparse]
  rfl

/-- What is printed to explain a query is the canonical text of a query that has been read. -/
lemma exists_parsed_of_run (hargs : Interface.read arguments = .ok (.search o))
    (hexplain : o.explain = true) (hrun : run arguments input files inColour = .printed out) :
    ∃ text q, CPath.parse text = .ok q ∧ out = q.render ++ "\n" := by
  rw [run_search hargs hexplain, SearchOptions.parsedQuery] at hrun
  cases hquery : o.query with
  | none =>
    rw [hquery] at hrun
    cases hrun
  | some text =>
    rw [hquery] at hrun
    dsimp only at hrun
    cases hparse : CPath.parse text with
    | error e =>
      rw [hparse] at hrun
      cases hrun
    | ok q =>
      rw [hparse] at hrun
      cases hrun
      exact ⟨text, q, hparse, rfl⟩

end CommandLine

/-- What is read from the canonical text of a query has the same canonical text, just if all pages
of the query are stable. That is so for every query that is read, so what the program prints to
explain a query is printed again for what it has printed, with or without the end of the line. -/
theorem Query.render_of_parse_render [SnapshotFormat.Readers] [Interface] :
    (∀ q : Query, q.hasFunction = false → ∃ q', CPath.parse q.render = .ok q' ∧
      (q'.render = q.render ↔ ∀ page ∈ q.pages, page.IsStable)) ∧
    (∀ text q, CPath.parse text = .ok q →
      ∃ q', CPath.parse q.render = .ok q' ∧ q'.render = q.render) ∧
    ∀ arguments o input files inColour out,
      Interface.read arguments = .ok (.search o) → o.explain = true →
        run arguments input files inColour = .printed out →
          ∃ text, out = text ++ "\n" ∧
            ∀ again ∈ [text, out],
              run ["--explain", again] input files inColour = .printed out := by
  have hread : ∀ {text q}, CPath.parse text = .ok q →
      q.hasFunction = false ∧ q.normal.render = q.render := by
    intro text q hparse
    have hreadable := CPath.readable_of_parse hparse
    exact ⟨hreadable.function, q.render_normal_eq_iff.mpr hreadable.stable⟩
  refine ⟨fun q h => ?_, fun text q hparse => ?_, ?_⟩
  · exact ⟨q.normal, parse_render h, q.render_normal_eq_iff⟩
  · obtain ⟨hfunction, hsame⟩ := hread hparse
    exact ⟨q.normal, parse_render hfunction, hsame⟩
  · intro arguments o input files inColour out hargs hexplain hrun
    obtain ⟨text, q, hparse, rfl⟩ := exists_parsed_of_run hargs hexplain hrun
    obtain ⟨hfunction, hsame⟩ := hread hparse
    have hblank : ∀ c ∈ "\n".toList, isBlank c = true := List.all_eq_true.mp rfl
    refine ⟨q.render, rfl, List.forall_mem_cons.mpr ⟨?_, List.forall_mem_singleton.mpr ?_⟩⟩
    · rw [run_explain q.head?_render (parse_render hfunction), hsame]
    · have hhead := head?_append q.head?_render "\n"
      rw [run_explain hhead (parse_render_append hfunction hblank), hsame]

end Engine

/-- A page that is not stable in a sub-query, and a text with parentheses and a capped end. -/
theorem Query.render_of_parse_render_subquery :
    let sub : Query := { path := [], element := { scope := [.children], skip := some 0 } }
    let q : Query :=
      { path := [], element := { condition := some (.hasElement sub), scope := [.children] } }
    let text := "//Button[@Name='a' and (@Name='b' and @Name='c')]" ++
      "[18446744073709551614:18446744073709551615]"
    let out := "//Button[@Name='a' and @Name='b' and @Name='c'][18446744073709551615]\n"
    q.hasFunction = false ∧ q.render = "/*[./*[0:]]" ∧
      (∃ q', CPath.parse q.render = .ok q' ∧ q'.render ≠ q.render) ∧
      run ["--explain", text] "" {} false = .printed out ∧
      run ["--explain", out] "" {} false = .printed out := by
  intro sub q text out
  obtain ⟨hrender, -, hrun⟩ := Query.render_of_parse_render
  have hfunction : q.hasFunction = false := by decide +kernel
  have htext : q.render = "/*[./*[0:]]" := by decide +kernel
  have hpages : q.pages = [⟨some 0, none⟩, ⟨none, none⟩] := rfl
  have hargs : Interface.read ["--explain", text] =
      .ok (.search { query := some text, explain := true }) :=
    ofArguments_explain (by decide +kernel)
  have hprinted : run ["--explain", text] "" {} false = .printed out := by decide +kernel
  obtain ⟨q', hparse, hsame⟩ := hrender q hfunction
  obtain ⟨s, -, hagain⟩ := hrun _ _ "" {} false out hargs rfl hprinted
  refine ⟨hfunction, htext, ⟨q', hparse, fun h => ?_⟩, hprinted, hagain out (by simp)⟩
  have hstable := hsame.mp h
  rw [hpages, List.forall_mem_cons] at hstable
  exact hstable.1.opened ⟨rfl, rfl⟩

end ControlQuery

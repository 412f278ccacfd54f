import ControlQuery.Manual.Pages
import Mathlib.Data.List.Nodup

/-!
# Names of manual pages

A command is told apart from all others by the way to it: the names of the commands that lead to it.
The name of its page is the way with dashes in it, so two commands share a name if and only if
dashes within names make up for dashes between them.
-/

namespace ControlQuery.Command

/-! ## Ways -/

variable {δ : Type}

mutual

/-- The number of commands: the command itself and all below it. -/
def size : Command δ → Nat
  | command _ _ subcommands => sizeAll subcommands + 1

/-- The number of commands in a row and below them. -/
def sizeAll : List (Command δ) → Nat
  | [] => 0
  | c :: cs => c.size + sizeAll cs

end

mutual

/-- A command and all below it, each command before those below it and with the way to it. A way is
made of the names of the commands on it, the one it starts from and the one it leads to included. -/
def routes : Command δ → List (List String × Command δ)
  | command name details subcommands =>
    ([name], command name details subcommands) ::
      (routesAll subcommands).map fun route => (name :: route.1, route.2)

/-- Commands in a row and all below them. -/
def routesAll : List (Command δ) → List (List String × Command δ)
  | [] => []
  | c :: cs => c.routes ++ routesAll cs

end

/-- The ways from a command to itself and to all below it. -/
def ways (c : Command δ) : List (List String) :=
  c.routes.map Prod.fst

/-- The ways from commands in a row. -/
def waysAll (cs : List (Command δ)) : List (List String) :=
  (routesAll cs).map Prod.fst

lemma ways_command (name : String) (details : δ) (cs : List (Command δ)) :
    (command name details cs).ways = [name] :: (waysAll cs).map (name :: ·) := by
  rw [ways, routes, List.map_cons, waysAll, List.map_map, List.map_map]
  rfl

lemma waysAll_eq_flatMap (cs : List (Command δ)) : waysAll cs = cs.flatMap ways := by
  induction cs with
  | nil => rfl
  | cons c cs ih =>
    rw [waysAll] at ih ⊢
    rw [routesAll, List.map_append, ih, List.flatMap_cons, ways]

mutual

/-- There is one way to each command. -/
lemma length_routes : ∀ c : Command δ, c.routes.length = c.size
  | command name details cs => by
    rw [routes, size, List.length_cons, List.length_map, length_routesAll cs]

lemma length_routesAll : ∀ cs : List (Command δ), (routesAll cs).length = sizeAll cs
  | [] => rfl
  | c :: cs => by
    rw [routesAll, sizeAll, List.length_append, length_routes c, length_routesAll cs]

end

lemma exists_eq_cons_of_mem_ways {c : Command δ} {w : List String} (h : w ∈ c.ways) :
    ∃ rest, w = c.name :: rest := by
  obtain ⟨name, details, cs⟩ := c
  rw [ways_command, List.mem_cons, List.mem_map] at h
  rcases h with rfl | ⟨rest, -, rfl⟩
  · exact ⟨[], rfl⟩
  · exact ⟨rest, rfl⟩

lemma ne_nil_of_mem_waysAll {cs : List (Command δ)} {w : List String} (h : w ∈ waysAll cs) :
    w ≠ [] := by
  rw [waysAll_eq_flatMap, List.mem_flatMap] at h
  obtain ⟨c, -, hw⟩ := h
  obtain ⟨rest, rfl⟩ := exists_eq_cons_of_mem_ways hw
  exact List.cons_ne_nil _ _

/-! ## Pages -/

/-- The name of the page of a command is the way to it with dashes between the names. -/
def pageName (way : List String) : String :=
  "-".intercalate way

lemma pageName_singleton (name : String) : pageName [name] = name :=
  String.intercalate_singleton

lemma pageName_cons (name : String) {way : List String} (h : way ≠ []) :
    pageName (name :: way) = name ++ "-" ++ pageName way :=
  String.intercalate_cons_of_ne_nil h

lemma pageName_cons_cons (name name' : String) (way : List String) :
    pageName (name :: name' :: way) = pageName ((name ++ "-" ++ name') :: way) := by
  rw [pageName_cons name (List.cons_ne_nil name' way)]
  by_cases h : way = []
  · rw [h, pageName_singleton, pageName_singleton]
  · rw [pageName_cons name' h, pageName_cons _ h]
    simp only [String.append_assoc]

/-- The page of a command at the end of a way that begins with a page. -/
def pageAlong (page : String) (route : List String × Command δ) : String × Command δ :=
  (pageName (page :: route.1), route.2.renamed (pageName (page :: route.1)))

mutual

lemma pagesFrom_eq : ∀ (page : String) (c : Command δ),
    c.pagesFrom page = c.routes.map fun route => pageAlong page (route.1.tail, route.2)
  | page, command name details cs => by
    rw [pagesFrom, routes, pagesBelow_eq page cs, List.map_cons, List.map_map, List.tail_cons,
      pageAlong, pageName_singleton]
    rfl

lemma pagesBelow_eq : ∀ (page : String) (cs : List (Command δ)),
    pagesBelow page cs = (routesAll cs).map (pageAlong page)
  | _, [] => rfl
  | page, c :: cs => by
    have hfirst : ∀ route ∈ c.routes,
        pageAlong (page ++ "-" ++ c.name) (route.1.tail, route.2) = pageAlong page route := by
      rintro ⟨way, d⟩ hroute
      obtain ⟨rest, rfl⟩ := exists_eq_cons_of_mem_ways (List.mem_map_of_mem hroute)
      rw [pageAlong, pageAlong, List.tail_cons, pageName_cons_cons]
    rw [pagesBelow, routesAll, pagesFrom_eq _ c, pagesBelow_eq page cs, List.map_append,
      List.map_congr_left hfirst]

end

/-- The page of a command at the end of a way. -/
def page (route : List String × Command δ) : String × Command δ :=
  (pageName route.1, route.2.renamed (pageName route.1))

lemma pages_eq (c : Command δ) : c.pages = c.routes.map page := by
  rw [pages, pagesFrom_eq]
  refine List.map_congr_left fun route hroute => ?_
  obtain ⟨rest, hway⟩ := exists_eq_cons_of_mem_ways (List.mem_map_of_mem hroute)
  rw [pageAlong, page, hway, List.tail_cons]

/-! ## Names that tell commands apart -/

/-- The subcommands of each command have names of their own, none of them empty and none with a
separator of paths in it. -/
inductive WellNamed : Command δ → Prop
  | command {name : String} {details : δ} {cs : List (Command δ)}
      (distinct : (cs.map Command.name).Nodup)
      (names : ∀ c ∈ cs, c.name ≠ "" ∧ '/' ∉ c.name.toList) (below : ∀ c ∈ cs, WellNamed c) :
      WellNamed (command name details cs)

lemma WellNamed.leaf (name : String) (details : δ) : (Command.command name details []).WellNamed :=
  .command .nil nofun nofun

/-- Different commands have different ways to them. -/
lemma WellNamed.nodup_ways {c : Command δ} (h : c.WellNamed) : c.ways.Nodup := by
  induction h with
  | @command name details cs distinct names below ih =>
    have hall : (waysAll cs).Nodup := by
      rw [waysAll_eq_flatMap, List.nodup_flatMap]
      refine ⟨ih, (List.pairwise_map.mp distinct).imp fun {c d} hne w hc hd => hne ?_⟩
      obtain ⟨rest, rfl⟩ := exists_eq_cons_of_mem_ways hc
      obtain ⟨rest', heq⟩ := exists_eq_cons_of_mem_ways hd
      exact (List.cons.inj heq).1
    rw [ways_command, List.nodup_cons, List.mem_map]
    refine ⟨?_, hall.map fun w w' heq => (List.cons.inj heq).2⟩
    rintro ⟨w, hw, heq⟩
    exact ne_nil_of_mem_waysAll hw (List.cons.inj heq).2

/-- Separators of paths could only be in the name of the first command. -/
lemma WellNamed.no_separator {c : Command δ} (h : c.WellNamed) (hc : '/' ∉ c.name.toList)
    {w : List String} (hw : w ∈ c.ways) : '/' ∉ (pageName w).toList := by
  induction h generalizing w with
  | @command name details cs distinct names below ih =>
    rw [ways_command, List.mem_cons, List.mem_map] at hw
    rcases hw with rfl | ⟨w, hw, rfl⟩
    · rw [pageName_singleton]
      exact hc
    · rw [pageName_cons name (ne_nil_of_mem_waysAll hw)]
      rw [waysAll_eq_flatMap, List.mem_flatMap] at hw
      obtain ⟨d, hd, hw⟩ := hw
      have hrest := ih d hd (names d hd).2 hw
      have hname : '/' ∉ name.toList := hc
      simp [hname, hrest]

/-- No two commands share the name of their pages. -/
def Unambiguous (c : Command δ) : Prop :=
  ∀ v ∈ c.ways, ∀ w ∈ c.ways, pageName v = pageName w → v = w

/-- No subcommand's name is the name of another subcommand of the same command with a dash and more
behind it. -/
inductive Apart : Command δ → Prop
  | command {name : String} {details : δ} {cs : List (Command δ)}
      (apart : ∀ c ∈ cs, ∀ d ∈ cs, ∀ more, d.name ≠ c.name ++ "-" ++ more)
      (below : ∀ c ∈ cs, Apart c) : Apart (command name details cs)

/-- Where two names with nothing or a dash behind them become the same text, they are the same or
one is the other with a dash behind it. -/
lemma eq_or_exists_dash {m n : List Char} {xs ys : List Char} (hxs : ∀ c ∈ xs.head?, c = '-')
    (hys : ∀ c ∈ ys.head?, c = '-') (h : m ++ xs = n ++ ys) :
    m = n ∨ (∃ more, n = m ++ '-' :: more) ∨ ∃ more, m = n ++ '-' :: more := by
  rcases List.append_eq_append_iff.mp h with ⟨s, hn, hs⟩ | ⟨s, hm, hs⟩
  · cases s with
    | nil => exact .inl (by rw [hn, List.append_nil])
    | cons c s =>
      rw [hs] at hxs
      exact .inr (.inl ⟨s, by rw [hn, hxs c rfl]⟩)
  · cases s with
    | nil => exact .inl (by rw [hm, List.append_nil])
    | cons c s =>
      rw [hs] at hys
      exact .inr (.inr ⟨s, by rw [hm, hys c rfl]⟩)

/-- What the name of a page is made of: the first name and, perhaps, a dash and more. -/
lemma exists_toList_pageName (name : String) (way : List String) :
    ∃ xs, (pageName (name :: way)).toList = name.toList ++ xs ∧ ∀ c ∈ xs.head?, c = '-' := by
  cases way with
  | nil =>
    rw [pageName_singleton]
    exact ⟨[], (List.append_nil _).symm, nofun⟩
  | cons name' way =>
    rw [pageName_cons name (List.cons_ne_nil name' way), String.toList_append,
      String.toList_append, List.append_assoc]
    exact ⟨_, rfl, fun c hc => (Option.some.inj hc).symm⟩

/-- The names that two names of pages begin with are the same unless one of them goes on with a dash
where the other one ends. -/
lemma eq_of_pageName_eq {m n : String} (hm : ∀ more, n ≠ m ++ "-" ++ more)
    (hn : ∀ more, m ≠ n ++ "-" ++ more) {v w : List String}
    (h : pageName (m :: v) = pageName (n :: w)) : m = n := by
  obtain ⟨xs, hv, hxs⟩ := exists_toList_pageName m v
  obtain ⟨ys, hw, hys⟩ := exists_toList_pageName n w
  have hchars : m.toList ++ xs = n.toList ++ ys := by
    rw [← hv, h, hw]
  rcases eq_or_exists_dash hxs hys hchars with heq | ⟨more, hmore⟩ | ⟨more, hmore⟩
  · exact String.toList_inj.mp heq
  · refine absurd ?_ (hm (String.ofList more))
    rw [← String.toList_inj, hmore]
    simp
  · refine absurd ?_ (hn (String.ofList more))
    rw [← String.toList_inj, hmore]
    simp

/-- A way with more names on it has a longer name. -/
lemma pageName_singleton_ne {name : String} {w : List String} (hw : w ≠ []) :
    pageName [name] ≠ pageName (name :: w) := by
  rw [pageName_cons name hw, pageName_singleton]
  intro heq
  have hlength := congrArg String.length heq
  have hdash : "-".length = 1 := rfl
  simp only [String.length_append] at hlength
  omega

/-- Commands share no names of pages if no name goes on where another one ends. -/
theorem WellNamed.unambiguous_of_apart {c : Command δ} (h : c.WellNamed) (hc : c.Apart) :
    c.Unambiguous := by
  induction h with
  | @command name details cs distinct names below ih =>
    obtain ⟨apart, hbelow⟩ := hc
    have hsame : ∀ v ∈ waysAll cs, ∀ w ∈ waysAll cs, pageName v = pageName w → v = w := by
      rw [waysAll_eq_flatMap]
      intro v hv w hw heq
      obtain ⟨d, hd, hv⟩ := List.mem_flatMap.mp hv
      obtain ⟨e, he, hw⟩ := List.mem_flatMap.mp hw
      obtain ⟨v', rfl⟩ := exists_eq_cons_of_mem_ways hv
      obtain ⟨w', rfl⟩ := exists_eq_cons_of_mem_ways hw
      have hname : d.name = e.name := eq_of_pageName_eq (apart d hd e he) (apart e he d hd) heq
      obtain rfl : d = e := List.inj_on_of_nodup_map distinct hd he hname
      exact ih d hd (hbelow d hd) _ hv _ hw heq
    intro v hv w hw heq
    rw [ways_command, List.mem_cons, List.mem_map] at hv hw
    rcases hv with rfl | ⟨v, hv, rfl⟩ <;> rcases hw with rfl | ⟨w, hw, rfl⟩
    · rfl
    · exact absurd heq (pageName_singleton_ne (ne_nil_of_mem_waysAll hw))
    · exact absurd heq.symm (pageName_singleton_ne (ne_nil_of_mem_waysAll hv))
    · rw [pageName_cons name (ne_nil_of_mem_waysAll hv),
        pageName_cons name (ne_nil_of_mem_waysAll hw)] at heq
      rw [hsame v hv w hw ((String.append_right_inj _).mp heq)]

end ControlQuery.Command

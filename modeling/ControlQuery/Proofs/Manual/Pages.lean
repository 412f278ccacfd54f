import ControlQuery.Proofs.Files.Directories
import ControlQuery.Proofs.Manual.Names

/-!
# Manual pages and the files they are in

Each command is told a path for its page, and each page is a file of its own, if and only if no two
commands share the name of their pages. Where two commands do, the page that is written second takes
the place of the first one, although both paths are told.
-/

namespace ControlQuery

namespace FileTree

variable {t : FileTree} {p : Place} {name directory : String}

lemma isPlain_page (h : '/' ∉ name.toList) : IsPlain (name ++ ".1") where
  ne_empty := by simp
  ne_here heq := by
    have hlast := congrArg (fun s => s.toList.getLast?) heq
    simp at hlast
  ne_above heq := by
    have hlast := congrArg (fun s => s.toList.getLast?) heq
    simp [aboveName] at hlast
  no_separator := by simpa using h

/-- A name behind the path to a directory leads into the directory. -/
lemma resolve_join (hd : t.place? directory = some p) (h : IsPlain name) :
    t.resolve (Manual.join directory name) =
      if isName name then some (p ++ [name]) else none := by
  obtain ⟨hpath, hp⟩ := Option.filter_eq_some_iff.mp hd
  rw [← enter_of_isPlain hp h, Manual.join, h.isAbsolute_eq_false, if_neg Bool.false_ne_true]
  by_cases hempty : directory = ""
  · subst hempty
    obtain rfl : t.here = p := Option.some.inj hpath
    exact resolve_of_isPlain h
  · have hisEmpty : directory.isEmpty = false := by simpa using hempty
    rw [hisEmpty, if_neg Bool.false_ne_true] at hpath
    rw [hisEmpty, Bool.false_or]
    by_cases hslash : directory.toList.getLast? = some '/'
    · -- the separator that the directory ends with has an empty name behind it
      obtain ⟨path, rfl⟩ : ∃ path, directory = path ++ "/" ++ "" := by
        refine ⟨String.ofList directory.toList.dropLast, ?_⟩
        rw [← String.toList_inj]
        simpa using (List.dropLast_append_getLast? '/' hslash).symm
      rw [resolve_append path (by simp)] at hpath
      obtain ⟨q, hq, hpq⟩ := Option.bind_eq_some_iff.mp hpath
      obtain rfl := eq_of_enter_empty hpq
      rw [beq_iff_eq.mpr hslash, if_pos rfl, String.append_empty,
        resolve_append path h.no_separator, hq]
      rfl
    · have hlast : (directory.toList.getLast? == some '/') = false := beq_false_of_ne hslash
      rw [hlast, if_neg Bool.false_ne_true, resolve_append directory h.no_separator,
        ← resolve_of_ne_empty hempty, hpath]
      rfl

end FileTree

namespace Manual

open FileTree (IsPlain isName isAbsolute)

variable {δ : Type}

/-! ## Files of the same name -/

/-- The files that are left when each takes the place of the one of its name: the last one of each
name. -/
def lastOfEach : List (String × FileEntry) → List (String × FileEntry)
  | [] => []
  | file :: files =>
    if file.1 ∈ files.map Prod.fst then lastOfEach files else file :: lastOfEach files

section LastOfEach

variable {file : String × FileEntry} {files : List (String × FileEntry)}

lemma lastOfEach_sublist (files : List (String × FileEntry)) :
    (lastOfEach files).Sublist files := by
  induction files with
  | nil => exact .refl []
  | cons file files ih =>
    rw [lastOfEach]
    split
    · exact ih.cons file
    · exact ih.cons_cons file

/-- A file takes the place of the one of its name. -/
lemma lastOfEach_concat (files : List (String × FileEntry)) (file : String × FileEntry) :
    lastOfEach (files ++ [file]) = (lastOfEach files).filter (·.1 != file.1) ++ [file] := by
  induction files with
  | nil => rfl
  | cons old files ih =>
    have hlater : old.1 ∈ (files ++ [file]).map Prod.fst ↔
        old.1 ∈ files.map Prod.fst ∨ old.1 = file.1 := by simp
    rw [List.cons_append, lastOfEach, lastOfEach, ih]
    by_cases hold : old.1 ∈ files.map Prod.fst
    · rw [if_pos (hlater.mpr (.inl hold)), if_pos hold]
    · rw [if_neg hold]
      by_cases heq : old.1 = file.1
      · rw [if_pos (hlater.mpr (.inr heq)), List.filter_cons_of_neg (by simpa using heq)]
      · rw [if_neg (hlater.not.mpr (not_or.mpr ⟨hold, heq⟩)),
          List.filter_cons_of_pos (by simpa using heq), List.cons_append]

/-- Nothing is lost if and only if all have names of their own. -/
lemma length_lastOfEach_eq_iff :
    (lastOfEach files).length = files.length ↔ (files.map Prod.fst).Nodup := by
  induction files with
  | nil => exact iff_of_true rfl .nil
  | cons file files ih =>
    rw [lastOfEach, List.map_cons, List.nodup_cons]
    split
    · next hmem =>
      refine iff_of_false (fun hlength => ?_) fun h => h.1 hmem
      have hle := (lastOfEach_sublist files).length_le
      rw [hlength, List.length_cons] at hle
      exact Nat.not_succ_le_self _ hle
    · next hmem =>
      rw [List.length_cons, List.length_cons, Nat.succ_inj, ih]
      exact (and_iff_right hmem).symm

lemma lastOfEach_of_nodup (h : (files.map Prod.fst).Nodup) : lastOfEach files = files :=
  (lastOfEach_sublist files).eq_of_length (length_lastOfEach_eq_iff.mpr h)

end LastOfEach

/-! ## Writing pages one after the other -/

/-- The file of a page. -/
def pageFile (render : Command δ → String) (page : String × Command δ) : String × FileEntry :=
  (page.1 ++ ".1", .file (render page.2))

/-- The directory is there, and what it holds are the files of these pages, as far as none took the
place of another one. -/
structure Holds (render : Command δ → String) (directory : String) (p : Place)
    (pages : List (String × Command δ)) (t : FileTree) : Prop where
  place : t.place? directory = some p
  perm : (t.entriesIn p).Perm (lastOfEach (pages.map (pageFile render)))

section Holds

variable {render : Command δ → String} {t u : FileTree} {p : Place} {directory name : String}
  {page : String × Command δ} {pages more : List (String × Command δ)}

lemma Holds.isDirectory_eq_false (h : Holds render directory p pages t) (name : String) :
    t.isDirectory (p ++ [name]) = false := by
  rw [FileTree.isDirectory]
  refine beq_false_of_ne fun hget => ?_
  have hmem := (lastOfEach_sublist _).subset (h.perm.subset (FileTree.mem_entriesIn_of_get? hget))
  obtain ⟨page, -, heq⟩ := List.mem_map.mp hmem
  cases (Prod.mk.inj heq).2

/-- A page is written unless its name cannot be the name of a file. -/
lemma Holds.writePage_eq (h : Holds render directory p pages t) (hname : IsPlain (page.1 ++ ".1")) :
    writePage render directory t page =
      if isName (page.1 ++ ".1") then .ok (t.set (p ++ [page.1 ++ ".1"]) (.file (render page.2)))
      else .error (.page (path directory page.1)) := by
  have hpath := FileTree.resolve_join h.place hname
  rw [← path] at hpath
  rw [writePage]
  split_ifs with hok
  · rw [if_pos hok] at hpath
    rw [FileTree.write_eq_some hpath (h.isDirectory_eq_false _)]
  · rw [FileTree.write, hpath, if_neg hok]
    rfl

/-- Writing a page adds its file to the directory and takes the one of its name away. -/
lemma Holds.set (h : Holds render directory p pages t) (page : String × Command δ) :
    Holds render directory p (pages ++ [page])
      (t.set (p ++ [page.1 ++ ".1"]) (.file (render page.2))) := by
  have hplaces := FileTree.isDirectory_set (h.isDirectory_eq_false (page.1 ++ ".1"))
    (render page.2)
  refine ⟨(FileTree.place?_congr hplaces rfl directory).trans h.place, ?_⟩
  rw [FileTree.entriesIn_set, List.map_append, List.map_singleton, lastOfEach_concat]
  exact ((h.perm.filter _).cons _).trans (List.perm_append_singleton _ _).symm

/-- All pages are written if their names can be names of files. -/
lemma Holds.exists_foldlM (h : Holds render directory p pages t)
    (hplain : ∀ page ∈ more, IsPlain (page.1 ++ ".1"))
    (hok : ∀ page ∈ more, isName (page.1 ++ ".1") = true) :
    ∃ u, more.foldlM (writePage render directory) t = .ok u ∧
      Holds render directory p (pages ++ more) u := by
  induction more generalizing t pages with
  | nil => exact ⟨t, rfl, by rwa [List.append_nil]⟩
  | cons page more ih =>
    rw [List.forall_mem_cons] at hplain hok
    obtain ⟨u, hu, hholds⟩ := ih (h.set page) hplain.2 hok.2
    refine ⟨u, ?_, by rwa [List.append_assoc] at hholds⟩
    rw [List.foldlM_cons, h.writePage_eq hplain.1, if_pos hok.1]
    exact hu

/-- If all pages are written, their names can be names of files. -/
lemma Holds.isName_of_foldlM (h : Holds render directory p pages t)
    (hplain : ∀ page ∈ more, IsPlain (page.1 ++ ".1"))
    (hu : more.foldlM (writePage render directory) t = .ok u) :
    ∀ page ∈ more, isName (page.1 ++ ".1") = true := by
  induction more generalizing t pages with
  | nil => exact fun page hpage => absurd hpage List.not_mem_nil
  | cons page more ih =>
    rw [List.forall_mem_cons] at hplain ⊢
    rw [List.foldlM_cons, h.writePage_eq hplain.1] at hu
    split_ifs at hu with hok
    · exact ⟨hok, ih (h.set page) hplain.2 hu⟩
    · cases hu

lemma holds_of_listing? (render : Command δ → String) (h : t.listing? directory = some []) :
    ∃ p, Holds render directory p [] t := by
  obtain ⟨p, hp, hentries⟩ := Option.map_eq_some_iff.mp h
  exact ⟨p, hp, by rw [hentries]; exact .refl []⟩

end Holds

/-! ## One page for each command -/

/-- The name of the file of the page of a command, by the way to the command. -/
def fileName (way : List String) : String :=
  Command.pageName way ++ ".1"

section Paths

variable {c : Command δ} {directory : String}

lemma paths_eq (c : Command δ) (directory : String) :
    paths c directory = c.ways.map fun way => join directory (fileName way) := by
  rw [paths, Command.pages_eq, Command.ways, List.map_map, List.map_map]
  rfl

/-- Whether the name of a page leads from the topmost directory is a matter of the first name in
it. -/
lemma isAbsolute_fileName {way : List String} (hway : way ∈ c.ways) :
    isAbsolute (fileName way) = isAbsolute c.name := by
  obtain ⟨rest, rfl⟩ := Command.exists_eq_cons_of_mem_ways hway
  obtain ⟨xs, hchars, hdash⟩ := Command.exists_toList_pageName c.name rest
  rw [isAbsolute, isAbsolute, fileName, String.toList_append, hchars]
  cases c.name.toList with
  | cons x name => rfl
  | nil =>
    cases xs with
    | nil => rfl
    | cons x xs =>
      obtain rfl := hdash x rfl
      rfl

lemma join_inj {a b : String} (h : isAbsolute a = isAbsolute b) :
    join directory a = join directory b ↔ a = b := by
  refine ⟨fun heq => ?_, congrArg _⟩
  rw [join, join, h] at heq
  split_ifs at heq
  · exact heq
  · exact (String.append_right_inj _).mp heq
  · exact (String.append_right_inj _).mp heq

/-- The files of pages have names of their own if and only if no two commands share one. -/
lemma nodup_fileNames_iff (hc : c.WellNamed) :
    (c.ways.map fileName).Nodup ↔ c.Unambiguous := by
  rw [List.nodup_map_iff_inj_on hc.nodup_ways]
  exact forall₄_congr fun v _ w _ => by rw [fileName, fileName, String.append_left_inj]

lemma nodup_paths_iff (hc : c.WellNamed) (directory : String) :
    (c.ways.map fun way => join directory (fileName way)).Nodup ↔ c.Unambiguous := by
  rw [← nodup_fileNames_iff hc, List.nodup_map_iff_inj_on hc.nodup_ways,
    List.nodup_map_iff_inj_on hc.nodup_ways]
  refine forall₄_congr fun v hv w hw => ?_
  rw [join_inj ((isAbsolute_fileName hv).trans (isAbsolute_fileName hw).symm)]

lemma isPlain_fileName (hc : c.WellNamed) (hroot : '/' ∉ c.name.toList) :
    ∀ page ∈ c.pages, IsPlain (page.1 ++ ".1") := by
  intro page hpage
  rw [Command.pages_eq] at hpage
  obtain ⟨route, hroute, rfl⟩ := List.mem_map.mp hpage
  exact FileTree.isPlain_page (hc.no_separator hroot (List.mem_map_of_mem hroute))

lemma isName_pages_iff :
    (∀ page ∈ c.pages, isName (page.1 ++ ".1") = true) ↔
      ∀ way ∈ c.ways, isName (fileName way) = true := by
  rw [Command.pages_eq, Command.ways, List.forall_mem_map, List.forall_mem_map]
  rfl

end Paths

section Write

variable {render : Command δ → String} {t u : FileTree} {c : Command δ} {directory : String}
  {outputDirectory : Option String}

/-- Pages are written once the directory is made. -/
lemma write_eq_ok_iff (htarget : target t outputDirectory = .ok directory)
    (hmade : t.makeDirectories directory = some u) {written : List String} {u' : FileTree} :
    write render t c outputDirectory = .ok (written, u') ↔
      written = paths c directory ∧ c.pages.foldlM (writePage render directory) u = .ok u' := by
  have hwrite : write render t c outputDirectory =
      (c.pages.foldlM (writePage render directory) u).map (paths c directory, ·) := by
    rw [write, htarget]
    dsimp only [bind, Except.bind]
    rw [hmade]
    rfl
  rw [hwrite]
  cases c.pages.foldlM (writePage render directory) u with
  | error fault => simp [Except.map]
  | ok u'' => simp [Except.map, eq_comm]

/-- A directory that holds nothing takes the pages if and only if the names of their files can be
names of files. -/
lemma exists_write_iff (hc : c.WellNamed) (hroot : '/' ∉ c.name.toList)
    (htarget : target t outputDirectory = .ok directory)
    (hmade : t.makeDirectories directory = some u) (hfresh : u.listing? directory = some []) :
    (∃ result, write render t c outputDirectory = .ok result) ↔
      ∀ way ∈ c.ways, isName (fileName way) = true := by
  obtain ⟨p, hempty⟩ := holds_of_listing? render hfresh
  have hplain := isPlain_fileName hc hroot
  rw [← isName_pages_iff]
  constructor
  · rintro ⟨⟨written, u'⟩, hwritten⟩
    exact hempty.isName_of_foldlM hplain ((write_eq_ok_iff htarget hmade).mp hwritten).2
  · intro hok
    obtain ⟨u', hu', -⟩ := hempty.exists_foldlM hplain hok
    exact ⟨(_, u'), (write_eq_ok_iff htarget hmade).mpr ⟨rfl, hu'⟩⟩

/-- Of all files that are written, the directory holds the last one of each name. -/
lemma exists_listing_of_write (hc : c.WellNamed) (hroot : '/' ∉ c.name.toList)
    (htarget : target t outputDirectory = .ok directory)
    (hmade : t.makeDirectories directory = some u) (hfresh : u.listing? directory = some [])
    {written : List String} {u' : FileTree}
    (hwritten : write render t c outputDirectory = .ok (written, u')) :
    ∃ held, u'.listing? directory = some held ∧
      held.Perm (lastOfEach (c.pages.map (pageFile render))) := by
  obtain ⟨p, hempty⟩ := holds_of_listing? render hfresh
  have hplain := isPlain_fileName hc hroot
  have hu' := ((write_eq_ok_iff htarget hmade).mp hwritten).2
  obtain ⟨u'', hu'', hholds⟩ :=
    hempty.exists_foldlM hplain (hempty.isName_of_foldlM hplain hu')
  obtain rfl : u'' = u' := Except.ok.inj (hu''.symm.trans hu')
  refine ⟨u''.entriesIn p, ?_, hholds.perm⟩
  rw [FileTree.listing?, hholds.place]
  rfl

/-- Manual pages are written to a directory that holds nothing. There is one path for each command,
in the order of the commands, and the path leads from the directory by the names of the commands
with dashes between them; the paths differ from one another if and only if no two commands share
a name that is made this way. If the name of the first command has no separator in it, then the
pages can be written if and only if these names can be names of files. What the directory holds then
is, for each of the names, the page of the last command that goes by it, so that each command has
the file of its own page if no two commands share a name, and there are fewer files than commands
if two do. None do if no subcommand's name is that of another one with a dash and more behind it. -/
theorem write_pages (render : Command δ → String) (t u : FileTree) (c : Command δ)
    (outputDirectory : Option String) (directory : String) (hc : c.WellNamed)
    (htarget : target t outputDirectory = .ok directory)
    (hmade : t.makeDirectories directory = some u) (hfresh : u.listing? directory = some []) :
    let pageName : List String → String := "-".intercalate
    let ownPages := c.routes.map fun route =>
      (pageName route.1 ++ ".1", FileEntry.file (render (route.2.renamed (pageName route.1))))
    (∀ written u', write render t c outputDirectory = .ok (written, u') →
      written = c.ways.map (fun way => join directory (pageName way ++ ".1")) ∧
        written.length = c.size ∧ (written.Nodup ↔ c.Unambiguous)) ∧
      ('/' ∉ c.name.toList →
        ((∃ result, write render t c outputDirectory = .ok result) ↔
          ∀ way ∈ c.ways, isName (pageName way ++ ".1") = true) ∧
        ∀ written u', write render t c outputDirectory = .ok (written, u') →
          ∃ held, u'.listing? directory = some held ∧ held.Perm (lastOfEach ownPages) ∧
            (c.Unambiguous → held.Perm ownPages) ∧
            (held.length = c.size ↔ c.Unambiguous)) ∧
      (c.Apart → c.Unambiguous) := by
  intro pageName ownPages
  have hpages : c.pages.map (pageFile render) = ownPages := by
    rw [Command.pages_eq, List.map_map]
    rfl
  have hnames : ownPages.map Prod.fst = c.ways.map fileName := by
    rw [List.map_map, Command.ways, List.map_map]
    rfl
  have hnodup : (ownPages.map Prod.fst).Nodup ↔ c.Unambiguous := by
    rw [hnames, nodup_fileNames_iff hc]
  have hlength : ownPages.length = c.size := (List.length_map _).trans c.length_routes
  refine ⟨fun written u' hwritten => ?_, fun hroot => ⟨?_, fun written u' hwritten => ?_⟩,
    hc.unambiguous_of_apart⟩
  · obtain ⟨rfl, -⟩ := (write_eq_ok_iff htarget hmade).mp hwritten
    refine ⟨paths_eq c directory, ?_, ?_⟩
    · rw [paths_eq, List.length_map, Command.ways, List.length_map, c.length_routes]
    · rw [paths_eq, nodup_paths_iff hc]
  · exact exists_write_iff hc hroot htarget hmade hfresh
  · obtain ⟨held, hlisting, hperm⟩ :=
      exists_listing_of_write hc hroot htarget hmade hfresh hwritten
    rw [hpages] at hperm
    refine ⟨held, hlisting, hperm, fun hown => ?_, ?_⟩
    · rwa [lastOfEach_of_nodup (hnodup.mpr hown)] at hperm
    · rw [hperm.length_eq, ← hlength, length_lastOfEach_eq_iff, hnodup]

/-- Commands of three levels, with a dash in a name where it does no harm, and their pages in the
directory that the program runs in. -/
theorem write_pages_nested :
    let c : Command String :=
      .command "x" "top" [.command "a-b" "dash" [.command "c" "deep" []], .command "a" "plain" []]
    let render : Command String → String := fun d => d.name ++ ": " ++ d.details
    let t : FileTree := { here := ["home"], entries := [(["home"], .directory)] }
    (c.WellNamed ∧ '/' ∉ c.name.toList ∧ target t none = .ok "/home" ∧
        ∃ u, t.makeDirectories "/home" = some u ∧ u.listing? "/home" = some []) ∧
      ∃ written u', write render t c none = .ok (written, u') ∧
        written = ["/home/x.1", "/home/x-a-b.1", "/home/x-a-b-c.1", "/home/x-a.1"] ∧
        written.Nodup ∧
        ∃ held, u'.listing? "/home" = some held ∧
          held.Perm [("x.1", .file "x: top"), ("x-a-b.1", .file "x-a-b: dash"),
            ("x-a-b-c.1", .file "x-a-b-c: deep"), ("x-a.1", .file "x-a: plain")] := by
  intro c render t
  have hc : c.WellNamed := by
    refine .command (by decide) (by decide) (List.forall_mem_cons.mpr ⟨?_, ?_⟩)
    · exact .command (by decide) (by decide) (List.forall_mem_singleton.mpr (.leaf "c" "deep"))
    · exact List.forall_mem_singleton.mpr (.leaf "a" "plain")
  have hunambiguous : c.Unambiguous := by
    unfold Command.Unambiguous
    decide +kernel
  have htarget : target t none = .ok "/home" := by decide +kernel
  obtain ⟨u, hmade, hfresh⟩ :
      ∃ u, t.makeDirectories "/home" = some u ∧ u.listing? "/home" = some [] := ⟨_, rfl, rfl⟩
  obtain ⟨hpaths, hwrites, -⟩ := write_pages render t u c none "/home" hc htarget hmade hfresh
  obtain ⟨hwritable, hheld⟩ := hwrites (by decide)
  obtain ⟨⟨written, u'⟩, hwritten⟩ := hwritable.mpr (by decide +kernel)
  obtain ⟨hlist, -, hnodup⟩ := hpaths written u' hwritten
  obtain ⟨held, hlisting, -, hown, -⟩ := hheld written u' hwritten
  exact ⟨⟨hc, by decide, htarget, u, hmade, hfresh⟩, written, u', hwritten,
    hlist.trans (by decide +kernel), hnodup.mpr hunambiguous, held, hlisting, hown hunambiguous⟩

/-- A dash in a name makes up for one between names, so one page takes the place of another one. A
separator in the name of the first command leads out of the directory. -/
theorem write_pages_ambiguous :
    let c : Command String :=
      .command "x" "top" [.command "a" "plain" [.command "b" "deep" []], .command "a-b" "dash" []]
    let c' : Command String := .command "../x" "top" []
    let render : Command String → String := fun d => d.name ++ ": " ++ d.details
    (c.WellNamed ∧ c'.WellNamed ∧
        ∃ u, ({} : FileTree).makeDirectories "out" = some u ∧ u.listing? "out" = some []) ∧
      (∃ written u', write render {} c (some "out") = .ok (written, u') ∧
        written = ["out/x.1", "out/x-a.1", "out/x-a-b.1", "out/x-a-b.1"] ∧ ¬written.Nodup ∧
        ∃ held, u'.listing? "out" = some held ∧ held.length = 3 ∧ c.size = 4 ∧
          ("x-a-b.1", .file "x-a-b: dash") ∈ held ∧ ("x-a-b.1", .file "x-a-b: deep") ∉ held) ∧
      ∃ u', write render {} c' (some "out") = .ok (["out/../x.1"], u') ∧
        u'.listing? "out" = some [] := by
  intro c c' render
  have hc : c.WellNamed := by
    refine .command (by decide) (by decide) (List.forall_mem_cons.mpr ⟨?_, ?_⟩)
    · exact .command (by decide) (by decide) (List.forall_mem_singleton.mpr (.leaf "b" "deep"))
    · exact List.forall_mem_singleton.mpr (.leaf "a-b" "dash")
  refine ⟨⟨hc, .leaf _ _, _, rfl, rfl⟩, ?_, ?_⟩
  · dsimp only [c]
    exact ⟨_, _, rfl, rfl, by decide, _, rfl, by decide +kernel⟩
  · dsimp only [c']
    exact ⟨_, rfl, rfl⟩

end Write

end Manual

end ControlQuery

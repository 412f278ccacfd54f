import ControlQuery.Files.Tree
import Mathlib.Data.List.Basic

/-!
# Files in directories

A file that is put into a directory is the only new thing there, and no path leads elsewhere than
before, as long as it does not take the place of a directory.
-/

namespace ControlQuery

/-- The name of what stands at a place right in a directory, if it stands there. -/
def Place.nameIn? (directory place : Place) : Option String :=
  if place.dropLast = directory then place.getLast? else none

lemma Place.nameIn?_eq_some_iff {p q : Place} {name : String} :
    Place.nameIn? p q = some name ↔ q = p ++ [name] := by
  unfold nameIn?
  constructor
  · intro h
    split_ifs at h with hp
    rw [← hp]
    exact (List.dropLast_append_getLast? name h).symm
  · rintro rfl
    rw [List.dropLast_concat, if_pos rfl, List.getLast?_concat]

namespace FileTree

variable {t u : FileTree} {p q : Place} {name path directory : String} {e : FileEntry}

/-- What stands right at a place, by its names. -/
def entriesIn (t : FileTree) (p : Place) : List (String × FileEntry) :=
  t.entries.filterMap fun e => (Place.nameIn? p e.1).map (·, e.2)

/-- The directory that a path leads to. The empty path leads nowhere else. -/
def place? (t : FileTree) (path : String) : Option Place :=
  (if path.isEmpty then some t.here else t.resolve path).filter t.isDirectory

/-- What a directory holds, if it is there. -/
def listing? (t : FileTree) (directory : String) : Option (List (String × FileEntry)) :=
  (t.place? directory).map t.entriesIn

/-! ## Putting entries at their places -/

lemma mem_entriesIn : (name, e) ∈ t.entriesIn p ↔ (p ++ [name], e) ∈ t.entries := by
  rw [entriesIn, List.mem_filterMap]
  constructor
  · rintro ⟨⟨q, e'⟩, hmem, hname⟩
    obtain ⟨n, hn, heq⟩ := Option.map_eq_some_iff.mp hname
    obtain ⟨rfl, rfl⟩ := Prod.mk.inj heq
    rw [← Place.nameIn?_eq_some_iff.mp hn]
    exact hmem
  · exact fun hmem => ⟨_, hmem, by rw [Place.nameIn?_eq_some_iff.mpr rfl]; rfl⟩

/-- An entry takes the place of the one of its name. -/
lemma entriesIn_set (t : FileTree) (p : Place) (name : String) (e : FileEntry) :
    (t.set (p ++ [name]) e).entriesIn p =
      (name, e) :: (t.entriesIn p).filter fun old => old.1 != name := by
  have hothers : ∀ old : Place × FileEntry,
      (if (old.1 != p ++ [name]) = true then (Place.nameIn? p old.1).map (·, old.2) else none) =
        ((Place.nameIn? p old.1).map (·, old.2)).filter fun old => old.1 != name := by
    rintro ⟨q, e⟩
    cases hname : Place.nameIn? p q with
    | none => simp
    | some n =>
      rw [Place.nameIn?_eq_some_iff] at hname
      simp [hname, Option.filter]
  rw [entriesIn, set, List.filterMap_cons, Place.nameIn?_eq_some_iff.mpr rfl, List.filterMap_filter,
    entriesIn, List.filter_filterMap]
  simp only [Option.map_some, hothers]

lemma get?_set_of_ne (h : q ≠ p) (e : FileEntry) : (t.set p e).get? q = t.get? q := by
  have hkept : (fun old : Place × FileEntry => decide ((old.1 != p) = true ∧ (old.1 == q) = true)) =
      fun old => old.1 == q := by
    funext old
    by_cases hq : old.1 = q
    · simp [hq, h]
    · simp [hq]
  rw [get?, get?, set, List.find?_cons_of_neg (by simpa using h.symm), List.find?_filter, hkept]

/-- A file that does not stand where a directory stood leaves all directories where they are. -/
lemma isDirectory_set (h : t.isDirectory p = false) (text : String) :
    (t.set p (.file text)).isDirectory = t.isDirectory := by
  funext q
  by_cases hq : q = p
  · subst hq
    rw [h, isDirectory, get?]
    have htop : ¬q.isEmpty = true := by
      intro htop
      rw [isDirectory, get?, if_pos htop] at h
      cases h
    rw [if_neg htop, set, List.find?_cons_of_pos (by simp)]
    rfl
  · rw [isDirectory, get?_set_of_ne hq, isDirectory]

lemma place?_congr (h : u.isDirectory = t.isDirectory) (hhere : u.here = t.here) (path : String) :
    u.place? path = t.place? path := by
  have henter : u.enter = t.enter := by
    funext p name
    rw [enter, enter, h]
  rw [place?, place?, resolve, resolve, start, start, henter, h, hhere]

/-! ## Paths -/

/-- A name that leads to something in a directory, neither to the directory itself nor elsewhere. -/
structure IsPlain (name : String) : Prop where
  ne_empty : name ≠ ""
  ne_here : name ≠ "."
  ne_above : name ≠ aboveName
  no_separator : '/' ∉ name.toList

lemma IsPlain.isAbsolute_eq_false (h : IsPlain name) : isAbsolute name = false := by
  rw [isAbsolute]
  refine beq_false_of_ne fun heq => h.no_separator ?_
  exact List.mem_of_mem_head? heq

lemma mem_entriesIn_of_get? (he : t.get? (p ++ [name]) = some e) :
    (name, e) ∈ t.entriesIn p := by
  rw [get?, if_neg (by simp)] at he
  obtain ⟨old, hold, rfl⟩ := Option.map_eq_some_iff.mp he
  have hplace : old.1 = p ++ [name] := by simpa using List.find?_some hold
  rw [mem_entriesIn, ← hplace]
  exact List.mem_of_find?_eq_some hold

lemma enter_of_isPlain (hp : t.isDirectory p = true) (hname : IsPlain name) :
    t.enter p name = if isName name then some (p ++ [name]) else none := by
  have hempty : name.isEmpty = false := by simpa using hname.ne_empty
  simp [enter, hp, hempty, hname.ne_here, hname.ne_above]

/-- The empty name leads nowhere else. -/
lemma eq_of_enter_empty (h : t.enter p "" = some q) : q = p := by
  have henter : t.enter p "" = if t.isDirectory p then some p else none := by
    cases hp : t.isDirectory p <;> simp [enter, hp]
  rw [henter] at h
  split_ifs at h
  exact (Option.some.inj h).symm

lemma names_append (path : String) (h : '/' ∉ name.toList) :
    names (path ++ "/" ++ name) = names path ++ [name] := by
  have hchars : (path ++ "/" ++ name).toList = path.toList ++ '/' :: name.toList := by simp
  rw [names, names, hchars, List.splitOn_append_cons_self, List.splitOn_eq_singleton h,
    List.map_append, List.map_singleton, String.ofList_toList]

lemma resolve_of_isPlain (h : IsPlain name) : t.resolve name = t.enter t.here name := by
  have hempty : name.isEmpty = false := by simpa using h.ne_empty
  have hnames : names name = [name] := by
    rw [names, List.splitOn_eq_singleton h.no_separator, List.map_singleton, String.ofList_toList]
  rw [resolve, hempty, start, h.isAbsolute_eq_false, hnames]
  simp

lemma start_append (path name : String) : t.start (path ++ "/" ++ name) = t.start (path ++ "/") := by
  have habsolute : isAbsolute (path ++ "/" ++ name) = isAbsolute (path ++ "/") := by
    cases hpath : path.toList <;> simp [isAbsolute, hpath]
  rw [start, start, habsolute]

/-- The last name on a path is looked up where the names in front of it lead. -/
lemma resolve_append (path : String) (h : '/' ∉ name.toList) :
    t.resolve (path ++ "/" ++ name) =
      ((names path).foldlM t.enter (t.start (path ++ "/"))).bind (t.enter · name) := by
  have hempty : (path ++ "/" ++ name).isEmpty = false := by simp
  rw [resolve, hempty, if_neg Bool.false_ne_true, start_append, names_append path h,
    List.foldlM_append]
  simp only [List.foldlM_cons, List.foldlM_nil, bind_pure]
  rfl

/-- A path begins where it does with a separator behind it, unless it is empty. -/
lemma resolve_of_ne_empty (hpath : path ≠ "") :
    t.resolve path = (names path).foldlM t.enter (t.start (path ++ "/")) := by
  obtain ⟨c, cs, hcs⟩ : ∃ c cs, path.toList = c :: cs := by
    apply List.exists_cons_of_ne_nil
    simpa using hpath
  have habsolute : isAbsolute (path ++ "/") = isAbsolute path := by
    simp [isAbsolute, hcs]
  have hempty : path.isEmpty = false := by simpa using hpath
  rw [resolve, hempty, if_neg Bool.false_ne_true, start, start, habsolute]

/-- A file is written where its path leads unless a directory stands there. -/
lemma write_eq_some (hpath : t.resolve path = some p) (hp : t.isDirectory p = false)
    (text : String) : t.write path text = some (t.set p (.file text)) := by
  rw [isDirectory] at hp
  rw [write, hpath, Option.bind_eq_bind, Option.bind_some]
  split
  · next hget =>
    rw [hget] at hp
    cases hp
  · rfl

end FileTree

end ControlQuery

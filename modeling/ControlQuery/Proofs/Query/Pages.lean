import ControlQuery.Proofs.CPath.Meaning
import ControlQuery.Proofs.Query.Normal

/-!
# Pages of queries

The pages of the elements of a query, at any depth. The text of a page is read as a page that has
the same text, except for two kinds of pages, whose text gets shorter. Neither kind is ever read.
-/

namespace ControlQuery

open CPath (Page)

section Engine

variable [Regex.Engine]

mutual

/-- The pages of the elements anywhere in a condition. -/
def Condition.pages : Condition → List Page
  | .property _ => []
  | .function _ => []
  | .logical _ left right => left.pages ++ right.pages
  | .hasElement query => query.pages
  | .relative _ condition => Condition.pagesOfOption condition

def Condition.pagesOfOption : Option Condition → List Page
  | none => []
  | some condition => condition.pages

def Part.pages : Part → List Page
  | .identity => []
  | .ancestors _ _ => []
  | .descendants _ _ => []
  | .composite element => element.pages

def Part.pagesOfList : List Part → List Page
  | [] => []
  | part :: parts => part.pages ++ Part.pagesOfList parts

def Element.pages : Element → List Page
  | { condition, scope, skip, take } =>
    Part.pagesOfList scope ++ (Condition.pagesOfOption condition ++ [⟨skip, take⟩])

def Query.pages : Query → List Page
  | { path, element } => Part.pagesOfList path ++ element.pages

end

end Engine

/-! ## Texts of pages -/

/-- The page is neither an explicit start at the first item without an end, nor a start at the last
item but one with an end that is capped. -/
structure CPath.Page.IsStable (p : Page) : Prop where
  opened : ¬(p.skip = some 0 ∧ p.take = none)
  capped : ¬(p.skip = some 18446744073709551614 ∧ ∃ t, p.take = some t ∧ 2 ≤ t)

/-- All of the pages are stable. -/
def Stable (pages : List Page) : Prop :=
  ∀ page ∈ pages, page.IsStable

lemma stable_nil : Stable [] :=
  List.forall_mem_nil Page.IsStable

lemma stable_singleton {page : Page} : Stable [page] ↔ page.IsStable :=
  List.forall_mem_singleton

lemma stable_append {pages pages' : List Page} :
    Stable (pages ++ pages') ↔ Stable pages ∧ Stable pages' :=
  List.forall_mem_append

section Pages

variable {skip : Option Count} {start count : Count}

/-- The text of a page that takes a number of items. -/
def takeText (start count : Count) : String :=
  if count = 1 then "[" ++ toString (min (start.toNat + 1) greatestCount) ++ "]"
  else if start.toNat = 0 then "[:" ++ toString count.toNat ++ "]"
  else "[" ++ toString start.toNat ++ ":" ++
    toString (min (start.toNat + count.toNat) greatestCount) ++ "]"

lemma pageText_take (skip : Option Count) (count : Count) :
    pageText skip (some count) = takeText (skip.getD 0) count := by
  cases skip <;> rfl

lemma getD_skip_from (start : Count) (take : Option Count) :
    (Page.from start take).skip.getD 0 = start := by
  unfold Page.from
  by_cases h : start = 0
  · rw [if_pos h, h]
    rfl
  · rw [if_neg h]
    rfl

lemma pageText_from_take (start count : Count) :
    pageText (Page.from start (some count)).skip (Page.from start (some count)).take =
      takeText start count := by
  have hskip := getD_skip_from start (some count)
  unfold Page.from at hskip ⊢
  rw [pageText_take, hskip]

/-- The number of items up to the greatest count. -/
lemma toNat_capped_sub (start count : Count) :
    (cappedCount (start.toNat + count.toNat) - start).toNat =
      min (start.toNat + count.toNat) greatestCount - start.toNat := by
  have hle : start ≤ cappedCount (start.toNat + count.toNat) := by
    rw [UInt64.le_iff_toNat_le, toNat_cappedCount]
    exact Nat.le_min.mpr ⟨Nat.le_add_right _ _, Count.toNat_le start⟩
  rw [UInt64.toNat_sub_of_le _ _ hle, toNat_cappedCount]

lemma takeText_one (start : Count) :
    takeText (cappedCount (start.toNat + 1) - 1) 1 = takeText start 1 := by
  have hpos : 1 ≤ min (start.toNat + 1) greatestCount :=
    Nat.le_min.mpr ⟨Nat.le_add_left 1 _, by decide⟩
  have hsub : (cappedCount (start.toNat + 1) - 1).toNat =
      min (start.toNat + 1) greatestCount - 1 := by
    have hle : (1 : Count) ≤ cappedCount (start.toNat + 1) := by
      rw [UInt64.le_iff_toNat_le, toNat_cappedCount]
      exact hpos
    rw [UInt64.toNat_sub_of_le _ _ hle, toNat_cappedCount]
    rfl
  unfold takeText
  rw [if_pos rfl, if_pos rfl, hsub, Nat.sub_add_cancel hpos, Nat.min_assoc, Nat.min_self]

lemma takeText_capped (h : count ≠ 1)
    (hcapped : cappedCount (start.toNat + count.toNat) - start ≠ 1) :
    takeText start (cappedCount (start.toNat + count.toNat) - start) = takeText start count := by
  have hstart := Count.toNat_le start
  have hcount := Count.toNat_le count
  unfold takeText
  rw [if_neg h, if_neg hcapped, toNat_capped_sub]
  by_cases hzero : start.toNat = 0
  · rw [if_pos hzero, if_pos hzero, hzero, Nat.zero_add, Nat.min_eq_left hcount, Nat.sub_zero]
  · rw [if_neg hzero, if_neg hzero, Nat.add_sub_cancel' (by omega), Nat.min_assoc, Nat.min_self]

/-- Just one item is left up to the greatest count where more are asked for. -/
lemma capped_eq_one_iff (h : count ≠ 1) :
    cappedCount (start.toNat + count.toNat) - start = 1 ↔
      start = 18446744073709551614 ∧ 2 ≤ count := by
  have hne : count.toNat ≠ 1 := fun hone => h (UInt64.toNat_inj.mp hone)
  have hstart := Count.toNat_le start
  rw [← UInt64.toNat_inj, ← UInt64.toNat_inj, UInt64.le_iff_toNat_le, toNat_capped_sub]
  change _ = 1 ↔ start.toNat = 18446744073709551614 ∧ 2 ≤ count.toNat
  unfold greatestCount at *
  omega

lemma length_takeText_lt (h : 2 ≤ count) :
    (takeText 18446744073709551614 1).length < (takeText 18446744073709551614 count).length := by
  have hne : count ≠ 1 := by
    rintro rfl
    exact absurd h (by decide)
  have hend : min ((18446744073709551614 : Count).toNat + count.toNat) greatestCount =
      greatestCount := by
    have htwo : 2 ≤ count.toNat := h
    apply Nat.min_eq_right
    change greatestCount ≤ 18446744073709551614 + count.toNat
    unfold greatestCount
    omega
  unfold takeText
  rw [if_pos rfl, if_neg hne, if_neg (by decide), hend]
  decide +kernel

end Pages

/-! ## Texts that shrink -/

/-- The first text becomes the second one, which is the same under the condition and shorter
otherwise. -/
structure Shrinks (p : Prop) (s s' : String) : Prop where
  kept : p → s' = s
  shorter : ¬p → s'.length < s.length

lemma Shrinks.of_holds {p : Prop} (h : p) (s : String) : Shrinks p s s where
  kept _ := rfl
  shorter hp := absurd h hp

lemma shrinks_pageText_open (skip : Option Count) :
    Shrinks (Page.IsStable ⟨skip, none⟩) (pageText skip none)
      (pageText (normalPage skip none).skip (normalPage skip none).take) := by
  cases skip with
  | none => exact .of_holds ⟨nofun, nofun⟩ ""
  | some start =>
    by_cases hzero : start = 0
    · rw [hzero]
      refine ⟨fun h => absurd ⟨rfl, rfl⟩ h.opened, fun _ => ?_⟩
      decide +kernel
    · have hnormal : normalPage (some start) none = ⟨some start, none⟩ :=
        congrArg (Page.mk · none) (if_neg hzero)
      rw [hnormal]
      refine .of_holds ⟨?_, nofun⟩ _
      rintro ⟨hskip, -⟩
      exact hzero (Option.some.inj hskip)

/-- A page that takes some items is stable unless its end is capped to the next item. -/
lemma isStable_take_iff :
    Page.IsStable ⟨skip, some count⟩ ↔
      ¬(skip.getD 0 = 18446744073709551614 ∧ 2 ≤ count) := by
  have hstart : skip = some 18446744073709551614 ↔ skip.getD 0 = 18446744073709551614 := by
    cases skip with
    | none => exact ⟨nofun, fun h => absurd h (by decide)⟩
    | some start => exact Option.some_inj
  constructor
  · rintro ⟨-, hcapped⟩ ⟨hskip, hcount⟩
    exact hcapped ⟨hstart.mpr hskip, count, rfl, hcount⟩
  · refine fun h => ⟨nofun, ?_⟩
    rintro ⟨hskip, t, ht, hcount⟩
    rw [← Option.some.inj ht] at hcount
    exact h ⟨hstart.mp hskip, hcount⟩

/-- The text of a page becomes that of the page it is read as. -/
lemma shrinks_pageText (skip take : Option Count) :
    Shrinks (Page.IsStable ⟨skip, take⟩) (pageText skip take)
      (pageText (normalPage skip take).skip (normalPage skip take).take) := by
  cases take with
  | none => exact shrinks_pageText_open skip
  | some count =>
    rw [isStable_take_iff, normalPage, pageText_take]
    generalize skip.getD 0 = start
    by_cases hone : count = 1
    · have hstable : ¬(start = 18446744073709551614 ∧ 2 ≤ count) := by
        rintro ⟨-, htwo⟩
        rw [hone] at htwo
        exact absurd htwo (by decide)
      rw [if_pos hone, pageText_from_take, takeText_one, hone]
      exact .of_holds (hone ▸ hstable) _
    · rw [if_neg hone, pageText_from_take]
      by_cases hcapped : start = 18446744073709551614 ∧ 2 ≤ count
      · rw [(capped_eq_one_iff hone).mpr hcapped, hcapped.1]
        exact ⟨fun hstable => absurd ⟨rfl, hcapped.2⟩ hstable,
          fun _ => length_takeText_lt hcapped.2⟩
      · rw [takeText_capped hone fun h => hcapped ((capped_eq_one_iff hone).mp h)]
        exact .of_holds hcapped _

end ControlQuery

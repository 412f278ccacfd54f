import ControlQuery.Proofs.CPath.Attempts
import ControlQuery.Proofs.CPath.Rows

/-!
# How a text can go on

While a text is read, it is known at each place what has to come next for the whole to be derived.
What is asked for is put together from rules, one behind the other, and where it can be written, the
text so far can be continued.
-/

namespace ControlQuery.CPath

open Reader

/-! ## What has to come next -/

/-- Something that the relation allows comes next, and behind it what is asked for. -/
def Before (R : Input → Input → Prop) (K : Input → Prop) (i : Input) : Prop :=
  ∃ j, R i j ∧ K j

/-- The rule derives something between the two places. -/
def Derived {α : Type} (rule : Input → α → Input → Prop) (i j : Input) : Prop :=
  ∃ a, rule i a j

/-- Some text is what is asked for. -/
def Possible (K : Input → Prop) : Prop :=
  ∃ cs, ∀ o, K ⟨cs, o⟩

/-- Some text is what is asked for and goes on no identifier, so it may stand behind any other. -/
def Closable (K : Input → Prop) : Prop :=
  ∃ cs, (∀ c ∈ cs.head?, isIdentChar c = false) ∧ ∀ o, K ⟨cs, o⟩

/-- What may be asked for behind a rule. -/
structure Goal (K : Input → Prop) : Prop where
  gap : ∀ {i j : Input}, Gap i j → K j → K i
  closable : Closable K

/-- At this place of the text all that is asked for leads to a derivation of the whole, and so it
does behind a copy of what stands in front of the place. -/
structure Awaits (text : String) (i : Input) (K : Input → Prop) : Prop where
  reaches : Reaches (.start text) i
  derives : ∀ {text' : String} {i' : Input}, Copied (.start text) i (.start text') i' → K i' →
    ∃ ss, Derives text' ss

section Awaits

variable {α : Type} {text : String} {i j : Input} {R : Input → Input → Prop} {K L : Input → Prop}
  {s : String} {c : Char}

lemma Closable.possible (h : Closable K) : Possible K := by
  obtain ⟨cs, -, h⟩ := h
  exact ⟨cs, h⟩

lemma Closable.mono (h : Closable K) (hKL : ∀ {i}, K i → L i) : Closable L := by
  obtain ⟨cs, hcs, h⟩ := h
  exact ⟨cs, hcs, fun o => hKL (h o)⟩

lemma Closable.gap (h : Closable K) : Closable (Before Gap K) :=
  h.mono fun h => ⟨_, .refl, h⟩

lemma Possible.word (h : Possible K) : Possible (Before (Word s) K) := by
  obtain ⟨cs, h⟩ := h
  exact ⟨s.toList ++ cs, fun _ => ⟨_, .of_rest rfl, h _⟩⟩

lemma Closable.of_word (h : Possible K) (hs : s.toList.head? = some c)
    (hc : isIdentChar c = false) : Closable (Before (Word s) K) := by
  obtain ⟨cs, h⟩ := h
  refine ⟨s.toList ++ cs, fun d hd => ?_, fun _ => ⟨_, .of_rest rfl, h _⟩⟩
  rw [List.head?_append, hs] at hd
  cases hd
  exact hc

lemma Goal.of_word (h : Possible K) (hs : s.toList.head? = some c) (hc : isIdentChar c = false) :
    Goal (Before Gap (Before (Word s) K)) where
  gap := fun gap ⟨k, gap', h⟩ => ⟨k, gap.trans gap', h⟩
  closable := (Closable.of_word h hs hc).gap

/-- A number is possible in front of anything that is. -/
lemma Possible.digits (h : Possible K) : Possible (Before (Derived DigitsText) K) := by
  obtain ⟨cs, h⟩ := h
  refine ⟨'1' :: cs, fun o => ?_⟩
  have hdigit : Piece ⟨'1' :: cs, o⟩ ['1'] ⟨cs, o + bytes ['1']⟩ := .of_rest rfl
  refine ⟨_, ⟨_, .of_piece hdigit, ?_⟩, h _⟩
  rw [String.toList_ofList]
  exact ⟨rfl, by simp⟩

/-- An identifier is possible in front of what does not go on with it. -/
lemma Closable.identifier (h : Closable K) : Possible (Before (Derived IdentifierText) K) := by
  obtain ⟨cs, hcs, h⟩ := h
  refine ⟨'a' :: cs, fun o => ?_⟩
  have hletter : Piece ⟨'a' :: cs, o⟩ ['a'] ⟨cs, o + bytes ['a']⟩ := .of_rest rfl
  refine ⟨_, ⟨_, .of_piece hletter, ?_, hcs⟩, h _⟩
  rw [String.toList_ofList]
  exact ⟨rfl, by simp⟩

/-- Rows may be empty, and blanks may stand in front of each member. -/
lemma Goal.row {rule : Input → List α → Input → Prop} (h : Goal K) (hnil : ∀ i, rule i [] i)
    (hgap : ∀ {i j k as}, Gap i j → rule j as k → rule i as k ∨ k = j) :
    Goal (Before (Derived rule) K) where
  gap := by
    rintro i j gap ⟨k, ⟨as, hrow⟩, hk⟩
    rcases hgap gap hrow with hrow | rfl
    · exact ⟨k, ⟨as, hrow⟩, hk⟩
    · exact ⟨i, ⟨[], hnil i⟩, h.gap gap hk⟩
  closable := h.closable.mono fun h => ⟨_, ⟨[], hnil _⟩, h⟩

lemma Portable.derived {rule : Input → α → Input → Prop} {same : α → α → Prop} {a : α}
    (h : Portable i j (Rephrased rule same a)) : Portable i j (Derived rule) :=
  h.mono fun ⟨b, h, _⟩ => ⟨b, h⟩

lemma Awaits.mono (h : Awaits text i K) (hLK : ∀ {i}, L i → K i) : Awaits text i L :=
  ⟨h.reaches, fun hc hL => h.derives hc (hLK hL)⟩

/-- What comes next has been read. -/
lemma Awaits.read (h : Awaits text i (Before R K)) (hp : Portable i j R) : Awaits text j K where
  reaches := h.reaches.trans hp.reaches
  derives := fun hc hK => by
    obtain ⟨i', hc, hc'⟩ := hc.split h.reaches hp.reaches
    exact h.derives hc ⟨_, hp.copy hc', hK⟩

lemma Awaits.viable_of {rest : List Char} (h : Awaits text i K) (hK : ∀ o, K ⟨rest, o⟩)
    (hrest : ∀ c ∈ rest.head?, isIdentChar c = false) :
    ∃ front ss, Piece (.start text) front i ∧ Derives (String.ofList (front ++ rest)) ss := by
  obtain ⟨front, hfront⟩ := h.reaches
  have hcopy : Piece (.start (String.ofList (front ++ rest))) front ⟨rest, bytes front⟩ := by
    rw [Input.start_ofList]
    exact .behind [] front rest
  obtain ⟨ss, hss⟩ := h.derives ⟨front, hfront, hcopy, fun _ _ _ _ => hrest⟩ (hK _)
  exact ⟨front, ss, hfront, hss⟩

/-- Where something can be written that goes on no identifier, the text can be continued. -/
lemma Awaits.viable (h : Awaits text i K) (hK : Closable K) : Viable text i := by
  obtain ⟨rest, hrest, hK⟩ := hK
  obtain ⟨front, ss, hfront, hss⟩ := h.viable_of hK hrest
  exact ⟨front, rest, ss, hfront, hss⟩

/-- Behind a word anything can be written, for its first character has ended what was before. -/
lemma Awaits.viable_word (h : Awaits text i (Before (Word s) K)) (word : Word s i j)
    (hs : s.toList.head? = some c) (hc : isIdentChar c = false) (hK : Possible K) :
    Viable text j := by
  obtain ⟨rest, hrest⟩ := hK
  have hK : ∀ o, Before (Word s) K ⟨s.toList ++ rest, o⟩ := fun _ => ⟨_, .of_rest rfl, hrest _⟩
  have hhead : ∀ d ∈ (s.toList ++ rest).head?, isIdentChar d = false := by
    intro d hd
    rw [List.head?_append, hs] at hd
    cases hd
    exact hc
  obtain ⟨front, ss, hfront, hss⟩ := h.viable_of hK hhead
  refine ⟨front ++ s.toList, rest, ss, hfront.append word, ?_⟩
  rwa [List.append_assoc]

end Awaits

end ControlQuery.CPath

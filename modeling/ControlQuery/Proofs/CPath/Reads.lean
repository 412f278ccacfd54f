import ControlQuery.CPath.Grammar
import Mathlib.Tactic.Lemma
import Mathlib.Tactic.Common
import Mathlib.Algebra.Ring.Nat
import Mathlib.Data.List.TakeWhile

/-!
# What readers read

`Reads p i a j` says that a reader takes `a` off the text at `i` and leaves off at `j`, and
`Refuses p i` that it fails there, whatever rules failed before. `MayRead p i a j` only asks for
some attempts with which it does. Each combinator has one lemma for each of the three.
-/

namespace ControlQuery.CPath

/-! ## Places of a text -/

/-- The number of bytes that characters take. -/
def bytes (cs : List Char) : Nat :=
  (cs.map Char.utf8Size).sum

/-- These characters stand between two places of a text. -/
structure Piece (i : Input) (cs : List Char) (j : Input) : Prop where
  rest : i.rest = cs ++ j.rest
  offset : j.offset = i.offset + bytes cs

namespace Piece

variable {i j k : Input} {cs ds : List Char} {c : Char}

lemma nil : Piece i [] i :=
  ⟨rfl, rfl⟩

lemma append (h : Piece i cs j) (h' : Piece j ds k) : Piece i (cs ++ ds) k := by
  refine ⟨?_, ?_⟩
  · rw [h.rest, h'.rest, List.append_assoc]
  · rw [h'.offset, h.offset, bytes, bytes, bytes, List.map_append, List.sum_append]
    omega

lemma eq_of_nil (h : Piece i [] j) : j = i := by
  obtain ⟨is, o⟩ := i
  obtain ⟨js, o'⟩ := j
  obtain ⟨hr, ho⟩ := h
  simp_all [bytes]

/-- The rest of a text behind some characters. -/
lemma of_rest {r : List Char} (h : i.rest = cs ++ r) :
    Piece i cs ⟨r, i.offset + bytes cs⟩ :=
  ⟨h, rfl⟩

lemma uncons (h : Piece i (c :: cs) k) :
    Piece i [c] ⟨cs ++ k.rest, i.offset + c.utf8Size⟩ ∧
      Piece ⟨cs ++ k.rest, i.offset + c.utf8Size⟩ cs k := by
  refine ⟨⟨h.rest, by simp [bytes]⟩, ⟨rfl, ?_⟩⟩
  rw [h.offset, bytes, bytes, List.map_cons, List.sum_cons]
  dsimp only
  omega

/-- One of two pieces from the same place goes on with the other. -/
lemma split (h : Piece i (cs ++ ds) k) : ∃ j, Piece i cs j ∧ Piece j ds k := by
  refine ⟨⟨ds ++ k.rest, i.offset + bytes cs⟩, ⟨?_, rfl⟩, ⟨rfl, ?_⟩⟩
  · rw [h.rest, List.append_assoc]
  · rw [h.offset, bytes, bytes, bytes, List.map_append, List.sum_append]
    dsimp only
    omega

lemma unique (h : Piece i cs j) (h' : Piece i cs k) : j = k := by
  obtain ⟨js, o⟩ := j
  obtain ⟨ks, o'⟩ := k
  have hr := h.rest.symm.trans h'.rest
  have ho := h.offset.trans h'.offset.symm
  simp_all

lemma length (h : Piece i cs j) : i.rest.length = cs.length + j.rest.length := by
  rw [h.rest, List.length_append]

lemma head (h : Piece i (c :: cs) j) : i.rest.head? = some c := by
  rw [h.rest, List.cons_append, List.head?_cons]

/-- The characters between two places are those that the later one no longer has. -/
lemma take_eq (h : Piece i cs j) : i.rest.take (i.rest.length - j.rest.length) = cs := by
  rw [h.length, Nat.add_sub_cancel, h.rest, List.take_left']
  rfl

end Piece

/-- No character of the class comes next. -/
def Input.Stops (p : Char → Bool) (i : Input) : Prop :=
  ∀ c ∈ i.rest.head?, p c = false

lemma Input.Stops.of_head {p : Char → Bool} {i : Input} {c : Char} (h : i.rest.head? = some c)
    (hc : p c = false) : i.Stops p := by
  intro d hd
  rw [h, Option.mem_some] at hd
  rw [← hd, hc]

lemma Input.stops_dropWhile (p : Char → Bool) (cs : List Char) (o : Nat) :
    Input.Stops p ⟨cs.dropWhile p, o⟩ := by
  intro c hc
  have h := List.head?_dropWhile_not p cs
  rw [Option.mem_def] at hc
  dsimp only at hc
  rw [hc] at h
  exact h

namespace Reader

variable {α β : Type} {p q : Reader α} {f : α → Reader β} {i j k : Input} {a b : α} {c : Char}
  {cs : List Char} {r : Rule}

/-- The reader takes the value off the text, whatever was attempted before. -/
def Reads (p : Reader α) (i : Input) (a : α) (j : Input) : Prop :=
  ∀ σ, (p i σ).1 = some (a, j)

/-- The reader fails on the text, whatever was attempted before. -/
def Refuses (p : Reader α) (i : Input) : Prop :=
  ∀ σ, (p i σ).1 = none

/-- The reader takes the value off the text after some attempts. -/
def MayRead (p : Reader α) (i : Input) (a : α) (j : Input) : Prop :=
  ∃ σ, (p i σ).1 = some (a, j)

lemma Reads.unique (h : Reads p i a j) (h' : MayRead p i b k) : a = b ∧ j = k := by
  obtain ⟨σ, h'⟩ := h'
  rw [h σ] at h'
  cases h'
  exact ⟨rfl, rfl⟩

/-- A result with its attempts, when only the result is known. -/
lemma eq_mk {x : Option (α × Input) × Attempts} {y : Option (α × Input)} (h : x.1 = y) :
    x = (y, x.2) := by
  rw [← h]

/-! ## What is read for sure -/

lemma reads_pure : Reads (pure a : Reader α) i a i :=
  fun _ => rfl

lemma Reads.bind {b : β} (h : Reads p i a j) (h' : Reads (f a) j b k) :
    Reads (p >>= f) i b k := by
  intro σ
  change (Reader.bind p f i σ).1 = _
  unfold Reader.bind
  rw [eq_mk (h σ)]
  exact h' _

lemma Reads.rule (h : Reads p i a j) : Reads (rule r p) i a j := by
  intro σ
  unfold Reader.rule
  rw [eq_mk (h σ)]

lemma Reads.orElse (h : Reads p i a j) : Reads (p.orElse q) i a j := by
  intro σ
  unfold Reader.orElse
  rw [eq_mk (h σ)]

lemma Reads.optional (h : Reads p i a j) : Reads (Reader.optional p) i (some a) j := by
  intro σ
  unfold Reader.optional
  rw [eq_mk (h σ)]

lemma reads_satisfy {s : Char → Bool} (h : Piece i [c] j) (hc : s c = true) :
    Reads (satisfy s) i c j := by
  intro σ
  obtain ⟨js, o⟩ := j
  have ho : o = i.offset + c.utf8Size := by simpa [bytes] using h.offset
  unfold satisfy
  rw [h.rest, List.singleton_append]
  simp only [hc, ↓reduceIte, ho]

lemma reads_chars (h : Piece i cs j) : Reads (chars cs) i () j := by
  induction cs generalizing i with
  | nil =>
    rw [h.eq_of_nil]
    exact reads_pure
  | cons c cs ih =>
    obtain ⟨hc, hcs⟩ := h.uncons
    exact (reads_satisfy hc (by simp)).bind (ih hcs)

lemma reads_token {s : String} (h : Piece i s.toList j) : Reads (token s) i () j :=
  reads_chars h

lemma reads_notBefore {s : Char → Bool} (h : i.Stops s) : Reads (notBefore s) i () i := by
  intro σ
  unfold notBefore
  split
  · rfl
  · next c cs hr =>
    rw [h c (by rw [hr]; rfl)]
    rfl

lemma reads_atEnd (h : i.rest = []) : Reads atEnd i () i := by
  intro σ
  unfold atEnd
  rw [h]
  rfl

lemma Reads.withLexeme (h : Reads p i a j) (hp : Piece i cs j) :
    Reads (withLexeme p) i (a, ⟨i.offset, String.ofList cs⟩) j := by
  intro σ
  unfold Reader.withLexeme
  rw [eq_mk (h σ)]
  dsimp only
  rw [hp.take_eq]

lemma Reads.lexeme (h : Reads p i a j) (hp : Piece i cs j) :
    Reads (lexeme p) i ⟨i.offset, String.ofList cs⟩ j :=
  (h.withLexeme hp).bind reads_pure

/-! ## What is refused for sure -/

lemma Refuses.bind (h : Refuses p i) : Refuses (p >>= f) i := by
  intro σ
  change (Reader.bind p f i σ).1 = _
  unfold Reader.bind
  rw [eq_mk (h σ)]

lemma Reads.bind_refuses (h : Reads p i a j) (h' : Refuses (f a) j) : Refuses (p >>= f) i := by
  intro σ
  change (Reader.bind p f i σ).1 = _
  unfold Reader.bind
  rw [eq_mk (h σ)]
  exact h' _

lemma Refuses.rule (h : Refuses p i) : Refuses (rule r p) i := by
  intro σ
  unfold Reader.rule
  rw [eq_mk (h σ)]

lemma Refuses.orElse_reads (h : Refuses p i) (h' : Reads q i a j) : Reads (p.orElse q) i a j := by
  intro σ
  unfold Reader.orElse
  rw [eq_mk (h σ)]
  exact h' _

lemma Refuses.orElse (h : Refuses p i) (h' : Refuses q i) : Refuses (p.orElse q) i := by
  intro σ
  unfold Reader.orElse
  rw [eq_mk (h σ)]
  exact h' _

/-- One of several alternatives is read if all the others are refused. -/
lemma Reads.firstOf {ps : List (Reader α)} (h : Reads p i a j) (hp : p ∈ ps)
    (hr : ∀ q ∈ ps, q = p ∨ Refuses q i) : Reads (firstOf ps) i a j := by
  induction ps with
  | nil => cases hp
  | cons q qs ih =>
    cases qs with
    | nil =>
      obtain rfl := List.mem_singleton.mp hp
      exact h
    | cons q' qs =>
      rcases hr q (by simp) with rfl | hq
      · exact h.orElse
      · rcases List.mem_cons.mp hp with rfl | hm
        · exact h.orElse
        · exact hq.orElse_reads (ih hm fun r hmr => hr r (List.mem_cons_of_mem q hmr))

lemma Refuses.optional (h : Refuses p i) : Reads (Reader.optional p) i none i := by
  intro σ
  unfold Reader.optional
  rw [eq_mk (h σ)]

lemma Refuses.withLexeme (h : Refuses p i) : Refuses (withLexeme p) i := by
  intro σ
  unfold Reader.withLexeme
  rw [eq_mk (h σ)]

lemma Refuses.lexeme (h : Refuses p i) : Refuses (lexeme p) i :=
  h.withLexeme.bind

lemma refuses_satisfy {s : Char → Bool} (h : i.Stops s) : Refuses (satisfy s) i := by
  intro σ
  unfold satisfy
  split
  · rfl
  · next c cs hr =>
    rw [h c (by rw [hr]; rfl)]
    rfl

lemma refuses_chars (h : ¬ cs <+: i.rest) : Refuses (chars cs) i := by
  induction cs generalizing i with
  | nil => exact absurd List.nil_prefix h
  | cons c cs ih =>
    by_cases hc : i.rest.head? = some c
    · obtain ⟨r, hr⟩ := List.head?_eq_some_iff.mp hc
      have hp : Piece i [c] ⟨r, i.offset + bytes [c]⟩ := .of_rest hr
      refine (reads_satisfy hp (by simp)).bind_refuses (ih ?_)
      rw [hr, List.prefix_cons_inj] at h
      exact h
    · refine (refuses_satisfy ?_).bind
      intro d hd
      rw [beq_eq_false_iff_ne]
      rintro rfl
      exact hc hd

lemma refuses_token {s : String} (h : ¬ s.toList <+: i.rest) : Refuses (token s) i :=
  refuses_chars h

/-- A token is refused where another character comes next. -/
lemma refuses_token_of_stops {s : String} (hs : s.toList = c :: cs) (h : i.Stops (· == c)) :
    Refuses (token s) i := by
  refine refuses_token fun hp => ?_
  obtain ⟨r, hr⟩ := hp
  have hc := h c (by rw [← hr, hs]; rfl)
  simp at hc

/-! ## What may be read -/

lemma MayRead.pure (h : MayRead (pure a : Reader α) i b j) : a = b ∧ i = j :=
  reads_pure.unique h

lemma MayRead.bind {b : β} (h : MayRead (p >>= f) i b k) :
    ∃ a j, MayRead p i a j ∧ MayRead (f a) j b k := by
  obtain ⟨σ, h⟩ := h
  change (Reader.bind p f i σ).1 = _ at h
  unfold Reader.bind at h
  split at h
  · next a j τ he => exact ⟨a, j, ⟨σ, by rw [he]⟩, ⟨τ, h⟩⟩
  · cases h

lemma MayRead.rule (h : MayRead (rule r p) i a j) : MayRead p i a j := by
  obtain ⟨σ, h⟩ := h
  unfold Reader.rule at h
  split at h
  · next x τ he => exact ⟨σ, by rw [he]; exact h⟩
  · cases h

lemma MayRead.orElse (h : MayRead (p.orElse q) i a j) : MayRead p i a j ∨ MayRead q i a j := by
  obtain ⟨σ, h⟩ := h
  unfold Reader.orElse at h
  split at h
  · next x τ he => exact .inl ⟨σ, by rw [he]; exact h⟩
  · next τ he => exact .inr ⟨τ, h⟩

lemma MayRead.firstOf {ps : List (Reader α)} (h : MayRead (firstOf ps) i a j) :
    ∃ p ∈ ps, MayRead p i a j := by
  induction ps with
  | nil =>
    obtain ⟨σ, h⟩ := h
    cases h
  | cons p ps ih =>
    cases ps with
    | nil => exact ⟨p, by simp, h⟩
    | cons q qs =>
      rcases h.orElse with hp | hq
      · exact ⟨p, by simp, hp⟩
      · obtain ⟨r, hr, h⟩ := ih hq
        exact ⟨r, List.mem_cons_of_mem p hr, h⟩

lemma MayRead.optional {o : Option α} (h : MayRead (Reader.optional p) i o j) :
    (∃ a, o = some a ∧ MayRead p i a j) ∨ (o = none ∧ i = j) := by
  obtain ⟨σ, h⟩ := h
  unfold Reader.optional at h
  split at h
  · next a k τ he =>
    cases h
    exact .inl ⟨a, rfl, σ, by rw [he]⟩
  · cases h
    exact .inr ⟨rfl, rfl⟩

lemma MayRead.satisfy {s : Char → Bool} (h : MayRead (satisfy s) i c j) :
    Piece i [c] j ∧ s c = true := by
  obtain ⟨σ, h⟩ := h
  unfold Reader.satisfy at h
  split at h
  · cases h
  · next d ds hr =>
    split at h
    · next hd =>
      cases h
      exact ⟨⟨hr, by simp [bytes]⟩, hd⟩
    · cases h

lemma MayRead.chars {u : Unit} (h : MayRead (chars cs) i u j) : Piece i cs j := by
  induction cs generalizing i with
  | nil =>
    obtain ⟨-, rfl⟩ := MayRead.pure h
    exact .nil
  | cons c cs ih =>
    obtain ⟨d, k, hd, h⟩ := h.bind
    obtain ⟨hp, hd⟩ := hd.satisfy
    rw [beq_iff_eq] at hd
    rw [hd] at hp
    exact hp.append (ih h)

lemma MayRead.token {s : String} {u : Unit} (h : MayRead (token s) i u j) : Piece i s.toList j :=
  MayRead.chars h

lemma MayRead.notBefore {s : Char → Bool} {u : Unit} (h : MayRead (notBefore s) i u j) :
    i = j ∧ i.Stops s := by
  obtain ⟨σ, h⟩ := h
  unfold Reader.notBefore at h
  split at h
  · next hr =>
    cases h
    refine ⟨rfl, fun c hc => ?_⟩
    rw [hr] at hc
    cases hc
  · next c cs hr =>
    split at h
    · cases h
    · next hc =>
      cases h
      exact ⟨rfl, .of_head (by rw [hr]; rfl) (by simpa using hc)⟩

lemma MayRead.atEnd {u : Unit} (h : MayRead atEnd i u j) : i = j ∧ i.rest = [] := by
  obtain ⟨σ, h⟩ := h
  unfold Reader.atEnd at h
  split at h
  · next hr =>
    cases h
    exact ⟨rfl, List.isEmpty_iff.mp hr⟩
  · cases h

lemma MayRead.withLexeme {x : α × Lexeme} (h : MayRead (withLexeme p) i x j) :
    MayRead p i x.1 j ∧ ∀ cs, Piece i cs j → x.2 = ⟨i.offset, String.ofList cs⟩ := by
  obtain ⟨σ, h⟩ := h
  unfold Reader.withLexeme at h
  split at h
  · next a k τ he =>
    cases h
    refine ⟨⟨σ, by rw [he]⟩, fun cs hp => ?_⟩
    dsimp only
    rw [hp.take_eq]
  · cases h

lemma MayRead.lexeme {l : Lexeme} (h : MayRead (lexeme p) i l j) :
    ∃ a, MayRead p i a j ∧ ∀ cs, Piece i cs j → l = ⟨i.offset, String.ofList cs⟩ := by
  obtain ⟨⟨a, l'⟩, k, hp, h⟩ := MayRead.bind h
  obtain ⟨rfl, rfl⟩ := MayRead.pure h
  exact ⟨a, hp.withLexeme⟩

/-! ## Repetition -/

/-- Values one after the other, each of them related to the places around it. -/
inductive Each (R : Input → α → Input → Prop) : Input → List α → Input → Prop where
  | nil {i : Input} : Each R i [] i
  | cons {i j k : Input} {a : α} {as : List α} (head : R i a j) (tail : Each R j as k) :
      Each R i (a :: as) k

/-- The reader takes the value and at least one character. -/
def Advances (p : Reader α) (i : Input) (a : α) (j : Input) : Prop :=
  Reads p i a j ∧ j.rest.length < i.rest.length

lemma Each.length_le {as : List α} (h : Each (Advances p) i as j) :
    as.length + j.rest.length ≤ i.rest.length := by
  induction h with
  | nil => simp
  | cons h _ ih =>
    have := h.2
    rw [List.length_cons]
    omega

lemma Each.upTo {as : List α} (h : Each (Advances p) i as j) (hj : Refuses p j) (n : Nat)
    (hn : as.length ≤ n) : Reads (upTo p n) i as j := by
  induction h generalizing n with
  | nil =>
    cases n with
    | zero => exact reads_pure
    | succ n =>
      intro σ
      unfold Reader.upTo
      rw [eq_mk (hj σ)]
  | cons h _ ih =>
    cases n with
    | zero => simp at hn
    | succ n =>
      have hn : _ ≤ n := Nat.le_of_succ_le_succ hn
      intro σ
      unfold Reader.upTo
      rw [eq_mk (h.1 σ)]
      exact ((ih hj n hn).bind (f := fun as => pure (_ :: as)) reads_pure) _

/-- Values are read as long as the reader goes on. -/
lemma Each.many {as : List α} (h : Each (Advances p) i as j) (hj : Refuses p j) :
    Reads (many p) i as j := by
  have hle := h.length_le
  exact fun σ => h.upTo hj _ (by omega) σ

lemma MayRead.upTo {as : List α} {n : Nat} (h : MayRead (upTo p n) i as j) :
    Each (MayRead p) i as j := by
  induction n generalizing i as with
  | zero =>
    obtain ⟨rfl, rfl⟩ := MayRead.pure h
    exact .nil
  | succ n ih =>
    obtain ⟨σ, h⟩ := h
    unfold Reader.upTo at h
    split at h
    · next a k τ he =>
      obtain ⟨as', l, has, h⟩ := MayRead.bind ⟨τ, h⟩
      obtain ⟨rfl, rfl⟩ := MayRead.pure h
      exact .cons ⟨σ, by rw [he]⟩ (ih has)
    · cases h
      exact .nil

lemma MayRead.many {as : List α} (h : MayRead (many p) i as j) : Each (MayRead p) i as j := by
  obtain ⟨σ, h⟩ := h
  exact MayRead.upTo ⟨σ, h⟩

/-- A run of characters of a class. -/
lemma reads_many_satisfy {s : Char → Bool} (h : Piece i cs j) (hs : ∀ c ∈ cs, s c = true)
    (hj : j.Stops s) : Reads (many (satisfy s)) i cs j := by
  refine Each.many ?_ (refuses_satisfy hj)
  induction cs generalizing i with
  | nil =>
    rw [h.eq_of_nil]
    exact .nil
  | cons c cs ih =>
    obtain ⟨hc, hcs⟩ := h.uncons
    refine .cons ⟨reads_satisfy hc (hs c (by simp)), ?_⟩
      (ih hcs fun d hd => hs d (List.mem_cons_of_mem c hd))
    rw [hc.length]
    simp

/-- A run of characters of a class stops only where the next character is of another. -/
lemma MayRead.many_satisfy {s : Char → Bool} (h : MayRead (Reader.many (Reader.satisfy s)) i cs j) :
    Piece i cs j ∧ (∀ c ∈ cs, s c = true) ∧ j.Stops s := by
  have hp : Piece i (i.rest.takeWhile s) ⟨i.rest.dropWhile s, _⟩ :=
    .of_rest (List.takeWhile_append_dropWhile).symm
  have hs : ∀ c ∈ i.rest.takeWhile s, s c = true := fun c hc => List.mem_takeWhile_imp hc
  have hj := Input.stops_dropWhile s i.rest (i.offset + bytes (i.rest.takeWhile s))
  obtain ⟨rfl, rfl⟩ := (reads_many_satisfy hp hs hj).unique h
  exact ⟨hp, hs, hj⟩

end Reader

end ControlQuery.CPath

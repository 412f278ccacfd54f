import ControlQuery.Proofs.CPath.Derivation

/-!
# Where rules fail

A rule that fails leaves its place behind, also on a branch that is given up later on. A reader is
careful if no rule fails in it further on than where the text so far can still be continued. Of
all combinators, only `rule` has to look after that.
-/

namespace ControlQuery.CPath

open Reader

/-- What stands in front of the place is the beginning of a text that can be derived. -/
def Viable (text : String) (i : Input) : Prop :=
  ∃ front rest ss, Piece (.start text) front i ∧ Derives (String.ofList (front ++ rest)) ss

/-- The furthest attempts were made where the text so far can be continued. -/
def Attempts.Viable (text : String) (σ : Attempts) : Prop :=
  ∃ i, CPath.Viable text i ∧ σ.offset = i.offset

lemma Attempts.Viable.record {text : String} {σ : Attempts} {i : Input} (h : σ.Viable text)
    (hi : CPath.Viable text i) (r : Rule) (before : Nat) :
    (σ.record r i.offset before).Viable text := by
  unfold Attempts.record
  split_ifs
  · exact h
  · exact h
  · exact ⟨i, hi, rfl⟩
  · exact h

namespace Reader

variable {α β : Type} {text : String} {p q : Reader α} {f : α → Reader β} {i : Input}

/-- The reader keeps the furthest attempts where the text can be continued. -/
def Careful (text : String) (p : Reader α) (i : Input) : Prop :=
  ∀ σ, σ.Viable text → (p i σ).2.Viable text

/-! ## Readers that try no rule -/

lemma careful_pure {a : α} : Careful text (pure a) i :=
  fun _ h => h

lemma careful_fail : Careful text (fail : Reader α) i :=
  fun _ h => h

lemma careful_satisfy {s : Char → Bool} : Careful text (satisfy s) i := by
  intro σ h
  unfold satisfy
  split
  · exact h
  · split <;> exact h

lemma careful_notBefore {s : Char → Bool} : Careful text (notBefore s) i := by
  intro σ h
  unfold notBefore
  split
  · exact h
  · split <;> exact h

lemma careful_atEnd : Careful text atEnd i := by
  intro σ h
  unfold atEnd
  split <;> exact h

/-! ## Readers put together -/

lemma Careful.of_eq {x : Option (α × Input)} {σ τ : Attempts} (h : Careful text p i)
    (he : p i σ = (x, τ)) (hσ : σ.Viable text) : τ.Viable text := by
  have hτ := h σ hσ
  rwa [he] at hτ

/-- The second reader only has to be careful where the first one may leave off. -/
lemma Careful.bind (h : Careful text p i) (h' : ∀ a j, MayRead p i a j → Careful text (f a) j) :
    Careful text (p >>= f) i := by
  intro σ hσ
  change (Reader.bind p f i σ).2.Viable text
  unfold Reader.bind
  split
  · next a j τ he => exact h' a j ⟨σ, by rw [he]⟩ τ (h.of_eq he hσ)
  · next τ he => exact h.of_eq he hσ

lemma Careful.orElse (h : Careful text p i) (h' : Careful text q i) :
    Careful text (p.orElse q) i := by
  intro σ hσ
  unfold Reader.orElse
  split
  · next r τ he => exact h.of_eq he hσ
  · next τ he => exact h' τ (h.of_eq he hσ)

lemma Careful.firstOf {ps : List (Reader α)} (h : ∀ p ∈ ps, Careful text p i) :
    Careful text (firstOf ps) i := by
  induction ps with
  | nil => exact careful_fail
  | cons p ps ih =>
    cases ps with
    | nil => exact h p (by simp)
    | cons q qs => exact (h p (by simp)).orElse (ih fun r hr => h r (List.mem_cons_of_mem p hr))

lemma Careful.optional (h : Careful text p i) : Careful text (optional p) i := by
  intro σ hσ
  unfold Reader.optional
  split
  · next a j τ he => exact h.of_eq he hσ
  · next τ he => exact h.of_eq he hσ

lemma Careful.withLexeme (h : Careful text p i) : Careful text (withLexeme p) i := by
  intro σ hσ
  unfold Reader.withLexeme
  split
  · next a j τ he => exact h.of_eq he hσ
  · next τ he => exact h.of_eq he hσ

lemma Careful.lexeme (h : Careful text p i) : Careful text (lexeme p) i :=
  h.withLexeme.bind fun _ _ _ => careful_pure

lemma Careful.rule {r : Rule} (hi : Viable text i) (h : Careful text p i) :
    Careful text (rule r p) i := by
  intro σ hσ
  unfold Reader.rule
  split
  · next a τ he => exact h.of_eq he hσ
  · next τ he => exact (h.of_eq he hσ).record hi r _

section Repetition

variable {I : Input → Prop} (hread : ∀ {i j a}, I i → MayRead p i a j → I j)
  (hp : ∀ {i}, I i → Careful text p i)
include hread hp

lemma careful_upTo {n : Nat} (hi : I i) : Careful text (upTo p n) i := by
  induction n generalizing i with
  | zero => exact careful_pure
  | succ n ih =>
    intro σ hσ
    unfold Reader.upTo
    split
    · next a j τ he =>
      have htail : Careful text (upTo p n >>= fun as => pure (a :: as)) j :=
        (ih (hread hi ⟨σ, by rw [he]⟩)).bind fun _ _ _ => careful_pure
      exact htail τ ((hp hi).of_eq he hσ)
    · next τ he => exact (hp hi).of_eq he hσ

/-- The invariant says at which places the next value is tried. -/
lemma careful_many (hi : I i) : Careful text (many p) i :=
  fun σ => careful_upTo hread hp hi σ

end Repetition

/-! ## Tokens -/

lemma Careful.many (h : ∀ i, Careful text p i) : Careful text (many p) i :=
  careful_many (I := fun _ => True) (fun _ _ => trivial) (fun _ => h _) trivial

lemma careful_chars {cs : List Char} : Careful text (chars cs) i := by
  induction cs generalizing i with
  | nil => exact careful_pure
  | cons c cs ih => exact careful_satisfy.bind fun _ _ _ => ih

lemma careful_token {s : String} : Careful text (token s) i :=
  careful_chars

lemma careful_blanks : Careful text blanks i :=
  (Careful.many fun _ => careful_satisfy).bind fun _ _ _ => careful_pure

lemma careful_run {s t : Char → Bool} :
    Careful text (do let _ ← satisfy s; let _ ← many (satisfy t)) i :=
  careful_satisfy.bind fun _ _ _ =>
    (Careful.many fun _ => careful_satisfy).bind fun _ _ _ => careful_pure

end Reader

end ControlQuery.CPath

import ControlQuery.CPath.Rule

/-!
# Readers

A reader takes what it reads off the front of a text, or fails and leaves the text as it was. Both
ways it keeps track of the attempts: the furthest offset at which a rule was tried without success,
and the rules tried there. What a reader makes of a text never depends on the attempts, which only
serve to say what was expected where a text went wrong.
-/

namespace ControlQuery.CPath

/-- The text that is left, and the number of bytes in front of it. -/
structure Input where
  rest : List Char
  offset : Nat
deriving DecidableEq, Repr

/-- The start of a text. -/
def Input.start (text : String) : Input :=
  ⟨text.toList, 0⟩

/-- The furthest offset where rules failed, and these rules in the order of their failure. -/
structure Attempts where
  offset : Nat := 0
  rules : List Rule := []
deriving DecidableEq, Repr

namespace Attempts

/-- The number of rules recorded at an offset. -/
def countAt (σ : Attempts) (offset : Nat) : Nat :=
  if σ.offset = offset then σ.rules.length else 0

/-- Records that a rule failed that was entered at `offset` when `before` rules were recorded there.
If exactly one more has been recorded since then, that one says more than the rule itself;
otherwise the rule takes the place of all that it led to. -/
def record (σ : Attempts) (rule : Rule) (offset before : Nat) : Attempts :=
  if σ.countAt offset = before + 1 then σ
  else if offset = σ.offset then { σ with rules := σ.rules.take before ++ [rule] }
  else if σ.offset < offset then { offset, rules := [rule] }
  else σ

end Attempts

/-- Reads a value off the front of the text, or fails. -/
def Reader (α : Type) : Type :=
  Input → Attempts → Option (α × Input) × Attempts

namespace Reader

variable {α β : Type}

/-- Reads nothing. -/
protected def pure (a : α) : Reader α :=
  fun i σ => (some (a, i), σ)

/-- Goes on with a reader that depends on what was read. -/
protected def bind (p : Reader α) (f : α → Reader β) : Reader β :=
  fun i σ =>
    match p i σ with
    | (some (a, i), σ) => f a i σ
    | (none, σ) => (none, σ)

instance : Monad Reader where
  pure := Reader.pure
  bind := Reader.bind

/-- Reads nothing and fails. -/
def fail : Reader α :=
  fun _ σ => (none, σ)

/-- Reads what the first reader reads, or else what the second one does. -/
def orElse (p : Reader α) (q : Reader α) : Reader α :=
  fun i σ =>
    match p i σ with
    | (some r, σ) => (some r, σ)
    | (none, σ) => q i σ

/-- Reads what the first of several readers reads that does not fail. -/
def firstOf : List (Reader α) → Reader α
  | [] => fail
  | [p] => p
  | p :: ps => p.orElse (firstOf ps)

/-- Reads a value if there is one. -/
def optional (p : Reader α) : Reader (Option α) :=
  fun i σ =>
    match p i σ with
    | (some (a, i), σ) => (some (some a, i), σ)
    | (none, σ) => (some (none, i), σ)

/-- Reads at most `n` values, as many as there are. -/
def upTo (p : Reader α) : Nat → Reader (List α)
  | 0 => Reader.pure []
  | n + 1 => fun i σ =>
    match p i σ with
    | (some (a, i), σ) => (do return a :: (← upTo p n)) i σ
    | (none, σ) => (some ([], i), σ)

/-- Reads as many values as there are, each of which takes a character at least. One more is tried
than there are characters left. -/
def many (p : Reader α) : Reader (List α) :=
  fun i σ => upTo p (i.rest.length + 1) i σ

/-- Reads one character of a class. -/
def satisfy (p : Char → Bool) : Reader Char :=
  fun i σ =>
    match i.rest with
    | [] => (none, σ)
    | c :: cs => if p c then (some (c, ⟨cs, i.offset + c.utf8Size⟩), σ) else (none, σ)

/-- Reads exactly these characters. -/
def chars : List Char → Reader Unit
  | [] => Reader.pure ()
  | c :: cs => do
    let _ ← satisfy (· == c)
    chars cs

/-- Reads exactly this text. -/
def token (s : String) : Reader Unit :=
  chars s.toList

/-- Reads nothing, and fails if a character of the class comes next. -/
def notBefore (p : Char → Bool) : Reader Unit :=
  fun i σ =>
    match i.rest with
    | [] => (some ((), i), σ)
    | c :: _ => if p c then (none, σ) else (some ((), i), σ)

/-- Reads blanks between tokens. -/
def blanks : Reader Unit := do
  let _ ← many (satisfy fun c => c == ' ' || c == '\t' || c == '\r' || c == '\n')

/-- Fails unless nothing is left. -/
def atEnd : Reader Unit :=
  fun i σ => if i.rest.isEmpty then (some ((), i), σ) else (none, σ)

/-- Records the rule if the reader fails. -/
def rule (r : Rule) (p : Reader α) : Reader α :=
  fun i σ =>
    match p i σ with
    | (some a, τ) => (some a, τ)
    | (none, τ) => (none, τ.record r i.offset (σ.countAt i.offset))

/-- Reads as many values as there are, with blanks in front of each. -/
def manySpaced (p : Reader α) : Reader (List α) :=
  many do
    blanks
    p

end Reader

/-- A piece of the text, and the number of bytes in front of it. -/
structure Lexeme where
  offset : Nat
  text : String
deriving DecidableEq, Repr

namespace Reader

variable {α : Type}

/-- Reads a value together with the piece of the text that it was read from. -/
def withLexeme (p : Reader α) : Reader (α × Lexeme) :=
  fun i σ =>
    match p i σ with
    | (some (a, j), σ) =>
      let text := String.ofList (i.rest.take (i.rest.length - j.rest.length))
      (some ((a, ⟨i.offset, text⟩), j), σ)
    | (none, σ) => (none, σ)

/-- The piece of the text that a reader takes. -/
def lexeme (p : Reader α) : Reader Lexeme := do
  let (_, l) ← withLexeme p
  return l

end Reader

end ControlQuery.CPath

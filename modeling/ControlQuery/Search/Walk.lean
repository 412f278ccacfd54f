import ControlQuery.Search.Stream

/-!
# Walks

The three ways in which a search moves along the links of a tree: up to the ancestors, down to the
descendants, and out to everything in the neighbourhood. A walk never goes to a control that is not
valid, and it asks for the links of a control only once it goes on from there.
-/

namespace ControlQuery

variable {ν : Type}

namespace Search

/-- Goes on with those of some controls that are valid. -/
def keepValid : List ν → (List ν → Search ν) → Search ν
  | [], k => k []
  | n :: ns, k => ask (.isValid n) fun valid =>
    keepValid ns fun kept => k (if valid then n :: kept else kept)

/-- The ancestors, nearest first, along at most so many parent links. -/
def climb : Nat → ν → Search ν
  | 0, _ => finish
  | levels + 1, n => ask (.parent n) fun
    | .ok (some p) => ask (.isValid p) fun valid =>
      if valid then yield p (climb levels p) else finish
    | .ok none => finish
    | .error .stale => finish
    | .error (.failure reason) => fail (.providerFailure reason)

/-- What lies below a control, at most so many levels down, each control before its children and
the children in order; then `rest`. The children of a control are asked for when the walk goes on
from it, and a child that is gone by the time of its turn is passed over. -/
def descend : Nat → ν → Search ν → Search ν
  | 0, _, rest => rest
  | levels + 1, n, rest => ask (.children n) fun
    | .ok children => keepValid children fun kept =>
      kept.foldr (fun c rest => visit (descend levels) c rest) rest
    | .error .stale => rest
    | .error (.failure reason) => fail (.providerFailure reason)
where
  /-- Yields a control if it is valid and goes on below it. -/
  visit (below : ν → Search ν → Search ν) (c : ν) (rest : Search ν) : Search ν :=
    ask (.isValid c) fun valid => if valid then yield c (below c rest) else rest

/-- The ancestors of a control, with the control itself in front if asked for. -/
def ancestors (levels : Nat) (includeSelf : Bool) (n : ν) : Search ν :=
  if includeSelf then yield n (climb levels n) else climb levels n

/-- The descendants of a control, with the control itself in front if asked for. -/
def descendants (levels : Nat) (includeSelf : Bool) (n : ν) : Search ν :=
  if includeSelf then descend.visit (descend levels) n finish else descend levels n finish

variable [DecidableEq ν]

/-- Goes on with those of some controls added to `next` and `seen` that are valid and not seen
before. -/
def discover : List ν → List ν → List ν → (List ν → List ν → Search ν) → Search ν
  | [], next, seen, k => k next seen
  | n :: ns, next, seen, k => ask (.isValid n) fun valid =>
    if valid ∧ n ∉ seen then discover ns (next ++ [n]) (n :: seen) k else discover ns next seen k

/-- Goes on with what the links of a control lead to: its parent, then its children. A control that
goes stale meanwhile leads nowhere. -/
def neighbours (n : ν) (k : List ν → Search ν) : Search ν :=
  ask (.parent n) fun
    | .ok parent => ask (.children n) fun
      | .ok children => k (parent.toList ++ children)
      | .error .stale => k []
      | .error (.failure reason) => fail (.providerFailure reason)
    | .error .stale => k []
    | .error (.failure reason) => fail (.providerFailure reason)

/-- Serves the controls at one distance in order: finds what their links lead to if `spread`, and
yields them if `shown`. In the end goes on with what was found. -/
def serve (spread shown : Bool) (k : List ν → List ν → Search ν) :
    List ν → List ν → List ν → Search ν
  | [], next, seen => k next seen
  | n :: queue, next, seen => ask (.isValid n) fun valid =>
    if valid then
      let go (next seen : List ν) :=
        if shown then yield n (serve spread shown k queue next seen)
        else serve spread shown k queue next seen
      if spread then neighbours n fun found => discover found next seen go else go next seen
    else serve spread shown k queue next seen

/-- The controls at a distance and those up to so many links further out, nearest first, where
`seen` holds what has been found before. -/
def around : Nat → Bool → List ν → List ν → Search ν
  | 0, shown, queue, seen => serve false shown (fun _ _ => finish) queue [] seen
  | steps + 1, shown, queue, seen =>
    serve true shown
      (fun next seen => if next.isEmpty then finish else around steps true next seen) queue [] seen

/-- Everything within so many links of a control, the control itself left out. -/
def neighbourhood (steps : Nat) (n : ν) : Search ν :=
  around steps false [n] [n]

end Search

end ControlQuery

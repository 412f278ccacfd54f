import ControlQuery.Tree.Provider

/-!
# Faults

A fault makes one question about one control fail, whatever the tree would answer. Faults are what a
search is tested with.
-/

namespace ControlQuery

/-- The questions that can be made to fail. -/
inductive FaultyCall where
  | parent
  | children
  /-- The question for a property, or for this one only. -/
  | property (only : Option PropertyId)
  | isValid
deriving DecidableEq, Repr

/-- A question about a control that fails. -/
structure Fault (ν : Type) where
  call : FaultyCall
  node : ν
  error : ProviderError

namespace Provider

variable {ν : Type} [DecidableEq ν]

/-- The error of the first fault for a question about a control. -/
def faultFor (faults : List (Fault ν)) (node : ν) (covers : FaultyCall → Bool) :
    Option ProviderError :=
  (faults.find? fun f => f.node == node && covers f.call).map Fault.error

/-- The answer, unless a fault comes first. -/
def answerUnless {α : Type} (fault : Option ProviderError) (answer : Except ProviderError α) :
    Except ProviderError α :=
  match fault with
  | some e => .error e
  | none => answer

/-- The provider with faults: a question that has one fails, and a control whose validity has one
is not valid. -/
def withFaults (P : Provider ν) (faults : List (Fault ν)) : Provider ν where
  parent n := answerUnless (faultFor faults n (· == .parent)) (P.parent n)
  children n := answerUnless (faultFor faults n (· == .children)) (P.children n)
  property n id :=
    let covers := fun
      | .property only => only.all (· == id)
      | _ => false
    answerUnless (faultFor faults n covers) (P.property n id)
  isValid n := (faultFor faults n (· == .isValid)).isNone && P.isValid n

end Provider

end ControlQuery

import ControlQuery.Property.Name
import ControlQuery.Property.Value

/-!
# Tree providers

A search walks whatever answers four questions about the controls of a tree: a live user interface,
a recorded tree, or a test double. An answer may fail in two ways. A control that has gone is stale,
and a search takes it to have no parent, no children and no properties. Any other failure ends the
search.
-/

namespace ControlQuery

/-- Why a provider gives no answer. -/
inductive ProviderError where
  /-- The control has gone. -/
  | stale
  | failure (reason : String)
deriving DecidableEq, Repr

/-- The failure in words. -/
def ProviderError.message : ProviderError → String
  | stale => "Stale node"
  | failure reason => s!"Provider failure: {reason}"

/-- The answers about a tree whose controls are named by `ν`. -/
structure Provider (ν : Type) where
  /-- The parent, which the root does not have. -/
  parent : ν → Except ProviderError (Option ν)
  /-- The children in document order. -/
  children : ν → Except ProviderError (List ν)
  /-- The value of a property, if the control reports it. -/
  property : ν → PropertyId → Except ProviderError (Option PropertyValue)
  /-- Whether the control is still there. -/
  isValid : ν → Bool

end ControlQuery

import ControlQuery.Query.Basic
import ControlQuery.Tree.Provider

/-!
# Searches

A search is a conversation with a provider. It puts requests, and what it does next depends on the
reply; every so often it yields a control, and in the end it is finished or fails. Nothing is asked
before it is needed, so a search that is left alone after a control has asked nothing that only
later controls need, and whoever goes on with it later may put its requests to a changed tree.

Whether a condition holds of a control is found out in an inquiry, a conversation that ends in one
answer.
-/

namespace ControlQuery

/-- Why a search ends without a result. -/
inductive SearchError where
  /-- No control matches the query of this text. -/
  | notFound (query : String)
  | providerFailure (reason : String)
  /-- Sub-queries nest deeper than allowed. -/
  | nestedTooDeep (depth : Nat) (limit : Count)
deriving DecidableEq, Repr

/-- The failure in words. -/
def SearchError.message : SearchError → String
  | notFound query => s!"No control matches {query}"
  | providerFailure reason => s!"Tree provider failed: {reason}"
  | nestedTooDeep depth limit =>
    s!"Invalid composition: sub-queries nest {depth} deep, the limit is {limit.toNat}"

/-- What a search says to a provider: the four questions, and two remarks on the sub-queries that
it is about to start and has come to the end of. -/
inductive Request (ν : Type) where
  | parent (node : ν)
  | children (node : ν)
  | property (node : ν) (id : PropertyId)
  | isValid (node : ν)
  | enter
  | leave
deriving DecidableEq, Repr

variable {ν α β : Type}

/-- The replies to a request. -/
abbrev Request.Reply : Request ν → Type
  | parent _ => Except ProviderError (Option ν)
  | children _ => Except ProviderError (List ν)
  | property _ _ => Except ProviderError (Option PropertyValue)
  | isValid _ => Bool
  | enter => Unit
  | leave => Unit

/-- The reply of a provider. -/
def Provider.reply (P : Provider ν) : (r : Request ν) → r.Reply
  | .parent n => P.parent n
  | .children n => P.children n
  | .property n id => P.property n id
  | .isValid n => P.isValid n
  | .enter => ()
  | .leave => ()

/-- A conversation that ends in an answer. -/
inductive Inquiry (ν α : Type) where
  | done (answer : α)
  | fail (error : SearchError)
  | ask (request : Request ν) (next : request.Reply → Inquiry ν α)

/-- A conversation that yields controls. -/
inductive Search (ν : Type) where
  | finish
  | fail (error : SearchError)
  | yield (node : ν) (rest : Search ν)
  | ask (request : Request ν) (next : request.Reply → Search ν)

namespace Inquiry

/-- Goes on with an inquiry that depends on the answer. -/
protected def bind : Inquiry ν α → (α → Inquiry ν β) → Inquiry ν β
  | done a, f => f a
  | fail e, _ => fail e
  | ask r next, f => ask r fun reply => (next reply).bind f

/-- Goes on with a search that depends on the answer. -/
def search : Inquiry ν α → (α → Search ν) → Search ν
  | done a, f => f a
  | fail e, _ => .fail e
  | ask r next, f => .ask r fun reply => (next reply).search f

/-- The answer when a provider is asked. -/
def run (P : Provider ν) : Inquiry ν α → Except SearchError α
  | done a => .ok a
  | fail e => .error e
  | ask r next => (next (P.reply r)).run P

end Inquiry

/-- What comes next in a search. -/
inductive Outcome (ν : Type) where
  | found (node : ν) (rest : Search ν)
  | failed (error : SearchError)
  | finished

namespace Search

/-- A search that yields one control. -/
def one (n : ν) : Search ν :=
  yield n finish

/-- What comes next when a provider is asked. -/
def next (P : Provider ν) : Search ν → Outcome ν
  | finish => .finished
  | fail e => .failed e
  | yield n rest => .found n rest
  | ask r k => (k (P.reply r)).next P

/-- All controls that a search yields when a provider is asked, and the failure that it ends in,
if any. -/
def drain (P : Provider ν) : Search ν → List ν × Option SearchError
  | finish => ([], none)
  | fail e => ([], some e)
  | yield n rest =>
    let (ns, e) := rest.drain P
    (n :: ns, e)
  | ask r k => (k (P.reply r)).drain P

/-- One search after the other. -/
def append : Search ν → Search ν → Search ν
  | finish, t => t
  | fail e, _ => fail e
  | yield n rest, t => yield n (rest.append t)
  | ask r k, t => ask r fun reply => (k reply).append t

/-- Goes on from each control with a search of its own. -/
def flatMap (f : ν → Search ν) : Search ν → Search ν
  | finish => finish
  | fail e => fail e
  | yield n rest => (f n).append (rest.flatMap f)
  | ask r k => ask r fun reply => (k reply).flatMap f

/-- Drops the controls that were yielded before or are listed in `seen`. -/
def distinct [DecidableEq ν] (seen : List ν) : Search ν → Search ν
  | finish => finish
  | fail e => fail e
  | yield n rest =>
    if n ∈ seen then rest.distinct seen else yield n (rest.distinct (n :: seen))
  | ask r k => ask r fun reply => (k reply).distinct seen

/-- Keeps the controls for which the inquiry says so. -/
def filter (p : ν → Inquiry ν Bool) : Search ν → Search ν
  | finish => finish
  | fail e => fail e
  | yield n rest => (p n).search fun keep => if keep then yield n (rest.filter p) else rest.filter p
  | ask r k => ask r fun reply => (k reply).filter p

/-- Skips controls and then takes controls, as many as there are if no number is given. Once all are
taken nothing more is asked. -/
def page (skip : Nat) (take : Option Nat) : Search ν → Search ν
  | finish => finish
  | fail e => if take = some 0 then finish else fail e
  | yield n rest =>
    if take = some 0 then finish
    else
      match skip with
      | skip + 1 => rest.page skip take
      | 0 => yield n (rest.page 0 (take.map (· - 1)))
  | ask r k => if take = some 0 then finish else ask r fun reply => (k reply).page skip take

/-- Whether a search yields a control at all. -/
def nonempty : Search ν → Inquiry ν Bool
  | finish => .done false
  | fail e => .fail e
  | yield _ _ => .done true
  | ask r k => .ask r fun reply => (k reply).nonempty

/-- Whether a search yields a control for which the inquiry says so. -/
def any (p : ν → Inquiry ν Bool) : Search ν → Inquiry ν Bool
  | finish => .done false
  | fail e => .fail e
  | yield n rest => (p n).bind fun found => if found then .done true else rest.any p
  | ask r k => .ask r fun reply => (k reply).any p

end Search

end ControlQuery

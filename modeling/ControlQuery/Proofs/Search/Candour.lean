import ControlQuery.Proofs.Search.Drain
import ControlQuery.Proofs.Search.WalkInvariant

/-!
# Searches do not keep failures to themselves

A candid search fails only because the provider did, and once a reply was a failure it can come to
no other end than this failure, whatever it still asks. Walks are candid, and so is whatever is
built from candid searches and inquiries; hence all searches for queries are.
-/

namespace ControlQuery

variable {ν α β : Type}

/-- The reason of a failure. That a control is stale is none. -/
def failureReason? : Except ProviderError α → Option String
  | .error (.failure reason) => some reason
  | .error .stale => none
  | .ok _ => none

/-- The reason if a reply is a failure. -/
def Request.failure? : (r : Request ν) → r.Reply → Option String
  | parent _, reply => failureReason? reply
  | children _, reply => failureReason? reply
  | property _ _, reply => failureReason? reply
  | isValid _, _ => none
  | enter, _ => none
  | leave, _ => none

/-- What has to hold after a reply that was or was not a failure. -/
def Candidly (candid : Prop) (doomed : String → Prop) : Option String → Prop
  | none => candid
  | some reason => doomed reason

lemma Candidly.imp {candid candid' : Prop} {doomed doomed' : String → Prop}
    {failure : Option String} (h : Candidly candid doomed failure) (hc : candid → candid')
    (hd : ∀ reason, doomed reason → doomed' reason) : Candidly candid' doomed' failure := by
  cases failure with
  | none => exact hc h
  | some reason => exact hd reason h

namespace Inquiry

/-- Whatever the replies, the inquiry ends in the failure of this reason. -/
def Doomed (reason : String) : Inquiry ν α → Prop
  | done _ => False
  | fail e => e = .providerFailure reason
  | ask _ next => ∀ reply, (next reply).Doomed reason

/-- The first failure among the replies, and nothing else, makes the inquiry fail. -/
def Candid : Inquiry ν α → Prop
  | done _ => True
  | fail _ => False
  | ask r next => ∀ reply,
    Candidly (next reply).Candid (fun reason => (next reply).Doomed reason) (r.failure? reply)

lemma Doomed.bind {reason : String} {i : Inquiry ν α} (h : i.Doomed reason)
    (f : α → Inquiry ν β) : (i.bind f).Doomed reason := by
  induction i with
  | done a => exact h.elim
  | fail e => exact h
  | ask r next ih => exact fun reply => ih reply (h reply)

lemma Candid.bind {i : Inquiry ν α} (h : i.Candid) {f : α → Inquiry ν β}
    (hf : ∀ a, (f a).Candid) : (i.bind f).Candid := by
  induction i with
  | done a => exact hf a
  | fail e => exact h.elim
  | ask r next ih =>
    exact fun reply => (h reply).imp (fun hc => ih reply hc) fun reason hd => hd.bind f

end Inquiry

namespace Search

/-- Whatever the replies, the search yields nothing more and ends in the failure of this reason. -/
def Doomed (reason : String) : Search ν → Prop
  | finish => False
  | fail e => e = .providerFailure reason
  | yield _ _ => False
  | ask _ next => ∀ reply, (next reply).Doomed reason

/-- The first failure among the replies, and nothing else, makes the search fail. -/
def Candid : Search ν → Prop
  | finish => True
  | fail _ => False
  | yield _ rest => rest.Candid
  | ask r next => ∀ reply,
    Candidly (next reply).Candid (fun reason => (next reply).Doomed reason) (r.failure? reply)

end Search

/-! ### Building candid searches -/

lemma Inquiry.Doomed.search {reason : String} {i : Inquiry ν α} (h : i.Doomed reason)
    (f : α → Search ν) : (i.search f).Doomed reason := by
  induction i with
  | done a => exact h.elim
  | fail e => exact h
  | ask r next ih => exact fun reply => ih reply (h reply)

lemma Inquiry.Candid.search {i : Inquiry ν α} (h : i.Candid) {f : α → Search ν}
    (hf : ∀ a, (f a).Candid) : (i.search f).Candid := by
  induction i with
  | done a => exact hf a
  | fail e => exact h.elim
  | ask r next ih =>
    exact fun reply => (h reply).imp (fun hc => ih reply hc) fun reason hd => hd.search f

namespace Search

variable {reason : String} {s t : Search ν}

/-- A stage that hands on requests and failures as they come. -/
structure Relays (stage : Search ν → Search ν) : Prop where
  fail : ∀ e, stage (fail e) = .fail e
  ask : ∀ r next, stage (ask r next) = .ask r fun reply => stage (next reply)

lemma Doomed.relay {stage : Search ν → Search ν} (h : s.Doomed reason) (hstage : Relays stage) :
    (stage s).Doomed reason := by
  induction s with
  | finish => exact h.elim
  | fail e =>
    rw [hstage.fail]
    exact h
  | yield n rest ih => exact h.elim
  | ask r next ih =>
    rw [hstage.ask]
    exact fun reply => ih reply (h reply)

lemma relays_append (t : Search ν) : Relays fun s => s.append t :=
  ⟨fun _ => rfl, fun _ _ => rfl⟩

lemma relays_flatMap (f : ν → Search ν) : Relays (Search.flatMap f) :=
  ⟨fun _ => rfl, fun _ _ => rfl⟩

lemma relays_distinct [DecidableEq ν] (seen : List ν) : Relays (Search.distinct seen) :=
  ⟨fun _ => rfl, fun _ _ => rfl⟩

lemma relays_filter (p : ν → Inquiry ν Bool) : Relays (Search.filter p) :=
  ⟨fun _ => rfl, fun _ _ => rfl⟩

/-- A page that is not full yet neither counts failures nor drops them. -/
lemma relays_page (skip : Nat) {take : Option Nat} (h : take ≠ some 0) :
    Relays fun s : Search ν => s.page skip take where
  fail := fun e => by rw [Search.page, if_neg h]
  ask := fun r next => page_ask h r next skip

lemma Candid.append (hs : s.Candid) (ht : t.Candid) : (s.append t).Candid := by
  induction s with
  | finish => exact ht
  | fail e => exact hs.elim
  | yield n rest ih => exact ih hs
  | ask r next ih =>
    exact fun reply => (hs reply).imp (fun hc => ih reply hc)
      fun reason hd => hd.relay (relays_append t)

lemma Candid.flatMap (hs : s.Candid) {f : ν → Search ν} (hf : ∀ n, (f n).Candid) :
    (s.flatMap f).Candid := by
  induction s with
  | finish => trivial
  | fail e => exact hs.elim
  | yield n rest ih => exact (hf n).append (ih hs)
  | ask r next ih =>
    exact fun reply => (hs reply).imp (fun hc => ih reply hc)
      fun reason hd => hd.relay (relays_flatMap f)

lemma Candid.distinct [DecidableEq ν] (hs : s.Candid) (seen : List ν) :
    (s.distinct seen).Candid := by
  induction s generalizing seen with
  | finish => trivial
  | fail e => exact hs.elim
  | yield n rest ih =>
    rw [Search.distinct]
    split
    · exact ih hs seen
    · exact ih hs (n :: seen)
  | ask r next ih =>
    exact fun reply => (hs reply).imp (fun hc => ih reply hc seen)
      fun reason hd => hd.relay (relays_distinct seen)

lemma Candid.filter (hs : s.Candid) {p : ν → Inquiry ν Bool} (hp : ∀ n, (p n).Candid) :
    (s.filter p).Candid := by
  induction s with
  | finish => trivial
  | fail e => exact hs.elim
  | yield n rest ih =>
    refine (hp n).search fun keep => ?_
    cases keep with
    | true => exact ih hs
    | false => exact ih hs
  | ask r next ih =>
    exact fun reply => (hs reply).imp (fun hc => ih reply hc)
      fun reason hd => hd.relay (relays_filter p)

lemma Candid.page (hs : s.Candid) (skip : Nat) (take : Option Nat) :
    (s.page skip take).Candid := by
  induction s generalizing skip take with
  | finish => trivial
  | fail e => exact hs.elim
  | yield n rest ih =>
    by_cases htake : take = some 0
    · rw [htake, page_full]
      trivial
    cases skip with
    | succ skip =>
      rw [page_yield_skip htake]
      exact ih hs skip take
    | zero =>
      rw [page_yield_take htake]
      exact ih hs 0 _
  | ask r next ih =>
    by_cases htake : take = some 0
    · rw [htake, page_full]
      trivial
    · rw [page_ask htake]
      exact fun reply => (hs reply).imp (fun hc => ih reply hc skip take)
        fun reason hd => hd.relay (relays_page skip htake)

lemma Doomed.nonempty (h : s.Doomed reason) : s.nonempty.Doomed reason := by
  induction s with
  | finish => exact h.elim
  | fail e => exact h
  | yield n rest ih => exact h.elim
  | ask r next ih => exact fun reply => ih reply (h reply)

lemma Candid.nonempty (hs : s.Candid) : s.nonempty.Candid := by
  induction s with
  | finish => trivial
  | fail e => exact hs.elim
  | yield n rest ih => trivial
  | ask r next ih =>
    exact fun reply => (hs reply).imp (fun hc => ih reply hc) fun reason hd => hd.nonempty

lemma Doomed.any (h : s.Doomed reason) (p : ν → Inquiry ν Bool) : (s.any p).Doomed reason := by
  induction s with
  | finish => exact h.elim
  | fail e => exact h
  | yield n rest ih => exact h.elim
  | ask r next ih => exact fun reply => ih reply (h reply)

lemma Candid.any (hs : s.Candid) {p : ν → Inquiry ν Bool} (hp : ∀ n, (p n).Candid) :
    (s.any p).Candid := by
  induction s with
  | finish => trivial
  | fail e => exact hs.elim
  | yield n rest ih =>
    refine (hp n).bind fun found => ?_
    cases found with
    | true => trivial
    | false => exact ih hs
  | ask r next ih =>
    exact fun reply => (hs reply).imp (fun hc => ih reply hc) fun reason hd => hd.any p

theorem candid_walkInvariant : WalkInvariant (Candid : Search ν → Prop) where
  finish := trivial
  yield := fun h => h
  isValid := fun h => h
  parent := by
    intro n next hok hstale hfailure reply
    match reply with
    | .ok parent => exact hok parent
    | .error .stale => exact hstale
    | .error (.failure reason) =>
      rw [hfailure]
      exact rfl
  children := by
    intro n next hok hstale hfailure reply
    match reply with
    | .ok children => exact hok children
    | .error .stale => exact hstale
    | .error (.failure reason) =>
      rw [hfailure]
      exact rfl

end Search

end ControlQuery

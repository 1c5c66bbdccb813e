import ReleaseTrigger.Url.Printer

/-! # Outcomes

A request that was answered has an outcome: the URL that was asked for and the status of the answer.
The build was queued if the status is 200 or 201.
-/

namespace ReleaseTrigger

/-- The status of an answer, between 100 and 999. -/
structure Status where
  code : Nat
  bounds : 100 ≤ code ∧ code < 1000
deriving DecidableEq, Repr

def Status.ofNat? (code : Nat) : Option Status :=
  if bounds : 100 ≤ code ∧ code < 1000 then some ⟨code, bounds⟩ else none

def Status.invalidMessage : Text := Text.of "invalid status code"

/-- What a request that was answered led to. -/
structure Outcome where
  /-- The URL of the first request. -/
  url : Url
  /-- The status of the last answer. -/
  status : Status
deriving DecidableEq, Repr

/-- A status by which the endpoint refuses the build. -/
structure UnexpectedStatus where
  status : Status
deriving DecidableEq, Repr

def UnexpectedStatus.message (error : UnexpectedStatus) : Text :=
  Text.of "Job endpoint responded with unexpected status " ++ Text.decimal error.status.code

namespace Outcome

/-- Whether the build was queued. -/
def isSuccess (outcome : Outcome) : Bool :=
  outcome.status.code == 200 || outcome.status.code == 201

/-- The outcome itself if the build was queued, the status as an error otherwise. -/
def result (outcome : Outcome) : Except UnexpectedStatus Outcome :=
  if outcome.isSuccess then .ok outcome else .error ⟨outcome.status⟩

end Outcome

end ReleaseTrigger

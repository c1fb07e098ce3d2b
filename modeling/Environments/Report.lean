import Environments.Batch
import Environments.LoadId

/-!
# Reports

A load never fails as a whole. Its report tells for each provider how its part ended, and it tells
whether the list of providers itself could be had.
-/

namespace Environments

/-- How the part of one provider ended. -/
inductive Outcome
  /-- All accounts were asked and the batch, of so many results, was accepted. -/
  | delivered (identities : Nat)
  /-- The call for the account at this position failed, and nothing was handed over. -/
  | queryFailed (failedAt : Nat) (developer : Developer) (reason : String)
  /-- The batch was handed over and not accepted. -/
  | deliveryFailed (reason : String)
  /-- The deadline came first; so many results had been collected. -/
  | cancelled (completed : Nat)
  /-- The provider or the sink broke down. -/
  | aborted (reason : String)
  deriving DecidableEq, Repr

namespace Outcome

/-- Whether a batch was accepted. -/
def isDelivered : Outcome → Bool
  | delivered _ => true
  | _ => false

/-- Whether the deadline cut the provider off. -/
def isCancelled : Outcome → Bool
  | cancelled _ => true
  | _ => false

/-- Whether the provider failed, for another reason than the deadline. -/
def isFailed (o : Outcome) : Bool :=
  !o.isDelivered && !o.isCancelled

/-- A one-word name of the outcome. -/
def label : Outcome → String
  | delivered _ => "delivered"
  | queryFailed .. => "query_failed"
  | deliveryFailed _ => "delivery_failed"
  | cancelled _ => "cancelled"
  | aborted _ => "aborted"

end Outcome

/-- A provider, with how its part ended. -/
structure ProviderReport where
  provider : Descriptor
  outcome : Outcome
  deriving DecidableEq, Repr

/-- The account of one load. The providers stand in the order in which their parts ended. -/
structure Report where
  loadId : LoadId
  startedAt : Time.Instant
  finishedAt : Time.Instant
  deadlineElapsed : Bool
  discoveryError : Option String
  providers : List ProviderReport
  deriving DecidableEq

namespace Report

/-- The outcome of the first row with a provider's identifier. -/
def outcomeFor? (r : Report) (id : ProviderId) : Option Outcome :=
  (r.providers.find? fun row => row.provider.id = id).map (·.outcome)

def count (r : Report) (kind : Outcome → Bool) : Nat :=
  r.providers.countP fun row => kind row.outcome

def deliveredCount (r : Report) : Nat := r.count Outcome.isDelivered

def cancelledCount (r : Report) : Nat := r.count Outcome.isCancelled

def failedCount (r : Report) : Nat := r.count Outcome.isFailed

end Report

end Environments

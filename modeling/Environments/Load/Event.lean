import Environments.Log
import Environments.Report

/-!
# The events of a load

A load logs what becomes of the discovery of providers, how each provider ended, the deadline if it
elapses, and at last its own end.
-/

namespace Environments

/-- An event in the log of a load. -/
inductive LoadEvent
  | discoveryFailed (error : String)
  | discoveryTimedOut (deadline : Nat)
  | discovered (providers : Nat)
  | ended (provider : ProviderId) (outcome : Outcome)
  /-- The deadline elapsed while so many providers had not ended. -/
  | deadlineElapsed (deadline outstanding : Nat)
  | finished (delivered failed cancelled : Nat) (deadlineElapsed : Bool)
  deriving DecidableEq, Repr

/-- What a provider's end is worth in the log: a failed query or a breakdown is an error, a batch that
was not accepted a warning. -/
def Outcome.level : Outcome → Level
  | .delivered _ => .debug
  | .queryFailed .. => .error
  | .deliveryFailed _ => .warn
  | .cancelled _ => .debug
  | .aborted _ => .error

/-- What the log says of a provider's end. -/
def Outcome.message : Outcome → String
  | .delivered _ => "delivered compute systems batch"
  | .queryFailed .. => "failed to retrieve compute systems from provider"
  | .deliveryFailed _ => "compute systems batch was not accepted"
  | .cancelled _ => "provider load cancelled by deadline"
  | .aborted _ => "provider task aborted"

namespace LoadEvent

def level : LoadEvent → Level
  | discoveryFailed _ => .error
  | discoveryTimedOut _ => .error
  | discovered _ => .debug
  | ended _ outcome => outcome.level
  | deadlineElapsed .. => .error
  | finished .. => .info

def message : LoadEvent → String
  | discoveryFailed _ => "failed to discover compute system providers"
  | discoveryTimedOut _ => "provider discovery did not finish before the load deadline"
  | discovered _ => "discovered compute system providers"
  | ended _ outcome => outcome.message
  | deadlineElapsed .. =>
    "failed to retrieve all compute systems from all providers due to cancellation"
  | finished .. => "finished loading compute systems"

/-- Whether the event tells that a deadline cut something off. -/
def isCancellation : LoadEvent → Bool
  | discoveryTimedOut _ => true
  | deadlineElapsed .. => true
  | _ => false

end LoadEvent

end Environments

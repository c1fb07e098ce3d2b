import Environments.Provider.Query

/-!
# Scripted providers

A scripted provider answers from a script: for each account a response and a latency, looked up
separately, with defaults for the accounts that have none. The whole account counts, so one login can
be answered differently for two hosts.
-/

namespace Environments

/-- What a script answers. -/
inductive Response
  | listed (systems : List ComputeSystem)
  | failed (diagnostic : String)
  | broken (error : QueryError)
  deriving DecidableEq, Repr

/-- What comes of a call that gets this response. -/
def Response.outcome : Response → Except QueryError QueryResult
  | listed systems => .ok (.success systems)
  | failed diagnostic => .ok (.failure diagnostic none)
  | broken error => .error error

/-- The options that make every call fail. -/
def failingOptions : String := "Throw"

/-- A script. Of several responses, or latencies, for one account the first in the list counts. -/
structure Script where
  descriptor : Descriptor
  responses : List (Developer × Response) := []
  latencies : List (Developer × Nat) := []
  defaultResponse : Response := .listed []
  defaultLatency : Nat := 0
  deriving DecidableEq, Repr

namespace Script

def setResponse (s : Script) (developer : Developer) (response : Response) : Script :=
  { s with responses := (developer, response) :: s.responses }

def setLatencyFor (s : Script) (developer : Developer) (latency : Nat) : Script :=
  { s with latencies := (developer, latency) :: s.latencies }

/-- Sets the response for accounts without one, and for calls without an account. -/
def setDefaultResponse (s : Script) (response : Response) : Script :=
  { s with defaultResponse := response }

/-- Sets the latency for accounts without one, and for calls without an account. -/
def setDefaultLatency (s : Script) (latency : Nat) : Script :=
  { s with defaultLatency := latency }

def response (s : Script) (developer : Option Developer) : Response :=
  (developer.bind fun d => s.responses.lookup d).getD s.defaultResponse

def latency (s : Script) (developer : Option Developer) : Nat :=
  (developer.bind fun d => s.latencies.lookup d).getD s.defaultLatency

/-- How a call is answered. The options that make calls fail do so after the latency. -/
def reply (s : Script) (developer : Option Developer) (options : String) :
    Reply (Except QueryError QueryResult) where
  after := s.latency developer
  answer := .returned
    (if options = failingOptions then .error (.invalidArgument "options")
    else (s.response developer).outcome)

end Script

instance : Described Script := ⟨Script.descriptor⟩

end Environments

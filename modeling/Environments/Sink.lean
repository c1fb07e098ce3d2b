import Environments.Batch
import Environments.Provider.Query

/-!
# Sinks

A sink takes the batches of a load. The recording sink keeps them in the order of arrival and can be
told to refuse the batches of some providers. The callback sink hands each batch on to a callback,
which answers as it likes: it can be slow, refuse a batch, or break down.
-/

namespace Environments

/-- Why a batch was not accepted. -/
inductive SinkError
  | closed
  | rejected (reason : String)
  deriving DecidableEq, Repr

def SinkError.message : SinkError → String
  | .closed => "sink is closed"
  | .rejected reason => "sink rejected batch: " ++ reason

structure RecordingSink where
  batches : List Batch := []
  refused : List ProviderId := []
  deriving DecidableEq

namespace RecordingSink

/-- Refuses the batches of a provider from now on. -/
def rejectFrom (s : RecordingSink) (provider : ProviderId) : RecordingSink :=
  { s with refused := provider :: s.refused }

def answer (s : RecordingSink) (b : Batch) : Except SinkError Unit :=
  if b.provider.id ∈ s.refused then .error .closed else .ok ()

/-- Takes a batch, or refuses it. A refused batch leaves no trace. -/
def deliver (s : RecordingSink) (b : Batch) : Except SinkError RecordingSink :=
  (s.answer b).map fun _ => { s with batches := s.batches ++ [b] }

/-- The providers of the recorded batches, in the order of arrival. -/
def providerOrder (s : RecordingSink) : List ProviderId :=
  s.batches.map (·.provider.id)

end RecordingSink

/-- How a callback that goes by rules deals with the batches of a provider: it waits, then it breaks
down if it has a message for that, else refuses the batch if it has an error for that, else accepts
it. -/
structure CallbackRule where
  latency : Nat := 0
  breakdown : Option String := none
  error : Option SinkError := none
  deriving DecidableEq, Repr

namespace CallbackRule

/-- What a callback with this rule answers, and when. -/
def reply (r : CallbackRule) : Reply (Except SinkError Unit) where
  after := r.latency
  answer := match r.breakdown, r.error with
    | some message, _ => .brokeDown message
    | none, some error => .returned (.error error)
    | none, none => .returned (.ok ())

/-- The callback that goes by these rules, given under the identifiers of the providers. The batch of
a provider without a rule is accepted at once. -/
def callback (rules : List (String × CallbackRule)) (b : Batch) : Reply (Except SinkError Unit) :=
  ((rules.lookup b.provider.id.text).getD {}).reply

end CallbackRule

/-- A sink of either kind, with the batches that arrived at it. -/
inductive Sink
  | recording (sink : RecordingSink)
  | callback (answer : Batch → Reply (Except SinkError Unit)) (arrived : List Batch)

namespace Sink

def arrived : Sink → List Batch
  | recording sink => sink.batches
  | callback _ arrived => arrived

/-- What the sink answers to a batch, and when. A recording sink answers at once. -/
def reply (s : Sink) (b : Batch) : Reply (Except SinkError Unit) :=
  match s with
  | recording sink => ⟨0, .returned (sink.answer b)⟩
  | callback answer _ => answer b

def receive (s : Sink) (b : Batch) : Sink :=
  match s with
  | recording sink => recording { sink with batches := sink.batches ++ [b] }
  | callback answer arrived => callback answer (arrived ++ [b])

/-- A callback sink as it is shown in a diagnostic; the callback itself has no text. -/
def callbackDebugText : String := "CallbackSink \x7b .. \x7d"

end Sink

end Environments

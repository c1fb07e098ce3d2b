import Environments.ComputeSystem
import Environments.Text.Quoted

/-!
# Queries

A provider is known by its descriptor and by how it answers when it is asked for an account. An answer
takes its time. It brings a result, or the call fails, or the provider breaks down.
-/

namespace Environments

/-- Why a call to a provider failed. -/
inductive QueryError
  | invalidArgument (argument : String)
  | unavailable (reason : String)
  | call (reason : String)
  deriving DecidableEq, Repr

def QueryError.message : QueryError → String
  | .invalidArgument argument => "invalid argument: " ++ argument
  | .unavailable reason => "provider unavailable: " ++ reason
  | .call reason => "provider call failed: " ++ reason

/-- What comes of waiting for something: it returns, or it breaks down with a message. -/
inductive Answer (α : Type)
  | returned (value : α)
  | brokeDown (message : String)
  deriving DecidableEq, Repr

/-- An answer, and the milliseconds it takes. -/
structure Reply (α : Type) where
  after : Nat
  answer : Answer α
  deriving DecidableEq, Repr

/-- How a breakdown is reported, with the message quoted. The `#` stands for the number by which the
runtime tells its tasks apart: it differs from run to run, and nothing here depends on it. -/
def breakdownReport (message : String) : String :=
  "task # panicked with message " ++ Text.quoted message

/-- A provider, as a load sees it. -/
structure Provider where
  descriptor : Descriptor
  /-- How the provider answers: to which of a load's queries (counted from 0), for which account, and
  with which options. -/
  query : Nat → Developer → String → Reply (Except QueryError QueryResult)

/-- Types whose values are described as providers are. -/
class Described (π : Type) where
  descriptor : π → Descriptor

instance : Described Provider := ⟨Provider.descriptor⟩

end Environments

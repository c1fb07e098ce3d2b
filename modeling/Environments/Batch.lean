import Environments.ComputeSystem
import Environments.Time.Instant

/-!
# Batches

A load hands over what it found one provider at a time: a batch holds the results of one provider for
all the accounts it was asked for, in the order of asking.
-/

namespace Environments

/-- An account, with what the provider reported for it. -/
structure IdentityResult where
  developer : Developer
  result : QueryResult
  deriving DecidableEq, Repr

/-- The results of one provider, stamped with the time they were put together. -/
structure Batch where
  provider : Descriptor
  results : List IdentityResult
  loadedAt : Time.Instant
  deriving DecidableEq

/-- The compute systems of all successful results, in the order of the results. -/
def Batch.systems (b : Batch) : List ComputeSystem :=
  b.results.flatMap (·.result.systems)

end Environments

import Environments.Flags.Text
import Environments.Identity
import Environments.Operations

/-!
# Providers, compute systems and what a query brings back

A provider describes itself by a descriptor. Asked for an account, it answers with the compute systems
of that account, or with a failure that it chose to report; either answer is a result.
-/

namespace Environments

open Environments.Text

/-- How a provider describes itself. -/
structure Descriptor where
  id : ProviderId
  displayName : String
  operations : ProviderOperations
  deriving DecidableEq, Repr

/-- A descriptor needs a display name that is not blank; it starts without operations. -/
def Descriptor.ofName (id : ProviderId) (given : String) : Except InvalidValue Descriptor :=
  (nonBlank .emptyDisplayName given).map (⟨id, ·, .empty⟩)

def Descriptor.withOperations (d : Descriptor) (operations : ProviderOperations) : Descriptor :=
  { d with operations := operations }

/-- A development environment, virtual or remote, as its provider describes it. -/
structure ComputeSystem where
  id : SystemId
  name : String
  /-- A second label, shown under the name. -/
  alternativeName : Option String
  /-- The provider that the system says it belongs to. -/
  provider : ProviderId
  operations : SystemOperations
  deriving DecidableEq, Repr

namespace ComputeSystem

/-- A system needs a name that is not blank; it starts without a second label and operations. -/
def ofName (id : SystemId) (given : String) (provider : ProviderId) :
    Except InvalidValue ComputeSystem :=
  (nonBlank .emptySystemName given).map (⟨id, ·, none, provider, .empty⟩)

/-- The system with another second label; a blank one removes it. -/
def withAlternativeName (s : ComputeSystem) (given : String) : ComputeSystem :=
  { s with alternativeName := trimToOption given }

def withOperations (s : ComputeSystem) (operations : SystemOperations) : ComputeSystem :=
  { s with operations := operations }

/-- Whether a configuration document can be applied to the system. -/
def configurable (s : ComputeSystem) : Bool :=
  s.operations.contains SystemOperations.applyConfiguration

end ComputeSystem

/-- What a provider reports for one account. A failure is a report like any other: the call itself
went well. -/
inductive QueryResult
  | success (systems : List ComputeSystem)
  | failure (diagnostic : String) (extendedError : Option Int32)
  deriving DecidableEq, Repr

namespace QueryResult

/-- A reported failure needs a diagnostic that is not blank. -/
def ofDiagnostic (given : String) (extendedError : Option Int32) :
    Except InvalidValue QueryResult :=
  (nonBlank .emptyDiagnostic given).map (.failure · extendedError)

def isSuccess : QueryResult → Bool
  | success _ => true
  | failure _ _ => false

/-- The systems of the result; a failure has none. -/
def systems : QueryResult → List ComputeSystem
  | success systems => systems
  | failure _ _ => []

end QueryResult

end Environments

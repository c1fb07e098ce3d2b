import Environments.Flags.Basic

/-!
# What providers and compute systems can do

Capabilities are sets of flags: one vocabulary for providers, one for compute systems. The setup flow
looks at a single one of them, whether a configuration document can be applied to a system.
-/

namespace Environments

/-- What a provider supports beyond listing its compute systems. -/
abbrev ProviderOperations := Flags ["CREATE_COMPUTE_SYSTEM"]

/-- The lifecycle operations that a compute system accepts. -/
abbrev SystemOperations := Flags ["START", "SHUT_DOWN", "TERMINATE", "DELETE", "SAVE", "PAUSE",
  "RESUME", "RESTART", "CREATE_SNAPSHOT", "REVERT_SNAPSHOT", "DELETE_SNAPSHOT", "MODIFY_PROPERTIES",
  "APPLY_CONFIGURATION"]

/-- The operation of applying a configuration document. -/
def SystemOperations.applyConfiguration : SystemOperations := ⟨BitVec.twoPow 32 12⟩

end Environments

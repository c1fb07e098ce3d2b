import Environments.ComputeSystem

/-!
# Setup targets

A compute system can be set up if it belongs to the provider it came from and a configuration can be
applied to it. A review item is a system with its provider that passes both checks.
-/

namespace Environments

/-- Why a setup flow cannot go on. -/
inductive SetupError
  | targetNotSelected
  | applyConfigurationUnsupported (system : SystemId)
  | providerMismatch (system : SystemId) (expected actual : ProviderId)
  | systemNotFound (system : SystemId)
  | step (name reason : String)
  deriving DecidableEq, Repr

def SetupError.message : SetupError → String
  | .targetNotSelected => "no compute system has been selected for setup"
  | .applyConfigurationUnsupported system =>
    "compute system " ++ system.text ++ " does not support applying configuration"
  | .providerMismatch system expected actual =>
    "compute system " ++ system.text ++ " belongs to provider " ++ actual.text ++ ", not " ++
      expected.text
  | .systemNotFound system =>
    "compute system " ++ system.text ++ " was not found in the loaded batch"
  | .step name reason => "setup step '" ++ name ++ "' failed: " ++ reason

/-- A system chosen for setup, with its provider. -/
structure ReviewItem where
  system : ComputeSystem
  provider : Descriptor
  belongs : system.provider = provider.id
  configurable : system.configurable = true
  deriving DecidableEq

/-- The review item of a system and a provider, if the system belongs to the provider and, which is
asked second, can be configured. -/
def ReviewItem.of (system : ComputeSystem) (provider : Descriptor) : Except SetupError ReviewItem :=
  if belongs : system.provider = provider.id then
    if configurable : system.configurable = true then
      .ok ⟨system, provider, belongs, configurable⟩
    else .error (.applyConfigurationUnsupported system.id)
  else .error (.providerMismatch system.id provider.id system.provider)

/-- An item is the item of its own system and provider, and of nothing else. -/
theorem ReviewItem.of_eq_ok {system : ComputeSystem} {provider : Descriptor} {item : ReviewItem} :
    ReviewItem.of system provider = .ok item ↔ item.system = system ∧ item.provider = provider := by
  constructor
  · intro ok
    unfold ReviewItem.of at ok
    split at ok
    · split at ok
      · obtain rfl := Except.ok.inj ok
        exact ⟨rfl, rfl⟩
      · cases ok
    · cases ok
  · rintro ⟨rfl, rfl⟩
    rw [ReviewItem.of, dif_pos item.belongs, dif_pos item.configurable]

end Environments

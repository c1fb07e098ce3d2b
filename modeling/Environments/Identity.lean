import Environments.Text.Trim

/-!
# Validated texts

Identifiers, names, logins and diagnostics are texts that must not be blank. Each is kept trimmed. The
values themselves are plain texts, because a stored document may hold any text and is read without
these checks; the functions here are the ones that check.
-/

namespace Environments

open Environments.Text

/-- Why a value cannot be built from the texts given for it. -/
inductive InvalidValue
  | emptyProviderId
  /-- The text, as it was given, is too long for a provider identifier. -/
  | providerIdTooLong (given : String)
  | emptyDisplayName
  | emptyLogin
  | emptySystemId
  | emptySystemName
  | emptyDiagnostic
  deriving DecidableEq, Repr

def InvalidValue.message : InvalidValue → String
  | .emptyProviderId => "provider identifier must not be empty"
  | .providerIdTooLong given => "provider identifier exceeds 256 character limit: " ++ given
  | .emptyDisplayName => "provider display name must not be empty"
  | .emptyLogin => "developer login identifier must not be empty"
  | .emptySystemId => "compute system identifier must not be empty"
  | .emptySystemName => "compute system name must not be empty"
  | .emptyDiagnostic => "failure result must carry a diagnostic message"

/-- The trimmed text, unless nothing is left of it; then `reason` says what was missing. -/
def nonBlank (reason : InvalidValue) (given : String) : Except InvalidValue String :=
  if trim given = "" then .error reason else .ok (trim given)

/-- The identity of a provider, as the provider chose it. -/
structure ProviderId where
  text : String
  deriving DecidableEq, Repr

/-- The most characters a provider identifier has. -/
def ProviderId.maxLength : Nat := 256

/-- A provider identifier is a text that is not blank and, once trimmed, not too long. -/
def ProviderId.ofText (given : String) : Except InvalidValue ProviderId := do
  let text ← nonBlank .emptyProviderId given
  if ProviderId.maxLength < text.length then .error (.providerIdTooLong given) else .ok ⟨text⟩

/-- Identifiers are ordered as texts, by code points. -/
def ProviderId.le (a b : ProviderId) : Bool := a.text ≤ b.text

/-- Identifiers in ascending order, each as often as it was given. -/
def ProviderId.sort (ids : List ProviderId) : List ProviderId := ids.mergeSort ProviderId.le

/-- The identity of a compute system, as its provider assigned it. -/
structure SystemId where
  text : String
  deriving DecidableEq, Repr

/-- A system identifier is any text that is not blank, however long. -/
def SystemId.ofText (given : String) : Except InvalidValue SystemId :=
  (nonBlank .emptySystemId given).map (⟨·⟩)

/-- An account that a provider is queried for. Two accounts are the same when both the login and the
address agree: one login may exist on two hosts. -/
structure Developer where
  login : String
  url : Option String
  deriving DecidableEq, Repr

/-- An account without an address. -/
def Developer.ofLogin (given : String) : Except InvalidValue Developer :=
  (nonBlank .emptyLogin given).map (⟨·, none⟩)

/-- The account with another address; a blank one removes it. -/
def Developer.withUrl (d : Developer) (given : String) : Developer :=
  { d with url := trimToOption given }

/-- For each account the number of its kind: equal accounts have one number, and the numbers count up
from 0 in the order of first appearance. -/
def Developer.kinds (ds : List Developer) : List Nat :=
  ds.map fun d => ds.eraseDups.idxOf d

end Environments

import Environments.Batch
import Environments.Document.Basic
import Environments.Time.Text

/-!
# Documents of systems and batches

How identifiers, accounts, providers, compute systems and batches are stored. Reading trusts the
document: texts are taken as they stand, without trimming and also when they are blank.
-/

namespace Environments

open Document

/-- An identifier is stored as its text. -/
def ProviderId.toDocument (id : ProviderId) : Document := .text id.text

def ProviderId.ofDocument? (d : Document) : Option ProviderId :=
  (text? d).map (⟨·⟩)

def SystemId.toDocument (id : SystemId) : Document := .text id.text

def SystemId.ofDocument? (d : Document) : Option SystemId :=
  (text? d).map (⟨·⟩)

/-- A set of flags is stored as its text. -/
def Flags.toDocument {vocabulary : List String} (f : Flags vocabulary) : Document := .text f.write

def Flags.ofDocument? {vocabulary : List String} (d : Document) : Option (Flags vocabulary) :=
  (text? d).bind Flags.read

def Time.Instant.toDocument (i : Time.Instant) : Document := .text i.write

def Time.Instant.ofDocument? (d : Document) : Option Time.Instant :=
  (text? d).bind Time.Instant.read

def Developer.toDocument (v : Developer) : Document :=
  object [("login_id", text v.login), ("url", ofOption text v.url)]

def Developer.ofDocument? (d : Document) : Option Developer := do
  let some [login, url] := fields? ["login_id", "url"] d | none
  return {
    login := ← requiredField text? login
    url := ← optionalField text? url }

def Descriptor.toDocument (v : Descriptor) : Document :=
  object [("id", v.id.toDocument), ("display_name", text v.displayName),
    ("supported_operations", v.operations.toDocument)]

def Descriptor.ofDocument? (d : Document) : Option Descriptor := do
  let some [id, displayName, operations] :=
    fields? ["id", "display_name", "supported_operations"] d | none
  return {
    id := ← requiredField ProviderId.ofDocument? id
    displayName := ← requiredField text? displayName
    operations := ← requiredField Flags.ofDocument? operations }

def ComputeSystem.toDocument (v : ComputeSystem) : Document :=
  object [("id", v.id.toDocument), ("name", text v.name),
    ("alternative_display_name", ofOption text v.alternativeName),
    ("associated_provider_id", v.provider.toDocument),
    ("supported_operations", v.operations.toDocument)]

def ComputeSystem.ofDocument? (d : Document) : Option ComputeSystem := do
  let some [id, name, alternativeName, provider, operations] :=
    fields? ["id", "name", "alternative_display_name", "associated_provider_id",
      "supported_operations"] d | none
  return {
    id := ← requiredField SystemId.ofDocument? id
    name := ← requiredField text? name
    alternativeName := ← optionalField text? alternativeName
    provider := ← requiredField ProviderId.ofDocument? provider
    operations := ← requiredField Flags.ofDocument? operations }

/-- A result is stored in one of two forms, told apart by its status. -/
def QueryResult.toDocument : QueryResult → Document
  | success systems =>
    object [("status", text "success"), ("compute_systems", ofList ComputeSystem.toDocument systems)]
  | failure diagnostic extendedError =>
    object [("status", text "failure"), ("diagnostic", text diagnostic),
      ("extended_error", ofOption (fun code => integer code.toInt) extendedError)]

def QueryResult.ofDocument? (d : Document) : Option QueryResult := do
  let (status, d) ← form? "status" d
  match status with
  | "success" =>
    let some [systems] := fields? ["compute_systems"] d | none
    return .success (← requiredField (list? ComputeSystem.ofDocument?) systems)
  | "failure" =>
    let some [diagnostic, extendedError] := fields? ["diagnostic", "extended_error"] d | none
    return .failure (← requiredField text? diagnostic) (← optionalField code? extendedError)
  | _ => none

def IdentityResult.toDocument (v : IdentityResult) : Document :=
  object [("developer_id", v.developer.toDocument), ("result", v.result.toDocument)]

def IdentityResult.ofDocument? (d : Document) : Option IdentityResult := do
  let some [developer, result] := fields? ["developer_id", "result"] d | none
  return {
    developer := ← requiredField Developer.ofDocument? developer
    result := ← requiredField QueryResult.ofDocument? result }

def Batch.toDocument (v : Batch) : Document :=
  object [("provider", v.provider.toDocument),
    ("results", ofList IdentityResult.toDocument v.results), ("loaded_at", v.loadedAt.toDocument)]

def Batch.ofDocument? (d : Document) : Option Batch := do
  let some [provider, results, loadedAt] := fields? ["provider", "results", "loaded_at"] d | none
  return {
    provider := ← requiredField Descriptor.ofDocument? provider
    results := ← requiredField (list? IdentityResult.ofDocument?) results
    loadedAt := ← requiredField Time.Instant.ofDocument? loadedAt }

end Environments

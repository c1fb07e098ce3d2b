import Environments.Document.Systems
import Environments.Report

/-!
# Documents of reports

How the outcome of each provider and the report of a whole load are stored.
-/

namespace Environments

open Document

def LoadId.toDocument (id : LoadId) : Document := .text id.write

def LoadId.ofDocument? (d : Document) : Option LoadId :=
  (text? d).bind LoadId.read

/-- An outcome is stored in one of five forms, told apart by its label. -/
def Outcome.toDocument : Outcome → Document
  | delivered identities =>
    object [("outcome", text "delivered"), ("identities", integer identities)]
  | queryFailed failedAt developer reason =>
    object [("outcome", text "query_failed"), ("failed_at", integer failedAt),
      ("developer_id", developer.toDocument), ("reason", text reason)]
  | deliveryFailed reason =>
    object [("outcome", text "delivery_failed"), ("reason", text reason)]
  | cancelled completed =>
    object [("outcome", text "cancelled"), ("completed", integer completed)]
  | aborted reason =>
    object [("outcome", text "aborted"), ("reason", text reason)]

def Outcome.ofDocument? (d : Document) : Option Outcome := do
  let (outcome, d) ← form? "outcome" d
  match outcome with
  | "delivered" =>
    let some [identities] := fields? ["identities"] d | none
    return .delivered (← requiredField count? identities)
  | "query_failed" =>
    let some [failedAt, developer, reason] := fields? ["failed_at", "developer_id", "reason"] d
      | none
    return .queryFailed (← requiredField count? failedAt) (← requiredField Developer.ofDocument? developer)
      (← requiredField text? reason)
  | "delivery_failed" =>
    let some [reason] := fields? ["reason"] d | none
    return .deliveryFailed (← requiredField text? reason)
  | "cancelled" =>
    let some [completed] := fields? ["completed"] d | none
    return .cancelled (← requiredField count? completed)
  | "aborted" =>
    let some [reason] := fields? ["reason"] d | none
    return .aborted (← requiredField text? reason)
  | _ => none

def ProviderReport.toDocument (v : ProviderReport) : Document :=
  object [("provider", v.provider.toDocument), ("outcome", v.outcome.toDocument)]

def ProviderReport.ofDocument? (d : Document) : Option ProviderReport := do
  let some [provider, outcome] := fields? ["provider", "outcome"] d | none
  return {
    provider := ← requiredField Descriptor.ofDocument? provider
    outcome := ← requiredField Outcome.ofDocument? outcome }

def Report.toDocument (v : Report) : Document :=
  object [("load_id", v.loadId.toDocument), ("started_at", v.startedAt.toDocument),
    ("finished_at", v.finishedAt.toDocument), ("deadline_elapsed", boolean v.deadlineElapsed),
    ("discovery_error", ofOption text v.discoveryError),
    ("providers", ofList ProviderReport.toDocument v.providers)]

def Report.ofDocument? (d : Document) : Option Report := do
  let some [loadId, startedAt, finishedAt, deadlineElapsed, discoveryError, providers] :=
    fields? ["load_id", "started_at", "finished_at", "deadline_elapsed", "discovery_error",
      "providers"] d | none
  return {
    loadId := ← requiredField LoadId.ofDocument? loadId
    startedAt := ← requiredField Time.Instant.ofDocument? startedAt
    finishedAt := ← requiredField Time.Instant.ofDocument? finishedAt
    deadlineElapsed := ← requiredField boolean? deadlineElapsed
    discoveryError := ← optionalField text? discoveryError
    providers := ← requiredField (list? ProviderReport.ofDocument?) providers }

end Environments

import Environments.Session

/-!
# The courses of a session

`Operation` lists what can be done with a session from outside: with the scripted providers, the
directory, the sink, the setup flow, and the loads, each under any schedule.  An operation that is
refused leaves the session as it is.  `Reachable` are the sessions that some course of operations
leads to from a new one, and `reachable_induction` is the induction over all of them.
-/

namespace Environments.Session

inductive Operation
  | addProvider (handle : String) (script : Script)
  | setResponse (handle : String) (developer : Developer) (response : Response)
  | setLatencyFor (handle : String) (developer : Developer) (latency : Nat)
  | setDefaultResponse (handle : String) (response : Response)
  | setDefaultLatency (handle : String) (latency : Nat)
  | cloneProvider (handle newHandle : String)
  /-- A query from outside of any load. -/
  | query (handle : String) (developer : Option Developer) (options : String)
  | register (handle : String) (alarm : Option Alarm) (developers : List Developer)
  | failDirectory (failure : DirectoryError)
  | damageDirectory
  | setDiscoveryLatency (millis : Nat)
  | replaceSink (sink : Sink)
  | rejectFrom (provider : ProviderId)
  /-- A batch is handed to the recording sink from outside of any load. -/
  | deliver (batch : Batch)
  /-- A load under a schedule that ends it. -/
  | load (config : Config) (schedule : List Load.Move)
  | selectTarget (system : ComputeSystem) (provider : Descriptor)
  /-- Selects a system of the batch at a place among those that arrived. -/
  | selectFromBatch (place : Nat) (id : SystemId)
  | takeTarget
  | putBack
  | clearTarget
  | addStep (step : Step Scene)
  | runFlow
  | saveFlow
  | restoreFlow
  | resetFlow (keepContext : Bool)

/-- The session with another roster, if there is one. -/
def withRoster? (s : Session) (roster : Option Roster) : Session :=
  match roster with
  | some roster => { s with roster := roster }
  | none => s

/-- The session with another directory, if the directory has allowed the change. -/
def withDirectory? (s : Session) (directory : Except DirectoryError (Directory Registered)) :
    Session :=
  match directory with
  | .ok directory => { s with directory := directory }
  | .error _ => s

/-- The session after a change of its recording sink. -/
def changeSink (s : Session) (change : RecordingSink → RecordingSink) : Session :=
  match s.sink with
  | .recording sink => { s with sink := .recording (change sink) }
  | .callback .. => s

/-- Does something with a session. What is refused changes nothing. -/
def perform (s : Session) : Operation → Session
  | .addProvider handle script => { s with roster := s.roster.add handle script }
  | .setResponse handle developer response =>
    s.withRoster? (s.roster.edit? handle (·.setResponse developer response))
  | .setLatencyFor handle developer latency =>
    s.withRoster? (s.roster.edit? handle (·.setLatencyFor developer latency))
  | .setDefaultResponse handle response =>
    s.withRoster? (s.roster.edit? handle (·.setDefaultResponse response))
  | .setDefaultLatency handle latency =>
    s.withRoster? (s.roster.edit? handle (·.setDefaultLatency latency))
  | .cloneProvider handle newHandle => s.withRoster? (s.roster.clone? handle newHandle)
  | .query handle developer options => ((s.query? handle developer options).map (·.2)).getD s
  | .register handle alarm developers =>
    match s.roster.copy? handle with
    | some copy => s.withDirectory? (s.directory.register ⟨⟨copy, alarm⟩, developers⟩)
    | none => s
  | .failDirectory failure => s.withDirectory? (s.directory.failWith failure)
  | .damageDirectory => s.withDirectory? s.directory.damage
  | .setDiscoveryLatency millis => { s with discoveryLatency := millis }
  | .replaceSink sink => { s with sink := sink }
  | .rejectFrom provider => s.changeSink (·.rejectFrom provider)
  | .deliver batch => s.changeSink fun sink => (sink.deliver batch).toOption.getD sink
  | .load config schedule =>
    let final := (s.load config).after schedule
    if final.phase = .finished then s.afterLoad final else s
  | .selectTarget system provider =>
    match ReviewItem.of system provider with
    | .ok item => s.setContext (s.context.select item)
    | .error _ => s
  | .selectFromBatch place id =>
    match s.sink.arrived[place]? with
    | some batch => s.setContext (s.context.selectFromBatch batch id).2
    | none => s
  | .takeTarget => s.takeTarget.2
  | .putBack => s.putBack?.getD s
  | .clearTarget => s.setContext s.context.clearTarget
  | .addStep step => { s with flow := s.flow.withStep step }
  | .runFlow => s.runFlow.2
  | .saveFlow => s.saveFlow
  | .restoreFlow => s.restoreFlow?.getD s
  | .resetFlow keepContext => s.resetFlow keepContext

def performAll (s : Session) (operations : List Operation) : Session :=
  operations.foldl perform s

/-- A session that some course of operations leads to from a new one. -/
def Reachable (s : Session) : Prop :=
  ∃ epoch operations, s = performAll { epoch := epoch } operations

/-- **What new sessions have and every operation keeps, all sessions have.** -/
theorem reachable_induction {P : Session → Prop} (start : ∀ epoch, P { epoch := epoch })
    (keeps : ∀ s operation, P s → P (s.perform operation)) {s : Session} (reachable : s.Reachable) :
    P s := by
  obtain ⟨epoch, operations, rfl⟩ := reachable
  have all : ∀ s : Session, P s → P (s.performAll operations) := by
    induction operations with
    | nil => exact fun s h => h
    | cons operation later ih => exact fun s h => ih _ (keeps s operation h)
  exact all _ (start epoch)

end Environments.Session

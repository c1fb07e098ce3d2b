import Environments.Load.Run
import Environments.Provider.Roster
import Environments.Setup.Action

/-!
# Sessions

A session is everything that one user of the library has at hand: scripted providers, a directory to
register them in, a sink for the batches of loads, a setup flow, and a clock that moves when something
takes time. Loads read the directory and the sink as they are when the load starts; what a load leaves
behind is calls in the journals, batches in the sink, and the time it took.
-/

namespace Environments

/-- How a registered provider is made to break down: for which accounts, and with which message. -/
structure Alarm where
  developers : List Developer
  message : String
  deriving DecidableEq, Repr

/-- A copy of a scripted provider, as it was when it was registered. -/
structure Registered where
  copy : Copy
  alarm : Option Alarm := none
  deriving DecidableEq, Repr

namespace Registered

instance : Described Registered := ⟨(·.copy.script.descriptor)⟩

/-- The message with which a query for an account breaks down, if it does. -/
def alarmFor? (r : Registered) (developer : Developer) : Option String :=
  r.alarm.bind fun alarm => if developer ∈ alarm.developers then some alarm.message else none

def reply (r : Registered) (developer : Developer) (options : String) :
    Reply (Except QueryError QueryResult) :=
  match r.alarmFor? developer with
  | some message => ⟨0, .brokeDown message⟩
  | none => r.copy.script.reply (some developer) options

/-- The provider that a load sees. -/
def toProvider (r : Registered) : Provider where
  descriptor := Described.descriptor r
  query := fun _ developer options => r.reply developer options

end Registered

structure Session where
  /-- The time at the start of the session. -/
  epoch : Time.Instant
  /-- The milliseconds since the start of the session. -/
  now : Nat := 0
  roster : Roster := {}
  directory : Directory Registered := {}
  discoveryLatency : Nat := 0
  sink : Sink := .recording {}
  /-- The number of loads made so far. -/
  loads : Nat := 0
  flow : Flow Scene := { state := {} }
  savedFlow : Option (Flow Scene) := none
  /-- The target that was taken out last. -/
  taken : Option ReviewItem := none

namespace Session

def clock (s : Session) : Time.Instant := s.epoch.after s.now

/-! ### Providers and the directory -/

/-- Queries the provider under a handle directly; the clock moves by the latency. -/
def query? (s : Session) (handle : String) (developer : Option Developer) (options : String) :
    Option (Reply (Except QueryError QueryResult) × Session) := do
  let (reply, roster) ← s.roster.query? handle developer options
  return (reply, { s with roster := roster, now := s.now + reply.after })

/-- Registers the copy under a handle, as it is now. -/
def register (s : Session) (copy : Copy) (alarm : Option Alarm) (developers : List Developer) :
    Except DirectoryError Session :=
  (s.directory.register ⟨⟨copy, alarm⟩, developers⟩).map fun directory =>
    { s with directory := directory }

/-! ### Loads -/

/-- The load that starts now, with this configuration. -/
def load (s : Session) (config : Config) : Load where
  id := LoadId.ofRandom (BitVec.ofNat 128 s.loads)
  startedAt := s.clock
  ticks := s.now
  config := config
  discoveryLatency := s.discoveryLatency
  discovered := s.directory.providers.map (·.map (Entry.map Registered.toProvider))
  sink := fun _ batch => s.sink.reply batch

/-- What a deed of a load does to the journals: a call is recorded by the provider that was called,
unless it broke down. -/
def recordDeed (entries : List (Entry Registered)) (roster : Roster) : Deed → Roster
  | .called task developer _ =>
    match entries[task]? with
    | some entry =>
      if (entry.provider.alarmFor? developer).isSome then roster
      else roster.record entry.provider.copy.journal (some developer)
    | none => roster
  | _ => roster

/-- What a deed of a load does to the sink: an accepted batch arrives. -/
def receiveDeed (sink : Sink) : Deed → Sink
  | .accepted _ batch => sink.receive batch
  | _ => sink

/-- The session after a load that went this way. -/
def afterLoad (s : Session) (final : Load.State) : Session :=
  let deeds := final.deeds.map (·.2)
  { s with
    now := s.now + final.now
    roster := deeds.foldl (recordDeed s.directory.entries) s.roster
    sink := deeds.foldl receiveDeed s.sink
    loads := s.loads + 1 }

/-- Makes a load: the state in which it ends, and the session after it. -/
def makeLoad (s : Session) (config : Config) : Load.State × Session :=
  let final := (s.load config).run
  (final, s.afterLoad final)

/-! ### The setup flow -/

def context (s : Session) : Context := s.flow.state.context

def setContext (s : Session) (context : Context) : Session :=
  { s with flow := { s.flow with state := { s.flow.state with context := context } } }

/-- Takes the target out of the context and keeps it, so that it can be put back. -/
def takeTarget (s : Session) : Option ReviewItem × Session :=
  let (item, context) := s.context.takeTarget
  (item, { s.setContext context with taken := item })

/-- Selects the target that was taken out last, if there was one. -/
def putBack? (s : Session) : Option Session :=
  s.taken.map fun item => s.setContext (s.context.select item)

/-- Runs the setup flow. The clock moves by the time that the steps take. -/
def runFlow (s : Session) : Passage Scene × Session :=
  let scene : Scene := { context := s.context }
  let (passage, flow) := { s.flow with state := scene }.run
  (passage, { s with flow := flow, now := s.now + passage.state.passed })

/-- Replaces the flow by one without steps, which keeps the context or starts with an empty one. -/
def resetFlow (s : Session) (keepContext : Bool) : Session :=
  { s with flow := { state := { context := if keepContext then s.context else {} } } }

/-- Keeps a copy of the flow, steps and context. -/
def saveFlow (s : Session) : Session := { s with savedFlow := some s.flow }

/-- Brings the copy of the flow back, if one was kept. -/
def restoreFlow? (s : Session) : Option Session :=
  s.savedFlow.map fun flow => { s with flow := flow }

end Session

end Environments

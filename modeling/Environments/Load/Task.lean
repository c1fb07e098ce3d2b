import Environments.Directory
import Environments.Load.Config
import Environments.Load.Event
import Environments.Sink

/-!
# The task of one provider

A load gives every discovered provider a task. The task queries the provider for its accounts one
after the other, puts the results together into a batch and hands it to the sink. Whenever it has to
wait it stops, and goes on when the answer has come; an answer that comes at once is taken at once. At
each of its steps the task first looks for the sign to cancel: after it, it starts nothing any more and
drops what it was waiting for.
-/

namespace Environments

/-- What the runtime knows a task by. -/
structure TaskId where
  number : Nat
  deriving DecidableEq, Repr

theorem TaskId.mk_injective (m n : Nat) (h : TaskId.mk m = TaskId.mk n) : m = n :=
  congrArg TaskId.number h

/-- A load: what it is asked to do, and what it meets. -/
structure Load where
  id : LoadId
  startedAt : Time.Instant
  /-- What the clock that times the deadline shows at the start. -/
  ticks : Nat := 0
  config : Config
  /-- The time that listing the providers takes. -/
  discoveryLatency : Nat
  /-- What listing the providers comes to. -/
  discovered : Except DirectoryError (List (Entry Provider))
  /-- How the sink answers the batch of the task with this number. Since a task hands over one batch
  at most, any sink behaves like this in any one load, also one that remembers what came before. -/
  sink : Nat → Batch → Reply (Except SinkError Unit)
  /-- The identity that the runtime gives the task with this number. -/
  taskId : Nat → TaskId := TaskId.mk
  /-- No two tasks of a load have one identity. -/
  taskId_injective : ∀ m n, taskId m = taskId n → m = n := by exact TaskId.mk_injective

namespace Load

/-- The time on the clock, so many milliseconds after the start of the load. -/
def clock (load : Load) (now : Nat) : Time.Instant := load.startedAt.after now

/-- The time from the start of the load to the point at which it is cut off. -/
def cutoff (load : Load) : Nat := load.config.cutoff load.ticks

end Load

/-- What passes between a load and the world around it. -/
inductive Deed
  /-- The directory is asked for the providers. -/
  | asked
  /-- A task starts a query. -/
  | called (task : Nat) (developer : Developer) (options : String)
  /-- A task takes the answer to its query. -/
  | answered (task : Nat) (developer : Developer) (answer : Answer (Except QueryError QueryResult))
  /-- A task starts to hand over its batch. -/
  | handed (task : Nat) (batch : Batch)
  /-- The sink accepts the batch of a task. -/
  | accepted (task : Nat) (batch : Batch)
  /-- The sink does not accept the batch of a task. -/
  | refused (task : Nat) (batch : Batch) (error : SinkError)
  /-- The sink breaks down over the batch of a task. -/
  | spoiled (task : Nat) (batch : Batch) (message : String)

/-- The task that a deed is part of. Asking the directory is the load's own doing. -/
def Deed.task? : Deed → Option Nat
  | asked => none
  | called task .. => some task
  | answered task .. => some task
  | handed task _ => some task
  | accepted task _ => some task
  | refused task .. => some task
  | spoiled task .. => some task

/-- What a task leaves behind: it returns what it has to report, or it breaks down. -/
inductive Ending
  | returned (descriptor : Descriptor) (outcome : Outcome)
  /-- The task with this identity broke down. -/
  | brokeDown (task : TaskId) (report : String)
  deriving DecidableEq

/-- How the part of the provider ended, by what its task left behind. -/
def Ending.outcome : Ending → Outcome
  | returned _ outcome => outcome
  | brokeDown _ report => .aborted report

/-- Where a task stands. Something it waits for is due at a known time. -/
inductive Stage
  /-- Nothing is under way: so many queries are done, their results are kept, and these accounts are
  left. -/
  | resting (index : Nat) (results : List IdentityResult) (rest : List Developer)
  /-- The query for the account is under way. -/
  | querying (index : Nat) (results : List IdentityResult) (developer : Developer)
    (rest : List Developer) (due : Nat) (answer : Answer (Except QueryError QueryResult))
  /-- The batch is handed over, and the sink has not answered. -/
  | delivering (batch : Batch) (due : Nat) (answer : Answer (Except SinkError Unit))
  /-- The task has ended, and the load has not taken note of it. -/
  | ended (ending : Ending)
  /-- The load has taken note of the end of the task. -/
  | joined (ending : Ending)

/-- A provider's task: what it is to ask, and where it stands. Its number, which is the provider's
place among the discovered ones, is its place among the tasks. -/
structure Task where
  entry : Entry Provider
  stage : Stage := .resting 0 [] entry.developers

namespace Stage

/-- When the thing waited for is due. -/
def due? : Stage → Option Nat
  | querying _ _ _ _ due _ => some due
  | delivering _ due _ => some due
  | _ => none

/-- Whether a step at this time would bring the task on. -/
def isReady (now : Nat) : Stage → Bool
  | resting .. => true
  | querying _ _ _ _ due _ => due ≤ now
  | delivering _ due _ => due ≤ now
  | _ => false

/-- Whether the task has ended and waits to be taken note of. -/
def isEnded : Stage → Bool
  | ended _ => true
  | _ => false

/-- Whether the load has taken note of the end of the task. -/
def isJoined : Stage → Bool
  | joined _ => true
  | _ => false

/-- What the task has left behind, if it has ended. -/
def ending? : Stage → Option Ending
  | ended ending => some ending
  | joined ending => some ending
  | _ => none

/-- The most steps that a task makes from a stage on, its being taken note of included. -/
def stepsLeft : Stage → Nat
  | resting _ _ rest => 2 * rest.length + 3
  | querying _ _ _ rest _ _ => 2 * rest.length + 4
  | delivering .. => 2
  | ended _ => 1
  | joined _ => 0

end Stage

namespace Task

/-- The most steps that tasks make from where they stand. -/
def stepsLeft : List Task → Nat
  | [] => 0
  | t :: rest => t.stage.stepsLeft + stepsLeft rest

/-- The stage of a task that follows the sign to cancel. -/
def cutOff (t : Task) : Stage :=
  match t.stage with
  | .resting _ results _ | .querying _ results .. =>
    .ended (.returned t.entry.descriptor (.cancelled results.length))
  | .delivering batch _ _ =>
    .ended (.returned t.entry.descriptor (.cancelled batch.results.length))
  | .ended ending => .ended ending
  | .joined ending => .joined ending

/-- Starts what comes next where nothing is under way: the query for the next account, or the delivery
of the batch once no account is left. -/
def begin (load : Load) (now number : Nat) (entry : Entry Provider) (index : Nat)
    (results : List IdentityResult) : List Developer → Stage × List Deed
  | developer :: rest =>
    let reply := entry.provider.query index developer load.config.options
    (.querying index results developer rest (now + reply.after) reply.answer,
      [.called number developer load.config.options])
  | [] =>
    let batch : Batch := ⟨entry.descriptor, results, load.clock now⟩
    let reply := load.sink number batch
    (.delivering batch (now + reply.after) reply.answer, [.handed number batch])

/-- The stage after the answer to a query: one more result, or the end of the task. -/
def collect (load : Load) (number : Nat) (entry : Entry Provider) (index : Nat)
    (results : List IdentityResult) (developer : Developer) (rest : List Developer) :
    Answer (Except QueryError QueryResult) → Stage
  | .returned (.ok result) => .resting (index + 1) (results ++ [⟨developer, result⟩]) rest
  | .returned (.error error) =>
    .ended (.returned entry.descriptor (.queryFailed index developer error.message))
  | .brokeDown message => .ended (.brokeDown (load.taskId number) (breakdownReport message))

/-- The end of a task whose batch the sink has answered. -/
def conclude (load : Load) (number : Nat) (entry : Entry Provider) (batch : Batch) :
    Answer (Except SinkError Unit) → Stage × List Deed
  | .returned (.ok ()) =>
    (.ended (.returned entry.descriptor (.delivered batch.results.length)), [.accepted number batch])
  | .returned (.error error) =>
    (.ended (.returned entry.descriptor (.deliveryFailed error.message)),
      [.refused number batch error])
  | .brokeDown message =>
    (.ended (.brokeDown (load.taskId number) (breakdownReport message)),
      [.spoiled number batch message])

/-- Takes the answer that a task waits for, if it has come. -/
def resume (load : Load) (now number : Nat) (entry : Entry Provider) (stage : Stage) :
    Stage × List Deed :=
  match stage with
  | .querying index results developer rest due answer =>
    if due ≤ now then
      (collect load number entry index results developer rest answer,
        [.answered number developer answer])
    else (stage, [])
  | .delivering batch due answer =>
    if due ≤ now then conclude load number entry batch answer else (stage, [])
  | _ => (stage, [])

/-- One step of a task: the stage it reaches, and what passes on the way. -/
def step (load : Load) (now number : Nat) (cancelled : Bool) (t : Task) : Stage × List Deed :=
  if cancelled then (t.cutOff, [])
  else match t.stage with
    | .resting index results rest =>
      let begun := begin load now number t.entry index results rest
      let resumed := resume load now number t.entry begun.1
      (resumed.1, begun.2 ++ resumed.2)
    | stage => resume load now number t.entry stage

end Task

end Environments

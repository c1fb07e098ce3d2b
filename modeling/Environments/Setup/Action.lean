import Environments.Setup.Flow

/-!
# Steps made of actions

A step can be put together from simple actions on the target. The actions are made in order; the first
that fails ends the step. Besides the context, the actions keep track of the time they take and of the
systems they saw.
-/

namespace Environments

/-- What a flow of such steps works on: the context, the milliseconds that have passed, and what was
seen, by which step. -/
structure Scene where
  context : Context := {}
  passed : Nat := 0
  seen : List (String × Option SystemId) := []
  deriving DecidableEq

inductive Action
  | select (system : ComputeSystem) (provider : Descriptor)
  | selectFromBatch (batch : Batch) (id : SystemId)
  | require
  | take
  | clear
  | sleep (millis : Nat)
  | fail (reason : String)
  deriving DecidableEq

namespace Scene

/-- Notes that a step saw a system, or that there was none. -/
def see (s : Scene) (step : String) (item : Option ReviewItem) : Scene :=
  { s with seen := s.seen ++ [(step, item.map (·.system.id))] }

end Scene

namespace Action

/-- Makes an action, as part of a step with a name. -/
def perform (step : String) (s : Scene) : Action → Except SetupError Unit × Scene
  | select system provider =>
    match ReviewItem.of system provider with
    | .ok item => (.ok (), { s with context := s.context.select item })
    | .error error => (.error error, s)
  | selectFromBatch batch id =>
    match s.context.selectFromBatch batch id with
    | (.ok item, context) => (.ok (), { s with context := context }.see step (some item))
    | (.error error, context) => (.error error, { s with context := context })
  | require =>
    match s.context.requireTarget with
    | .ok item => (.ok (), s.see step (some item))
    | .error error => (.error error, s)
  | take =>
    let (item, context) := s.context.takeTarget
    (.ok (), { s with context := context }.see step item)
  | clear => (.ok (), { s with context := s.context.clearTarget })
  | sleep millis => (.ok (), { s with passed := s.passed + millis })
  | fail reason => (.error (.step step reason), s)

/-- Makes actions in order, up to the first that fails. -/
def performAll (step : String) : List Action → Scene → Except SetupError Unit × Scene
  | [], s => (.ok (), s)
  | action :: rest, s =>
    match action.perform step s with
    | (.ok (), s) => performAll step rest s
    | (.error error, s) => (.error error, s)

end Action

/-- The step that makes the actions. -/
def Step.ofActions (name : String) (actions : List Action) : Step Scene where
  name := name
  run := Action.performAll name actions

end Environments

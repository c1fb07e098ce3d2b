import Environments.Log
import Environments.Setup.Context

/-!
# Setup flows

A setup flow is a list of named steps over a state that they share. A run makes the steps in order and
stops at the first that fails. Nothing is undone: what the steps did, the failing one included, stays.
-/

namespace Environments

/-- A step over a state: it may change the state, and it succeeds or fails. -/
structure Step (σ : Type) where
  name : String
  run : σ → Except SetupError Unit × σ

/-- An event in the log of a run. -/
inductive FlowEvent
  | running (step : String)
  | failed (step : String) (error : SetupError)
  deriving DecidableEq, Repr

namespace FlowEvent

def level : FlowEvent → Level
  | running _ => .debug
  | failed .. => .warn

def message : FlowEvent → String
  | running _ => "running setup step"
  | failed .. => "setup step failed"

end FlowEvent

/-- What a run comes to: how it ends, the state it leaves, and what it logs. -/
structure Passage (σ : Type) where
  outcome : Except SetupError Unit
  state : σ
  log : List FlowEvent

/-- Makes steps in order, up to the first that fails. -/
def runSteps {σ : Type} : List (Step σ) → σ → Passage σ
  | [], s => ⟨.ok (), s, []⟩
  | step :: rest, s =>
    match step.run s with
    | (.error error, s) => ⟨.error error, s, [.running step.name, .failed step.name error]⟩
    | (.ok (), s) =>
      let later := runSteps rest s
      { later with log := .running step.name :: later.log }

/-- What every step keeps, whether it succeeds or fails, a run keeps. -/
theorem runSteps_keeps {σ : Type} {P : σ → Prop} {steps : List (Step σ)}
    (keeps : ∀ step ∈ steps, ∀ s, P s → P (step.run s).2) {s : σ} (h : P s) :
    P (runSteps steps s).state := by
  induction steps generalizing s with
  | nil => exact h
  | cons step rest ih =>
    have kept := keeps step List.mem_cons_self s h
    rw [runSteps]
    cases ran : step.run s with
    | mk outcome after =>
      rw [ran] at kept
      cases outcome with
      | error error => exact kept
      | ok => exact ih (fun other member => keeps other (List.mem_cons_of_mem _ member)) kept

/-- A flow: its steps, and the state they share. -/
structure Flow (σ : Type) where
  state : σ
  steps : List (Step σ) := []

namespace Flow

variable {σ : Type}

def withStep (f : Flow σ) (step : Step σ) : Flow σ :=
  { f with steps := f.steps ++ [step] }

/-- Runs the flow, which keeps the state that the run leaves. -/
def run (f : Flow σ) : Passage σ × Flow σ :=
  let passage := runSteps f.steps f.state
  (passage, { f with state := passage.state })

end Flow

end Environments

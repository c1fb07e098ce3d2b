import Environments.Session

/-!
# Runs of a setup flow

A step is any change of the state that succeeds or fails.  What a run does with its steps can be seen by
steps that write down what they do: `Step.watched` is such a step, and `Executes` is what the record has
to be.  The steps are executed in order, each on the state that the one before has left, up to the first
that fails, and the log tells of just these.

`runs_compose` says that every run is such a run, and how runs come together: a run of two lists is the
run of the first and, unless this fails, the run of the second from the state that the first has left.
-/

namespace Environments

variable {σ : Type}

/-- A step that was executed: the state it was given, how it ended, and the state it left. -/
structure Execution (σ : Type) where
  step : Step σ
  given : σ
  outcome : Except SetupError Unit
  left : σ

/-- The step that does the same and writes it down, after what was written down before. -/
def Step.watched (step : Step σ) : Step (σ × List (Execution σ)) where
  name := step.name
  run := fun (s, record) =>
    let (outcome, left) := step.run s
    (outcome, left, record ++ [⟨step, s, outcome, left⟩])

def Execution.event (e : Execution σ) : FlowEvent := .running e.step.name

/-- **How a run ends**, by what was executed and by what is logged for it: all steps have succeeded, or
the last executed one has failed, and no other. -/
inductive Concludes (steps : List (Step σ)) : List (Execution σ) → Except SetupError Unit →
    List FlowEvent → Prop
  | done (made : List (Execution σ)) (all : made.map Execution.step = steps)
    (succeed : ∀ e ∈ made, e.outcome = .ok ()) : Concludes steps made (.ok ()) (made.map Execution.event)
  | failed (before : List (Execution σ)) {last : Execution σ} {error : SetupError}
    (succeed : ∀ e ∈ before, e.outcome = .ok ()) (fails : last.outcome = .error error) :
    Concludes steps (before ++ [last]) (.error error)
      ((before ++ [last]).map Execution.event ++ [.failed last.step.name error])

/-- **What a run of steps from a state has executed**, if it comes to this. -/
structure Executes (steps : List (Step σ)) (s : σ) (made : List (Execution σ))
    (passage : Passage σ) : Prop where
  /-- The executed steps are the first ones, in order. -/
  inOrder : made.map Execution.step <+: steps
  /-- Each has done what it does to the state it was given. -/
  ran : ∀ e ∈ made, e.step.run e.given = (e.outcome, e.left)
  /-- The first is given the state at the start, each later one the state that the one before has left,
  and what the last one has left is what the run leaves. -/
  threaded : made.map Execution.given ++ [passage.state] = s :: made.map Execution.left
  concludes : Concludes steps made passage.outcome passage.log

/-- A passage, and what comes after it unless it fails. -/
def Passage.andThen (first : Passage σ) (next : σ → Passage σ) : Passage σ :=
  match first.outcome with
  | .ok () =>
    let later := next first.state
    { later with log := first.log ++ later.log }
  | .error _ => first

/-! ### What is executed -/

theorem Executes.nil (s : σ) : Executes [] s [] (runSteps [] s) :=
  ⟨List.prefix_rfl, List.forall_mem_nil _, rfl, .done [] rfl (List.forall_mem_nil _)⟩

theorem Executes.fail {step : Step σ} (rest : List (Step σ)) {s left : σ} {error : SetupError}
    (ran : step.run s = (.error error, left)) :
    Executes (step :: rest) s [⟨step, s, .error error, left⟩] (runSteps (step :: rest) s) := by
  simp only [runSteps, ran]
  refine ⟨⟨rest, rfl⟩, fun e member => ?_, rfl, .failed [] (List.forall_mem_nil _) rfl⟩
  rw [List.mem_singleton.mp member]
  exact ran

theorem Executes.succeed {step : Step σ} {rest : List (Step σ)} {s left : σ}
    {made : List (Execution σ)} (ran : step.run s = (.ok (), left))
    (h : Executes rest left made (runSteps rest left)) :
    Executes (step :: rest) s (⟨step, s, .ok (), left⟩ :: made) (runSteps (step :: rest) s) := by
  simp only [runSteps, ran]
  refine ⟨(List.prefix_cons_inj step).mpr h.inOrder, fun e member => ?_, ?_, ?_⟩
  · rcases List.mem_cons.mp member with rfl | later
    · exact ran
    · exact h.ran e later
  · exact congrArg (s :: ·) h.threaded
  · have concludes := h.concludes
    generalize (runSteps rest left).outcome = outcome at concludes ⊢
    generalize (runSteps rest left).log = log at concludes ⊢
    -- The new execution stands before all others, and it has succeeded.
    have succeed : ∀ made : List (Execution σ), (∀ e ∈ made, e.outcome = .ok ()) →
        ∀ e ∈ ⟨step, s, .ok (), left⟩ :: made, e.outcome = .ok () := fun made all =>
      List.forall_mem_cons.mpr ⟨rfl, all⟩
    cases concludes with
    | done made all others => exact .done (_ :: made) (congrArg (step :: ·) all) (succeed made others)
    | failed before others fails => exact .failed (_ :: before) (succeed before others) fails

/-- **Watching a run changes nothing**, and shows what the run has executed. -/
theorem exists_executes (steps : List (Step σ)) (s : σ) :
    ∃ made, Executes steps s made (runSteps steps s) ∧
      ∀ record, runSteps (steps.map Step.watched) (s, record) =
        ⟨(runSteps steps s).outcome, ((runSteps steps s).state, record ++ made),
          (runSteps steps s).log⟩ := by
  induction steps generalizing s with
  | nil => exact ⟨[], .nil s, fun record => by simp [runSteps]⟩
  | cons step rest ih =>
    cases ran : step.run s with
    | mk outcome left =>
      cases outcome with
      | error error =>
        refine ⟨_, .fail rest ran, fun record => ?_⟩
        simp [runSteps, Step.watched, ran]
      | ok =>
        obtain ⟨made, executes, watched⟩ := ih left
        refine ⟨_, .succeed ran executes, fun record => ?_⟩
        simp [runSteps, Step.watched, ran, watched]

/-! ### What is logged -/

/-- **One debug event for each executed step, and one warning for a failure.** -/
theorem Concludes.log {steps : List (Step σ)} {made : List (Execution σ)}
    {outcome : Except SetupError Unit} {log : List FlowEvent} (h : Concludes steps made outcome log) :
    log.filter (·.level = .debug) = made.map Execution.event ∧
      log.countP (·.level = .warn) ≤ 1 ∧
      (log.countP (·.level = .warn) = 1 ↔ ∃ error, outcome = .error error) := by
  have debug : ∀ made : List (Execution σ), (made.map Execution.event).filter (·.level = .debug) =
      made.map Execution.event := fun made =>
    List.filter_eq_self.mpr fun event member => by
      obtain ⟨e, _, rfl⟩ := List.mem_map.mp member
      rfl
  have quiet : ∀ made : List (Execution σ),
      (made.map Execution.event).countP (·.level = .warn) = 0 := fun made =>
    List.countP_eq_zero.mpr fun event member => by
      obtain ⟨e, _, rfl⟩ := List.mem_map.mp member
      nofun
  cases h with
  | done =>
    rw [quiet]
    exact ⟨debug _, Nat.zero_le 1, nofun, nofun⟩
  | @failed before last error =>
    rw [List.filter_append, debug, List.countP_append, quiet]
    exact ⟨List.append_nil _, Nat.le_refl 1, fun _ => ⟨error, rfl⟩, fun _ => rfl⟩

/-! ### One run after the other -/

theorem runSteps_append (first later : List (Step σ)) (s : σ) :
    runSteps (first ++ later) s = (runSteps first s).andThen (runSteps later) := by
  induction first generalizing s with
  | nil => rfl
  | cons step rest ih =>
    rw [List.cons_append, runSteps, runSteps]
    cases ran : step.run s with
    | mk outcome left =>
      cases outcome with
      | error => rfl
      | ok =>
        simp only [ih, Passage.andThen]
        cases ended : (runSteps rest left).outcome with
        | ok => rfl
        | error => simp only [ended]

/-- **Runs of setup steps compose.** A run executes its steps in order, each on the state that the one
before has left, up to and including the first that fails and no further.  It ends with the error of
that step, or well if none fails, and leaves the state that the last executed step has left, whatever
the outcome.  The log has one debug event for each executed step, in order, and one warning if and only
if the run fails, which names the failing step and its error.

A run of two lists is the run of the first and, if that ends well, the run of the second from there.  A
flow runs all its steps from the state it has, and once more from the first step in its next run, on the
state that the run before has left. -/
theorem runs_compose (steps : List (Step σ)) (s : σ) :
    let passage := runSteps steps s
    let watched := runSteps (steps.map Step.watched) (s, [])
    (watched.outcome = passage.outcome ∧ watched.state.1 = passage.state ∧
      watched.log = passage.log) ∧
    Executes steps s watched.state.2 passage ∧
    passage.log.filter (·.level = .debug) = watched.state.2.map Execution.event ∧
    (passage.log.countP (·.level = .warn) ≤ 1 ∧
      (passage.log.countP (·.level = .warn) = 1 ↔ ∃ error, passage.outcome = .error error)) ∧
    (∀ later, runSteps (steps ++ later) s = passage.andThen (runSteps later)) ∧
    (let flow : Flow σ := { state := s, steps := steps }
     flow.run = (passage, { flow with state := passage.state }) ∧
      flow.run.2.run.1 = runSteps steps passage.state) ∧
    ∀ session : Session,
      let once := session.runFlow
      once.1 = runSteps session.flow.steps { context := session.context } ∧
      once.2.context = once.1.state.context ∧
      once.2.runFlow.1 = runSteps session.flow.steps { context := once.1.state.context } := by
  intro passage watched
  obtain ⟨made, executes, seen⟩ := exists_executes steps s
  have record : watched = ⟨passage.outcome, (passage.state, made), passage.log⟩ := seen []
  rw [record]
  exact ⟨⟨rfl, rfl, rfl⟩, executes, executes.concludes.log.1, executes.concludes.log.2,
    fun later => runSteps_append steps later s, ⟨rfl, rfl⟩, fun session => ⟨rfl, rfl, rfl⟩⟩

/-- Steps of which the first selects a target, the second clears it and then fails, and the third would
select it again. -/
def halted : List (Step Scene) :=
  let pick : Action := .select ⟨⟨"x"⟩, "X", none, ⟨"p"⟩, SystemOperations.applyConfiguration⟩
    ⟨⟨"p"⟩, "P", .empty⟩
  [.ofActions "pick" [pick], .ofActions "drop" [.clear, .fail "no"], .ofActions "again" [pick]]

-- What the failing step has changed stays changed, and the third step is not begun.
example : runSteps halted {} = ⟨.error (.step "drop" "no"), {},
    [.running "pick", .running "drop", .failed "drop" (.step "drop" "no")]⟩ := rfl

end Environments

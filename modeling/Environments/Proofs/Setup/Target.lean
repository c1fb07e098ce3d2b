import Environments.Setup.Flow

/-!
# The target is the last one selected

The context of a setup flow can be reached by a few operations only, directly or by the code of steps.
`Procedure` is such code: it makes one operation after the other, each after the replies to the
earlier ones, and comes to an outcome.  A `Ledger` keeps the context together with all operations that
were made on it and the replies to them.

`target_is_last_selected` says what the context shows by this history, after any course of direct
operations and of runs, also those that fail: the target is what `Stands`, the item of the last
selection that succeeded, unless it was taken out or cleared since.  `Kept` is the invariant; every
operation keeps it, hence every procedure, every step and every run.
-/

namespace Environments

namespace Context

/-- Something that is done with the context of a setup flow. -/
inductive Operation
  | select (item : ReviewItem)
  | selectFromBatch (batch : Batch) (id : SystemId)
  | look
  | require
  | take
  | clear

/-- What an operation gives back. -/
def Operation.Reply : Operation → Type
  | select _ => Unit
  | selectFromBatch .. => Except SetupError ReviewItem
  | look => Option ReviewItem
  | require => Except SetupError ReviewItem
  | take => Option ReviewItem
  | clear => Unit

/-- Makes an operation. -/
def perform (c : Context) : (operation : Operation) → operation.Reply × Context
  | .select item => ((), c.select item)
  | .selectFromBatch batch id => c.selectFromBatch batch id
  | .look => (c.target, c)
  | .require => (c.requireTarget, c)
  | .take => c.takeTarget
  | .clear => ((), c.clearTarget)

/-- An operation that was made, with the reply to it. -/
structure Dealing where
  operation : Operation
  reply : operation.Reply

namespace Dealing

/-- The item that is selected by a dealing, if one is. -/
def selected? : Dealing → Option ReviewItem
  | ⟨.select item, _⟩ => some item
  | ⟨.selectFromBatch .., .ok item⟩ => some item
  | _ => none

/-- Whether a dealing removes the target. -/
def removes : Dealing → Bool
  | ⟨.take, _⟩ => true
  | ⟨.clear, _⟩ => true
  | _ => false

end Dealing

/-- **The item of the most recent successful selection**, which nothing has replaced or removed
since. -/
def Stands (history : List Dealing) (item : ReviewItem) : Prop :=
  ∃ before dealing after, history = before ++ dealing :: after ∧ dealing.selected? = some item ∧
    ∀ later ∈ after, later.selected? = none ∧ later.removes = false

/-- **What the reply of a dealing has to be**, by the history before it. -/
def Dealing.Tells (history : List Dealing) : Dealing → Prop
  | ⟨.select _, _⟩ => True
  | ⟨.selectFromBatch batch id, reply⟩ => reply = itemFromBatch batch id
  | ⟨.look, reply⟩ => ∀ item, reply = some item ↔ Stands history item
  | ⟨.require, reply⟩ => (∀ item, reply = .ok item ↔ Stands history item) ∧
      ∀ error, reply = .error error ↔ error = .targetNotSelected ∧ ∀ item, ¬ Stands history item
  | ⟨.take, reply⟩ => ∀ item, reply = some item ↔ Stands history item
  | ⟨.clear, _⟩ => True

theorem not_stands_nil (item : ReviewItem) : ¬ Stands [] item := by
  rintro ⟨before, dealing, after, same, _⟩
  simp at same

theorem split_concat {α : Type} {l before after : List α} {a b : α}
    (same : l ++ [a] = before ++ b :: after) :
    (l = before ∧ a = b ∧ after = []) ∨
      ∃ earlier, after = earlier ++ [a] ∧ l = before ++ b :: earlier := by
  rcases List.eq_nil_or_concat after with rfl | ⟨earlier, last, rfl⟩
  · obtain ⟨rfl, last⟩ := List.append_inj' same rfl
    exact Or.inl ⟨rfl, List.singleton_inj.mp last, rfl⟩
  · rw [List.concat_eq_append, ← List.cons_append, ← List.append_assoc] at same
    obtain ⟨rfl, last⟩ := List.append_inj' same rfl
    exact Or.inr ⟨earlier, by rw [List.singleton_inj.mp last, List.concat_eq_append], rfl⟩

/-- **What stands after one more dealing**: what it has selected, or if it has not changed anything
what stood before. -/
theorem stands_concat {history : List Dealing} {dealing : Dealing} {item : ReviewItem} :
    Stands (history ++ [dealing]) item ↔ dealing.selected? = some item ∨
      dealing.selected? = none ∧ dealing.removes = false ∧ Stands history item := by
  constructor
  · rintro ⟨before, standing, after, same, selected, untouched⟩
    rcases split_concat same with ⟨rfl, rfl, rfl⟩ | ⟨earlier, rfl, rfl⟩
    · exact Or.inl selected
    · obtain ⟨unselected, kept⟩ :=
        untouched dealing (List.mem_append_right _ List.mem_cons_self)
      exact Or.inr ⟨unselected, kept, before, standing, earlier, rfl, selected, fun later member =>
        untouched later (List.mem_append_left _ member)⟩
  · rintro (selected | ⟨unselected, kept, before, standing, after, rfl, selected, untouched⟩)
    · exact ⟨history, dealing, [], rfl, selected, fun _ member => absurd member List.not_mem_nil⟩
    · refine ⟨before, standing, after ++ [dealing], List.append_assoc _ _ _, selected, ?_⟩
      intro later member
      rcases List.mem_append.mp member with earlier | last
      · exact untouched later earlier
      · rw [List.mem_singleton.mp last]
        exact ⟨unselected, kept⟩

end Context

open Context (Dealing Stands)

/-! ### What keeps the books -/

/-- A context, with all that was done with it. -/
structure Ledger where
  context : Context := {}
  history : List Dealing := []

/-- Makes an operation, which goes down in the history with its reply. -/
def Ledger.perform (l : Ledger) (operation : Context.Operation) : Ledger where
  context := (l.context.perform operation).2
  history := l.history ++ [⟨operation, (l.context.perform operation).1⟩]

/-- **The context is as its history tells**, and so was every reply. -/
structure Ledger.Kept (l : Ledger) : Prop where
  target : ∀ item, l.context.target = some item ↔ Stands l.history item
  replies : ∀ before dealing after, l.history = before ++ dealing :: after → dealing.Tells before

namespace Ledger.Kept

theorem empty : Kept {} :=
  ⟨fun item => ⟨nofun, fun stands => absurd stands (Context.not_stands_nil item)⟩,
    fun before _ _ same => by simp at same⟩

variable {l : Ledger}

theorem target_eq_none (h : l.Kept) : l.context.target = none ↔ ∀ item, ¬ Stands l.history item := by
  constructor
  · intro none item stands
    rw [(h.target item).mpr stands] at none
    cases none
  · intro none
    cases there : l.context.target with
    | none => rfl
    | some item => exact absurd ((h.target item).mp there) (none item)

theorem requireTarget (h : l.Kept) :
    (∀ item, l.context.requireTarget = .ok item ↔ Stands l.history item) ∧
    ∀ error, l.context.requireTarget = .error error ↔
      error = .targetNotSelected ∧ ∀ item, ¬ Stands l.history item := by
  have present := h.target
  have absent := h.target_eq_none
  unfold Context.requireTarget
  cases there : l.context.target with
  | none =>
    have nothing := absent.mp there
    refine ⟨fun item => ⟨nofun, fun stands => absurd stands (nothing item)⟩, fun error => ?_⟩
    rw [Except.error.injEq, eq_comm]
    exact (and_iff_left nothing).symm
  | some item =>
    have stands := (present item).mp there
    refine ⟨fun other => ?_, fun error => ⟨nofun, fun missing => absurd stands (missing.2 item)⟩⟩
    rw [← present other, there, Except.ok.injEq, Option.some.injEq]

theorem tells (h : l.Kept) (operation : Context.Operation) :
    Dealing.Tells l.history ⟨operation, (l.context.perform operation).1⟩ := by
  cases operation with
  | select | clear => trivial
  | selectFromBatch batch id => exact Context.selectFromBatch_fst l.context batch id
  | look | take => exact h.target
  | require => exact h.requireTarget

/-- **Every operation keeps the books.** -/
theorem perform (h : l.Kept) (operation : Context.Operation) : (l.perform operation).Kept := by
  refine ⟨fun item => ?_, fun before dealing after same => ?_⟩
  · rw [Ledger.perform, Context.stands_concat, ← h.target item]
    cases operation with
    | select other => simp [Context.perform, Context.select, Dealing.selected?]
    | selectFromBatch batch id =>
      cases selected : Context.itemFromBatch batch id with
      | ok other =>
        simp [Context.perform, Context.selectFromBatch_of_ok l.context selected, Context.select,
          Dealing.selected?]
      | error error =>
        simp [Context.perform, Context.selectFromBatch_of_error l.context selected,
          Dealing.selected?, Dealing.removes]
    | look | require => simp [Context.perform, Dealing.selected?, Dealing.removes]
    | take => simp [Context.perform, Context.takeTarget, Dealing.selected?, Dealing.removes]
    | clear => simp [Context.perform, Context.clearTarget, Dealing.selected?, Dealing.removes]
  · rcases Context.split_concat same with ⟨rfl, rfl, -⟩ | ⟨earlier, -, same⟩
    · exact h.tells operation
    · exact h.replies before dealing earlier same

end Ledger.Kept

/-! ### Code that uses the context -/

/-- Code that has a context at hand: it comes to an outcome, or makes an operation and goes on by the
reply. -/
inductive Procedure (α : Type)
  | finish (outcome : α)
  | make (operation : Context.Operation) (next : operation.Reply → Procedure α)

/-- Runs a procedure to its outcome. -/
def Procedure.run {α : Type} : Procedure α → Ledger → α × Ledger
  | finish outcome, l => (outcome, l)
  | make operation next, l => (next (l.context.perform operation).1).run (l.perform operation)

/-- The step that runs a procedure. -/
def Step.ofProcedure (name : String) (procedure : Procedure (Except SetupError Unit)) :
    Step Ledger where
  name := name
  run := procedure.run

theorem Ledger.Kept.run {α : Type} (procedure : Procedure α) {l : Ledger} (h : l.Kept) :
    (procedure.run l).2.Kept := by
  induction procedure generalizing l with
  | finish => exact h
  | make operation next ih => exact ih _ (h.perform operation)

/-! ### Courses of a flow -/

/-- Something that is done with a flow whose steps are procedures. -/
inductive Doing
  /-- An operation on the context between runs. -/
  | directly (operation : Context.Operation)
  | addStep (name : String) (procedure : Procedure (Except SetupError Unit))
  | run
  /-- Another flow takes over the context; it has no steps at first. -/
  | handOn

def Flow.perform (f : Flow Ledger) : Doing → Flow Ledger
  | .directly operation => { f with state := f.state.perform operation }
  | .addStep name procedure => f.withStep (.ofProcedure name procedure)
  | .run => f.run.2
  | .handOn => { state := f.state }

def Flow.performAll (f : Flow Ledger) (doings : List Doing) : Flow Ledger :=
  doings.foldl Flow.perform f

/-- A flow whose books are kept, and whose steps keep them. -/
structure Flow.InOrder (f : Flow Ledger) : Prop where
  state : f.state.Kept
  steps : ∀ step ∈ f.steps, ∀ l : Ledger, l.Kept → (step.run l).2.Kept

/-- **Every doing leaves a flow in order.** -/
theorem Flow.InOrder.perform {f : Flow Ledger} (h : f.InOrder) (doing : Doing) :
    (f.perform doing).InOrder := by
  cases doing with
  | directly operation => exact ⟨h.state.perform operation, h.steps⟩
  | addStep name procedure =>
    refine ⟨h.state, fun step member l kept => ?_⟩
    rcases List.mem_append.mp member with before | new
    · exact h.steps step before l kept
    · rw [List.mem_singleton.mp new]
      exact kept.run procedure
  | run => exact ⟨runSteps_keeps h.steps h.state, h.steps⟩
  | handOn => exact ⟨h.state, nofun⟩

theorem Flow.InOrder.performAll {f : Flow Ledger} (h : f.InOrder) (doings : List Doing) :
    (f.performAll doings).InOrder := by
  induction doings generalizing f with
  | nil => exact h
  | cons doing later ih => exact ih (h.perform doing)

/-- **The target is the last one selected.** Take any course of operations on the context of a flow,
made directly or by the steps of its runs, whether these succeed or fail.  The target is the item of
the most recent successful selection, if it was not taken out or cleared since, and there is none if
nothing stands so.  Looking, requiring and taking gave just what stood at that time, a requirement
failed just where nothing stood, for that reason, and a selection from a batch gave the item of the
batch or failed.

A target always belongs to its provider and can be configured.  An item is what comes of checking its
own system and provider, and there is no other item. -/
theorem target_is_last_selected (doings : List Doing) :
    let l := (Flow.performAll { state := {} } doings).state
    (∀ item, l.context.target = some item ↔ Stands l.history item) ∧
    (l.context.target = none ↔ ∀ item, ¬ Stands l.history item) ∧
    (∀ before dealing after, l.history = before ++ dealing :: after → dealing.Tells before) ∧
    (∀ item, l.context.target = some item →
      item.system.provider = item.provider.id ∧ item.system.configurable = true) ∧
    ∀ (item : ReviewItem) (system : ComputeSystem) (provider : Descriptor),
      ReviewItem.of system provider = .ok item ↔ item.system = system ∧ item.provider = provider := by
  intro l
  have start : Flow.InOrder { state := {} } := ⟨.empty, nofun⟩
  have kept : l.Kept := (start.performAll doings).state
  exact ⟨kept.target, kept.target_eq_none, kept.replies, fun item _ => ⟨item.belongs, item.configurable⟩,
    fun _ _ _ => ReviewItem.of_eq_ok⟩

end Environments

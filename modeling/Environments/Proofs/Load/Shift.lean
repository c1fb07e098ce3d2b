import Environments.Proofs.Load.Punctual
import Mathlib.Data.List.Forall2

/-!
# A load does not know when it starts

`Twins` are two loads that are asked for the same and meet the same, and start at different times.
`shifted_follow` says that under one schedule they go the same way, move by move: they stand at the
same point after the same time, with the same rows and the same log, and what passed in the one
passed in the other.  Only the stamps of the batches differ, and those by the difference of the
starts.

Time comes into a course of events by the clock that stamps the batches and nowhere else, so that a
relation which leaves the stamps open is kept by every function that a step is made of.
-/

namespace Environments

/-- Two batches that differ in their stamps only, which were set as long after the start of the one
load as after the start of the other. -/
inductive Batch.Shifted (first second : Load) : Batch → Batch → Prop
  | stamped (provider : Descriptor) (results : List IdentityResult) (now : Nat) :
      Shifted first second ⟨provider, results, first.clock now⟩ ⟨provider, results, second.clock now⟩

/-- Two deeds that are the same but for the stamps of batches. -/
inductive Deed.Shifted (first second : Load) : Deed → Deed → Prop
  | asked : Shifted first second .asked .asked
  | called {task developer options} :
      Shifted first second (.called task developer options) (.called task developer options)
  | answered {task developer answer} :
      Shifted first second (.answered task developer answer) (.answered task developer answer)
  | handed {task batch batch'} : batch.Shifted first second batch' →
      Shifted first second (.handed task batch) (.handed task batch')
  | accepted {task batch batch'} : batch.Shifted first second batch' →
      Shifted first second (.accepted task batch) (.accepted task batch')
  | refused {task batch batch' error} : batch.Shifted first second batch' →
      Shifted first second (.refused task batch error) (.refused task batch' error)
  | spoiled {task batch batch' message} : batch.Shifted first second batch' →
      Shifted first second (.spoiled task batch message) (.spoiled task batch' message)

/-- Two deeds at one time that are the same but for the stamps of batches. -/
def Deed.ShiftedAt (first second : Load) (deed deed' : Nat × Deed) : Prop :=
  deed.1 = deed'.1 ∧ deed.2.Shifted first second deed'.2

/-- Two stages that are the same but for the stamps of batches. -/
inductive Stage.Shifted (first second : Load) : Stage → Stage → Prop
  | resting {index results rest} :
      Shifted first second (.resting index results rest) (.resting index results rest)
  | querying {index results developer rest due answer} :
      Shifted first second (.querying index results developer rest due answer)
        (.querying index results developer rest due answer)
  | delivering {batch batch' due answer} : batch.Shifted first second batch' →
      Shifted first second (.delivering batch due answer) (.delivering batch' due answer)
  | ended {ending} : Shifted first second (.ended ending) (.ended ending)
  | joined {ending} : Shifted first second (.joined ending) (.joined ending)

/-- **Two loads that differ in nothing but the time at which they start**, and perhaps in their
identifiers.  They are to have the same time up to the cut-off, and their sinks are to answer a batch
alike whenever it was stamped. -/
structure Load.Twins (first second : Load) : Prop where
  config : first.config = second.config
  cutoff : first.cutoff = second.cutoff
  discoveryLatency : first.discoveryLatency = second.discoveryLatency
  discovered : first.discovered = second.discovered
  taskId : first.taskId = second.taskId
  sink : ∀ number batch batch', batch.Shifted first second batch' →
    first.sink number batch = second.sink number batch'

variable {first second : Load}

theorem Batch.Shifted.results {batch batch' : Batch} (h : batch.Shifted first second batch') :
    batch.results = batch'.results := by
  cases h
  rfl

theorem Batch.Shifted.provider {batch batch' : Batch} (h : batch.Shifted first second batch') :
    batch.provider = batch'.provider := by
  cases h
  rfl

/-! ### The kind and the time of a stage -/

section Stage

variable {stage stage' : Stage} (h : stage.Shifted first second stage')

include h

theorem Stage.Shifted.due? : stage.due? = stage'.due? := by
  cases h <;> rfl

theorem Stage.Shifted.isJoined : stage.isJoined = stage'.isJoined := by
  cases h <;> rfl

end Stage

/-! ### One step of a task -/

namespace Task

/-- Two tasks of one entry at stages that are the same but for the stamps of batches. -/
structure Shifted (first second : Load) (t t' : Task) : Prop where
  entry : t.entry = t'.entry
  stage : t.stage.Shifted first second t'.stage

/-- Two results of a step, each a stage with what has passed, that are the same but for the stamps of
batches. -/
structure Stepped (first second : Load) (stepped stepped' : Stage × List Deed) : Prop where
  stage : stepped.1.Shifted first second stepped'.1
  deeds : List.Forall₂ (Deed.Shifted first second) stepped.2 stepped'.2

variable {t t' : Task}

theorem Shifted.cutOff (h : t.Shifted first second t') :
    t.cutOff.Shifted first second t'.cutOff := by
  obtain ⟨entry, stage⟩ := t
  obtain ⟨entry', stage'⟩ := t'
  obtain ⟨rfl, stages⟩ := h
  cases stages with
  | resting | querying | ended | joined => constructor
  | delivering batches =>
    simp only [Task.cutOff, batches.results]
    constructor

variable (twins : first.Twins second)

include twins

theorem stepped_begin (now number : Nat) (entry : Entry Provider) (index : Nat)
    (results : List IdentityResult) (rest : List Developer) :
    Stepped first second (begin first now number entry index results rest)
      (begin second now number entry index results rest) := by
  cases rest with
  | cons developer rest =>
    simp only [begin, twins.config]
    exact ⟨.querying, .cons .called .nil⟩
  | nil =>
    have batches : Batch.Shifted first second ⟨entry.descriptor, results, first.clock now⟩
        ⟨entry.descriptor, results, second.clock now⟩ := .stamped _ _ _
    simp only [begin, twins.sink number _ _ batches]
    exact ⟨.delivering batches, .cons (.handed batches) .nil⟩

theorem collect_eq (number : Nat) (entry : Entry Provider) (index : Nat)
    (results : List IdentityResult) (developer : Developer) (rest : List Developer)
    (answer : Answer (Except QueryError QueryResult)) :
    collect first number entry index results developer rest answer =
      collect second number entry index results developer rest answer := by
  unfold collect
  rw [twins.taskId]

theorem stepped_conclude (number : Nat) (entry : Entry Provider) {batch batch' : Batch}
    (batches : batch.Shifted first second batch') (answer : Answer (Except SinkError Unit)) :
    Stepped first second (conclude first number entry batch answer)
      (conclude second number entry batch' answer) := by
  match answer with
  | .returned (.ok ()) =>
    simp only [conclude, batches.results]
    exact ⟨.ended, .cons (.accepted batches) .nil⟩
  | .returned (.error error) => exact ⟨.ended, .cons (.refused batches) .nil⟩
  | .brokeDown message =>
    simp only [conclude, twins.taskId]
    exact ⟨.ended, .cons (.spoiled batches) .nil⟩

theorem stepped_resume (now number : Nat) (entry : Entry Provider) {stage stage' : Stage}
    (stages : stage.Shifted first second stage') :
    Stepped first second (resume first now number entry stage)
      (resume second now number entry stage') := by
  cases stages with
  | resting | ended | joined => exact ⟨by constructor, .nil⟩
  | @querying index results developer rest due answer =>
    by_cases arrived : due ≤ now
    · rw [resume, resume, if_pos arrived, if_pos arrived, collect_eq twins]
      refine ⟨?_, .cons .answered .nil⟩
      rcases answer with (error | result) | message <;> constructor
    · rw [resume, resume, if_neg arrived, if_neg arrived]
      exact ⟨.querying, .nil⟩
  | @delivering batch batch' due answer batches =>
    by_cases arrived : due ≤ now
    · rw [resume, resume, if_pos arrived, if_pos arrived]
      exact stepped_conclude twins number entry batches answer
    · rw [resume, resume, if_neg arrived, if_neg arrived]
      exact ⟨.delivering batches, .nil⟩

/-- **A step does not know the time of day.** -/
theorem Shifted.step (h : t.Shifted first second t') (now number : Nat) (cancelled : Bool) :
    Stepped first second (t.step first now number cancelled) (t'.step second now number cancelled) := by
  cases cancelled with
  | true => exact ⟨h.cutOff, .nil⟩
  | false =>
    obtain ⟨entry, stage⟩ := t
    obtain ⟨entry', stage'⟩ := t'
    obtain ⟨same, stages⟩ := h
    obtain rfl : entry = entry' := same
    cases stages with
    | @resting index results rest =>
      have begun := stepped_begin twins now number entry index results rest
      have resumed := stepped_resume twins now number entry begun.stage
      exact ⟨resumed.stage, List.rel_append begun.deeds resumed.deeds⟩
    | querying => exact stepped_resume twins now number entry .querying
    | delivering batches => exact stepped_resume twins now number entry (.delivering batches)
    | ended => exact stepped_resume twins now number entry .ended
    | joined => exact stepped_resume twins now number entry .joined

end Task

namespace Load.State

/-! ### One move of a load -/

/-- **Two loads stand at the same point**, each as long after its start as the other. -/
structure Shifted (first second : Load) (s s' : State) : Prop where
  now : s.now = s'.now
  phase : s.phase = s'.phase
  tasks : List.Forall₂ (Task.Shifted first second) s.tasks s'.tasks
  inFlight : s.inFlight = s'.inFlight
  elapsed : s.elapsed = s'.elapsed
  discoveryError : s.discoveryError = s'.discoveryError
  rows : s.rows = s'.rows
  unattributed : s.unattributed = s'.unattributed
  deeds : List.Forall₂ (Deed.ShiftedAt first second) s.deeds s'.deeds
  log : s.log = s'.log

theorem shifted_initial : Shifted first second {} {} :=
  ⟨rfl, rfl, .nil, rfl, rfl, rfl, rfl, rfl, .cons ⟨rfl, .asked⟩ .nil, rfl⟩

theorem forall₂_getElem? {α β : Type} {R : α → β → Prop} {l : List α} {l' : List β}
    (h : List.Forall₂ R l l') (place : Nat) : Option.Rel R l[place]? l'[place]? := by
  induction h generalizing place with
  | nil => exact .none
  | cons head _ ih =>
    cases place with
    | zero => exact .some head
    | succ place => exact ih place

theorem forall₂_set {α β : Type} {R : α → β → Prop} {l : List α} {l' : List β} {a : α} {b : β}
    (h : List.Forall₂ R l l') (place : Nat) (new : R a b) :
    List.Forall₂ R (l.set place a) (l'.set place b) := by
  induction h generalizing place with
  | nil => exact .nil
  | cons head tail ih =>
    cases place with
    | zero => exact .cons new tail
    | succ place => exact .cons head (ih place)

variable {s s' : State}

theorem Shifted.outstanding (h : Shifted first second s s') : s.outstanding = s'.outstanding := by
  have tasks := h.tasks
  rw [State.outstanding, State.outstanding]
  generalize s.tasks = l, s'.tasks = l' at tasks
  induction tasks with
  | nil => rfl
  | cons head _ ih => rw [List.countP_cons, List.countP_cons, ih, head.stage.isJoined]

theorem Shifted.note (h : Shifted first second s s') (event : LoadEvent) :
    Shifted first second (s.note event) (s'.note event) :=
  { h with log := by rw [State.note, State.note, h.log, h.now] }

theorem Shifted.close (h : Shifted first second s s') :
    Shifted first second (s.close first) (s'.close second) := by
  have noted := h.note (.finished (s.report first).deliveredCount (s.report first).failedCount
    (s.report first).cancelledCount s.elapsed)
  have counts : ∀ kind, (s.report first).count kind = (s'.report second).count kind := by
    intro kind
    rw [Report.count, Report.count, State.report, State.report, h.rows]
  refine { noted with phase := rfl, log := ?_ }
  simp only [State.close, State.note, h.log, h.now, h.elapsed, Report.deliveredCount,
    Report.failedCount, Report.cancelledCount, counts]

theorem Shifted.put (h : Shifted first second s s') (row : ProviderReport) :
    Shifted first second (s.put row) (s'.put row) :=
  { h.note (.ended row.provider.id row.outcome) with rows := by rw [State.put, State.put, h.rows] }

theorem Shifted.record (h : Shifted first second s s') (ending : Ending) :
    Shifted first second (s.record ending) (s'.record ending) := by
  cases ending with
  | returned descriptor outcome => exact h.put _
  | brokeDown task report =>
    rw [State.record, State.record, h.inFlight]
    cases s'.inFlight.lookup task with
    | some descriptor => exact h.put _
    | none => exact { h with inFlight := rfl, unattributed := by rw [h.unattributed, h.now] }

theorem Shifted.join (h : Shifted first second s s') (number : Nat) :
    Shifted first second (s.join number) (s'.join number) := by
  unfold State.join
  have found := forall₂_getElem? h.tasks number
  generalize s.tasks[number]? = t, s'.tasks[number]? = t' at found
  cases found with
  | none => exact h
  | @some t t' tasks =>
    obtain ⟨entry, stage⟩ := t
    obtain ⟨entry', stage'⟩ := t'
    obtain ⟨same, stages⟩ := tasks
    obtain rfl : entry = entry' := same
    cases stages with
    | resting | querying | delivering | joined => exact h
    | @ended ending =>
      exact { h.record ending with tasks := forall₂_set h.tasks number ⟨rfl, .joined⟩ }

section Twins

variable (twins : first.Twins second)

include twins

theorem Shifted.spawn (h : Shifted first second s s') (entry : Entry Provider) :
    Shifted first second (s.spawn first entry) (s'.spawn second entry) := by
  refine { h with tasks := ?_, inFlight := ?_ }
  · exact List.rel_append h.tasks (.cons ⟨rfl, .resting⟩ .nil)
  · rw [State.spawn, State.spawn, h.inFlight, h.tasks.length_eq, twins.taskId]

theorem Shifted.start (h : Shifted first second s s') (entries : List (Entry Provider)) :
    Shifted first second (s.start first entries) (s'.start second entries) := by
  have begun : Shifted first second { s.note (.discovered entries.length) with phase := .loading }
      { s'.note (.discovered entries.length) with phase := .loading } :=
    { h.note (.discovered entries.length) with phase := rfl }
  unfold State.start
  generalize { s.note (.discovered entries.length) with phase := .loading } = l,
    { s'.note (.discovered entries.length) with phase := .loading } = l' at begun
  induction entries generalizing l l' with
  | nil => exact begun
  | cons entry entries ih => exact ih _ _ (begun.spawn twins entry)

theorem Shifted.discover (h : Shifted first second s s') :
    Shifted first second (s.discover first) (s'.discover second) := by
  unfold State.discover
  rw [twins.discoveryLatency, twins.discovered, h.now]
  split
  · split
    · exact h.start twins _
    · rename_i error _
      have failed : Shifted first second { s with discoveryError := some error.message }
          { s' with discoveryError := some error.message } := { h with discoveryError := rfl }
      exact (failed.note _).close
  · exact h

theorem Shifted.timeOut (h : Shifted first second s s') :
    Shifted first second (s.timeOut first) (s'.timeOut second) := by
  have failed : Shifted first second
      { s with elapsed := true, discoveryError := some "provider discovery cancelled by deadline" }
      { s' with elapsed := true, discoveryError := some "provider discovery cancelled by deadline" } :=
    { h with elapsed := rfl, discoveryError := rfl }
  unfold State.timeOut
  rw [twins.config]
  exact (failed.note _).close

theorem Shifted.cancel (h : Shifted first second s s') :
    Shifted first second (s.cancel first) (s'.cancel second) := by
  have signed : Shifted first second { s with elapsed := true } { s' with elapsed := true } :=
    { h with elapsed := rfl }
  unfold State.cancel
  rw [twins.config, h.outstanding]
  exact signed.note _

theorem Shifted.step (h : Shifted first second s s') (number : Nat) :
    Shifted first second (s.step first number) (s'.step second number) := by
  unfold State.step
  have found := forall₂_getElem? h.tasks number
  generalize s.tasks[number]? = t, s'.tasks[number]? = t' at found
  cases found with
  | none => exact h
  | @some t t' tasks =>
    have stepped : Task.Stepped first second (t.step first s.now number s.elapsed)
        (t'.step second s'.now number s'.elapsed) := by
      rw [← h.now, ← h.elapsed]
      exact tasks.step twins s.now number s.elapsed
    refine { h with tasks := ?_, deeds := ?_ }
    · exact forall₂_set h.tasks number ⟨tasks.entry, stepped.stage⟩
    · refine List.rel_append h.deeds ?_
      rw [List.forall₂_map_left_iff, List.forall₂_map_right_iff]
      exact stepped.deeds.imp fun _ _ deeds => ⟨h.now, deeds⟩

/-- **No move tells the loads apart.** -/
theorem Shifted.apply (h : Shifted first second s s') (move : Move) :
    Shifted first second (s.apply first move) (s'.apply second move) := by
  have waited : ∀ millis, Shifted first second { s with now := s.now + millis }
      { s' with now := s'.now + millis } := fun millis => { h with now := congrArg (· + millis) h.now }
  cases there : s'.phase with
  | finished =>
    have here := h.phase.trans there
    simpa only [State.apply, here, there] using h
  | discovering =>
    have here := h.phase.trans there
    cases move with
    | wait millis => simpa only [State.apply, here, there] using waited millis
    | discover => simpa only [State.apply, here, there] using h.discover twins
    | expire => simpa only [State.apply, here, there] using h.timeOut twins
    | step | join | finish => simpa only [State.apply, here, there] using h
  | loading =>
    have here := h.phase.trans there
    cases move with
    | wait millis => simpa only [State.apply, here, there] using waited millis
    | discover => simpa only [State.apply, here, there] using h
    | expire =>
      simp only [State.apply, here, there, h.elapsed]
      split
      · exact h
      · exact h.cancel twins
    | step number => simpa only [State.apply, here, there] using h.step twins number
    | join number => simpa only [State.apply, here, there] using h.join number
    | finish =>
      simp only [State.apply, here, there, h.outstanding]
      split
      · exact h.close
      · exact h

/-! ### Whole schedules -/

theorem Shifted.follow (schedule : List Move) (h : Shifted first second s s') :
    Shifted first second (s.follow first schedule) (s'.follow second schedule) := by
  induction schedule generalizing s s' with
  | nil => exact h
  | cons move later ih => exact ih (h.apply twins move)

/-- **Under one schedule, loads that start at different times go the same way.** -/
theorem shifted_follow (schedule : List Move) :
    Shifted first second (first.after schedule) (second.after schedule) :=
  shifted_initial.follow twins schedule

theorem Shifted.isPrompt (h : Shifted first second s s') (move : Move) :
    s.isPrompt first move = s'.isPrompt second move := by
  have waits : ∀ time, s.tasks.all (waitsUntil time) = s'.tasks.all (waitsUntil time) := by
    intro time
    have tasks := h.tasks
    generalize s.tasks = l, s'.tasks = l' at tasks
    induction tasks with
    | nil => rfl
    | cons head _ ih =>
      rw [List.all_cons, List.all_cons, ih, waitsUntil, waitsUntil, head.stage.isJoined,
        head.stage.due?]
  cases move with
  | wait millis =>
    simp only [State.isPrompt, h.phase, h.now, h.elapsed, h.outstanding, waits, twins.cutoff,
      twins.discoveryLatency]
  | expire => simp only [State.isPrompt, h.phase, h.now, twins.cutoff, twins.discoveryLatency]
  | step => simp only [State.isPrompt, h.elapsed, twins.cutoff, twins.discoveryLatency]
  | discover | join | finish => rfl

theorem punctual_iff (schedule : List Move) : first.Punctual schedule ↔ second.Punctual schedule := by
  suffices ∀ (s s' : State), Shifted first second s s' →
      s.isPunctual first schedule = s'.isPunctual second schedule by
    rw [Punctual, Punctual, this {} {} shifted_initial]
  induction schedule with
  | nil => exact fun _ _ _ => rfl
  | cons move later ih =>
    intro s s' h
    rw [State.isPunctual, State.isPunctual, h.isPrompt twins, ih _ _ (h.apply twins move)]

end Twins

end Load.State

end Environments

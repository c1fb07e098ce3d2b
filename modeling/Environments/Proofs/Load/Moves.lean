import Environments.Load.Run

/-!
# What one move can do

The course of a load is a fold of `State.apply` over a schedule.  This file says once what one move
can do, so that no later proof has to open the machine again:

* `State.Effect` lists the moves that change a load, each with what it needs and what it leaves;
  `effect_apply` says that there are no others.
* `Task.Advance` lists the single events in the course of a task; `advances_step` says that a step
  of a task is made of them.
* `follow_induction` is the induction over all schedules.

`State.history` is the part of one task in what passed between the load and the world.
-/

namespace Environments

namespace Task

/-- A single event in the course of a task: under the sign to cancel or without it, from a stage to
a stage, with what passes between the task and the world. -/
inductive Advance (load : Load) (number : Nat) (entry : Entry Provider) (now : Nat) :
    Bool → Stage → List Deed → Stage → Prop
  | cutResting {index results rest} :
      Advance load number entry now true (.resting index results rest) []
        (.ended (.returned entry.descriptor (.cancelled results.length)))
  | cutQuerying {index results developer rest due answer} :
      Advance load number entry now true (.querying index results developer rest due answer) []
        (.ended (.returned entry.descriptor (.cancelled results.length)))
  | cutDelivering {batch due answer} :
      Advance load number entry now true (.delivering batch due answer) []
        (.ended (.returned entry.descriptor (.cancelled batch.results.length)))
  | call {index results developer rest} :
      Advance load number entry now false (.resting index results (developer :: rest))
        [.called number developer load.config.options]
        (.querying index results developer rest
          (now + (entry.provider.query index developer load.config.options).after)
          (entry.provider.query index developer load.config.options).answer)
  | handOver {index results} :
      Advance load number entry now false (.resting index results [])
        [.handed number ⟨entry.descriptor, results, load.clock now⟩]
        (.delivering ⟨entry.descriptor, results, load.clock now⟩
          (now + (load.sink number ⟨entry.descriptor, results, load.clock now⟩).after)
          (load.sink number ⟨entry.descriptor, results, load.clock now⟩).answer)
  | collect {index results developer rest due answer} : due ≤ now →
      Advance load number entry now false (.querying index results developer rest due answer)
        [.answered number developer answer]
        (collect load number entry index results developer rest answer)
  | conclude {batch due answer} : due ≤ now →
      Advance load number entry now false (.delivering batch due answer)
        (conclude load number entry batch answer).2 (conclude load number entry batch answer).1

/-- Several events of one task at one time, one after the other. -/
inductive Advances (load : Load) (number : Nat) (entry : Entry Provider) (now : Nat)
    (cancelled : Bool) (first : Stage) : List Deed → Stage → Prop
  | refl : Advances load number entry now cancelled first [] first
  | tail {deeds stage more last} : Advances load number entry now cancelled first deeds stage →
      Advance load number entry now cancelled stage more last →
      Advances load number entry now cancelled first (deeds ++ more) last

variable {load : Load} {number now : Nat} {entry : Entry Provider} {cancelled : Bool}

theorem Advance.advances {first last : Stage} {deeds : List Deed}
    (h : Advance load number entry now cancelled first deeds last) :
    Advances load number entry now cancelled first deeds last := by
  have tail := Advances.refl.tail h
  rwa [List.nil_append] at tail

/-- Where a wait is over a task takes the answer, and elsewhere nothing happens. -/
theorem resume_eq_or_advance (load : Load) (now number : Nat) (entry : Entry Provider)
    (stage : Stage) :
    resume load now number entry stage = (stage, []) ∨
      Advance load number entry now false stage (resume load now number entry stage).2
        (resume load now number entry stage).1 := by
  cases stage with
  | querying index results developer rest due answer =>
    by_cases h : due ≤ now
    · rw [resume, if_pos h]
      exact Or.inr (.collect h)
    · rw [resume, if_neg h]
      exact Or.inl rfl
  | delivering batch due answer =>
    by_cases h : due ≤ now
    · rw [resume, if_pos h]
      exact Or.inr (.conclude h)
    · rw [resume, if_neg h]
      exact Or.inl rfl
  | resting | ended | joined => exact Or.inl rfl

theorem begin_advance (load : Load) (now number : Nat) (entry : Entry Provider) (index : Nat)
    (results : List IdentityResult) (rest : List Developer) :
    Advance load number entry now false (.resting index results rest)
      (begin load now number entry index results rest).2
      (begin load now number entry index results rest).1 := by
  cases rest with
  | nil => exact .handOver
  | cons developer rest => exact .call

theorem cutOff_eq_or_advance (load : Load) (now number : Nat) (t : Task) :
    t.cutOff = t.stage ∨ Advance load number t.entry now true t.stage [] t.cutOff := by
  obtain ⟨entry, stage⟩ := t
  cases stage with
  | resting => exact Or.inr .cutResting
  | querying => exact Or.inr .cutQuerying
  | delivering => exact Or.inr .cutDelivering
  | ended | joined => exact Or.inl rfl

/-- **A step of a task is made of single events.** Without the sign to cancel there are two of them
where an answer comes at once. -/
theorem advances_step (t : Task) :
    Advances load number t.entry now cancelled t.stage (t.step load now number cancelled).2
      (t.step load now number cancelled).1 := by
  cases cancelled with
  | true =>
    rcases cutOff_eq_or_advance load now number t with same | cut
    · simp only [step, if_true, same]
      exact .refl
    · exact cut.advances
  | false =>
    have resumes : ∀ stage : Stage, Advances load number t.entry now false stage
        (resume load now number t.entry stage).2 (resume load now number t.entry stage).1 := by
      intro stage
      rcases resume_eq_or_advance load now number t.entry stage with same | taken
      · rw [same]
        exact .refl
      · exact taken.advances
    obtain ⟨entry, stage⟩ := t
    cases stage with
    | resting index results rest =>
      have begun : Advances load number entry now false (.resting index results rest) _ _ :=
        (begin_advance load now number entry index results rest).advances
      rcases resume_eq_or_advance load now number entry
          (begin load now number entry index results rest).1 with same | taken
      · simp only [step, Bool.false_eq_true, if_false, same, List.append_nil]
        exact begun
      · exact begun.tail taken
    | querying | delivering | ended | joined => exact resumes _

theorem Advance.task?_eq {first last : Stage} {deeds : List Deed}
    (h : Advance load number entry now cancelled first deeds last) :
    ∀ deed ∈ deeds, deed.task? = some number := by
  intro deed member
  cases h with
  | cutResting | cutQuerying | cutDelivering => cases member
  | call | handOver | collect =>
    rw [List.mem_singleton.mp member]
    rfl
  | @conclude batch _ answer =>
    rcases answer with (_ | _) | _ <;> rw [List.mem_singleton.mp member] <;> rfl

theorem Advances.task?_eq {first last : Stage} {deeds : List Deed}
    (h : Advances load number entry now cancelled first deeds last) :
    ∀ deed ∈ deeds, deed.task? = some number := by
  induction h with
  | refl =>
    intro deed member
    cases member
  | tail _ last ih =>
    intro deed member
    rcases List.mem_append.mp member with earlier | later
    · exact ih deed earlier
    · exact last.task?_eq deed later

end Task

namespace Load.State

variable (load : Load)

/-- The state after a step of a task that led to a stage, with what passed on the way. -/
def moved (s : State) (number : Nat) (t : Task) (stage : Stage) (deeds : List Deed) : State :=
  { s with
    tasks := s.tasks.set number { t with stage := stage }
    deeds := s.deeds ++ deeds.map (s.now, ·) }

/-- The state after the load has taken note of what a task left behind. -/
def recorded (s : State) (number : Nat) (entry : Entry Provider) (ending : Ending) : State :=
  { s.record ending with tasks := s.tasks.set number ⟨entry, .joined ending⟩ }

/-- **What a move can do.** Either nothing, or what its name says, and then what it needs was
there. -/
inductive Effect (s : State) : Move → State → Prop
  | stay {move : Move} : Effect s move s
  | wait {millis : Nat} : s.phase ≠ .finished →
      Effect s (.wait millis) { s with now := s.now + millis }
  | start {entries : List (Entry Provider)} : s.phase = .discovering →
      load.discoveryLatency ≤ s.now → load.discovered = .ok entries →
      Effect s .discover (s.start load entries)
  | fail {error : DirectoryError} : s.phase = .discovering →
      load.discoveryLatency ≤ s.now → load.discovered = .error error →
      Effect s .discover (s.fail load error)
  | timeOut : s.phase = .discovering → Effect s .expire (s.timeOut load)
  | cancel : s.phase = .loading → s.elapsed = false → Effect s .expire (s.cancel load)
  | step {number : Nat} {t : Task} : s.phase = .loading → s.tasks[number]? = some t →
      Effect s (.step number) (s.moved number t (t.step load s.now number s.elapsed).1
        (t.step load s.now number s.elapsed).2)
  | join {number : Nat} {entry : Entry Provider} {ending : Ending} : s.phase = .loading →
      s.tasks[number]? = some ⟨entry, .ended ending⟩ →
      Effect s (.join number) (s.recorded number entry ending)
  | close : s.phase = .loading → s.outstanding = 0 → Effect s .finish (s.close load)

theorem effect_discover {s : State} (h : s.phase = .discovering) :
    Effect load s .discover (s.discover load) := by
  unfold discover
  split
  · split
    · exact .start h ‹_› ‹_›
    · exact .fail h ‹_› ‹_›
  · exact .stay

theorem effect_step {s : State} (number : Nat) (h : s.phase = .loading) :
    Effect load s (.step number) (s.step load number) := by
  unfold step
  split
  · exact .stay
  · exact .step h ‹_›

theorem effect_join {s : State} (number : Nat) (h : s.phase = .loading) :
    Effect load s (.join number) (s.join number) := by
  unfold join
  split
  · exact .join h ‹_›
  · exact .stay

theorem effect_apply (s : State) (move : Move) : Effect load s move (s.apply load move) := by
  unfold apply
  split
  · exact .stay
  · rename_i running
    exact .wait running
  · exact effect_discover load ‹_›
  · exact .timeOut ‹_›
  · split
    · exact .stay
    · exact .cancel ‹_› (by simpa using ‹¬s.elapsed = true›)
  · exact effect_step load _ ‹_›
  · exact effect_join load _ ‹_›
  · split
    · exact .close ‹_› ‹_›
    · exact .stay
  · exact .stay

/-- **What every move keeps, every schedule keeps.** -/
theorem follow_keeps {P : State → Prop} (keeps : ∀ s move s', P s → Effect load s move s' → P s')
    (schedule : List Move) {s : State} (h : P s) : P (s.follow load schedule) := by
  induction schedule generalizing s with
  | nil => exact h
  | cons move later ih => exact ih (keeps s move _ h (effect_apply load s move))

/-- **What the start of a load has and every move keeps, holds under every schedule.** -/
theorem follow_induction {P : State → Prop} (start : P {})
    (keeps : ∀ s move s', P s → Effect load s move s' → P s') (schedule : List Move) :
    P (load.after schedule) :=
  follow_keeps load keeps schedule start

/-! ### Starting the tasks -/

/-- The descriptor of every task is kept under its identity. -/
def Attributed (s : State) : Prop :=
  ∀ (number : Nat) (t : Task), s.tasks[number]? = some t →
    s.inFlight.lookup (load.taskId number) = some t.entry.descriptor

variable {load}

/-- The identity of a new task is not that of an earlier one, so that their descriptors stay. -/
theorem Attributed.spawn {s : State} (h : Attributed load s) (entry : Entry Provider) :
    Attributed load (s.spawn load entry) := by
  intro number t found
  -- The new descriptor is put in front, so that it would hide one under the same identity.
  rw [State.spawn, List.lookup_cons]
  change (s.tasks ++ [_])[number]? = some t at found
  rcases Nat.lt_trichotomy number s.tasks.length with earlier | rfl | later
  · rw [List.getElem?_append_left earlier] at found
    have other : (load.taskId number == load.taskId s.tasks.length) = false := by
      refine beq_false_of_ne fun same => ?_
      exact absurd (load.taskId_injective _ _ same) (Nat.ne_of_lt earlier)
    rw [other]
    exact h number t found
  · rw [List.getElem?_concat_length] at found
    obtain rfl := Option.some.inj found
    rw [beq_self_eq_true]
  · rw [List.getElem?_eq_none (by simp; omega)] at found
    cases found

/-- A task is started for each entry, in order; nothing else changes but the descriptors that are
kept. -/
theorem foldl_spawn (entries : List (Entry Provider)) {s : State} (h : Attributed load s) :
    ∃ inFlight, entries.foldl (State.spawn load) s =
        { s with tasks := s.tasks ++ entries.map ({ entry := · }), inFlight := inFlight } ∧
      Attributed load (entries.foldl (State.spawn load) s) := by
  induction entries generalizing s with
  | nil => exact ⟨s.inFlight, by simp, h⟩
  | cons entry entries ih =>
    obtain ⟨inFlight, same, kept⟩ := ih (h.spawn entry)
    refine ⟨inFlight, ?_, kept⟩
    rw [List.foldl_cons, same]
    simp [State.spawn]

theorem start_eq (load : Load) {s : State} (h : s.tasks = []) (entries : List (Entry Provider)) :
    ∃ inFlight, s.start load entries =
        { s.note (.discovered entries.length) with
          phase := .loading
          tasks := entries.map ({ entry := · })
          inFlight := inFlight } ∧
      Attributed load (s.start load entries) := by
  have none : Attributed load { s.note (.discovered entries.length) with phase := .loading } := by
    intro number t found
    change s.tasks[number]? = some t at found
    rw [h] at found
    cases found
  obtain ⟨inFlight, same, kept⟩ := foldl_spawn entries none
  refine ⟨inFlight, ?_, kept⟩
  rw [State.start, same]
  simp [State.note, h]

/-! ### The part of a task -/

/-- What passed between a task and the world, and when. -/
def history (s : State) (number : Nat) : List (Nat × Deed) :=
  s.deeds.filter fun deed => deed.2.task? = some number

theorem history_moved {s : State} {number : Nat} {t : Task} {stage last : Stage} {deeds : List Deed}
    (h : Task.Advances load number t.entry s.now s.elapsed stage deeds last) :
    (s.moved number t last deeds).history number = s.history number ++ deeds.map (s.now, ·) := by
  rw [history, moved, List.filter_append]
  congr 1
  refine List.filter_eq_self.mpr fun deed member => ?_
  obtain ⟨deed, passed, rfl⟩ := List.mem_map.mp member
  simpa using h.task?_eq deed passed

theorem history_moved_of_ne {s : State} {number other : Nat} {t : Task} {stage last : Stage}
    {deeds : List Deed} (h : Task.Advances load number t.entry s.now s.elapsed stage deeds last)
    (ne : other ≠ number) : (s.moved number t last deeds).history other = s.history other := by
  have none : (deeds.map (s.now, ·)).filter (fun deed => deed.2.task? = some other) = [] := by
    refine List.filter_eq_nil_iff.mpr fun deed member => ?_
    obtain ⟨deed, passed, rfl⟩ := List.mem_map.mp member
    simpa [h.task?_eq deed passed] using ne.symm
  rw [history, moved, List.filter_append, none, List.append_nil, history]

end Load.State

end Environments
